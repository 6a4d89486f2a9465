import GpuTelemetry.Json
import GpuTelemetry.Policy

namespace GpuTelemetry

structure Response where
  version : UInt32 := versionWord 32 2
  condition : UInt32 := 0
  gpu : UInt32 := 0
  time : Int64 := 0
  word0 : UInt32 := 0
  word1 : UInt32 := 0
  deriving DecidableEq, Repr

namespace Response

def report (c : Condition) (gpu value : UInt32) (time : Int64) : Response :=
  { condition := c.mask, gpu, time, word0 := value }

def raised (r : Response) (k : Nat) : Response := { r with word0 := r.word0 + UInt32.ofNat k }

end Response

inductive Location where
  | l1 | l2 | device | register | texture
  | unknown (code : UInt32)
  deriving DecidableEq, Repr

namespace Location

def ofCode (c : UInt32) : Location :=
  if c = 0 then l1 else if c = 1 then l2 else if c = 2 then device
  else if c = 3 then register else if c = 4 then texture else unknown c

def name : Location → String
  | l1 => "L1"
  | l2 => "L2"
  | device => "Device"
  | register => "Register"
  | texture => "Texture"
  | unknown _ => "Unknown"

def label : Location → String
  | unknown c => "Unknown(" ++ toString c.toNat ++ ")"
  | l => l.name

def toJson : Location → Json
  | unknown c => .obj [("Unknown", .int c.toNat)]
  | l => .str l.name

end Location

inductive Detail where
  | doubleBitError (location : Location) (errors : UInt32)
  | pcie (replays : UInt32)
  | retiredPages (single double : UInt32)
  | thermal (celsius : UInt32)
  | power (watts : UInt32)
  | nvlink (field : UInt16) (counter : UInt32)
  | xid (error : UInt32)
  deriving DecidableEq, Repr

structure Violation where
  condition : Condition
  gpu : UInt32
  time : Int64
  detail : Detail
  deriving DecidableEq, Repr

namespace Detail

def ofWords (c : Condition) (w0 w1 : UInt32) : Detail :=
  match c with
  | .doubleBitError => doubleBitError (.ofCode w0) w1
  | .pcie => pcie w0
  | .retiredPages => retiredPages w0 w1
  | .thermal => thermal w0
  | .power => power w0
  | .nvlink => nvlink w0.toUInt16 w1
  | .xid => xid w0

def text : Detail → String
  | doubleBitError l n => toString n.toNat ++ " double-bit error(s) in " ++ l.label
  | pcie n => "PCIe replay counter " ++ toString n.toNat
  | retiredPages s d => toString s.toNat ++ " SBE / " ++ toString d.toNat ++ " DBE page(s) retired"
  | thermal t => "temperature " ++ toString t.toNat ++ "°C"
  | power w => "power " ++ toString w.toNat ++ "W"
  | nvlink f n => "NVLink field " ++ toString f.toNat ++ " counter " ++ toString n.toNat
  | xid n => "XID " ++ toString n.toNat

def parts : Detail → String × List (String × String)
  | doubleBitError l n =>
    ("DoubleBitError", [("location", l.label), ("num_errors", toString n.toNat)])
  | pcie n => ("Pcie", [("replay_counter", toString n.toNat)])
  | retiredPages s d =>
    ("RetiredPages", [("sbe_pages", toString s.toNat), ("dbe_pages", toString d.toNat)])
  | thermal t => ("Thermal", [("temperature_c", toString t.toNat)])
  | power w => ("Power", [("power_w", toString w.toNat)])
  | nvlink f n => ("Nvlink", [("field_id", toString f.toNat), ("counter", toString n.toNat)])
  | xid n => ("Xid", [("err_num", toString n.toNat)])

def describe (d : Detail) : String :=
  let (kind, fields) := d.parts
  kind ++ " \x7b " ++ ", ".intercalate (fields.map fun (k, v) => k ++ ": " ++ v) ++ " \x7d"

def jsonFields : Detail → List (String × Json)
  | doubleBitError l n =>
    [("kind", .str "double-bit-error"), ("location", l.toJson), ("num_errors", .int n.toNat)]
  | pcie n => [("kind", .str "pcie"), ("replay_counter", .int n.toNat)]
  | retiredPages s d =>
    [("kind", .str "retired-pages"), ("sbe_pages", .int s.toNat), ("dbe_pages", .int d.toNat)]
  | thermal t => [("kind", .str "thermal"), ("temperature_c", .int t.toNat)]
  | power w => [("kind", .str "power"), ("power_w", .int w.toNat)]
  | nvlink f n => [("kind", .str "nvlink"), ("field_id", .int f.toNat), ("counter", .int n.toNat)]
  | xid n => [("kind", .str "xid"), ("err_num", .int n.toNat)]

end Detail

namespace Violation

def ofResponse? (r : Response) : Option Violation :=
  (Condition.ofMask? r.condition).map fun c =>
    ⟨c, r.gpu, r.time, .ofWords c r.word0 r.word1⟩

def xid? (v : Violation) : Option UInt32 :=
  match v.detail with
  | .xid n => some n
  | _ => none

def text (v : Violation) : String :=
  "GPU " ++ toString v.gpu.toNat ++ " " ++ v.condition.name ++ ": " ++ v.detail.text

def toJson (v : Violation) : Json :=
  .obj [("condition", .str v.condition.label), ("gpu_id", .int v.gpu.toNat),
    ("timestamp", .int v.time.toInt), ("data", .obj v.detail.jsonFields)]

end Violation

end GpuTelemetry
