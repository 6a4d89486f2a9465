import GpuTelemetry.Condition
import GpuTelemetry.Limits

namespace GpuTelemetry

def versionWord (size : UInt64) (version : UInt32) : UInt32 := size.toUInt32 ||| (version <<< 24)

abbrev GroupId := UInt64

def allGpus : GroupId := 0x7fffffff

structure Thresholds where
  retiredPages : UInt64 := 10
  temperature : UInt64 := 100
  power : UInt64 := 250
  deriving DecidableEq, Repr

inductive Param where
  | flag (value : UInt32)
  | level (value : UInt64)
  deriving DecidableEq, Repr

namespace Param

def ofBool (enabled : Bool) : Param := flag (if enabled then 1 else 0)

def tag : Param → UInt32
  | flag _ => 0
  | level _ => 1

end Param

structure Policy where
  version : UInt32 := versionWord 144 1
  condition : UInt32 := 0
  mode : UInt32 := 0
  isolation : UInt32 := 0
  action : UInt32 := 0
  validation : UInt32 := 0
  response : UInt32 := 0
  params : Condition → Param := fun _ => .flag 0

namespace Thresholds

def level? (t : Thresholds) : Condition → Option UInt64
  | .retiredPages => some t.retiredPages
  | .thermal => some t.temperature
  | .power => some t.power
  | _ => none

def param (t : Thresholds) (c : Condition) : Param :=
  match t.level? c with
  | some v => .level v
  | none => .ofBool true

def adopt (t other : Thresholds) (cs : List Condition) : Thresholds where
  retiredPages := if .retiredPages ∈ cs then other.retiredPages else t.retiredPages
  temperature := if .thermal ∈ cs then other.temperature else t.temperature
  power := if .power ∈ cs then other.power else t.power

def policy (t : Thresholds) (cs : List Condition) : Policy :=
  { condition := Condition.maskOf cs
    params := fun c => if c ∈ cs then t.param c else .flag 0 }

def describe (t : Thresholds) : String :=
  "PolicyThresholds \x7b max_retired_pages: " ++ toString t.retiredPages.toNat ++
    ", max_temperature_c: " ++ toString t.temperature.toNat ++
    ", max_power_w: " ++ toString t.power.toNat ++ " \x7d"

end Thresholds

end GpuTelemetry
