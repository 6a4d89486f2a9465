import GpuTelemetry.Text.Blank

namespace GpuTelemetry

inductive Condition where
  | doubleBitError | pcie | retiredPages | thermal | power | nvlink | xid
  deriving DecidableEq, Repr

namespace Condition

def all : List Condition := [doubleBitError, pcie, retiredPages, thermal, power, nvlink, xid]

def index : Condition → Nat
  | doubleBitError => 0
  | pcie => 1
  | retiredPages => 2
  | thermal => 3
  | power => 4
  | nvlink => 5
  | xid => 6

def mask (c : Condition) : UInt32 := 1 <<< UInt32.ofNat c.index

def maskOf (cs : List Condition) : UInt32 := cs.foldl (fun m c => m ||| c.mask) 0

def isIn (c : Condition) (mask : UInt32) : Bool := mask &&& c.mask != 0

def ofMask? (mask : UInt32) : Option Condition := all.find? (·.mask == mask)

def listOf (mask : UInt32) : List Condition := all.filter (·.isIn mask)

def sort (cs : List Condition) : List Condition := all.flatMap fun c => cs.filter (· == c)

def distinct (cs : List Condition) : List Condition := all.filter (cs.contains ·)

theorem mem_all (c : Condition) : c ∈ all := by cases c <;> decide

@[simp] theorem mem_distinct {c : Condition} {cs : List Condition} : c ∈ distinct cs ↔ c ∈ cs := by
  simp [distinct, mem_all]

def label : Condition → String
  | doubleBitError => "DoubleBitError"
  | pcie => "Pcie"
  | retiredPages => "RetiredPages"
  | thermal => "Thermal"
  | power => "Power"
  | nvlink => "Nvlink"
  | xid => "Xid"

def name : Condition → String
  | doubleBitError => "dbe"
  | pcie => "pcie"
  | retiredPages => "retired-pages"
  | thermal => "thermal"
  | power => "power"
  | nvlink => "nvlink"
  | xid => "xid"

def aliases : Condition → List String
  | doubleBitError => ["double-bit-error"]
  | pcie => ["pci"]
  | retiredPages => ["mpr", "max-pages-retired"]
  | _ => []

def spellings (c : Condition) : List String := c.name :: c.aliases

def fold (s : List Char) : List Char := (Text.trim s).map Char.toLower

def parse? (s : String) : Option Condition :=
  all.find? fun c => c.spellings.any fun w => w.toList == fold s.toList

def parseError (s : String) : String :=
  "unknown policy condition: " ++ String.ofList (fold s.toList)

end Condition

end GpuTelemetry
