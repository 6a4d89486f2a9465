import GpuTelemetry.CommandLine.Options
import GpuTelemetry.Policy

namespace GpuTelemetry.CommandLine

inductive Command where
  | latest (gpus : List UInt32) (fields : List UInt16) (live : Bool)
  | since (group fieldGroup : UInt64) (since : Int64) (limit : Nat)
  | violations (conditions : List Condition) (group : UInt64) (count : Option Nat)
      (thresholds : Thresholds)

structure Invocation where
  simulated : Bool
  host : Option String
  json : Bool
  command : Command

def globalSpecs : List Spec := [⟨"mock", .flag⟩, ⟨"host", .single⟩, ⟨"json", .flag⟩]

def latestSpecs : List Spec := [⟨"gpus", .list⟩, ⟨"fields", .list⟩, ⟨"live", .flag⟩]

def sinceSpecs : List Spec :=
  [⟨"group", .single⟩, ⟨"field-group", .single⟩, ⟨"since", .single⟩, ⟨"limit", .single⟩]

def violationsSpecs : List Spec :=
  [⟨"conditions", .list⟩, ⟨"group", .single⟩, ⟨"count", .single⟩, ⟨"max-temperature", .single⟩,
    ⟨"max-power", .single⟩, ⟨"max-retired-pages", .single⟩]

def single {α : Type} (g : Given) (name : String) (default : Option α) (read : String → Option α) :
    Option α :=
  match g.last? name with
  | some s => read s
  | none => default

def word? (s : String) : Option UInt64 := (natural? Limits.maxWord s).map UInt64.ofNat

def command? (name : String) (g : Given) : Option Command :=
  match name with
  | "latest" => do
    let gpus ← (g.list "gpus" ["0"]).mapM (integer? 0 0xffffffff)
    let fields ← (g.list "fields" ["150", "155"]).mapM (integer? 0 0xffff)
    return .latest (gpus.map fun n => UInt32.ofNat n.toNat)
      (fields.map fun n => UInt16.ofNat n.toNat) (g.has "live")
  | "since" => do
    let group ← single g "group" (some allGpus) word?
    let fieldGroup ← single g "field-group" none word?
    let since ← single g "since" (some 0) (integer? (-0x8000000000000000) 0x7fffffffffffffff)
    let limit ← single g "limit" (some Limits.historyValues) (natural? Limits.maxWord)
    return .since group fieldGroup (Int64.ofInt since) limit
  | "violations" => do
    let conditions ← (g.list "conditions" ["xid"]).mapM Condition.parse?
    let group ← single g "group" (some allGpus) word?
    let count ← single g "count" (some none) fun s => (natural? Limits.maxWord s).map some
    let temperature ← single g "max-temperature" (some ({} : Thresholds).temperature) word?
    let power ← single g "max-power" (some ({} : Thresholds).power) word?
    let retiredPages ← single g "max-retired-pages" (some ({} : Thresholds).retiredPages) word?
    return .violations conditions group count { retiredPages, temperature, power }
  | _ => none

def specsOf : String → List Spec
  | "latest" => latestSpecs
  | "since" => sinceSpecs
  | "violations" => violationsSpecs
  | _ => []

def isVersionFlag (s : String) : Bool :=
  match s.toList with
  | '-' :: 'V' :: _ => true
  | _ => s == "--version"

def asksVersion (args : List String) : Bool :=
  let before := args.takeWhile fun a => !isVersionFlag a
  let inOrder := match scan globalSpecs [] before with
    | some (_, rest) => rest.isEmpty && !before.contains "--"
    | none => false
  before.length < args.length && inOrder

def invocation? (args : List String) : Option Invocation := do
  let (before, rest) ← scan globalSpecs [] args
  match rest with
  | [] => none
  | name :: rest =>
    let (after, rest) ← scan (globalSpecs ++ specsOf name) [] rest
    let command ← command? name after
    if rest.isEmpty then
      return {
        simulated := before.has "mock" || after.has "mock"
        host := (after.last? "host").or (before.last? "host")
        json := before.has "json" || after.has "json"
        command }
    else none

end GpuTelemetry.CommandLine
