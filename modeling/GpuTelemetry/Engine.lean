import GpuTelemetry.Native.Connection
import GpuTelemetry.Simulator

/-!
Engines. An engine is simulated in the process or reached through a native library; a native entry
point that returns zero acts on the library's engine, and one that returns something else does
nothing more.
-/

namespace GpuTelemetry

inductive Teardown where
  | passed
  | refused (code : Int32)
  | aborted
  deriving DecidableEq, Repr

structure Engine where
  sim : Simulator := {}
  connection : Option Native.Connection := none
  teardown : Teardown := .passed
  /-- While held, an unregister call does not return. -/
  held : Bool := false
  owned : Bool := false

namespace Engine

def through {α : Type} (e : Engine) (s : Native.Symbol) (args : List Native.Arg)
    (refuse : Status → α) (act : Simulator → α × Simulator) : α × Engine × List Native.Call :=
  match e.connection with
  | none =>
    let (a, sim) := act e.sim
    (a, { e with sim }, [])
  | some c =>
    let call : Native.Call := ⟨s, .int c.handle :: args⟩
    if c.codeOf s = 0 then
      let (a, sim) := act e.sim
      (a, { e with sim }, [call])
    else (refuse (.ofCode (c.codeOf s)), e, [call])

def history (e : Engine) (q : History.Query) : History.Reply × Engine × List Native.Call :=
  e.through .valuesSince
    [.int q.group.toNat, .int q.fieldGroup.toNat, .int q.since.toInt]
    (fun s => ⟨[], none, s⟩) (·.history fun _ => History.goOn)

def snapshot (e : Engine) (entities : List (UInt32 × UInt32)) (fields : List UInt16)
    (flags : UInt32) (slots : Array EntityRecord) :
    (Status × Array EntityRecord) × Engine × List Native.Call :=
  if slots.size ≠ entities.length * fields.length then ((.badParam, slots), e, [])
  else
    e.through .latestValues
      [.int entities.length, .int fields.length, .int flags.toNat]
      (fun s => (s, slots)) (·.snapshot entities fields slots)

def setPolicy (e : Engine) (group : GroupId) (p : Policy) : Status × Engine × List Native.Call :=
  e.through .policySet [.int group.toNat, .int p.condition.toNat, .int 0] id (·.setPolicy group p)

def register (e : Engine) (group : GroupId) (mask : UInt32) (user : Nat) :
    Status × Engine × List Native.Call :=
  e.through .policyRegister [.int group.toNat, .int mask.toNat, .int user] id
    (·.register { group, mask, user })

def unregister (e : Engine) (group : GroupId) (mask : UInt32) :
    Option Status × Engine × List Native.Call :=
  match e.teardown with
  | .passed =>
    let (status, e, calls) :=
      e.through .policyUnregister [.int group.toNat, .int mask.toNat] id (·.unregister group mask)
    (some status, e, calls)
  | .refused code => (some (.ofCode code), e, [])
  | .aborted => (none, e, [])

def giveBack (e : Engine) : Engine × List Native.Call :=
  match e.connection with
  | some c =>
    if c.released then (e, [])
    else
      let (c, calls) := c.release
      ({ e with connection := some c }, calls)
  | none => (e, [])

end Engine

end GpuTelemetry
