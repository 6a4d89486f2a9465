import GpuTelemetry.Monitor.Subscribe

namespace GpuTelemetry.Monitor

def addEngine (m : Monitor) (e : Engine) : Monitor :=
  { m with
    engines := assign m.engines m.engineCount { e with owned := true }
    engineCount := m.engineCount + 1 }

def adopt (m : Monitor) : Except Failure Native.Connection × List Native.Call →
    Except Failure Nat × Monitor
  | (.error f, calls) => (.error f, m.noteNative none calls)
  | (.ok c, calls) =>
    (.ok m.engineCount,
      (m.addEngine { connection := some c }).noteNative (some m.engineCount) calls)

def errorString (m : Monitor) (e : Nat) (code : Int32) : Option String × Monitor :=
  match (m.engines e).connection with
  | some c =>
    let (text, calls) := c.errorString code
    (text, m.noteNative (some e) calls)
  | none => (none, m)

def adjustSim (m : Monitor) (e : Nat) (f : Simulator → Simulator) : Monitor :=
  m.adjust e fun g => { g with sim := f g.sim }

def disown (m : Monitor) (e : Nat) : Monitor :=
  (m.adjust e fun g => { g with owned := false }).reap e

def reapPrevious (m : Monitor) : Option Nat → Monitor
  | some e => m.reap e
  | none => m

def activate (m : Monitor) (e : Nat) : Option Nat × Monitor :=
  (m.active, { m with active := some e }.reapPrevious m.active)

def deactivate (m : Monitor) : Option Nat × Monitor :=
  (m.active, { m with active := none }.reapPrevious m.active)

def addToken (m : Monitor) (parent : Option Nat) : Monitor :=
  let above := match parent with
    | some p => m.scopeOf p
    | none => ⟨[], false⟩
  { m with tokens := m.tokens ++ [{ above with within := m.tokens.length :: above.within }] }

def cancelToken (m : Monitor) (token : Nat) : Monitor :=
  { m with
    tokens := m.tokens.map (·.cancel token)
    subscriptions := m.subscriptions.map fun s => { s with scope := s.scope.cancel token } }

def isCancelled (m : Monitor) (token : Nat) : Bool := (m.scopeOf token).fired

def cancel (m : Monitor) (id : Nat) : Monitor :=
  m.update id fun s => { s with scope := { s.scope with fired := true } }

def dropReader (m : Monitor) (id : Nat) : Monitor :=
  (m.cancel id).update id fun s => { s with reader := false }

inductive Received where
  | occurrence (v : Violation)
  | closed
  | pending
  deriving DecidableEq, Repr

def receiveNone (m : Monitor) (s : Subscription) : Received × Monitor :=
  if s.phase = .finished then (.closed, m.note (.ended s.id)) else (.pending, m)

def receive (m : Monitor) (id : Nat) : Received × Monitor :=
  match m.subscription? id with
  | none => (.closed, m)
  | some s =>
    if s.scope.fired then (m.update id fun s => { s with output := [] }).receiveNone s
    else
      match s.output with
      | v :: rest =>
        (.occurrence v, (m.update id fun s => { s with output := rest }).note (.yielded id v))
      | [] => m.receiveNone s

def attached (m : Monitor) : Nat := m.registry.length

end GpuTelemetry.Monitor
