import GpuTelemetry.Monitor.State

/-!
Teardown. A subscription that stops streaming leaves the registry and drops what it has not passed on;
then, under the lock of its group, it releases its conditions and unregisters those that nobody holds
any more; then it closes, and then its output ends.
-/

namespace GpuTelemetry.Monitor

def stops (m : Monitor) (s : Subscription) : Bool :=
  s.scope.fired || (s.hand.isNone && s.inSlots == 0 && !m.registry.contains s.id) ||
    (s.hand.isSome && !s.reader)

def leave? (m : Monitor) (id : Nat) : Option Monitor :=
  m.turn? id (fun s => s.phase = .streaming ∧ m.stops s) fun _ =>
    some (m.update id fun s => { s with phase := .leaving, hand := none })

def detach? (m : Monitor) (id : Nat) : Option Monitor :=
  m.turn? id (·.phase = .leaving) fun _ =>
    some ({ m with registry := m.registry.erase id }.update id fun s =>
      { s with phase := .waiting, slots := fun _ => [] })

def release? (m : Monitor) (id : Nat) : Option Monitor :=
  m.turn? id (fun s => s.phase = .waiting ∧ m.isLocked s.key = false) fun s =>
    let (watch, mask) := (m.groups s.key).release s.conditions
    let m := { m with groups := assign m.groups s.key watch }
    if mask = 0 then
      some ((m.update id fun s => { s with phase := .released }).reap s.key.engine)
    else some (m.update id fun s => { s with phase := .calling mask })

def unregister? (m : Monitor) (id : Nat) : Option Monitor :=
  m.turn? id (·.phase.isCalling) fun s =>
    match s.phase with
    | .calling mask =>
      if (m.engines s.key.engine).held then none
      else
        let (_, m) := m.call s.key.engine (.unregister s.key.group mask) (fun answer => answer)
          (·.unregister s.key.group mask)
        some ((m.update id fun s => { s with phase := .released }).reap s.key.engine)
    | _ => none

def close? (m : Monitor) (id : Nat) : Option Monitor :=
  m.turn? id (·.phase = .released) fun _ =>
    some (m.update id fun s => { s with phase := .closed })

def finish? (m : Monitor) (id : Nat) : Option Monitor :=
  m.turn? id (·.phase = .closed) fun _ =>
    some (m.update id fun s => { s with phase := .finished })

end GpuTelemetry.Monitor
