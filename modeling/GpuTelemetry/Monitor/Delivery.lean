import GpuTelemetry.Monitor.State

/-!
Delivery of violations. An engine thread calls back for one registration after the other; a callback
puts the occurrence into the slot of its condition and waits while that slot is full. The task of a
subscription moves occurrences from the slots to the output.
-/

namespace GpuTelemetry.Monitor

def receiver? (m : Monitor) (id : Nat) (c : Condition) : Option Subscription :=
  if id ∈ m.registry then
    match m.subscription? id with
    | some s => if c ∈ s.conditions then some s else none
    | none => none
  else none

def accept (m : Monitor) (id : Nat) (v : Violation) : Monitor :=
  (m.update id fun s =>
    { s with slots := assign s.slots v.condition (s.slots v.condition ++ [v]) }).note
      (.accepted id v)

/-- One callback; absent while it has to wait. -/
def deliver? (m : Monitor) (f : Firing) (target : Registration) : Option Monitor :=
  match target.sink with
  | .recorder => some (m.note (.recorded f.response target.user))
  | .subscriptions =>
    match Violation.ofResponse? f.response with
    | none => some m
    | some v =>
      match m.receiver? target.user v.condition with
      | none => some m
      | some s =>
        if f.onExecutor then some m
        else if (s.slots v.condition).length < Limits.slotCapacity then
          some (m.accept target.user v)
        else none

def launch? (m : Monitor) (i : Nat) : Option Monitor :=
  match m.firings[i]? with
  | some f =>
    if f.targets.isEmpty && f.launched < f.total then
      let response := if f.launched = 0 then f.response else f.response.raised 1
      let targets := (m.engines f.engine).sim.targets response.condition
      let f := { f with
        response, targets, launched := f.launched + 1, callbacks := f.callbacks + targets.length }
      some { m with firings := m.firings.set i f }
    else none
  | none => none

def callBack? (m : Monitor) (i : Nat) : Option Monitor :=
  match m.firings[i]? with
  | some f =>
    match f.targets with
    | target :: rest =>
      (m.deliver? f target).map fun m =>
        let m := m.note (.callback f.engine target)
        { m with firings := m.firings.eraseIdx i ++ [{ f with targets := rest }] }
    | [] => none
  | none => none

def report? (m : Monitor) (i : Nat) : Option Monitor :=
  match m.firings[i]? with
  | some f =>
    if f.targets.isEmpty && f.launched == f.total then
      some ({ m with firings := m.firings.eraseIdx i }.note (.fired f.ticket f.total f.callbacks))
    else none
  | none => none

def fire (m : Monitor) (ticket e : Nat) (r : Response) (total : Nat) (onExecutor : Bool) : Monitor :=
  { m with firings := m.firings ++ [{ ticket, engine := e, response := r, total, onExecutor }] }

def fireAt (m : Monitor) (ticket e : Nat) (r : Option Response) (user : Nat) : Monitor :=
  let targets := match r with
    | some r => [{ group := 0, mask := r.condition, user }]
    | none => []
  { m with firings := m.firings ++
      [{ ticket, engine := e, response := r.getD {}, total := 0, targets }] }

def fired? (m : Monitor) (ticket : Nat) : Option (Nat × Nat) :=
  m.journal.findSome? fun
    | .fired t total callbacks => if t = ticket then some (total, callbacks) else none
    | _ => none

def completed (m : Monitor) (ticket : Nat) : Nat :=
  ((m.firings.find? (·.ticket == ticket)).map Firing.completed).getD 0

def start? (m : Monitor) (id : Nat) : Option Monitor :=
  m.turn? id (·.phase = .registered) fun _ =>
    some (m.update id fun s => { s with phase := .streaming })

def take? (m : Monitor) (id : Nat) (c : Condition) : Option Monitor :=
  m.turn? id (fun s => s.phase = .streaming ∧ s.hand = none) fun s =>
    match s.slots c with
    | v :: rest =>
      some (m.update id fun s => { s with hand := some v, slots := assign s.slots c rest })
    | [] => none

def send? (m : Monitor) (id : Nat) : Option Monitor :=
  m.turn? id (fun s => s.phase = .streaming ∧ s.output.length < Limits.outputCapacity) fun s =>
    match s.hand with
    | some v => some (m.update id fun s => { s with hand := none, output := s.output ++ [v] })
    | none => none

end GpuTelemetry.Monitor
