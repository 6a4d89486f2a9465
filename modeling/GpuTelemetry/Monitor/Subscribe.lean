import GpuTelemetry.Monitor.State

/-!
Subscribing. The call checks its arguments, waits for the lock of its group and then, in one section,
sets the group's policy, enters the registry, registers with the engine and holds its conditions.
-/

namespace GpuTelemetry.Monitor

def resolve (m : Monitor) : Option Nat → Except Failure Nat
  | some e => if (m.engines e).owned then .ok e else .error uninitialized
  | none =>
    match m.active with
    | some e => .ok e
    | none => .error uninitialized
where
  uninitialized : Failure := .engine "engine handle" .uninitialized

def agreed (m : Monitor) (r : Request) : Thresholds :=
  (m.groups r.key).thresholds.adopt r.thresholds r.conditions

def policyFor (m : Monitor) (r : Request) : Policy :=
  (m.agreed r).policy (Condition.distinct ((m.groups r.key).conditions ++ r.conditions))

def fail (m : Monitor) (r : Request) (f : Failure) : Monitor :=
  (m.note (.subscribed r.ticket (.error f))).reap r.key.engine

def scopeOf (m : Monitor) (token : Nat) : Scope := (m.tokens[token]?).getD ⟨[], false⟩

def askPolicy (m : Monitor) (r : Request) : Status × Monitor :=
  let policy := m.policyFor r
  m.call r.key.engine (.setPolicy r.key.group policy) some (·.setPolicy r.key.group policy)

def askRegistration (m : Monitor) (r : Request) : Status × Monitor :=
  let id := m.lastId + 1
  let mask := Condition.maskOf r.conditions
  { m with lastId := id, registry := id :: m.registry }.call r.key.engine
    (.register r.key.group mask id) some (·.register r.key.group mask id)

def join (m : Monitor) (r : Request) : Monitor :=
  let watch := { (m.groups r.key).hold r.conditions with thresholds := m.agreed r }
  { m with
    groups := assign m.groups r.key watch
    subscriptions := m.subscriptions ++ [r.subscription m.lastId (m.scopeOf r.token)]
    journal := .subscribed r.ticket (.ok m.lastId) :: m.journal }

def enlist (m : Monitor) (r : Request) : Monitor :=
  let (status, m) := m.askRegistration r
  match status.check Native.Symbol.policyRegister.name with
  | .error f => ({ m with registry := m.registry.erase m.lastId }).fail r f
  | .ok _ => m.join r

def enrol (m : Monitor) (r : Request) : Monitor :=
  let (status, m) := m.askPolicy r
  match status.check Native.Symbol.policySet.name with
  | .error f => m.fail r f
  | .ok _ => m.enlist r

def enter? (m : Monitor) (i : Nat) : Option Monitor :=
  match m.requests[i]? with
  | some r =>
    if m.isLocked r.key then none
    else some ({ m with requests := m.requests.eraseIdx i }.enrol r)
  | none => none

structure Wish where
  engine : Option Nat := none
  group : GroupId := allGpus
  conditions : List Condition
  thresholds : Thresholds := {}
  token : Nat
  executor : Bool := true

def requestOf (m : Monitor) (ticket : Nat) (w : Wish) : Except Failure Request :=
  if !w.executor then .error (.runtime "no executor")
  else
    match m.resolve w.engine with
    | .error f => .error f
    | .ok e =>
      let conditions := Condition.distinct w.conditions
      if conditions.isEmpty then
        .error (.invalidArgument "at least one policy condition is required")
      else
        .ok { ticket, key := ⟨e, w.group⟩, conditions, thresholds := w.thresholds, token := w.token }

def ask (m : Monitor) (ticket : Nat) (w : Wish) : Monitor :=
  match m.requestOf ticket w with
  | .error f => m.note (.subscribed ticket (.error f))
  | .ok r => { m with requests := m.requests ++ [r] }

def subscribe (m : Monitor) (ticket : Nat) (w : Wish) : Monitor :=
  let asked := m.ask ticket w
  (asked.enter? m.requests.length).getD asked

def outcome? (m : Monitor) (ticket : Nat) : Option (Except Failure Nat) :=
  m.journal.findSome? fun
    | .subscribed t outcome => if t = ticket then some outcome else none
    | _ => none

end GpuTelemetry.Monitor
