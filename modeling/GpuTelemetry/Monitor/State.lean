import GpuTelemetry.Engine
import GpuTelemetry.Snapshot

/-!
The state of a monitor: engines, what the subscriptions hold on each group of each engine, the
subscriptions themselves, and the calls that have not returned. The journal lists all that crossed the
boundary to an engine or to a reader, newest first.
-/

namespace GpuTelemetry

structure Scope where
  within : List Nat
  fired : Bool := false
  deriving DecidableEq, Repr

def Scope.cancel (s : Scope) (token : Nat) : Scope :=
  if token ∈ s.within then { s with fired := true } else s

structure GroupKey where
  engine : Nat
  group : GroupId
  deriving DecidableEq, Repr

structure Watch where
  held : Condition → Option Nat := fun _ => none
  thresholds : Thresholds := {}

namespace Watch

def conditions (w : Watch) : List Condition := Condition.all.filter fun c => (w.held c).isSome

def holdOne (w : Watch) (c : Condition) : Watch :=
  { w with held := assign w.held c (some ((w.held c).getD 0 + 1)) }

def hold (w : Watch) (cs : List Condition) : Watch := cs.foldl holdOne w

def releaseOne (a : Watch × UInt32) (c : Condition) : Watch × UInt32 :=
  match a.1.held c with
  | none => a
  | some n =>
    if n - 1 = 0 then ({ a.1 with held := assign a.1.held c none }, a.2 ||| c.mask)
    else ({ a.1 with held := assign a.1.held c (some (n - 1)) }, a.2)

def release (w : Watch) (cs : List Condition) : Watch × UInt32 := cs.foldl releaseOne (w, 0)

end Watch

inductive Stage where
  | created | registered | streaming | unregistering | closed
  deriving DecidableEq, Repr

namespace Stage

def rank : Stage → Nat
  | created => 0
  | registered => 1
  | streaming => 2
  | unregistering => 3
  | closed => 4

def label : Stage → String
  | created => "Created"
  | registered => "Registered"
  | streaming => "Streaming"
  | unregistering => "Unregistering"
  | closed => "Closed"

end Stage

/-- Where a subscription's own task stands. A task that is `leaving` is still in the registry; then it
is `waiting` for the lock of its group, then `calling` the engine with that lock, then `released`. It is
`closed` once its stage says so and `finished` once its output ends. -/
inductive Phase where
  | registered | streaming | leaving | waiting
  | calling (mask : UInt32)
  | released | closed | finished
  deriving DecidableEq, Repr

namespace Phase

def stage : Phase → Stage
  | registered => .registered
  | streaming => .streaming
  | leaving | waiting | calling _ | released => .unregistering
  | closed | finished => .closed

def remaining : Phase → Nat
  | registered => 7
  | streaming => 6
  | leaving => 5
  | waiting => 4
  | calling _ => 3
  | released => 2
  | closed => 1
  | finished => 0

def isCalling : Phase → Bool
  | calling _ => true
  | _ => false

def isLive : Phase → Bool
  | registered | streaming => true
  | _ => false

def isAttached : Phase → Bool
  | registered | streaming | leaving => true
  | _ => false

def holds : Phase → Bool
  | registered | streaming | leaving | waiting => true
  | _ => false

def usesEngine : Phase → Bool
  | released | closed | finished => false
  | _ => true

end Phase

structure Subscription where
  id : Nat
  key : GroupKey
  conditions : List Condition
  thresholds : Thresholds
  scope : Scope
  phase : Phase := .registered
  reader : Bool := true
  slots : Condition → List Violation := fun _ => []
  hand : Option Violation := none
  output : List Violation := []

namespace Subscription

def inSlots (s : Subscription) : Nat := Condition.all.foldr (fun c n => (s.slots c).length + n) 0

def describe (s : Subscription) : String :=
  "ViolationStream \x7b id: " ++ toString s.id ++ ", conditions: [" ++
    ", ".intercalate (s.conditions.map (·.label)) ++ "], state: " ++ s.phase.stage.label ++ " \x7d"

end Subscription

structure Request where
  ticket : Nat
  key : GroupKey
  conditions : List Condition
  thresholds : Thresholds
  token : Nat

def Request.subscription (r : Request) (id : Nat) (scope : Scope) : Subscription where
  id := id
  key := r.key
  conditions := r.conditions
  thresholds := r.thresholds
  scope := scope

/-- An engine thread that reports `total` violations in turn. `targets` are the callbacks of the
present one that are still to be made. -/
structure Firing where
  ticket : Nat
  engine : Nat
  response : Response
  total : Nat
  launched : Nat := 0
  targets : List Registration := []
  callbacks : Nat := 0
  /-- On the executor's own thread nothing may block, so deliveries are refused. -/
  onExecutor : Bool := false

def Firing.completed (f : Firing) : Nat :=
  if f.targets.isEmpty then f.launched else f.launched - 1

inductive EngineCall where
  | history (group fieldGroup : UInt64) (since : Int64)
  | snapshot (entities : List (UInt32 × UInt32)) (fields : List UInt16) (flags : UInt32) (slots : Nat)
  | setPolicy (group : GroupId) (policy : Policy)
  | register (group : GroupId) (mask : UInt32) (id : Nat)
  | unregister (group : GroupId) (mask : UInt32)

inductive Event where
  | called (engine : Nat) (call : EngineCall) (answer : Option Status)
  | native (engine : Option Nat) (call : Native.Call)
  | callback (engine : Nat) (target : Registration)
  | recorded (response : Response) (user : Nat)
  | accepted (id : Nat) (v : Violation)
  | yielded (id : Nat) (v : Violation)
  | ended (id : Nat)
  | subscribed (ticket : Nat) (outcome : Except Failure Nat)
  | fired (ticket : Nat) (total callbacks : Nat)

structure Monitor where
  engines : Nat → Engine := fun _ => {}
  engineCount : Nat := 0
  active : Option Nat := none
  reserve : Reserve EntityRecord := Snapshot.emptyReserve
  groups : GroupKey → Watch := fun _ => {}
  lastId : Nat := 0
  registry : List Nat := []
  subscriptions : List Subscription := []
  tokens : List Scope := []
  requests : List Request := []
  firings : List Firing := []
  journal : List Event := []

namespace Monitor

def note (m : Monitor) (e : Event) : Monitor := { m with journal := e :: m.journal }

def noteNative (m : Monitor) (engine : Option Nat) (calls : List Native.Call) : Monitor :=
  { m with journal := (calls.map (Event.native engine)).reverse ++ m.journal }

def subscription? (m : Monitor) (id : Nat) : Option Subscription :=
  m.subscriptions.find? (·.id == id)

def update (m : Monitor) (id : Nat) (f : Subscription → Subscription) : Monitor :=
  { m with subscriptions := m.subscriptions.map fun s => if s.id = id then f s else s }

def turn? (m : Monitor) (id : Nat) (ready : Subscription → Bool)
    (act : Subscription → Option Monitor) : Option Monitor :=
  match m.subscription? id with
  | some s => if ready s then act s else none
  | none => none

def adjust (m : Monitor) (e : Nat) (f : Engine → Engine) : Monitor :=
  { m with engines := assign m.engines e (f (m.engines e)) }

def isLocked (m : Monitor) (key : GroupKey) : Bool :=
  m.subscriptions.any fun s => s.key == key && s.phase.isCalling

def isReferenced (m : Monitor) (e : Nat) : Bool :=
  (m.engines e).owned || m.active == some e || m.requests.any (·.key.engine == e) ||
    m.subscriptions.any fun s => s.key.engine == e && s.phase.usesEngine

def reap (m : Monitor) (e : Nat) : Monitor :=
  let (engine, calls) :=
    if m.isReferenced e then (m.engines e, []) else (m.engines e).giveBack
  (m.adjust e fun _ => engine).noteNative (some e) calls

def call {α : Type} (m : Monitor) (e : Nat) (what : EngineCall) (answer : α → Option Status)
    (act : Engine → α × Engine × List Native.Call) : α × Monitor :=
  let (a, engine, calls) := act (m.engines e)
  (a, ((m.note (.called e what (answer a))).adjust e fun _ => engine).noteNative (some e) calls)

end Monitor

end GpuTelemetry
