import GpuTelemetry.Monitor.Delivery
import GpuTelemetry.Monitor.Subscribe
import GpuTelemetry.Monitor.Teardown

/-!
What happens without a caller. Every move is one atomic step of a task or of an engine thread; they
may be made in any order. `settle` makes moves until none is left.
-/

namespace GpuTelemetry

inductive Move where
  | enter (i : Nat)
  | start (id : Nat)
  | take (id : Nat) (c : Condition)
  | send (id : Nat)
  | leave (id : Nat)
  | detach (id : Nat)
  | release (id : Nat)
  | unregister (id : Nat)
  | close (id : Nat)
  | finish (id : Nat)
  | launch (i : Nat)
  | callBack (i : Nat)
  | report (i : Nat)
  deriving DecidableEq, Repr

namespace Monitor

def move? (m : Monitor) : Move → Option Monitor
  | .enter i => m.enter? i
  | .start id => m.start? id
  | .take id c => m.take? id c
  | .send id => m.send? id
  | .leave id => m.leave? id
  | .detach id => m.detach? id
  | .release id => m.release? id
  | .unregister id => m.unregister? id
  | .close id => m.close? id
  | .finish id => m.finish? id
  | .launch i => m.launch? i
  | .callBack i => m.callBack? i
  | .report i => m.report? i

def taskMoves (id : Nat) : List Move :=
  [.unregister id, .release id, .close id, .finish id, .leave id, .detach id, .start id, .send id] ++
    Condition.all.map (.take id)

def firingMoves (i : Nat) : List Move := [.report i, .callBack i, .launch i]

def moves (m : Monitor) : List Move :=
  m.subscriptions.flatMap (fun s => taskMoves s.id) ++
    (List.range m.requests.length).map .enter ++
    (List.range m.firings.length).flatMap firingMoves

def next? (m : Monitor) : Option Monitor := m.moves.findSome? m.move?

def taskWork (s : Subscription) : Nat :=
  s.phase.remaining + 2 * s.inSlots + s.hand.toList.length

def reach (m : Monitor) (e : Nat) : Nat :=
  (m.engines e).sim.registrations.length + m.requests.length

def firingWork (m : Monitor) (f : Firing) : Nat :=
  1 + 3 * f.targets.length + (f.total - f.launched) * (1 + 3 * m.reach f.engine)

def work (m : Monitor) : Nat :=
  8 * m.requests.length + m.subscriptions.foldr (fun s n => taskWork s + n) 0 +
    m.firings.foldr (fun f n => m.firingWork f + n) 0

def settleIn : Nat → Monitor → Monitor
  | 0, m => m
  | n + 1, m =>
    match m.next? with
    | some m => settleIn n m
    | none => m

def settle (m : Monitor) : Monitor := settleIn m.work m

end Monitor

end GpuTelemetry
