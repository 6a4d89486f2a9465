import GpuTelemetry.Monitor.Caller
import GpuTelemetry.Monitor.Progress
import GpuTelemetry.Monitor.Query
import GpuTelemetry.Proofs.Steps

/-!
Runs of a monitor: whatever callers, engines and tasks do to it, one after the other in any order.
-/

namespace GpuTelemetry

inductive Setting where
  | policyStatus (s : Status)
  | registerStatus (s : Status)
  | teardown (t : Teardown)
  | held (on : Bool)
  | codes (f : Native.Symbol → Int32)
  | history (batches : List Batch) (status : Status) (cursor : Int64)
  | latest (records : List EntityRecord) (status : Status)

def Setting.apply : Setting → Engine → Engine
  | .policyStatus s, e => { e with sim := { e.sim with policyStatus := s } }
  | .registerStatus s, e => { e with sim := { e.sim with registerStatus := s } }
  | .teardown t, e => { e with teardown := t }
  | .held on, e => { e with held := on }
  | .codes f, e =>
    { e with connection := e.connection.map fun c => { c with image := { c.image with codes := f } } }
  | .history batches status cursor, e =>
    { e with sim := { e.sim with batches, historyStatus := status, cursor } }
  | .latest records status, e =>
    { e with sim := { e.sim with latest := records, snapshotStatus := status } }

inductive Action where
  | addEngine
  | openAt (load : Native.Loader) (mode : Native.Mode) (path : String)
  | openAny (load : Native.Loader) (mode : Native.Mode) (override : Option String)
  | set (e : Nat) (s : Setting)
  | errorString (e : Nat) (code : Int32)
  | activate (e : Nat)
  | deactivate
  | disown (e : Nat)
  | addToken (parent : Option Nat)
  | cancelToken (token : Nat)
  | ask (ticket : Nat) (w : Monitor.Wish)
  | cancel (id : Nat)
  | dropReader (id : Nat)
  | receive (id : Nat)
  | collect (engine : Option Nat) (q : History.Query) (script : Option History.Reply)
  | snapshot (engine : Option Nat) (entities : List Entity) (fields : List UInt16) (flags : UInt32)
      (script : Option (Array EntityRecord → Snapshot.Answer))
  | fire (ticket e : Nat) (r : Response) (total : Nat) (onExecutor : Bool)
  | fireAt (ticket e : Nat) (r : Option Response) (user : Nat)
  | move (mv : Move)

namespace Monitor

def act? (m : Monitor) : Action → Option Monitor
  | .addEngine => some (m.addEngine {})
  | .openAt load mode path => some (m.adopt (Native.openAt load mode path)).2
  | .openAny load mode override => some (m.adopt (Native.openAny load mode override)).2
  | .set e s => some (m.adjust e s.apply)
  | .errorString e code => some (m.errorString e code).2
  | .activate e => if (m.engines e).owned then some (m.activate e).2 else none
  | .deactivate => some m.deactivate.2
  | .disown e => if (m.engines e).owned then some (m.disown e) else none
  | .addToken parent => some (m.addToken parent)
  | .cancelToken token => some (m.cancelToken token)
  | .ask ticket w => some (m.ask ticket w)
  | .cancel id => some (m.cancel id)
  | .dropReader id => some (m.dropReader id)
  | .receive id => some (m.receive id).2
  | .collect engine q script => some (m.collect engine q script).2
  | .snapshot engine entities fields flags script =>
    some (m.snapshot engine entities fields flags script).2
  | .fire ticket e r total onExecutor => some (m.fire ticket e r total onExecutor)
  | .fireAt ticket e r user => some (m.fireAt ticket e r user)
  | .move mv => m.move? mv

def run? (m : Monitor) (as : List Action) : Option Monitor := as.foldlM act? m

@[simp] theorem run?_nil (m : Monitor) : m.run? [] = some m := rfl

@[simp] theorem run?_cons (m : Monitor) (a : Action) (as : List Action) :
    m.run? (a :: as) = (m.act? a).bind (·.run? as) := by
  simp [run?, List.foldlM_cons, Option.bind_eq_bind]

theorem run?_append (m : Monitor) (as bs : List Action) :
    m.run? (as ++ bs) = (m.run? as).bind (·.run? bs) := by
  simp [run?, List.foldlM_append, Option.bind_eq_bind]

def Reachable (m : Monitor) : Prop := ∃ as, run? {} as = some m

theorem run?_induction {m : Monitor} {P : List Action → Monitor → Prop} (start : P [] m)
    (step : ∀ as n a n', m.run? as = some n → P as n → n.act? a = some n' → P (as ++ [a]) n')
    (as : List Action) : ∀ n, m.run? as = some n → P as n :=
  foldlM_induction start step as

def throughout (test : Monitor → Action → Bool) : Monitor → List Action → Bool
  | _, [] => true
  | m, a :: as => test m a && (m.act? a).all (throughout test · as)

theorem throughout_concat {test : Monitor → Action → Bool} {m n : Monitor} {as : List Action}
    (a : Action) (h : m.run? as = some n) :
    throughout test m (as ++ [a]) = (throughout test m as && test n a) := by
  induction as generalizing m with
  | nil =>
    cases h
    cases ha : n.act? a <;> simp [throughout, ha]
  | cons b as ih =>
    rw [run?_cons, Option.bind_eq_some_iff] at h
    obtain ⟨k, hb, hk⟩ := h
    simp [throughout, hb, ih hk, Bool.and_assoc]

theorem Reachable.induction {P : Monitor → Prop} (start : P {})
    (step : ∀ m a m', Reachable m → P m → m.act? a = some m' → P m') {m : Monitor}
    (h : Reachable m) : P m := by
  obtain ⟨as, h⟩ := h
  exact run?_induction start (fun bs n a n' hn hp ha => step n a n' ⟨bs, hn⟩ hp ha) as m h

theorem Reachable.run {m m' : Monitor} (h : Reachable m) {as : List Action}
    (hr : m.run? as = some m') : Reachable m' := by
  obtain ⟨bs, hb⟩ := h
  exact ⟨bs ++ as, by simp [run?_append, hb, hr]⟩

theorem Reachable.act {m m' : Monitor} (h : Reachable m) {a : Action} (ha : m.act? a = some m') :
    Reachable m' := by
  have hr : m.run? [a] = some m' := by simpa using ha
  exact h.run hr

end Monitor

end GpuTelemetry
