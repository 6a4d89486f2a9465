import GpuTelemetry.Proofs.Cancellation
import GpuTelemetry.Proofs.Journal
import GpuTelemetry.Proofs.ReferenceCounts

namespace GpuTelemetry

def Move.task? : Move → Option Nat
  | .start id | .take id _ | .send id | .leave id | .detach id | .release id | .unregister id
  | .close id | .finish id => some id
  | .enter _ | .launch _ | .callBack _ | .report _ => none

def Action.serves (m : Monitor) (id : Nat) : Action → Bool
  | .move (.enter _) => m.lastId + 1 == id
  | .move mv => mv.task? == some id
  | _ => false

def Event.engineCall? : Event → Option (Nat × EngineCall)
  | .called e what _ => some (e, what)
  | _ => none

namespace Subscription.Step

variable {m : Monitor} {s s' : Subscription} {a : Action} {acc out : List Violation}

theorem rank_le (h : s.Step m a acc out s') : s.phase.stage.rank ≤ s'.phase.stage.rank := by
  cases h with
  | started phase | left phase stops | detached phase | released phase | called _ phase
  | returned _ phase | closed phase | finished phase => simp [phase, Phase.stage, Stage.rank]
  | _ => exact Nat.le_refl _

theorem remaining_le (h : s.Step m a acc out s') : s'.phase.remaining ≤ s.phase.remaining := by
  cases h with
  | started phase | left phase stops | detached phase | released phase | called _ phase
  | returned _ phase | closed phase | finished phase => simp [phase, Phase.remaining]
  | _ => exact Nat.le_refl _

end Subscription.Step

namespace Monitor

variable {m m' : Monitor} {s : Subscription} {a : Action} {as : List Action}

def calls (m : Monitor) : List (Nat × EngineCall) := m.said Event.engineCall?

/-- The engine calls that a run makes on behalf of the subscription `id`. -/
def callsFor (m : Monitor) (id : Nat) : List Action → List (Nat × EngineCall)
  | [] => []
  | a :: as =>
    match m.act? a with
    | some n => (if a.serves m id then n.calls.drop m.calls.length else []) ++ n.callsFor id as
    | none => []

theorem enter?_registered {i : Nat} (h : m.enter? i = some m') {t : Subscription}
    (hadds : m.Adds (.move (.enter i)) t) (ht : t ∈ m'.subscriptions) (n : m.Numbered) :
    Event.called t.key.engine (.register t.key.group (Condition.maskOf t.conditions) t.id)
      (some .ok) ∈ m'.journal := by
  obtain ⟨j, q, ha, hq, -, rfl⟩ := hadds
  cases ha
  obtain ⟨r, hr, -, hm⟩ := enter?_cases h
  obtain rfl := Option.some.inj (hr.symm.trans hq)
  -- nobody had the next number before, so the request has joined
  have hnew (list : m'.subscriptions = m.subscriptions) : False := by
    have := n.le _ (list ▸ ht)
    simp only [Request.subscription] at this
    omega
  have hend := enrol_cases { m with requests := m.requests.eraseIdx i } r
  rw [← hm] at hend
  cases hend with
  | policyRefused refused => exact (hnew rfl).elim
  | registrationRefused o ho accepted refused =>
    subst ho
    exact (hnew rfl).elim
  | joined o ho accepted registered =>
    have hlast : o.lastId = m.lastId := by rw [ho]; rfl
    have hok : (o.askRegistration r).1 = .ok := by simpa [Status.isOk] using registered
    have hcalled : Event.called r.key.engine
        (.register r.key.group (Condition.maskOf r.conditions) (o.lastId + 1))
        (some (o.askRegistration r).1) ∈ (o.askRegistration r).2.journal := by
      simp [askRegistration, call, noteNative, adjust, note]
    rw [hok, hlast] at hcalled
    exact List.mem_cons_of_mem _ hcalled

theorem Reachable.registered (h : Reachable m) : ∀ s ∈ m.subscriptions,
    Event.called s.key.engine (.register s.key.group (Condition.maskOf s.conditions) s.id)
      (some .ok) ∈ m.journal := by
  refine h.induction (P := fun m => ∀ s ∈ m.subscriptions, Event.called s.key.engine
    (.register s.key.group (Condition.maskOf s.conditions) s.id) (some .ok) ∈ m.journal) (by simp) ?_
  intro m a m' hr ih ha s' hs'
  obtain ⟨s, hs, acc, out, step, -, -⟩ | hadds := (hr.evolves ha).origin hs'
  · obtain ⟨events, journal, -⟩ := (act?_frame ha).journal
    rw [journal, step.id_eq, step.key_eq, step.conditions_eq]
    exact List.mem_append_right _ (ih s hs)
  · obtain ⟨i, r, rfl, -⟩ := id hadds
    exact enter?_registered ha hadds hs' hr.numbered

theorem Reachable.rank_le {bs : List Action} (h : Reachable m) (hs : s ∈ m.subscriptions)
    (hrun : m.run? bs = some m') :
    ∃ s', m'.subscription? s.id = some s' ∧ s.phase.stage.rank ≤ s'.phase.stage.rank := by
  obtain ⟨s', hs', hid, hle⟩ := h.stays (P := fun t => s.phase.stage.rank ≤ t.phase.stage.rank) hs
    (Nat.le_refl _) (fun _ _ _ _ _ _ step hle => Nat.le_trans hle step.rank_le) hrun
  exact ⟨s', hid ▸ (h.run hrun).numbered.subscription?_of_mem hs', hle⟩

theorem served_calls (n : m.Numbered) (hs : s ∈ m.subscriptions) (h : m.act? a = some m')
    (serves : a.serves m s.id = true) : m'.calls = m.calls ∨ a = .move (.unregister s.id) := by
  cases a with
  | move mv =>
    cases mv with
    | enter i =>
      have hle := n.le s hs
      simp only [Action.serves, beq_iff_eq] at serves
      omega
    | unregister id =>
      have hid : id = s.id := by simpa [Action.serves, Move.task?] using serves
      exact .inr (by rw [hid])
    | launch | callBack | report => cases serves
    | start | take | send | leave | detach | release | close | finish =>
      refine .inl ((act?_frame h).said fun e he => ?_)
      cases e with
      | called engine what answer => cases what <;> cases he
      | _ => rfl
  | _ => cases serves

theorem unregister?_calling {id : Nat} (n : m.Numbered) (hs : s ∈ m.subscriptions)
    (hid : s.id = id) (h : m.unregister? id = some m') : ∃ mask, s.phase = .calling mask := by
  obtain ⟨t, ht, hid', mask, calls, -, -⟩ := unregister?_cases h
  obtain rfl := n.eq_of_id ht hs (hid'.trans hid.symm)
  exact ⟨mask, calls⟩

theorem remaining_of_calling {p : Phase} {mask : UInt32} (h : p = .calling mask) :
    p.remaining = 3 := by
  rw [h]
  rfl

theorem no_call_of_idle (n : m.Numbered) (hs : s ∈ m.subscriptions) (idle : s.phase.remaining ≠ 3)
    (h : m.act? a = some m') :
    (if a.serves m s.id then m'.calls.drop m.calls.length else []) = [] := by
  split
  · rename_i serves
    obtain same | rfl := served_calls n hs h serves
    · simp [same]
    · obtain ⟨mask, calls⟩ := unregister?_calling n hs rfl h
      exact absurd (remaining_of_calling calls) idle
  · rfl

theorem Reachable.callsFor_of_late {bs : List Action} (h : Reachable m) (hs : s ∈ m.subscriptions)
    (late : s.phase.remaining < 3) : m.callsFor s.id bs = [] := by
  induction bs generalizing m s with
  | nil => rfl
  | cons a bs ih =>
    rw [callsFor]
    split
    · rename_i n ha
      obtain ⟨s', hs', acc, out, step, -, -⟩ := (h.evolves ha).successor hs
      have hrest := ih (h.act ha) hs' (Nat.lt_of_le_of_lt step.remaining_le late)
      rw [no_call_of_idle h.numbered hs (Nat.ne_of_lt late) ha, ← step.id_eq, hrest]
      rfl
    · rfl

theorem callsFor_append {n : Monitor} {bs : List Action} (id : Nat) (h : m.run? as = some n) :
    m.callsFor id (as ++ bs) = m.callsFor id as ++ n.callsFor id bs := by
  induction as generalizing m with
  | nil =>
    cases h
    rfl
  | cons a as ih =>
    rw [run?_cons, Option.bind_eq_some_iff] at h
    obtain ⟨k, ha, hk⟩ := h
    simp [callsFor, ha, ih hk]

theorem Reachable.callsFor_of_early (h : Reachable m) (hs : s ∈ m.subscriptions) {bs : List Action}
    (hrun : m.run? bs = some m') {t : Subscription} (ht : t ∈ m'.subscriptions) (hid : t.id = s.id)
    (early : 3 < t.phase.remaining) : m.callsFor s.id bs = [] := by
  refine run?_induction (P := fun bs n => ∀ t ∈ n.subscriptions, t.id = s.id →
    3 < t.phase.remaining → m.callsFor s.id bs = []) (fun _ _ _ _ => rfl) ?_ bs m' hrun t ht hid early
  intro bs n a n' hn ih ha t' ht' hid' early
  have hr : Reachable n := h.run hn
  obtain ⟨t, ht, acc, out, step, -, -⟩ | ⟨i, r, -, -, -, rfl⟩ := (hr.evolves ha).origin ht'
  · have hid : t.id = s.id := step.id_eq.symm.trans hid'
    have before := Nat.lt_of_lt_of_le early step.remaining_le
    have hnone := no_call_of_idle hr.numbered ht (Nat.ne_of_gt before) ha
    rw [callsFor_append s.id hn, ih t ht hid before, callsFor, ha, ← hid]
    simp [callsFor, hnone]
  · -- the number of `s` was given out before
    obtain ⟨s', hs', -⟩ := h.rank_le hs hn
    obtain ⟨known, hid⟩ := mem_of_subscription? hs'
    have hle := hr.numbered.le s' known
    simp only [Request.subscription] at hid'
    omega

theorem Reachable.detached (h : Reachable m) (hs : s ∈ m.subscriptions)
    (gone : s.phase.isAttached = false) : s.id ∉ m.registry := by
  intro hid
  have := (h.listed.attached s hs).mp hid
  simp [gone] at this

end Monitor

end GpuTelemetry
