import GpuTelemetry.Proofs.Effects
import GpuTelemetry.Proofs.Tokens

namespace GpuTelemetry

open scoped List

namespace Subscription.Step

variable {m : Monitor} {s s' : Subscription} {a : Action} {acc out : List Violation}

theorem silent (h : s.Step m a acc out s') (hf : s.scope.fired = true) : out = [] := by
  cases h with
  | yielded v rest live => simp [live] at hf
  | _ => rfl

theorem finished_stays (h : s.Step m a acc out s') (hp : s.phase = .finished) :
    s'.phase = .finished := by
  cases h with
  | started phase | left phase | detached phase | released phase | called _ phase
  | returned _ phase | closed phase | finished phase => simp [hp] at phase
  | _ => exact hp

end Subscription.Step

namespace Monitor

variable {m m' : Monitor} {s : Subscription} {as : List Action}

theorem Reachable.stays {P : Subscription → Prop} (h : Reachable m) (hs : s ∈ m.subscriptions)
    (hp : P s) (step : ∀ (n : Monitor) (a : Action) (acc out : List Violation) (t t' : Subscription),
      t.Step n a acc out t' → P t → P t')
    (hrun : m.run? as = some m') : ∃ s' ∈ m'.subscriptions, s'.id = s.id ∧ P s' := by
  refine run?_induction (P := fun _ n => ∃ t ∈ n.subscriptions, t.id = s.id ∧ P t) ⟨s, hs, rfl, hp⟩
    ?_ as m' hrun
  intro bs n a n' hn ih ha
  obtain ⟨t, ht, hid, hp⟩ := ih
  obtain ⟨t', ht', acc, out, hstep, -, -⟩ := ((h.run hn).evolves ha).successor ht
  exact ⟨t', ht', hstep.id_eq.trans hid, step n a acc out t t' hstep hp⟩

theorem Reachable.stays_fired (h : Reachable m) (hs : s ∈ m.subscriptions)
    (hf : s.scope.fired = true) (hrun : m.run? as = some m') :
    ∃ s' ∈ m'.subscriptions, s'.id = s.id ∧ s'.scope.fired = true :=
  h.stays (P := fun t => t.scope.fired = true) hs hf (fun _ _ _ _ _ _ hstep => hstep.fired) hrun

theorem Reachable.stays_finished (h : Reachable m) (hs : s ∈ m.subscriptions)
    (hp : s.phase = .finished) (hrun : m.run? as = some m') :
    ∃ s' ∈ m'.subscriptions, s'.id = s.id ∧ s'.phase = .finished :=
  h.stays (P := fun t => t.phase = .finished) hs hp
    (fun _ _ _ _ _ _ hstep => hstep.finished_stays) hrun

theorem Reachable.stays_named (h : Reachable m) (hs : s ∈ m.subscriptions)
    (hrun : m.run? as = some m') :
    ∃ s' ∈ m'.subscriptions, s'.id = s.id ∧ s'.key = s.key ∧ s'.conditions = s.conditions :=
  h.stays (P := fun t => t.key = s.key ∧ t.conditions = s.conditions) hs ⟨rfl, rfl⟩
    (fun _ _ _ _ _ _ step same =>
      ⟨step.key_eq.trans same.1, step.conditions_eq.trans same.2⟩) hrun

theorem Reachable.released_later (h : Reachable m) (hs : s ∈ m.subscriptions)
    (hrun : m.run? as = some m') {n : Monitor} (hn : m'.act? (.move (.release s.id)) = some n) :
    ∃ u p, u.id = s.id ∧ u.key = s.key ∧ u.conditions = s.conditions ∧ ReleasedTo m' u p n := by
  obtain ⟨t, ht, hid, hkey, hconditions⟩ := h.stays_named hs hrun
  obtain ⟨u, p, hu, released⟩ := release?_releasedTo hn
  obtain rfl := (h.run hrun).numbered.eq_of_id released.known ht (hu.trans hid.symm)
  exact ⟨u, p, hu, hkey, hconditions, released⟩

theorem Reachable.yields_nothing (h : Reachable m) (hs : s ∈ m.subscriptions)
    (hf : s.scope.fired = true) (hrun : m.run? as = some m') :
    m'.yielded s.id = m.yielded s.id := by
  refine run?_induction (P := fun _ n => n.yielded s.id = m.yielded s.id) rfl ?_ as m' hrun
  intro bs n a n' hn ih ha
  obtain ⟨t, ht, hid, hft⟩ := h.stays_fired hs hf hn
  obtain ⟨t', -, acc, out, hstep, -, hout⟩ := ((h.run hn).evolves ha).successor ht
  rw [hid, hstep.silent hft, List.append_nil] at hout
  exact hout.trans ih

theorem receive_of_fired (n : m.Numbered) (hs : s ∈ m.subscriptions) (hf : s.scope.fired = true) :
    (m.receive s.id).1 = if s.phase = .finished then .closed else .pending := by
  rw [receive, n.subscription?_of_mem hs]
  simp only [hf, if_true]
  exact receiveNone_fst _ s

theorem finished_of_receive_closed (n : m.Numbered) (hs : s ∈ m.subscriptions)
    (h : (m.receive s.id).1 = .closed) : s.phase = .finished := by
  cases hf : s.scope.fired with
  | true =>
    rw [receive_of_fired n hs hf] at h
    by_contra hp
    simp [hp] at h
  | false =>
    rw [receive, n.subscription?_of_mem hs] at h
    simp only [hf, Bool.false_eq_true, if_false] at h
    cases hout : s.output with
    | nil =>
      simp only [hout, receiveNone_fst] at h
      by_contra hp
      simp [hp] at h
    | cons v rest => simp [hout] at h

end Monitor

def Action.Cancels (a : Action) (s : Subscription) : Prop :=
  a = .cancel s.id ∨ a = .dropReader s.id ∨ ∃ t ∈ s.scope.within, a = .cancelToken t

namespace Monitor

theorem fired_of_cancels {m m' : Monitor} {s : Subscription} {a : Action} (hs : s ∈ m.subscriptions)
    (ha : a.Cancels s) (h : m.act? a = some m') :
    ∃ s' ∈ m'.subscriptions, s'.id = s.id ∧ s'.scope.fired = true := by
  obtain rfl | rfl | ⟨t, ht, rfl⟩ := ha
  · cases h
    refine ⟨_, List.mem_map_of_mem hs, ?_, ?_⟩ <;> simp
  · cases h
    refine ⟨_, List.mem_map_of_mem (List.mem_map_of_mem hs), ?_, ?_⟩ <;> simp
  · cases h
    exact ⟨_, List.mem_map_of_mem hs, rfl, Scope.cancel_fired.mpr (.inl ht)⟩

def answered (id : Nat) (mask : UInt32) : List Action :=
  if mask = 0 then [] else [.move (.unregister id)]

/-- Whether the run `as` has taken `s` through its release section with `mask` to unregister: after it had
detached, and before the moves `rest`. -/
def Released (as : List Action) (s : Subscription) (mask : UInt32) (rest : List Action) : Prop :=
  ∃ before after m, as = before ++ .move (.release s.id) :: after ∧ run? {} before = some m ∧
    m.due s = mask ∧ [.move (.leave s.id), .move (.detach s.id)] <+ before ∧ rest <+ after

theorem Released.later {as rest : List Action} {s : Subscription} {mask : UInt32}
    (h : Released as s mask rest) (a : Action) : Released (as ++ [a]) s mask rest := by
  obtain ⟨before, after, m, rfl, hm, hdue, hleft, hrest⟩ := h
  exact ⟨before, after ++ [a], m, by simp, hm, hdue, hleft,
    hrest.trans (List.sublist_append_left after [a])⟩

theorem Released.next {as rest : List Action} {s : Subscription} {mask : UInt32}
    (h : Released as s mask rest) (a : Action) : Released (as ++ [a]) s mask (rest ++ [a]) := by
  obtain ⟨before, after, m, rfl, hm, hdue, hleft, hrest⟩ := h
  exact ⟨before, after ++ [a], m, by simp, hm, hdue, hleft, hrest.append (List.Sublist.refl [a])⟩

def Torn (as : List Action) (s : Subscription) : Phase → Prop
  | .registered | .streaming => True
  | .leaving => [.move (.leave s.id)] <+ as
  | .waiting => [.move (.leave s.id), .move (.detach s.id)] <+ as
  | .calling mask => mask ≠ 0 ∧ Released as s mask []
  | .released => ∃ mask, Released as s mask (answered s.id mask)
  | .closed => ∃ mask, Released as s mask (answered s.id mask ++ [.move (.close s.id)])
  | .finished => ∃ mask,
    Released as s mask (answered s.id mask ++ [.move (.close s.id), .move (.finish s.id)])

theorem Torn.later {as : List Action} {s : Subscription} {p : Phase} (h : Torn as s p) (a : Action) :
    Torn (as ++ [a]) s p := by
  cases p with
  | registered | streaming => trivial
  | leaving | waiting => exact List.Sublist.trans h (List.sublist_append_left as [a])
  | calling mask => exact ⟨h.1, h.2.later a⟩
  | released | closed | finished =>
    obtain ⟨mask, hmask⟩ := h
    exact ⟨mask, hmask.later a⟩

end Monitor

open Monitor in
theorem Subscription.Step.torn {m : Monitor} {s s' : Subscription} {a : Action}
    {acc out : List Violation} {as : List Action} (h : s.Step m a acc out s')
    (hm : run? {} as = some m) (t : Torn as s s.phase) : Torn (as ++ [a]) s' s'.phase := by
  cases h with
  | started phase => trivial
  | left phase stops => exact List.sublist_append_right as _
  | detached phase =>
    rw [phase] at t
    exact List.Sublist.append t (List.Sublist.refl [_])
  | released phase free idle =>
    rw [phase] at t
    exact ⟨0, as, [], m, rfl, hm, idle, t, List.Sublist.refl []⟩
  | called mask phase free due busy =>
    rw [phase] at t
    exact ⟨busy, as, [], m, rfl, hm, due, t, List.Sublist.refl []⟩
  | returned mask phase =>
    rw [phase] at t
    obtain ⟨busy, hmask⟩ := t
    refine ⟨mask, ?_⟩
    rw [answered, if_neg busy]
    exact hmask.next _
  | closed phase =>
    rw [phase] at t
    obtain ⟨mask, hmask⟩ := t
    exact ⟨mask, hmask.next _⟩
  | finished phase =>
    rw [phase] at t
    obtain ⟨mask, hmask⟩ := t
    have hnext := hmask.next (.move (.finish s.id))
    rw [List.append_assoc] at hnext
    exact ⟨mask, hnext⟩
  | same | cancelled | dropped | accepted | yielded | discarded | taken | sent =>
    exact t.later _

namespace Monitor

theorem torn_of_run {m : Monitor} {as : List Action} (h : run? {} as = some m) :
    ∀ s ∈ m.subscriptions, Torn as s s.phase := by
  refine run?_induction (P := fun as m => ∀ s ∈ m.subscriptions, Torn as s s.phase) (by simp) ?_
    as m h
  intro as m a m' hm ih ha s' hs'
  have hr : Reachable m := ⟨as, hm⟩
  obtain ⟨s, hs, acc, out, step, -, -⟩ | ⟨i, r, -, -, -, rfl⟩ := (hr.evolves ha).origin hs'
  · exact step.torn hm (ih s hs)
  · trivial

/-- For every run and every subscription: one of its own cancellations or of a token above it fires it,
before or after it subscribed; a fired one yields nothing any more, whatever follows; and its reader
reaches the end only when it has fired, has closed and its teardown is over in the run, and then for
good. -/
theorem cancellation_is_clean {m : Monitor} {as : List Action} (h : run? {} as = some m)
    {s : Subscription} (hs : s ∈ m.subscriptions) :
    ((∃ t ∈ s.scope.within, m.isCancelled t = true) → s.scope.fired = true) ∧
    (∀ a m', a.Cancels s → m.act? a = some m' →
      ∃ s' ∈ m'.subscriptions, s'.id = s.id ∧ s'.scope.fired = true) ∧
    (s.scope.fired = true → ∀ bs m', m.run? bs = some m' →
      m'.yielded s.id = m.yielded s.id ∧ ∀ v, (m'.receive s.id).1 ≠ .occurrence v) ∧
    ((m.receive s.id).1 = .closed →
      s.scope.fired = true ∧ s.phase.stage = .closed ∧
      (∃ mask, Released as s mask
        (answered s.id mask ++ [.move (.close s.id), .move (.finish s.id)])) ∧
      ∀ bs m', m.run? bs = some m' → (m'.receive s.id).1 = .closed) := by
  have hr : Reachable m := ⟨as, h⟩
  refine ⟨?_, fun a m' ha hm' => fired_of_cancels hs ha hm', ?_, ?_⟩
  · rintro ⟨t, ht, hc⟩
    exact (hr.nested.subscriptions s hs).fired t ht hc
  · intro hf bs m' hb
    refine ⟨hr.yields_nothing hs hf hb, fun v => ?_⟩
    obtain ⟨s', hs', hid, hf'⟩ := hr.stays_fired hs hf hb
    rw [← hid, receive_of_fired (hr.run hb).numbered hs' hf']
    split <;> simp
  · intro hclosed
    have hp := finished_of_receive_closed hr.numbered hs hclosed
    refine ⟨(hr.tidy s hs).fired (by simp [hp, Phase.isLive]), by simp [hp, Phase.stage], ?_, ?_⟩
    · have ht := torn_of_run h s hs
      rwa [hp] at ht
    · intro bs m' hb
      obtain ⟨s', hs', hid, hp'⟩ := hr.stays_finished hs hp hb
      have hf' := ((hr.run hb).tidy s' hs').fired (by simp [hp', Phase.isLive])
      rw [← hid, receive_of_fired (hr.run hb).numbered hs' hf', if_pos hp']

def parting : List Action :=
  [.addEngine, .activate 0, .addToken none, .ask 0 { conditions := [.thermal], token := 0 },
    .move (.enter 0), .move (.start 1), .fire 1 0 (.report .thermal 0 90 0) 2 false] ++
  [.move (.launch 0), .move (.callBack 0), .move (.take 1 .thermal), .move (.send 1)] ++
  [.move (.launch 0), .move (.callBack 0), .cancelToken 0] ++
  [.move (.leave 1), .move (.detach 1), .move (.release 1), .move (.unregister 1), .move (.close 1),
    .move (.finish 1)]

theorem clean_parting : ∃ m s, run? {} parting = some m ∧ s ∈ m.subscriptions ∧
    s.output.length = 1 ∧ (m.receive s.id).1 = .closed ∧ s.phase.stage = .closed ∧
    (∃ mask, Released parting s mask
      (answered s.id mask ++ [.move (.close s.id), .move (.finish s.id)])) ∧
    ∀ bs m', m.run? bs = some m' → (m'.receive s.id).1 = .closed := by
  let m := (run? {} parting).get (by decide +kernel)
  have hm : run? {} parting = some m := by simp [m]
  obtain ⟨s, hs, hout, hclosed⟩ : ∃ s ∈ m.subscriptions, s.output.length = 1 ∧
      (m.receive s.id).1 = .closed := by decide +kernel
  obtain ⟨-, hstage, hreleased, hlater⟩ := (cancellation_is_clean hm hs).2.2.2 hclosed
  exact ⟨m, s, hm, hs, hout, hclosed, hstage, hreleased, hlater⟩

end Monitor

end GpuTelemetry
