import GpuTelemetry.Proofs.Counts

namespace GpuTelemetry

def Subscription.registration (s : Subscription) : Registration where
  group := s.key.group
  mask := Condition.maskOf s.conditions
  user := s.id

theorem Subscription.SameHold.registration {s s' : Subscription} (h : s.SameHold s') :
    s'.registration = s.registration := by
  simp only [Subscription.registration, h.key, h.conditions, h.id]

theorem GroupKey.eq_of_parts {key key' : GroupKey} (engine : key.engine = key'.engine)
    (group : key.group = key'.group) : key = key' := by
  cases key
  cases key'
  simp_all

namespace Monitor

variable {m m' : Monitor}

structure Serves (m : Monitor) (s : Subscription) : Prop where
  registered : s.registration ∈ m.registrations s.key.engine
  watched : ∃ p, m.policy s.key = some p ∧ ∀ c ∈ s.conditions, c.isIn p.condition = true

theorem mem_remaining {registrations : List Registration} {s : Subscription} {key : GroupKey}
    {mask : UInt32} (hs : s.registration ∈ registrations) (nonempty : s.conditions ≠ [])
    (engine : s.key.engine = key.engine)
    (kept : s.key = key → ∀ c ∈ s.conditions, c.isIn mask = false) :
    s.registration ∈ remaining registrations key.group mask := by
  have hsame : s.registration.cleared key.group mask = s.registration := by
    unfold Registration.cleared
    split
    · rename_i hgroup
      have hmask := Condition.maskOf_and_not (kept (GroupKey.eq_of_parts engine hgroup))
      simp [Subscription.registration, hmask]
    · rfl
  refine List.mem_filter.mpr ⟨List.mem_map.mpr ⟨s.registration, hs, hsame⟩, ?_⟩
  simpa [Subscription.registration] using Condition.maskOf_ne_zero nonempty

theorem policyFor_covers (h : m.Counted) (r : Request) {s : Subscription} (hs : s ∈ m.subscriptions)
    (hk : s.key = r.key) (holds : s.phase.holds = true) :
    ∀ c ∈ s.conditions, c.isIn (m.policyFor r).condition = true := by
  intro c hc
  have hpos : 0 < (m.groups r.key).count c := by
    rw [h.count]
    exact holders_pos.mpr ⟨s, hs, hk, holds, hc⟩
  have hheld : c ∈ (m.groups r.key).conditions := ((h.noZeros r.key).mem_conditions).mpr hpos
  simp [policyFor, Thresholds.policy, hheld]

theorem policyFor_own (r : Request) :
    ∀ c ∈ r.conditions, c.isIn (m.policyFor r).condition = true := by
  intro c hc
  simp [policyFor, Thresholds.policy, hc]

theorem Serves.shows {s : Subscription} {P : GroupKey → Option Policy} {R : Nat → List Registration}
    (known : s.key.engine < m.engineCount) (shows : m'.Shows m.engineCount P R)
    (registered : s.registration ∈ R s.key.engine)
    (watched : ∃ p, P s.key = some p ∧ ∀ c ∈ s.conditions, c.isIn p.condition = true) :
    m'.Serves s := by
  constructor
  · rw [shows.registrations _ known]
    exact registered
  · rw [shows.policies _ known]
    exact watched

theorem Serves.sameHold {s s' : Subscription} (h : m.Serves s) (same : s.SameHold s') :
    m.Serves s' := by
  constructor
  · rw [same.registration, same.key]
    exact h.registered
  · rw [same.key, same.conditions]
    exact h.watched

def Served (m : Monitor) : Prop := ∀ s ∈ m.subscriptions, s.phase.holds = true → m.Serves s

theorem Served.of_sameHolders (h : m.Served) (same : SameHolders m m')
    (serves : ∀ s ∈ m.subscriptions, s.phase.holds = true → m.Serves s → m'.Serves s) :
    m'.Served := by
  intro s' hs' holds
  obtain ⟨s, hs, hold⟩ := same.origin hs'
  rw [hold.holds] at holds
  exact (serves s hs holds (h s hs holds)).sameHold hold

theorem Serves.watched_assign (hc : m.Counted) (r : Request) {s : Subscription} (h : m.Serves s)
    (hs : s ∈ m.subscriptions) (holds : s.phase.holds = true) :
    ∃ p, assign m.policy r.key (some (m.policyFor r)) s.key = some p ∧
      ∀ c ∈ s.conditions, c.isIn p.condition = true := by
  by_cases hk : s.key = r.key
  · rw [hk, assign_self]
    exact ⟨_, rfl, policyFor_covers hc r hs hk holds⟩
  · rw [assign_of_ne _ _ hk]
    exact h.watched

theorem Served.effect {a : Action} (h : m.Served) (hr : Reachable m) (e : Effect m a m') :
    m'.Served := by
  have hc := hr.counted
  have known (s : Subscription) (hs : s ∈ m.subscriptions) : s.key.engine < m.engineCount :=
    (hr.wellFormed s hs).engine
  cases e with
  | quiet groups engines holders =>
    refine h.of_sameHolders holders fun s hs _ hserved => ⟨?_, ?_⟩
    · rw [engines.registrations (known s hs)]
      exact hserved.registered
    · rw [engines.policy (known s hs)]
      exact hserved.watched
  | replaced r waits free groups engines list =>
    apply h.of_sameHolders (sameHolders_of_eq list)
    intro s hs holds hserved
    exact .shows (known s hs) engines hserved.registered (hserved.watched_assign hc r hs holds)
  | joined r waits free groups engines list =>
    intro s hs holds
    rw [list] at hs
    obtain hs | hs := List.mem_append.mp hs
    · have hserved := h s hs holds
      refine .shows (known s hs) engines ?_ (hserved.watched_assign hc r hs holds)
      by_cases he : s.key.engine = r.key.engine
      · rw [he, assign_self, ← he]
        exact List.mem_append_left _ hserved.registered
      · rw [assign_of_ne _ _ he]
        exact hserved.registered
    · obtain rfl := List.mem_singleton.mp hs
      have hknown := (hr.proper.requests r (List.mem_of_getElem? waits)).engine
      refine .shows hknown engines ?_ ?_
      · change _ ∈ assign m.registrations r.key.engine _ r.key.engine
        rw [assign_self]
        exact List.mem_append_right _ (List.mem_singleton_self _)
      · change ∃ p, assign m.policy r.key _ r.key = some p ∧ _
        rw [assign_self]
        exact ⟨_, rfl, policyFor_own r⟩
  | released s hs waits free p outcome groups engines list =>
    have hnot : p.holds = false := not_holds_of_outcome outcome
    intro t ht holds
    rw [list, hr.numbered.mem_update_iff hs] at ht
    obtain rfl | ⟨ht, -⟩ := ht
    · simp [hnot] at holds
    · have hserved := h t ht holds
      constructor
      · rw [engines.registrations (known t ht)]
        exact hserved.registered
      · rw [engines.policy (known t ht)]
        exact hserved.watched
  | cleared s hs mask calls groups engines holders =>
    apply h.of_sameHolders holders
    intro t ht holds hserved
    refine .shows (known t ht) engines ?_ hserved.watched
    by_cases he : t.key.engine = s.key.engine
    · rw [he, assign_self]
      apply mem_remaining (he ▸ hserved.registered) (hr.wellFormed t ht).nonempty he
      intro hk c hmem
      -- `t` still counts in its group, so the mask that `s` took from there has none of its conditions
      have hpos : 0 < (m.groups s.key).count c := by
        rw [hc.count]
        exact holders_pos.mpr ⟨t, ht, hk, holds, hmem⟩
      rw [Bool.eq_false_iff]
      intro hin
      have hzero := hc.called s hs mask calls c hin
      omega
    · rw [assign_of_ne _ _ he]
      exact hserved.registered

theorem Reachable.served (h : Reachable m) : m.Served := by
  apply h.induction (P := Served) (fun s hs => by cases hs)
  intro m a m' hr ih h
  exact ih.effect hr (hr.effect h)

/-- In every state that callers, engines and tasks can bring about, a subscription that has registered
and not yet released is on its engine's list under its own number with just its own conditions, and the
policy in effect on its group watches all of them. -/
theorem live_registration_kept (h : Reachable m) {s : Subscription} (hs : s ∈ m.subscriptions)
    (live : s.phase.holds = true) :
    (∃ g ∈ m.registrations s.key.engine, g.group = s.key.group ∧ g.user = s.id ∧
      g.sink = .subscriptions ∧ g.mask = Condition.maskOf s.conditions) ∧
    ∃ p, m.policy s.key = some p ∧ ∀ c ∈ s.conditions, c.isIn p.condition = true := by
  obtain ⟨registered, watched⟩ := h.served s hs live
  exact ⟨⟨s.registration, registered, rfl, rfl, rfl, rfl⟩, watched⟩

def departure : List Action :=
  [.addEngine, .activate 0, .addToken none,
    .ask 0 { conditions := [.thermal, .xid], token := 0 }, .move (.enter 0),
    .ask 1 { conditions := [.power, .thermal], token := 0 }, .move (.enter 0), .move (.start 1)] ++
  [.cancel 1, .move (.leave 1), .move (.detach 1), .set 0 (.registerStatus .memory),
    .ask 2 { conditions := [.pcie], token := 0 }, .move (.enter 0), .move (.release 1),
    .move (.unregister 1)]

theorem departure_spares_the_second : ∃ m s, run? {} departure = some m ∧ s ∈ m.subscriptions ∧
    s.id = 2 ∧ s.phase.holds = true ∧
    (∃ g ∈ m.registrations s.key.engine, g.group = s.key.group ∧ g.user = s.id ∧
      g.sink = .subscriptions ∧ g.mask = Condition.maskOf s.conditions) ∧
    ∃ p, m.policy s.key = some p ∧ ∀ c ∈ s.conditions, c.isIn p.condition = true := by
  let m := (run? {} departure).get (by decide +kernel)
  have hm : run? {} departure = some m := by simp [m]
  obtain ⟨s, hs, hid, live⟩ : ∃ s ∈ m.subscriptions, s.id = 2 ∧ s.phase.holds = true := by
    decide +kernel
  exact ⟨m, s, hm, hs, hid, live, live_registration_kept ⟨departure, hm⟩ hs live⟩

end Monitor

end GpuTelemetry
