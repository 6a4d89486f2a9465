import GpuTelemetry.Proofs.Counts

namespace GpuTelemetry

def Action.isRelease (id : Nat) : Action → Bool
  | .move (.release k) => k == id
  | _ => false

theorem Action.isRelease_iff {id : Nat} {a : Action} :
    a.isRelease id = true ↔ a = .move (.release id) := by
  cases a with
  | move mv => cases mv <;> simp [isRelease]
  | _ => simp [isRelease]

namespace Watch

variable {w : Watch}

theorem release_turn (h : w.NoZeros) {before after : List Condition} {c : Condition}
    (nodup : (before ++ c :: after).Nodup) (counted : 0 < w.count c) :
    ∃ n, (w.release before).1.held c = some (n + 1) := by
  have hnew : c ∉ before := fun hc => (List.nodup_append.mp nodup).2.2 c hc c (by simp) rfl
  have hcount : (w.release before).1.count c = w.count c := by
    rw [count_release h, List.count_eq_zero_of_not_mem hnew, Nat.sub_zero]
  refine ⟨w.count c - 1, ?_⟩
  rw [(h.release before).held_eq, hcount, if_neg (by omega)]
  exact congrArg some (by omega)

end Watch

namespace Monitor

variable {m m' : Monitor} {a : Action} {as : List Action}

def releases (as : List Action) (id : Nat) : Nat := as.countP (·.isRelease id)

theorem releases_concat (as : List Action) (a : Action) (id : Nat) :
    releases (as ++ [a]) id = releases as id + if a.isRelease id then 1 else 0 := by
  simp [releases, List.countP_append, List.countP_singleton]

theorem releases_concat_of_ne {id : Nat} (h : a ≠ .move (.release id)) :
    releases (as ++ [a]) id = releases as id := by
  rw [releases_concat, if_neg (mt Action.isRelease_iff.mp h), Nat.add_zero]

structure Tallied (as : List Action) (m : Monitor) : Prop where
  known : ∀ s ∈ m.subscriptions, releases as s.id = if s.phase.holds then 0 else 1
  unknown : ∀ id, (∀ s ∈ m.subscriptions, s.id ≠ id) → releases as id = 0

theorem Tallied.released (t : Tallied as m) (n : m.Numbered) {s : Subscription} {p : Phase}
    (h : ReleasedTo m s p m') : Tallied (as ++ [.move (.release s.id)]) m' := by
  have hself : Action.isRelease s.id (.move (.release s.id)) = true := Action.isRelease_iff.mpr rfl
  constructor
  · intro u hu
    rw [h.list, n.mem_update_iff h.known] at hu
    obtain rfl | ⟨hu, hid⟩ := hu
    · have hafter : ({ s with phase := p } : Subscription).phase.holds = false :=
        not_holds_of_outcome h.outcome
      rw [releases_concat, hself, t.known s h.known, h.waits, hafter]
      rfl
    · rw [releases_concat_of_ne (by simpa using hid.symm)]
      exact t.known u hu
  · intro id hid
    have hold (u : Subscription) (hu : u ∈ m.subscriptions) : u.id ≠ id := by
      by_cases hs : u.id = s.id
      · rw [hs]
        exact hid { s with phase := p } h.mem
      · apply hid
        rw [h.list, n.mem_update_iff h.known]
        exact .inr ⟨hu, hs⟩
    rw [releases_concat_of_ne (by simpa using hold s h.known)]
    exact t.unknown id hold

theorem Tallied.kept (t : Tallied as m) (n : m.Numbered) (h : Evolves m a m')
    (quiet : ∀ id, a ≠ .move (.release id)) : Tallied (as ++ [a]) m' := by
  constructor
  · intro s' hs'
    rw [releases_concat_of_ne (quiet _)]
    obtain ⟨s, hs, acc, out, step, -, -⟩ | ⟨i, r, -, -, -, rfl⟩ := h.origin hs'
    · have same := step.sameHold (quiet s.id)
      rw [same.id, same.holds]
      exact t.known s hs
    · apply t.unknown
      intro s hs hid
      have hle := n.le s hs
      simp only [Request.subscription] at hid
      omega
  · intro id hid
    rw [releases_concat_of_ne (quiet id)]
    apply t.unknown
    intro s hs
    obtain ⟨s', hs', acc, out, step, -, -⟩ := h.successor hs
    rw [← step.id_eq]
    exact hid s' hs'

theorem Tallied.act (t : Tallied as m) (hr : Reachable m) (h : m.act? a = some m') :
    Tallied (as ++ [a]) m' := by
  by_cases ha : ∃ id, a = .move (.release id)
  · obtain ⟨id, rfl⟩ := ha
    obtain ⟨s, p, rfl, released⟩ := release?_releasedTo h
    exact t.released hr.numbered released
  · exact t.kept hr.numbered (hr.evolves h) fun id he => ha ⟨id, he⟩

theorem run_tallied (h : run? {} as = some m) : Tallied as m := by
  refine run?_induction (P := Tallied) ⟨by simp, fun _ _ => rfl⟩ ?_ as m h
  intro bs n a n' hn t ha
  exact t.act ⟨bs, hn⟩ ha

theorem Tallied.holds_iff (t : Tallied as m) {s : Subscription} (hs : s ∈ m.subscriptions) :
    s.phase.holds = true ↔ releases as s.id = 0 := by
  rw [t.known s hs]
  cases s.phase.holds <;> simp

theorem Tallied.at_most_once (t : Tallied as m) (id : Nat) : releases as id ≤ 1 := by
  by_cases h : ∃ s ∈ m.subscriptions, s.id = id
  · obtain ⟨s, hs, rfl⟩ := h
    rw [t.known s hs]
    split <;> omega
  · rw [t.unknown id fun s hs he => h ⟨s, hs, he⟩]
    exact Nat.zero_le 1

def unreleased (m : Monitor) (as : List Action) (key : GroupKey) (c : Condition) : Nat :=
  m.subscriptions.countP fun s => s.key = key ∧ c ∈ s.conditions ∧ releases as s.id = 0

theorem Tallied.holders_eq (t : Tallied as m) (key : GroupKey) (c : Condition) :
    m.holders key c = m.unreleased as key c := by
  apply List.countP_congr
  intro s hs
  rw [Subscription.holdsOn_iff, decide_eq_true_iff, t.holds_iff hs]
  tauto

end Monitor

def Action.group? (m : Monitor) : Action → Option GroupKey
  | .move (.enter i) => m.requests[i]?.map (·.key)
  | .move (.release id) => (m.subscription? id).map (·.key)
  | _ => none

namespace Monitor

variable {m m' : Monitor} {a : Action} {as : List Action}

theorem Effect.other_group (e : Effect m a m') (n : m.Numbered) {key : GroupKey}
    (other : a.group? m ≠ some key) : m'.groups key = m.groups key := by
  cases e with
  | quiet groups => rw [groups]
  | replaced r waits free groups => rw [groups]
  | joined r waits free groups =>
    have hk : key ≠ r.key := by
      rintro rfl
      simp [Action.group?, waits] at other
    rw [groups, assign_of_ne _ _ hk]
  | released s known waits free p outcome groups =>
    have hk : key ≠ s.key := by
      rintro rfl
      simp [Action.group?, n.subscription?_of_mem known] at other
    rw [groups]
    exact assign_of_ne _ _ hk
  | cleared s known mask calls groups => rw [groups]

/-- After any run of callers, engines and tasks, the count of a condition in a group is the number of
subscriptions that have joined there for it and not been released, with no entry for none. No run
releases a subscription twice, each condition is still counted when its turn comes in a release, and
an action changes the counts of no group but its own. -/
theorem reference_counts_exact (h : run? {} as = some m) :
    (∀ key c, (m.groups key).held c =
      if m.unreleased as key c = 0 then none else some (m.unreleased as key c)) ∧
    (∀ id, releases as id ≤ 1) ∧
    (∀ s ∈ m.subscriptions, releases as s.id = 0 →
      ∀ before c after, s.conditions = before ++ c :: after →
        ∃ n, ((m.groups s.key).release before).1.held c = some (n + 1)) ∧
    ∀ a m', m.act? a = some m' → ∀ key, a.group? m ≠ some key → m'.groups key = m.groups key := by
  have hr : Reachable m := ⟨as, h⟩
  have t := run_tallied h
  have counted := hr.counted
  refine ⟨fun key c => ?_, t.at_most_once, fun s hs hkept before c after hcs => ?_,
    fun a m' ha key other => (hr.effect ha).other_group hr.numbered other⟩
  · rw [(counted.noZeros key).held_eq, counted.count, t.holders_eq]
  · have nodup : (before ++ c :: after).Nodup := hcs ▸ (hr.wellFormed s hs).nodup
    have hpos : 0 < (m.groups s.key).count c := by
      rw [counted.count]
      exact holders_pos.mpr ⟨s, hs, rfl, (t.holds_iff hs).mpr hkept, by simp [hcs]⟩
    exact Watch.release_turn (counted.noZeros s.key) nodup hpos

def turnover : List Action :=
  [.addEngine, .activate 0, .addToken none,
    .ask 0 { conditions := [.thermal, .xid], token := 0 }, .move (.enter 0),
    .ask 1 { conditions := [.power, .thermal], token := 0 }, .move (.enter 0),
    .set 0 (.registerStatus .memory), .ask 2 { conditions := [.thermal], token := 0 },
    .move (.enter 0), .move (.start 1), .set 0 (.teardown .aborted)] ++
  [.cancel 1, .move (.leave 1), .move (.detach 1), .move (.release 1), .move (.unregister 1)]

theorem turnover_counts : ∃ m, run? {} turnover = some m ∧
    (m.groups ⟨0, allGpus⟩).held .thermal = some 1 ∧ (m.groups ⟨0, allGpus⟩).held .xid = none ∧
    releases turnover 1 ≤ 1 := by
  let m := (run? {} turnover).get (by decide +kernel)
  have hm : run? {} turnover = some m := by simp [m]
  obtain ⟨counts, once, -, -⟩ := reference_counts_exact hm
  have hthermal : m.unreleased turnover ⟨0, allGpus⟩ .thermal = 1 := by decide +kernel
  have hxid : m.unreleased turnover ⟨0, allGpus⟩ .xid = 0 := by decide +kernel
  exact ⟨m, hm, by simp [counts, hthermal], by simp [counts, hxid], once 1⟩

end Monitor

end GpuTelemetry
