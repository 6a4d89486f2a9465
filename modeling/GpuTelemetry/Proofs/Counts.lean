import GpuTelemetry.Proofs.Effects
import GpuTelemetry.Proofs.Holding

namespace GpuTelemetry

open scoped List

def Subscription.holdsOn (s : Subscription) (key : GroupKey) (c : Condition) : Bool :=
  s.key == key && s.phase.holds && s.conditions.contains c

theorem Subscription.holdsOn_iff {s : Subscription} {key : GroupKey} {c : Condition} :
    s.holdsOn key c = true ↔ s.key = key ∧ s.phase.holds = true ∧ c ∈ s.conditions := by
  simp [holdsOn, and_assoc]

theorem Subscription.SameHold.holdsOn {s s' : Subscription} (h : s.SameHold s') (key : GroupKey)
    (c : Condition) : s'.holdsOn key c = s.holdsOn key c := by
  simp [Subscription.holdsOn, h.key, h.holds, h.conditions]

theorem update_perm {l : List Subscription} (n : (l.map (·.id)).Nodup) {s : Subscription}
    (hs : s ∈ l) (f : Subscription → Subscription) : ∃ others, l ~ s :: others ∧
      (l.map fun t => if t.id = s.id then f t else t) ~ f s :: others := by
  obtain ⟨before, after, rfl⟩ := List.append_of_mem hs
  refine ⟨before ++ after, List.perm_middle, ?_⟩
  rw [List.map_append, List.map_cons] at n
  have hids := List.nodup_middle.mp n
  have hsame (l : List Subscription) (hl : l ⊆ before ++ after) :
      (l.map fun t => if t.id = s.id then f t else t) = l := by
    refine (List.map_congr_left fun t ht => ?_).trans (List.map_id l)
    have hne : t.id ≠ s.id := by
      intro he
      refine (List.nodup_cons.mp hids).1 ?_
      rw [← List.map_append, ← he]
      exact List.mem_map_of_mem (hl ht)
    rw [if_neg hne]
    rfl
  rw [List.map_append, List.map_cons, if_pos rfl, hsame before (List.subset_append_left _ _),
    hsame after (List.subset_append_right _ _)]
  exact List.perm_middle

theorem countP_update {l : List Subscription} (n : (l.map (·.id)).Nodup) {s : Subscription}
    (hs : s ∈ l) (f : Subscription → Subscription) (p : Subscription → Bool) :
    (l.map fun t => if t.id = s.id then f t else t).countP p + (if p s then 1 else 0) =
      l.countP p + if p (f s) then 1 else 0 := by
  obtain ⟨others, before, after⟩ := update_perm n hs f
  rw [after.countP_eq, before.countP_eq, List.countP_cons, List.countP_cons]
  omega

namespace Monitor

def holders (m : Monitor) (key : GroupKey) (c : Condition) : Nat :=
  m.subscriptions.countP (·.holdsOn key c)

variable {m m' : Monitor} {s : Subscription}

theorem holders_pos {key : GroupKey} {c : Condition} :
    0 < m.holders key c ↔
      ∃ s ∈ m.subscriptions, s.key = key ∧ s.phase.holds = true ∧ c ∈ s.conditions := by
  simp [holders, List.countP_pos_iff, Subscription.holdsOn_iff]

theorem SameHolders.holders (h : SameHolders m m') (key : GroupKey) (c : Condition) :
    m'.holders key c = m.holders key c := by
  obtain ⟨next, list, same⟩ := h
  simp only [Monitor.holders, list, List.countP_map]
  apply List.countP_congr
  intro s hs
  simp [(same s hs).holdsOn key c]

theorem holders_joined (list : m'.subscriptions = m.subscriptions ++ [s]) (key : GroupKey)
    (c : Condition) : m'.holders key c = m.holders key c + if s.holdsOn key c then 1 else 0 := by
  simp [holders, list, List.countP_append, List.countP_cons]

theorem holders_released (n : m.Numbered) (hs : s ∈ m.subscriptions) {p : Phase}
    (gone : p.holds = false)
    (list : m'.subscriptions = (m.update s.id fun s => { s with phase := p }).subscriptions)
    (key : GroupKey) (c : Condition) :
    m'.holders key c + (if s.holdsOn key c then 1 else 0) = m.holders key c := by
  have hcount := countP_update n.nodup hs (fun s => { s with phase := p }) (·.holdsOn key c)
  have hgone : ({ s with phase := p } : Subscription).holdsOn key c = false := by
    simp [Subscription.holdsOn, gone]
  simpa [holders, list, update, hgone] using hcount

theorem not_calling_of_free {key : GroupKey} (free : m.isLocked key = false) {s : Subscription}
    (hs : s ∈ m.subscriptions) (hk : s.key = key) (mask : UInt32) : s.phase ≠ .calling mask := by
  intro hp
  have hnone := List.any_eq_false.mp free s hs
  simp [hk, hp, Phase.isCalling] at hnone

structure Counted (m : Monitor) : Prop where
  noZeros : ∀ key, (m.groups key).NoZeros
  count : ∀ key c, (m.groups key).count c = m.holders key c
  called : ∀ s ∈ m.subscriptions, ∀ mask, s.phase = .calling mask →
    ∀ c, c.isIn mask = true → (m.groups s.key).count c = 0

theorem Counted.of_sameHolders (h : m.Counted) (groups : m'.groups = m.groups)
    (same : SameHolders m m') : m'.Counted := by
  refine ⟨groups ▸ h.noZeros, fun key c => ?_, fun s' hs' mask hp c hc => ?_⟩
  · rw [groups, same.holders]
    exact h.count key c
  · obtain ⟨s, hs, hold⟩ := same.origin hs'
    rw [groups, hold.key]
    exact h.called s hs mask (hold.calls mask hp) c hc

theorem Counted.joined (h : m.Counted) (r : Request) (id : Nat) (scope : Scope)
    (nodup : r.conditions.Nodup) (free : m.isLocked r.key = false)
    (groups : m'.groups = assign m.groups r.key (m.watchFor r))
    (list : m'.subscriptions = m.subscriptions ++ [r.subscription id scope]) : m'.Counted := by
  refine ⟨fun key => ?_, fun key c => ?_, fun s hs mask hp c hc => ?_⟩
  · rw [groups]
    by_cases hk : key = r.key
    · rw [hk, assign_self]
      exact (h.noZeros r.key).hold r.conditions
    · rw [assign_of_ne _ _ hk]
      exact h.noZeros key
  · have hadded := holders_joined list key c
    have hone : (r.subscription id scope).holdsOn key c = true ↔ r.key = key ∧ c ∈ r.conditions := by
      simp [Subscription.holdsOn_iff, Request.subscription, Phase.holds]
    rw [groups, hadded, ← h.count key c]
    by_cases hk : key = r.key
    · subst hk
      rw [assign_self]
      apply (Watch.count_hold (m.groups r.key) r.conditions c).trans
      by_cases hc : c ∈ r.conditions
      · rw [if_pos (hone.mpr ⟨rfl, hc⟩), List.count_eq_one_of_mem nodup hc]
      · rw [if_neg fun ht => hc (hone.mp ht).2, List.count_eq_zero_of_not_mem hc]
    · rw [assign_of_ne _ _ hk, if_neg fun ht => hk (hone.mp ht).1.symm]
      rfl
  · rw [list] at hs
    obtain hs | hs := List.mem_append.mp hs
    · have hk : s.key ≠ r.key := fun hk => not_calling_of_free free hs hk mask hp
      rw [groups, assign_of_ne _ _ hk]
      exact h.called s hs mask hp c hc
    · obtain rfl := List.mem_singleton.mp hs
      cases hp

theorem Counted.released (h : m.Counted) (n : m.Numbered) {s : Subscription}
    (hs : s ∈ m.subscriptions) (waits : s.phase = .waiting) (nodup : s.conditions.Nodup)
    (free : m.isLocked s.key = false) {p : Phase}
    (outcome : m.due s = 0 ∧ p = .released ∨ m.due s ≠ 0 ∧ p = .calling (m.due s))
    (groups : m'.groups = (m.afterRelease s.key s.conditions).groups)
    (list : m'.subscriptions = (m.update s.id fun s => { s with phase := p }).subscriptions) :
    m'.Counted := by
  have hnot : p.holds = false := not_holds_of_outcome outcome
  have hgroups (key : GroupKey) : m'.groups key =
      if key = s.key then ((m.groups s.key).release s.conditions).1 else m.groups key := by
    rw [groups]
    rfl
  refine ⟨fun key => ?_, fun key c => ?_, fun t ht mask hp c hc => ?_⟩
  · rw [hgroups]
    split
    · exact (h.noZeros s.key).release s.conditions
    · exact h.noZeros key
  · have hholders := holders_released n hs hnot list key c
    have hbefore : s.holdsOn key c = true ↔ s.key = key ∧ c ∈ s.conditions := by
      simp [Subscription.holdsOn_iff, waits, Phase.holds]
    have hold := h.count key c
    rw [hgroups]
    by_cases hk : key = s.key
    · subst hk
      rw [if_pos rfl, Watch.count_release (h.noZeros s.key)]
      by_cases hc : c ∈ s.conditions
      · rw [if_pos (hbefore.mpr ⟨rfl, hc⟩)] at hholders
        rw [List.count_eq_one_of_mem nodup hc]
        omega
      · rw [if_neg fun ht => hc (hbefore.mp ht).2] at hholders
        rw [List.count_eq_zero_of_not_mem hc]
        omega
    · rw [if_neg fun ht => hk (hbefore.mp ht).1.symm] at hholders
      rw [if_neg hk]
      omega
  · rw [list, n.mem_update_iff hs] at ht
    obtain rfl | ⟨ht, -⟩ := ht
    · obtain ⟨-, rfl⟩ | ⟨-, rfl⟩ := outcome
      · cases hp
      · cases hp
        obtain ⟨-, hle⟩ := (Watch.isIn_release (h.noZeros s.key) s.conditions c).mp hc
        rw [hgroups, if_pos rfl, Watch.count_release (h.noZeros s.key)]
        omega
    · have hk : t.key ≠ s.key := fun hk => not_calling_of_free free ht hk mask hp
      rw [hgroups, if_neg hk]
      exact h.called t ht mask hp c hc

theorem Counted.effect {a : Action} (h : m.Counted) (hr : Reachable m) (e : Effect m a m') :
    m'.Counted := by
  cases e with
  | quiet groups engines holders => exact h.of_sameHolders groups holders
  | replaced r waits free groups engines list => exact h.of_sameHolders groups (sameHolders_of_eq list)
  | joined r waits free groups engines list =>
    have nodup := (hr.proper.requests r (List.mem_of_getElem? waits)).nodup
    exact h.joined r _ _ nodup free groups list
  | released s known waits free p outcome groups engines list =>
    exact h.released hr.numbered known waits (hr.wellFormed s known).nodup free outcome groups list
  | cleared s known mask calls groups engines holders => exact h.of_sameHolders groups holders

theorem Reachable.counted (h : Reachable m) : m.Counted := by
  apply h.induction ⟨fun _ => Watch.noZeros_empty, fun _ _ => rfl, by simp⟩
  intro m a m' hr ih h
  exact ih.effect hr (hr.effect h)

end Monitor

end GpuTelemetry
