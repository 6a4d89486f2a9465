import GpuTelemetry.Proofs.FailedSubscribe
import GpuTelemetry.Proofs.Journal
import GpuTelemetry.Proofs.StaleRegistrations

namespace GpuTelemetry

theorem Condition.maskOf_congr {cs ds : List Condition} (h : ∀ c, c ∈ cs ↔ c ∈ ds) :
    maskOf cs = maskOf ds := by
  apply eq_maskOf
  intro i _
  simp only [maskOf_bit, h]

def Subscription.names (s : Subscription) (key : GroupKey) (c : Condition) : Bool :=
  s.key == key && s.conditions.contains c

namespace Monitor

variable {m m' : Monitor} {a : Action} {key : GroupKey} {c : Condition}

def last? (m : Monitor) (key : GroupKey) (c : Condition) : Option Subscription :=
  (m.subscriptions.filter (·.names key c)).getLast?

def lastThresholds (m : Monitor) (key : GroupKey) (c : Condition) : Thresholds :=
  ((m.last? key c).map (·.thresholds)).getD {}

theorem lastThresholds_map {next : Subscription → Subscription}
    (list : m'.subscriptions = m.subscriptions.map next)
    (same : ∀ s ∈ m.subscriptions, (next s).key = s.key ∧ (next s).conditions = s.conditions ∧
      (next s).thresholds = s.thresholds) : m'.lastThresholds key c = m.lastThresholds key c := by
  have hfilter : m'.subscriptions.filter (·.names key c) =
      (m.subscriptions.filter (·.names key c)).map next := by
    rw [list, List.filter_map]
    congr 1
    apply List.filter_congr
    intro s hs
    obtain ⟨hkey, hconditions, -⟩ := same s hs
    simp only [Function.comp_apply, Subscription.names, hkey, hconditions]
  have hlast : m'.last? key c = (m.last? key c).map next := by
    rw [last?, hfilter, List.getLast?_map]
    rfl
  rw [lastThresholds, hlast, Option.map_map, lastThresholds]
  cases hs : m.last? key c with
  | none => rfl
  | some s =>
    have hmem : s ∈ m.subscriptions := (List.mem_filter.mp (List.mem_of_getLast? hs)).1
    simp [(same s hmem).2.2]

theorem lastThresholds_joined (s : Subscription) (list : m'.subscriptions = m.subscriptions ++ [s]) :
    m'.lastThresholds key c = if s.names key c then s.thresholds else m.lastThresholds key c := by
  unfold lastThresholds last?
  rw [list, List.filter_append]
  cases hs : s.names key c <;> simp [hs]

def Recorded (m : Monitor) : Prop :=
  ∀ key c, (m.groups key).thresholds.param c = (m.lastThresholds key c).param c

theorem Recorded.of_map (h : m.Recorded) {next : Subscription → Subscription}
    (thresholds : ∀ key, (m'.groups key).thresholds = (m.groups key).thresholds)
    (list : m'.subscriptions = m.subscriptions.map next)
    (same : ∀ s ∈ m.subscriptions, (next s).key = s.key ∧ (next s).conditions = s.conditions ∧
      (next s).thresholds = s.thresholds) : m'.Recorded := by
  intro key c
  rw [thresholds, lastThresholds_map list same]
  exact h key c

theorem Recorded.of_sameHolders (h : m.Recorded) (groups : m'.groups = m.groups)
    (holders : SameHolders m m') : m'.Recorded := by
  obtain ⟨next, list, same⟩ := holders
  exact h.of_map (fun key => by rw [groups]) list
    fun s hs => ⟨(same s hs).key, (same s hs).conditions, (same s hs).thresholds⟩

theorem afterRelease_thresholds (m : Monitor) (released : GroupKey) (cs : List Condition)
    (key : GroupKey) :
    ((m.afterRelease released cs).groups key).thresholds = (m.groups key).thresholds := by
  change (assign m.groups released ((m.groups released).release cs).1 key).thresholds = _
  by_cases hk : key = released
  · subst hk
    rw [assign_self]
    exact Watch.release_thresholds _ _
  · rw [assign_of_ne _ _ hk]

theorem Recorded.effect (h : m.Recorded) (e : Effect m a m') : m'.Recorded := by
  cases e with
  | quiet groups engines holders => exact h.of_sameHolders groups holders
  | replaced r waits free groups engines list => exact h.of_sameHolders groups (sameHolders_of_eq list)
  | joined r waits free groups engines list =>
    intro key c
    rw [groups, lastThresholds_joined _ list]
    by_cases hk : key = r.key
    · subst hk
      have hadopt := (m.groups r.key).thresholds.adopt_param r.thresholds r.conditions c
      rw [assign_self]
      apply hadopt.trans
      by_cases hc : c ∈ r.conditions
      · simp [Subscription.names, Request.subscription, hc]
      · simp [Subscription.names, Request.subscription, hc, h r.key c]
    · have hnot : (r.subscription (m.lastId + 1) (m.scopeOf r.token)).names key c = false := by
        simp [Subscription.names, Request.subscription, Ne.symm hk]
      rw [assign_of_ne _ _ hk, hnot]
      exact h key c
  | released s known waits free p outcome groups engines list =>
    refine h.of_map (fun key => ?_) list fun t _ => ?_
    · rw [groups]
      exact m.afterRelease_thresholds s.key s.conditions key
    · split <;> exact ⟨rfl, rfl, rfl⟩
  | cleared s known mask calls groups engines holders => exact h.of_sameHolders groups holders

theorem Reachable.recorded (h : Reachable m) : m.Recorded := by
  apply h.induction (P := Recorded) (fun key c => rfl)
  intro m a m' hr ih h
  exact ih.effect (hr.effect h)

theorem Reachable.ascending (h : Reachable m) : m.subscriptions.Pairwise fun s t => s.id < t.id := by
  apply h.induction (P := fun m => m.subscriptions.Pairwise fun s t => s.id < t.id) List.Pairwise.nil
  intro m a m' hr ih ha
  obtain ⟨next, added, list, step, -, hadded, -⟩ := hr.evolves ha
  have hid (s : Subscription) (hs : s ∈ m.subscriptions) : (next s).id = s.id := by
    obtain ⟨acc, out, hstep, -, -⟩ := step s hs
    exact hstep.id_eq
  have hmapped : (m.subscriptions.map next).Pairwise fun s t => s.id < t.id := by
    rw [List.pairwise_map]
    apply ih.imp_of_mem
    intro s t hs ht hlt
    rwa [hid s hs, hid t ht]
  rw [list]
  obtain rfl | ⟨t, rfl, ⟨i, r, -, -, -, rfl⟩, -⟩ := hadded
  · simpa using hmapped
  · refine List.pairwise_append.mpr ⟨hmapped, List.pairwise_singleton _ _, fun s hs u hu => ?_⟩
    obtain ⟨s, hmem, rfl⟩ := List.mem_map.mp hs
    obtain rfl := List.mem_singleton.mp hu
    rw [hid s hmem]
    exact Nat.lt_succ_of_le (hr.numbered.le s hmem)

theorem mem_watched : c ∈ m.watched key ↔
    ∃ s ∈ m.subscriptions, s.key = key ∧ s.phase.holds = true ∧ c ∈ s.conditions := by
  simp [watched, and_assoc]

theorem Counted.mem_conditions (h : m.Counted) :
    c ∈ (m.groups key).conditions ↔ c ∈ m.watched key := by
  rw [(h.noZeros key).mem_conditions, h.count, holders_pos, mem_watched]

end Monitor

namespace Monitor

variable {m : Monitor} {key : GroupKey}

end Monitor

end GpuTelemetry
