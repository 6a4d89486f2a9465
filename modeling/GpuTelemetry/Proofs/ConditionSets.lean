import GpuTelemetry.Proofs.PolicyContents
import GpuTelemetry.Proofs.Refusals
import Mathlib.Data.List.Destutter

namespace GpuTelemetry

open scoped List

namespace Condition

theorem distinct_congr {cs ds : List Condition} (h : ∀ c, c ∈ cs ↔ c ∈ ds) :
    distinct cs = distinct ds := by
  apply List.filter_congr
  intro c _
  simp [h]

theorem distinct_ascending (cs : List Condition) :
    (distinct cs).Pairwise fun c d => c.index < d.index :=
  all_ascending.sublist (distinct_sublist cs)

theorem sort_perm (cs : List Condition) : sort cs ~ cs := by
  refine List.perm_iff_count.mpr fun c => ?_
  have hcount (d : Condition) : (cs.filter (· == d)).count c = if d = c then cs.count c else 0 := by
    by_cases hd : d = c
    · rw [if_pos hd]
      exact List.count_filter (by simp [hd])
    · rw [if_neg hd]
      exact List.count_eq_zero_of_not_mem (by simp [Ne.symm hd])
  rw [sort, List.count_flatMap]
  cases c <;> simp [all, Function.comp_def, hcount]

theorem sort_ascending (cs : List Condition) : (sort cs).Pairwise fun c d => c.index ≤ d.index := by
  refine List.pairwise_flatMap.mpr ⟨fun c _ => ?_, all_ascending.imp fun h c hc d hd => ?_⟩
  · refine List.pairwise_of_forall_mem_list fun d hd e he => ?_
    simp only [List.mem_filter, beq_iff_eq] at hd he
    rw [hd.2, he.2]
  · simp only [List.mem_filter, beq_iff_eq] at hc hd
    rw [hc.2, hd.2]
    exact Nat.le_of_lt h

theorem mem_destutter' {cs : List Condition} {c d : Condition} :
    d ∈ cs.destutter' (· ≠ ·) c ↔ d ∈ c :: cs := by
  induction cs generalizing c with
  | nil => simp
  | cons e cs ih =>
    by_cases hc : c = e
    · subst hc
      rw [List.destutter'_cons_neg _ (not_not.mpr rfl), ih]
      simp
    · rw [List.destutter'_cons_pos _ hc, List.mem_cons, ih, ← List.mem_cons]

theorem destutter'_ascending {cs : List Condition} {c : Condition}
    (h : (c :: cs).Pairwise fun c d => c.index ≤ d.index) :
    (cs.destutter' (· ≠ ·) c).Pairwise fun c d => c.index < d.index := by
  induction cs generalizing c with
  | nil => simp
  | cons e cs ih =>
    obtain ⟨hfirst, hrest⟩ := List.pairwise_cons.mp h
    by_cases hc : c = e
    · subst hc
      rw [List.destutter'_cons_neg _ (not_not.mpr rfl)]
      exact ih hrest
    · rw [List.destutter'_cons_pos _ hc]
      refine List.pairwise_cons.mpr ⟨fun d hd => ?_, ih hrest⟩
      have hlt : c.index < e.index :=
        Nat.lt_of_le_of_ne (hfirst e List.mem_cons_self) (mt index_inj hc)
      obtain rfl | hd := List.mem_cons.mp (mem_destutter'.mp hd)
      · exact hlt
      · exact Nat.lt_of_lt_of_le hlt ((List.pairwise_cons.mp hrest).1 d hd)

theorem eq_of_ascending {cs ds : List Condition} (hcs : cs.Pairwise fun c d => c.index < d.index)
    (hds : ds.Pairwise fun c d => c.index < d.index) (h : ∀ c, c ∈ cs ↔ c ∈ ds) : cs = ds := by
  have hne {cs : List Condition} (hcs : cs.Pairwise fun c d => c.index < d.index) : cs.Nodup :=
    hcs.imp fun hlt heq => Nat.ne_of_lt hlt (congrArg index heq)
  refine List.Perm.eq_of_pairwise (fun c d _ _ hcd hdc => absurd hcd (Nat.lt_asymm hdc)) hcs hds ?_
  exact (List.perm_ext_iff_of_nodup (hne hcs) (hne hds)).mpr h

theorem distinct_eq_destutter_sort (cs : List Condition) :
    distinct cs = (sort cs).destutter (· ≠ ·) := by
  cases hsort : sort cs with
  | nil => simp [distinct, List.perm_nil.mp (hsort ▸ (sort_perm cs).symm)]
  | cons c rest =>
    have hascending := sort_ascending cs
    rw [hsort] at hascending
    refine eq_of_ascending (distinct_ascending cs) (destutter'_ascending hascending) fun d => ?_
    rw [List.destutter_cons', mem_destutter', mem_distinct, ← hsort, (sort_perm cs).mem_iff]

end Condition

namespace Thresholds

variable {cs ds : List Condition}

theorem adopt_congr (t other : Thresholds) (h : ∀ c, c ∈ cs ↔ c ∈ ds) :
    t.adopt other cs = t.adopt other ds := by
  simp only [adopt, h]

theorem policy_congr (t : Thresholds) (h : ∀ c, c ∈ cs ↔ c ∈ ds) : t.policy cs = t.policy ds := by
  simp only [policy, Condition.maskOf_congr h, h]

end Thresholds

namespace Monitor

variable {m m' : Monitor} {s : Subscription}

theorem requestOf_congr (ticket : Nat) (w : Wish) {cs : List Condition}
    (h : ∀ c, c ∈ cs ↔ c ∈ w.conditions) :
    m.requestOf ticket { w with conditions := cs } = m.requestOf ticket w := by
  simp only [requestOf, Condition.distinct_congr h]

def policyOf (m : Monitor) (w : Wish) (key : GroupKey) : Policy :=
  ((m.groups key).thresholds.adopt w.thresholds w.conditions).policy
    ((m.groups key).conditions ++ w.conditions)

def Wish.share (w : Wish) (key k : GroupKey) (c : Condition) : Nat :=
  if k = key ∧ c ∈ w.conditions then 1 else 0

structure Fulfilled (w : Wish) (key : GroupKey) (m m' : Monitor) (s : Subscription) : Prop where
  list : m'.subscriptions = m.subscriptions ++ [s]
  id : s.id = m.lastId + 1
  group : s.key = key
  ascending : s.conditions.Pairwise fun c d => c.index < d.index
  named : ∀ c, c ∈ s.conditions ↔ c ∈ w.conditions
  slots : ∀ c, s.slots c = [] ∧ m'.receiver? s.id c = if c ∈ w.conditions then some s else none
  counts : ∀ k c, (m'.groups k).count c = (m.groups k).count c + w.share key k c
  thresholds : ∀ k, (m'.groups k).thresholds =
    if k = key then (m.groups key).thresholds.adopt w.thresholds w.conditions
    else (m.groups k).thresholds

structure GivenUp (w : Wish) (key : GroupKey) (id : Nat) (m m' : Monitor) : Prop where
  counts : ∀ k c, (m.groups k).count c = (m'.groups k).count c + w.share key k c
  thresholds : ∀ k, (m'.groups k).thresholds = (m.groups k).thresholds
  once : ∀ bs n, m'.run? bs = some n → n.act? (.move (.release id)) = none

/-- Where the section of a subscribe call ends, and the engine calls that it has made. -/
inductive Settled (w : Wish) (key : GroupKey) (m m' : Monitor) : Prop
  | policyRefused
      (calls : m'.calls = m.calls ++ [(key.engine, .setPolicy key.group (m.policyOf w key))])
      (same : SameRouter m m')
  | registrationRefused
      (calls : m'.calls = m.calls ++ [(key.engine, .setPolicy key.group (m.policyOf w key)),
        (key.engine, .register key.group (Condition.maskOf w.conditions) (m.lastId + 1))])
      (same : SameRouter m m')
  | joined (s : Subscription)
      (calls : m'.calls = m.calls ++ [(key.engine, .setPolicy key.group (m.policyOf w key)),
        (key.engine, .register key.group (Condition.maskOf w.conditions) (m.lastId + 1))])
      (fulfilled : Fulfilled w key m m' s)
      (later : ∀ bs n n', m'.run? bs = some n → n.act? (.move (.release s.id)) = some n' →
        GivenUp w key s.id n n')

structure Wish.Waits (w : Wish) (r : Request) : Prop where
  group : r.key.group = w.group
  conditions : r.conditions = Condition.distinct w.conditions
  thresholds : r.thresholds = w.thresholds

variable {w : Wish} {r : Request}

theorem Wish.waits_of_requestOf {ticket : Nat} (h : m.requestOf ticket w = .ok r) : w.Waits r := by
  obtain ⟨e, -, -, rfl⟩ := requestOf_ok h
  exact ⟨rfl, rfl, rfl⟩

namespace Wish.Waits

variable (h : w.Waits r)
include h

theorem mem_conditions (c : Condition) : c ∈ r.conditions ↔ c ∈ w.conditions := by
  rw [h.conditions, Condition.mem_distinct]

theorem maskOf : Condition.maskOf r.conditions = Condition.maskOf w.conditions :=
  Condition.maskOf_congr h.mem_conditions

theorem agreed (m : Monitor) :
    m.agreed r = (m.groups r.key).thresholds.adopt w.thresholds w.conditions := by
  rw [Monitor.agreed, h.thresholds]
  exact Thresholds.adopt_congr _ _ h.mem_conditions

theorem policyFor (m : Monitor) : m.policyFor r = m.policyOf w r.key := by
  rw [Monitor.policyFor, policyOf, h.agreed]
  apply Thresholds.policy_congr
  intro c
  rw [Condition.mem_distinct, List.mem_append, List.mem_append, h.mem_conditions]

end Wish.Waits

theorem Wish.share_of_holder {key k : GroupKey} {c : Condition} (group : s.key = key)
    (holds : s.phase.holds = true) (named : ∀ c, c ∈ s.conditions ↔ c ∈ w.conditions) :
    (if s.holdsOn k c then 1 else 0) = w.share key k c := by
  have hholds : s.holdsOn k c = true ↔ k = key ∧ c ∈ w.conditions := by
    rw [Subscription.holdsOn_iff, group, named, eq_comm]
    simp [holds]
  simp only [hholds, Wish.share]

theorem Wish.Waits.fulfilled (h : w.Waits r) (hm : Reachable m) (hm' : Reachable m') {scope : Scope}
    (groups : m'.groups = assign m.groups r.key (m.watchFor r))
    (list : m'.subscriptions = m.subscriptions ++ [r.subscription (m.lastId + 1) scope])
    (attached : m.lastId + 1 ∈ m'.registry) :
    Fulfilled w r.key m m' (r.subscription (m.lastId + 1) scope) := by
  have hmem : r.subscription (m.lastId + 1) scope ∈ m'.subscriptions := by simp [list]
  refine ⟨list, rfl, rfl, ?_, h.mem_conditions, fun c => ⟨rfl, ?_⟩, fun k c => ?_, fun k => ?_⟩
  · simp only [Request.subscription, h.conditions, Condition.distinct_ascending]
  · have hfound := hm'.numbered.subscription?_of_mem hmem
    change (if m.lastId + 1 ∈ m'.registry then _ else none) = _
    rw [if_pos attached, hfound]
    exact if_congr (h.mem_conditions c) rfl rfl
  · -- counts are numbers of holders, and one has joined
    rw [hm'.counted.count, hm.counted.count, holders_joined list]
    rw [Wish.share_of_holder rfl rfl h.mem_conditions]
    rfl
  · rw [groups]
    by_cases hk : k = r.key
    · subst hk
      rw [assign_self, if_pos rfl]
      exact h.agreed m
    · rw [assign_of_ne _ _ hk, if_neg hk]

theorem ReleasedTo.once {p : Phase} (h : ReleasedTo m s p m') (hm' : Reachable m')
    {as : List Action} {n : Monitor} (hn : m'.run? as = some n) :
    n.act? (.move (.release s.id)) = none := by
  have hlate : p.remaining ≤ 3 := by
    obtain ⟨-, rfl⟩ | ⟨-, rfl⟩ := h.outcome <;> simp [Phase.remaining]
  obtain ⟨t, ht, hid, hle⟩ := hm'.stays (P := fun t => t.phase.remaining ≤ 3) h.mem hlate
    (fun _ _ _ _ _ _ step hle => Nat.le_trans step.remaining_le hle) hn
  rw [Option.eq_none_iff_forall_not_mem]
  intro o ho
  obtain ⟨u, hu, huid, waits, -⟩ := release?_cases ho
  obtain rfl := (hm'.run hn).numbered.eq_of_id hu ht (huid.trans hid.symm)
  simp [waits, Phase.remaining] at hle

theorem Fulfilled.givenUp {key : GroupKey} (j : Fulfilled w key m m' s) (hm' : Reachable m')
    {bs : List Action} {n n' : Monitor} (hn : m'.run? bs = some n)
    (h : n.act? (.move (.release s.id)) = some n') : GivenUp w key s.id n n' := by
  have hs : s ∈ m'.subscriptions := by simp [j.list]
  have hr : Reachable n := hm'.run hn
  have hr' : Reachable n' := hr.act h
  obtain ⟨u, p, hu, hkey, hconditions, released⟩ := hm'.released_later hs hn h
  have gone := not_holds_of_outcome released.outcome
  refine ⟨fun k c => ?_, fun k => ?_, fun cs o ho => hu ▸ released.once hr' ho⟩
  · have hholders := holders_released hr.numbered released.known gone released.list k c
    rw [Wish.share_of_holder (hkey.trans j.group) (by simp [released.waits, Phase.holds])
      (by rw [hconditions]; exact j.named)] at hholders
    rw [hr.counted.count, hr'.counted.count, hholders]
  · rw [released.groups]
    exact n.afterRelease_thresholds u.key u.conditions k

theorem Wish.Waits.settled {i : Nat} (h : w.Waits r) (hm : Reachable m)
    (waits : m.requests[i]? = some r) (hm' : m.act? (.move (.enter i)) = some m') :
    Settled w r.key m m' := by
  have hr' : Reachable m' := hm.act hm'
  obtain ⟨q, hq, -, hend⟩ := enter?_cases hm'
  obtain rfl : q = r := Option.some.inj (hq.symm.trans waits)
  let n : Monitor := { m with requests := m.requests.eraseIdx i }
  have hpolicy : n.policyFor q = m.policyOf w q.key := h.policyFor m
  have hsection : Enrolled n q m' := hend ▸ enrol_cases n q
  cases hsection with
  | policyRefused refused =>
    refine .policyRefused ?_ ⟨rfl, rfl, rfl, rfl⟩
    rw [(fail_calls _ q _).1, (askPolicy_calls n q).1, hpolicy]
    rfl
  | registrationRefused o ho accepted refused =>
    subst ho
    refine .registrationRefused ?_ ⟨rfl, rfl, rfl, rfl⟩
    rw [(fail_calls _ q _).1, ← h.maskOf, ← hpolicy]
    exact (askBoth_calls n q).1
  | joined o ho accepted registered =>
    subst ho
    have hfulfilled := h.fulfilled hm hr' rfl rfl (List.mem_cons_self ..)
    refine .joined _ ?_ hfulfilled fun bs n n' hn => hfulfilled.givenUp hr' hn
    rw [(join_calls _ q).1, (askBoth_calls n q).1, hpolicy, h.maskOf]
    rfl

/-- Two wishes for the same conditions are one request, whatever state the monitor is in. What follows
for the request, in whatever order others get their turn, is told by the conditions as the wish names
them: the calls that its section makes, what it adds to the counts and limits of its group, the slots
that the subscription has, and what its release takes away again, once. -/
theorem conditions_read_as_set (m : Monitor) (ticket : Nat) (w : Wish) :
    (∀ cs, (∀ c, c ∈ cs ↔ c ∈ w.conditions) →
      m.ask ticket { w with conditions := cs } = m.ask ticket w ∧
      m.subscribe ticket { w with conditions := cs } = m.subscribe ticket w) ∧
    ∀ r, m.requestOf ticket w = .ok r →
      m.resolve w.engine = .ok r.key.engine ∧ r.key.group = w.group ∧
      ∀ n i n', Reachable n → n.requests[i]? = some r → n.act? (.move (.enter i)) = some n' →
        Settled w r.key n n' := by
  refine ⟨fun cs same => ?_, fun r hr => ?_⟩
  · have hask : m.ask ticket { w with conditions := cs } = m.ask ticket w := by
      unfold ask
      rw [requestOf_congr ticket w same]
    exact ⟨hask, by simp only [subscribe, hask]⟩
  · have hwaits := Wish.waits_of_requestOf hr
    obtain ⟨e, hengine, -, rfl⟩ := requestOf_ok hr
    exact ⟨hengine, rfl, fun n i n' hn waits hn' => hwaits.settled hn waits hn'⟩

def xidsWatched : List Action :=
  [.addEngine, .activate 0, .addToken none, .ask 0 { conditions := [.xid], token := 0 },
    .move (.enter 0)]

theorem named_twice_counted_once :
    let w : Wish := { conditions := [.xid, .thermal, .xid], token := 0 }
    ∃ m n n', run? {} xidsWatched = some m ∧ m.act? (.ask 1 w) = some n ∧
      n.act? (.move (.enter 0)) = some n' ∧
      m.ask 1 { w with conditions := [.thermal, .xid] } = m.ask 1 w ∧
      Settled w ⟨0, allGpus⟩ n n' ∧ (n'.groups ⟨0, allGpus⟩).count .xid = 2 := by
  intro w
  let m := (run? {} xidsWatched).get (by decide +kernel)
  have hm : run? {} xidsWatched = some m := by simp [m]
  let n := (m.act? (.ask 1 w)).get (by decide +kernel)
  have hn : m.act? (.ask 1 w) = some n := by simp [n]
  let n' := (n.act? (.move (.enter 0))).get (by decide +kernel)
  have hn' : n.act? (.move (.enter 0)) = some n' := by simp [n']
  have hr : m.requestOf 1 w = .ok ⟨1, ⟨0, allGpus⟩, [.thermal, .xid], {}, 0⟩ := by rfl
  have reachable : Reachable n := Reachable.act ⟨xidsWatched, hm⟩ hn
  obtain ⟨hask, hsettled⟩ := conditions_read_as_set m 1 w
  have same : ∀ c, c ∈ [Condition.thermal, .xid] ↔ c ∈ w.conditions := by
    intro c
    cases c <;> decide
  exact ⟨m, n, n', hm, hn, hn', (hask _ same).1, (hsettled _ hr).2.2 n 0 n' reachable rfl hn',
    by decide +kernel⟩

end Monitor

end GpuTelemetry
