import GpuTelemetry.Proofs.Callers
import GpuTelemetry.Proofs.Lifecycle

namespace GpuTelemetry

open scoped List

theorem Condition.nodup_all : Condition.all.Nodup := by decide

theorem Condition.distinct_sublist (cs : List Condition) : distinct cs <+ Condition.all :=
  List.filter_sublist

structure WellFormed (count : Nat) (key : GroupKey) (cs : List Condition) : Prop where
  engine : key.engine < count
  ordered : cs <+ Condition.all
  nonempty : cs ≠ []

theorem WellFormed.nodup {count : Nat} {key : GroupKey} {cs : List Condition}
    (h : WellFormed count key cs) : cs.Nodup :=
  h.ordered.nodup Condition.nodup_all

theorem WellFormed.mono {count count' : Nat} {key : GroupKey} {cs : List Condition}
    (h : WellFormed count key cs) (hle : count ≤ count') : WellFormed count' key cs :=
  ⟨Nat.lt_of_lt_of_le h.engine hle, h.ordered, h.nonempty⟩

namespace Monitor

structure Proper (m : Monitor) : Prop where
  owned : ∀ e, (m.engines e).owned = true → e < m.engineCount
  active : ∀ e, m.active = some e → e < m.engineCount
  requests : ∀ r ∈ m.requests, WellFormed m.engineCount r.key r.conditions

theorem resolve_ok {m : Monitor} {engine : Option Nat} {e : Nat} (h : m.resolve engine = .ok e) :
    engine = some e ∧ (m.engines e).owned = true ∨ engine = none ∧ m.active = some e := by
  cases engine with
  | some k =>
    simp only [resolve] at h
    split at h
    · rename_i howned
      cases h
      exact .inl ⟨rfl, howned⟩
    · cases h
  | none =>
    simp only [resolve] at h
    split at h
    · rename_i k hactive
      cases h
      exact .inr ⟨rfl, hactive⟩
    · cases h

theorem requestOf_ok {m : Monitor} {ticket : Nat} {w : Wish} {r : Request}
    (h : m.requestOf ticket w = .ok r) : ∃ e, m.resolve w.engine = .ok e ∧
      Condition.distinct w.conditions ≠ [] ∧
      r = ⟨ticket, ⟨e, w.group⟩, Condition.distinct w.conditions, w.thresholds, w.token⟩ := by
  unfold requestOf at h
  split at h
  · cases h
  · split at h
    · cases h
    · rename_i e he
      simp only at h
      split at h
      · cases h
      · rename_i hne
        cases h
        exact ⟨e, he, by simpa using hne, rfl⟩

theorem Proper.resolve {m : Monitor} (p : m.Proper) {engine : Option Nat} {e : Nat}
    (h : m.resolve engine = .ok e) : e < m.engineCount := by
  obtain ⟨-, howned⟩ | ⟨-, hactive⟩ := resolve_ok h
  · exact p.owned e howned
  · exact p.active e hactive

theorem Proper.requestOf {m : Monitor} (p : m.Proper) {ticket : Nat} {w : Wish} {r : Request}
    (h : m.requestOf ticket w = .ok r) : WellFormed m.engineCount r.key r.conditions := by
  obtain ⟨e, he, hne, rfl⟩ := requestOf_ok h
  exact ⟨p.resolve he, Condition.distinct_sublist _, hne⟩

theorem Proper.of_same {m m' : Monitor} (p : m.Proper) (h : SameCallers m m') : m'.Proper := by
  refine ⟨fun e he => ?_, fun e he => ?_, fun r hr => ?_⟩
  · rw [h.owners e] at he
    rw [h.engineCount]
    exact p.owned e he
  · rw [h.active] at he
    rw [h.engineCount]
    exact p.active e he
  · rw [h.engineCount]
    exact p.requests r (h.requests r hr)

theorem Proper.addEngine {m : Monitor} (p : m.Proper) (e : Engine) : (m.addEngine e).Proper := by
  refine ⟨fun k hk => ?_, fun k hk => Nat.lt_succ_of_lt (p.active k hk),
    fun r hr => (p.requests r hr).mono (Nat.le_succ _)⟩
  by_cases hlast : k = m.engineCount
  · subst hlast
    exact Nat.lt_succ_self _
  · simp only [Monitor.addEngine, assign_of_ne _ _ hlast] at hk
    exact Nat.lt_succ_of_lt (p.owned k hk)

theorem Proper.disowned {m : Monitor} (p : m.Proper) (e : Nat) :
    (m.adjust e fun g => { g with owned := false }).Proper := by
  refine ⟨fun k hk => ?_, p.active, p.requests⟩
  by_cases h : k = e
  · simp [adjust, h] at hk
  · simp only [adjust, assign_of_ne _ _ h] at hk
    exact p.owned k hk

theorem Proper.act {m m' : Monitor} {a : Action} (p : m.Proper) (h : m.act? a = some m') :
    m'.Proper := by
  cases act?_callerEffect h with
  | none same => exact p.of_same same
  | engine e same => exact (p.addEngine e).of_same same
  | active active owned same =>
    have hactive : { m with active }.Proper :=
      ⟨p.owned, fun e he => p.owned e (owned e he), p.requests⟩
    exact hactive.of_same same
  | disowned e same => exact (p.disowned e).of_same same
  | token | cancelled => exact ⟨p.owned, p.active, p.requests⟩
  | asked ticket w r fits =>
    refine ⟨p.owned, p.active, fun q hq => ?_⟩
    obtain hq | hq := List.mem_append.mp hq
    · exact p.requests q hq
    · obtain rfl := List.mem_singleton.mp hq
      exact p.requestOf fits

theorem Reachable.proper {m : Monitor} (h : Reachable m) : m.Proper := by
  apply h.induction ⟨by simp, by simp, by simp⟩
  intro m a m' _ p h
  exact p.act h

theorem act?_engineCount {m m' : Monitor} {a : Action} (h : m.act? a = some m') :
    m.engineCount ≤ m'.engineCount := by
  cases act?_callerEffect h with
  | none same => exact Nat.le_of_eq same.engineCount.symm
  | engine e same =>
    have hnext : m'.engineCount = m.engineCount + 1 := same.engineCount
    omega
  | active active owned same => exact Nat.le_of_eq same.engineCount.symm
  | disowned e same => exact Nat.le_of_eq same.engineCount.symm
  | token | cancelled | asked => exact Nat.le_refl _

theorem run?_engineCount {m m' : Monitor} {as : List Action} (h : m.run? as = some m') :
    m.engineCount ≤ m'.engineCount :=
  run?_induction (P := fun _ n => m.engineCount ≤ n.engineCount) (Nat.le_refl _)
    (fun _ _ _ _ _ hle ha => Nat.le_trans hle (act?_engineCount ha)) as m' h

theorem Reachable.wellFormed {m : Monitor} (h : Reachable m) :
    ∀ s ∈ m.subscriptions, WellFormed m.engineCount s.key s.conditions := by
  refine h.induction (P := fun m => ∀ s ∈ m.subscriptions, WellFormed m.engineCount s.key
    s.conditions) (by simp) ?_
  intro m a m' hr ih h s' hs'
  have hle := act?_engineCount h
  obtain ⟨s, hs, acc, out, step, -, -⟩ | ⟨i, r, -, hreq, -, rfl⟩ := (hr.evolves h).origin hs'
  · rw [step.key_eq, step.conditions_eq]
    exact (ih s hs).mono hle
  · exact (hr.proper.requests r (List.mem_of_getElem? hreq)).mono hle

end Monitor

end GpuTelemetry
