import GpuTelemetry.Proofs.Passage
import GpuTelemetry.Proofs.Requests
import Mathlib.Algebra.GroupWithZero.Nat
import Mathlib.Algebra.Order.BigOperators.Group.List
import Mathlib.Algebra.Order.Group.Nat
import Mathlib.Data.List.Perm.Subperm

namespace GpuTelemetry

open scoped List

section counts

theorem length_eq_sum_ofKind (vs : List Violation) :
    vs.length = (Condition.all.map fun c => (ofKind c vs).length).sum := by
  induction vs with
  | nil => rfl
  | cons v vs ih =>
    obtain ⟨k, gpu, time, detail⟩ := v
    simp only [ofKind_cons, Condition.all, List.map_cons, List.map_nil, List.sum_cons, List.sum_nil]
      at ih ⊢
    cases k <;> simp <;> omega

theorem sum_le_length_of_flags {cs : List Condition} {g : Condition → Nat} (one : ∀ c, g c ≤ 1)
    (only : ∀ c, g c ≠ 0 → c ∈ cs) : (Condition.all.map g).sum ≤ cs.length := by
  have hflags (l : List Condition) : (l.map g).sum ≤ (l.filter (· ∈ cs)).length := by
    induction l with
    | nil => exact Nat.le_refl 0
    | cons c l ih =>
      rw [List.map_cons, List.sum_cons, List.filter_cons]
      have hone := one c
      split
      · rw [List.length_cons]
        omega
      · rename_i hc
        have hzero : g c = 0 := by
          by_contra hne
          exact hc (by simpa using only c hne)
        omega
  have hsub : Condition.all.filter (· ∈ cs) ⊆ cs := fun c hc => by simpa using (List.mem_filter.mp hc).2
  exact Nat.le_trans (hflags Condition.all) ((Condition.nodup_all.filter _).subperm hsub).length_le

end counts

namespace Subscription

theorem inSlots_eq (s : Subscription) :
    s.inSlots = (Condition.all.map fun c => (s.slots c).length).sum := by
  simp [inSlots, Condition.all]

theorem inSlots_assign (s : Subscription) (c : Condition) (vs : List Violation) :
    { s with slots := assign s.slots c vs }.inSlots + (s.slots c).length =
      s.inSlots + vs.length := by
  cases c <;> simp [inSlots, Condition.all, assign] <;> omega

theorem slot_le_inSlots (s : Subscription) (c : Condition) : (s.slots c).length ≤ s.inSlots := by
  rw [inSlots_eq]
  exact List.le_sum_of_mem (List.mem_map.mpr ⟨c, Condition.mem_all c, rfl⟩)

def unread (s : Subscription) : Nat := s.inSlots + s.hand.toList.length + s.output.length

theorem Passes.length_eq {s : Subscription} {A Y : List Violation} (p : s.Passes A Y)
    (live : s.scope.fired = false) : A.length = Y.length + s.unread := by
  have hkind (c : Condition) : (ofKind c A).length = (ofKind c Y).length +
      ((ofKind c s.output).length + ((ofKind c s.hand.toList).length + (s.slots c).length)) := by
    rw [p.kept live c]
    simp only [List.length_append]
    omega
  rw [unread, inSlots_eq, length_eq_sum_ofKind A, length_eq_sum_ofKind Y,
    length_eq_sum_ofKind s.output, length_eq_sum_ofKind s.hand.toList]
  simp only [hkind, List.sum_map_add]
  omega

structure Bounded (s : Subscription) : Prop where
  slot : ∀ c, (s.slots c).length ≤ Limits.slotCapacity
  watched : ∀ c, s.slots c ≠ [] → c ∈ s.conditions
  output : s.output.length ≤ Limits.outputCapacity

theorem Bounded.inSlots_le {s : Subscription} (b : s.Bounded) : s.inSlots ≤ s.conditions.length := by
  rw [inSlots_eq]
  apply sum_le_length_of_flags b.slot
  intro c hc
  exact b.watched c fun hnil => hc (by simp [hnil])

theorem hand_length_le (s : Subscription) : s.hand.toList.length ≤ 1 := by
  cases s.hand <;> simp

theorem Bounded.unread_le {s : Subscription} (b : s.Bounded) :
    s.unread ≤ Limits.outputCapacity + 1 + s.conditions.length := by
  have hslots := b.inSlots_le
  have hhand := s.hand_length_le
  have hout := b.output
  unfold unread
  omega

theorem Bounded.of_slots {s s' : Subscription} (b : s.Bounded) (slots : s'.slots = s.slots)
    (conditions : s'.conditions = s.conditions) (output : s'.output.length ≤ Limits.outputCapacity) :
    s'.Bounded :=
  ⟨slots ▸ b.slot, by rw [slots, conditions]; exact b.watched, output⟩

theorem Step.bounded {m : Monitor} {s s' : Subscription} {a : Action} {acc out : List Violation}
    (h : s.Step m a acc out s') (b : s.Bounded) : s'.Bounded := by
  cases h with
  | same | cancelled | dropped | started | left | released | called | returned | closed | finished =>
    exact b.of_slots rfl rfl b.output
  | accepted i v watched attached room =>
    refine ⟨fun c => ?_, fun c hc => ?_, b.output⟩
    · by_cases hv : c = v.condition
      · subst hv
        simp only [assign_self, List.length_append, List.length_singleton]
        exact room
      · simp only [assign_of_ne _ _ hv]
        exact b.slot c
    · by_cases hv : c = v.condition
      · rwa [hv]
      · simp only [assign_of_ne _ _ hv] at hc
        exact b.watched c hc
  | yielded v rest live buffered =>
    have hout := b.output
    rw [buffered, List.length_cons] at hout
    exact b.of_slots rfl rfl (Nat.le_of_succ_le hout)
  | discarded fired => exact b.of_slots rfl rfl (Nat.zero_le _)
  | taken c v rest phase free ready =>
    refine ⟨fun k => ?_, fun k hk => ?_, b.output⟩
    · by_cases hc : k = c
      · have hslot := b.slot c
        rw [ready, List.length_cons] at hslot
        simp only [hc, assign_self]
        exact Nat.le_of_succ_le hslot
      · simp only [assign_of_ne _ _ hc]
        exact b.slot k
    · by_cases hc : k = c
      · rw [hc]
        exact b.watched c (by simp [ready])
      · simp only [assign_of_ne _ _ hc] at hk
        exact b.watched k hk
  | sent v phase held room =>
    refine b.of_slots rfl rfl ?_
    simp only [List.length_append, List.length_singleton]
    exact room
  | detached phase => exact ⟨fun _ => Nat.zero_le _, fun _ hc => absurd rfl hc, b.output⟩

end Subscription

theorem Monitor.Reachable.bounded {m : Monitor} (h : Reachable m) :
    ∀ s ∈ m.subscriptions, s.Bounded := by
  apply h.induction (P := fun m => ∀ s ∈ m.subscriptions, s.Bounded) (by simp)
  intro m a m' hr ih ha s' hs'
  obtain ⟨s, hs, acc, out, step, -, -⟩ | ⟨i, r, -, -, -, rfl⟩ := (hr.evolves ha).origin hs'
  · exact step.bounded (ih s hs)
  · exact ⟨fun _ => Nat.zero_le _, fun _ hc => absurd rfl hc, Nat.zero_le _⟩

end GpuTelemetry
