import GpuTelemetry.Monitor.State
import GpuTelemetry.Proofs.Masks

namespace GpuTelemetry.Watch

def count (w : Watch) (c : Condition) : Nat := (w.held c).getD 0

def NoZeros (w : Watch) : Prop := ∀ c, w.held c ≠ some 0

theorem noZeros_empty : NoZeros {} := fun _ => nofun

variable {w : Watch}

theorem NoZeros.held_eq_none (h : w.NoZeros) {c : Condition} : w.held c = none ↔ w.count c = 0 := by
  have hc := h c
  unfold count
  cases hh : w.held c with
  | none => simp
  | some n =>
    rw [hh] at hc
    simpa using hc

theorem NoZeros.held_eq (h : w.NoZeros) (c : Condition) :
    w.held c = if w.count c = 0 then none else some (w.count c) := by
  split
  · rename_i hz
    exact h.held_eq_none.mpr hz
  · rename_i hz
    obtain ⟨n, hn⟩ := Option.ne_none_iff_exists'.mp (mt h.held_eq_none.mp hz)
    simp [count, hn]

theorem NoZeros.mem_conditions (h : w.NoZeros) {c : Condition} :
    c ∈ w.conditions ↔ 0 < w.count c := by
  rw [Nat.pos_iff_ne_zero, Ne, ← h.held_eq_none]
  simp [conditions, Condition.mem_all, Option.isSome_iff_ne_none]

section hold

theorem count_holdOne (w : Watch) (c k : Condition) :
    (w.holdOne c).count k = w.count k + if k = c then 1 else 0 := by
  by_cases h : k = c
  · subst h
    simp [count, holdOne]
  · simp [count, holdOne, h]

theorem NoZeros.holdOne (h : w.NoZeros) (c : Condition) : (w.holdOne c).NoZeros := by
  intro k
  by_cases hk : k = c
  · subst hk
    simp [Watch.holdOne]
  · simpa [Watch.holdOne, hk] using h k

theorem count_hold (w : Watch) (cs : List Condition) (k : Condition) :
    (w.hold cs).count k = w.count k + cs.count k := by
  induction cs generalizing w with
  | nil => rfl
  | cons c cs ih =>
    change ((w.holdOne c).hold cs).count k = _
    rw [ih, count_holdOne, List.count_cons]
    by_cases h : k = c
    · simp [h]
      omega
    · simp [h, Ne.symm h]

theorem NoZeros.hold (h : w.NoZeros) (cs : List Condition) : (w.hold cs).NoZeros := by
  induction cs generalizing w with
  | nil => exact h
  | cons c cs ih => exact ih (h.holdOne c)

end hold

section release

variable {mask : UInt32}

theorem count_releaseOne (w : Watch) (mask : UInt32) (c k : Condition) :
    (releaseOne (w, mask) c).1.count k = w.count k - if k = c then 1 else 0 := by
  by_cases h : k = c
  · subst h
    unfold releaseOne count
    cases hh : w.held k with
    | none => simp [hh]
    | some n =>
      simp only
      split
      · rename_i hz
        simp [hz]
      · simp
  · unfold releaseOne count
    cases hh : w.held c with
    | none => simp [h]
    | some n =>
      simp only
      split <;> simp [h]

theorem NoZeros.releaseOne (h : w.NoZeros) (mask : UInt32) (c : Condition) :
    (releaseOne (w, mask) c).1.NoZeros := by
  intro k
  unfold Watch.releaseOne
  cases hh : w.held c with
  | none => exact h k
  | some n =>
    simp only
    split
    · by_cases hk : k = c
      · simp [hk]
      · simpa [hk] using h k
    · by_cases hk : k = c
      · simpa [hk]
      · simpa [hk] using h k

theorem isIn_releaseOne (h : w.NoZeros) (mask : UInt32) (c k : Condition) :
    k.isIn (releaseOne (w, mask) c).2 = true ↔ k.isIn mask = true ∨ (k = c ∧ w.count c = 1) := by
  have hc := h c
  unfold releaseOne count
  cases hh : w.held c with
  | none => simp
  | some n =>
    rw [hh] at hc
    have hn : n ≠ 0 := fun hz => hc (by rw [hz])
    simp only
    split
    · have hone : n = 1 := by omega
      simp [hone]
    · have hne : n ≠ 1 := by omega
      simp [hne]

theorem release_fold (h : w.NoZeros) (mask : UInt32) (cs : List Condition) (k : Condition) :
    ((cs.foldl releaseOne (w, mask)).1.count k = w.count k - cs.count k) ∧
    (cs.foldl releaseOne (w, mask)).1.NoZeros ∧
    (k.isIn (cs.foldl releaseOne (w, mask)).2 = true ↔
      k.isIn mask = true ∨ (0 < w.count k ∧ w.count k ≤ cs.count k)) := by
  induction cs generalizing w mask with
  | nil =>
    refine ⟨by simp, h, ?_⟩
    simp only [List.foldl_nil, List.count_nil]
    constructor
    · exact .inl
    · rintro (hm | hk)
      · exact hm
      · omega
  | cons c cs ih =>
    obtain ⟨hcount, hzeros, hmask⟩ := ih (h.releaseOne mask c) (releaseOne (w, mask) c).2
    rw [List.foldl_cons, List.count_cons]
    rw [count_releaseOne] at hcount hmask
    rw [isIn_releaseOne h] at hmask
    refine ⟨hcount.trans ?_, hzeros, hmask.trans ?_⟩
    · by_cases hk : k = c
      · simp [hk]
        omega
      · simp [hk, Ne.symm hk]
    · by_cases hk : k = c
      · subst hk
        simp only [if_true, beq_self_eq_true, true_and]
        constructor
        · rintro ((hm | hone) | hrest)
          · exact .inl hm
          · exact .inr (by omega)
          · exact .inr (by omega)
        · rintro (hm | hrest)
          · exact .inl (.inl hm)
          · by_cases hone : w.count k = 1
            · exact .inl (.inr hone)
            · exact .inr (by omega)
      · simp [hk, Ne.symm hk]

theorem count_release (h : w.NoZeros) (cs : List Condition) (k : Condition) :
    (w.release cs).1.count k = w.count k - cs.count k :=
  (release_fold h 0 cs k).1

theorem NoZeros.release (h : w.NoZeros) (cs : List Condition) : (w.release cs).1.NoZeros :=
  (release_fold h 0 cs .xid).2.1

theorem isIn_release (h : w.NoZeros) (cs : List Condition) (k : Condition) :
    k.isIn (w.release cs).2 = true ↔ 0 < w.count k ∧ w.count k ≤ cs.count k := by
  simpa [release] using (release_fold h 0 cs k).2.2

theorem releaseOne_thresholds (a : Watch × UInt32) (c : Condition) :
    (releaseOne a c).1.thresholds = a.1.thresholds := by
  unfold releaseOne
  split
  · rfl
  · split <;> rfl

theorem release_thresholds (w : Watch) (cs : List Condition) :
    (w.release cs).1.thresholds = w.thresholds := by
  have hfold (a : Watch × UInt32) : (cs.foldl releaseOne a).1.thresholds = a.1.thresholds := by
    induction cs generalizing a with
    | nil => rfl
    | cons c cs ih => exact (ih (releaseOne a c)).trans (releaseOne_thresholds a c)
  exact hfold (w, 0)

end release

end GpuTelemetry.Watch
