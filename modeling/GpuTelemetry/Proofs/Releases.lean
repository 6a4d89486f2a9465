import GpuTelemetry.Proofs.Holding
import GpuTelemetry.Proofs.MaskLists

namespace GpuTelemetry.Watch

variable {w w' : Watch}

theorem NoZeros.eq_of_counts (h : w.NoZeros) (h' : w'.NoZeros) (counts : ∀ c, w.count c = w'.count c)
    (thresholds : w.thresholds = w'.thresholds) : w = w' := by
  have hheld : w.held = w'.held := by
    funext c
    rw [h.held_eq, h'.held_eq, counts]
  cases w
  cases w'
  simp_all

theorem hold_thresholds (w : Watch) (cs : List Condition) : (w.hold cs).thresholds = w.thresholds := by
  induction cs generalizing w with
  | nil => rfl
  | cons c cs ih => exact ih (w.holdOne c)

theorem count_hold_le_of_begins (w : Watch) {front cs : List Condition} (h : front <+: cs)
    (c : Condition) : (w.hold front).count c ≤ (w.hold cs).count c := by
  rw [count_hold, count_hold]
  exact Nat.add_le_add_left (h.sublist.count_le c) _

theorem release_hold (h : w.NoZeros) (cs : List Condition) : ((w.hold cs).release cs).1 = w := by
  have hheld : (w.hold cs).NoZeros := h.hold cs
  refine (hheld.release cs).eq_of_counts h (fun c => ?_) ?_
  · rw [count_release hheld, count_hold, Nat.add_sub_cancel]
  · rw [release_thresholds, hold_thresholds]

theorem held_release_of_not_mem (h : w.NoZeros) {cs : List Condition} {c : Condition} (hc : c ∉ cs) :
    (w.release cs).1.held c = w.held c := by
  have hcount : (w.release cs).1.count c = w.count c := by
    rw [count_release h, List.count_eq_zero_of_not_mem hc, Nat.sub_zero]
  rw [(h.release cs).held_eq, hcount, ← h.held_eq]

theorem exists_released (w : Watch) (cs : List Condition) :
    ∃ ds, (w.release cs).2 = Condition.maskOf ds := by
  -- what has been answered so far is the mask of some list, whatever the counts are by then
  have hfold (w : Watch) (es : List Condition) :
      ∃ ds, (cs.foldl releaseOne (w, Condition.maskOf es)).2 = Condition.maskOf ds := by
    induction cs generalizing w es with
    | nil => exact ⟨es, rfl⟩
    | cons c cs ih =>
      rw [List.foldl_cons, releaseOne]
      split
      · exact ih w es
      · split
        · have hmask : Condition.maskOf es ||| c.mask = Condition.maskOf (es ++ [c]) := by
            simp [Condition.maskOf]
          rw [hmask]
          exact ih _ _
        · exact ih _ es
  exact hfold w []

theorem release_bit (h : w.NoZeros) (cs : List Condition) (i : Nat) :
    (w.release cs).2.toBitVec.getLsbD i = true ↔
      ∃ c n, c.index = i ∧ w.held c = some n ∧ n ≤ cs.count c := by
  have hentry (c : Condition) :
      c.isIn (w.release cs).2 = true ↔ ∃ n, w.held c = some n ∧ n ≤ cs.count c := by
    rw [isIn_release h, h.held_eq]
    by_cases hz : w.count c = 0
    · simp [hz]
    · simp [hz, Nat.pos_of_ne_zero hz]
  obtain ⟨ds, hds⟩ := exists_released w cs
  constructor
  · intro hbit
    rw [hds, Condition.maskOf_bit] at hbit
    obtain ⟨c, hc, rfl⟩ := hbit
    obtain ⟨n, hn⟩ := (hentry c).mp (hds ▸ Condition.isIn_maskOf.mpr hc)
    exact ⟨c, n, rfl, hn⟩
  · rintro ⟨c, n, rfl, hn⟩
    rw [← Condition.isIn_eq]
    exact (hentry c).mpr ⟨n, hn⟩

theorem release_hold_mask (h : w.NoZeros) (cs : List Condition) :
    ((w.hold cs).release cs).2 = Condition.maskOf (cs.filter fun c => (w.held c).isNone) := by
  apply Condition.eq_maskOf
  intro i _
  rw [release_bit (h.hold cs)]
  -- the count of an entry is what was held before and what the list has added: it is within what the
  -- list takes away just when nothing was held
  constructor
  · rintro ⟨c, n, hi, hn, hle⟩
    have hpos : n ≠ 0 := by
      rintro rfl
      exact h.hold cs c hn
    have hcount : n = w.count c + cs.count c := by rw [← count_hold, count, hn, Option.getD_some]
    have hnone : w.held c = none := h.held_eq_none.mpr (by omega)
    have hmem : c ∈ cs := List.count_pos_iff.mp (by omega)
    exact ⟨c, List.mem_filter.mpr ⟨hmem, by simp [hnone]⟩, hi⟩
  · rintro ⟨c, hc, hi⟩
    obtain ⟨hmem, hnone⟩ := List.mem_filter.mp hc
    have hzero : w.count c = 0 := h.held_eq_none.mp (by simpa using hnone)
    have hpos : 0 < cs.count c := List.count_pos_iff.mpr hmem
    refine ⟨c, cs.count c, hi, ?_, Nat.le_refl _⟩
    rw [(h.hold cs).held_eq, count_hold, hzero, Nat.zero_add, if_neg (by omega)]

/-- Counts in a machine word: as long as holding a list does not take one past the largest word, none
passes it on the way, and releasing the list gives back the state of before, with the conditions that
had no entry then. A release of any list takes 1 only from counts that have it, leaves no count of zero,
and answers the conditions that the list names at least as often as they are counted. -/
theorem release_undoes_hold (h : w.NoZeros) (cs : List Condition) :
    ((∀ c, (w.hold cs).count c ≤ Limits.maxWord) →
      (∀ front, front <+: cs → ∀ c, (w.hold front).count c ≤ Limits.maxWord) ∧
      ((w.hold cs).release cs).1 = w ∧
      ((w.hold cs).release cs).2 = Condition.maskOf (cs.filter fun c => (w.held c).isNone)) ∧
    (∀ front c n, front ++ [c] <+: cs → (w.release front).1.held c = some n → 1 ≤ n) ∧
    (w.release cs).1.NoZeros ∧
    (∀ i, (w.release cs).2.toBitVec.getLsbD i = true ↔
      ∃ c n, c.index = i ∧ w.held c = some n ∧ n ≤ cs.count c) ∧
    (∀ c, (w.release cs).1.count c = w.count c - cs.count c) ∧
    (∀ c, c ∉ cs → (w.release cs).1.held c = w.held c) ∧
    (w.release cs).1.thresholds = w.thresholds := by
  refine ⟨fun fits => ⟨fun front hfront c => ?_, release_hold h cs, release_hold_mask h cs⟩,
    fun front c n _ hn => ?_, h.release cs, release_bit h cs, count_release h cs,
    fun c => held_release_of_not_mem h, release_thresholds w cs⟩
  · exact Nat.le_trans (count_hold_le_of_begins w hfront c) (fits c)
  · refine Nat.pos_of_ne_zero ?_
    rintro rfl
    exact h.release front c hn

def threeHolders : Watch where
  held c := if c = .thermal then some 1 else if c = .power then some 2 else none

theorem three_holders_released : threeHolders.NoZeros ∧
    (∀ c, (threeHolders.hold [.power, .xid, .power, .xid]).count c ≤ Limits.maxWord) ∧
    ((threeHolders.hold [.power, .xid, .power, .xid]).release [.power, .xid, .power, .xid]).1 =
      threeHolders ∧
    ((threeHolders.hold [.power, .xid, .power, .xid]).release [.power, .xid, .power, .xid]).2 =
      Condition.xid.mask ∧
    (threeHolders.release [.xid, .power, .thermal, .thermal]).1.count .power = 1 ∧
    (threeHolders.release [.xid, .power, .thermal, .thermal]).2.toBitVec.getLsbD 3 = true := by
  have noZeros : threeHolders.NoZeros := by
    intro c
    cases c <;> decide
  have fits : ∀ c, (threeHolders.hold [.power, .xid, .power, .xid]).count c ≤ Limits.maxWord := by
    intro c
    cases c <;> decide
  obtain ⟨hundone, -⟩ := release_undoes_hold noZeros [.power, .xid, .power, .xid]
  obtain ⟨-, hrestored, hmask⟩ := hundone fits
  obtain ⟨-, -, -, hbits, hcounts, -⟩ := release_undoes_hold noZeros [.xid, .power, .thermal, .thermal]
  exact ⟨noZeros, fits, hrestored, hmask.trans (by decide), (hcounts .power).trans (by decide),
    (hbits 3).mpr ⟨.thermal, 1, rfl, rfl, by decide⟩⟩

end GpuTelemetry.Watch
