import GpuTelemetry.Condition

namespace GpuTelemetry.Condition

theorem index_inj {c k : Condition} (h : c.index = k.index) : c = k := by
  revert h
  cases c <;> cases k <;> decide

theorem index_lt_seven (c : Condition) : c.index < 7 := by cases c <;> decide

theorem index_lt (c : Condition) : c.index < 32 := Nat.lt_trans c.index_lt_seven (by decide)

theorem all_ascending : all.Pairwise fun c d => c.index < d.index := by decide

theorem exists_index {i : Nat} (h : i < 7) : ∃ c : Condition, c.index = i := by
  have hall : ∀ i < 7, ∃ c ∈ all, c.index = i := by decide
  obtain ⟨c, -, hc⟩ := hall i h
  exact ⟨c, hc⟩

theorem toNat_mask (c : Condition) : c.mask.toNat = Nat.pow 2 c.index := by cases c <;> rfl

theorem ofMask?_eq_some_iff {mask : UInt32} {c : Condition} :
    ofMask? mask = some c ↔ c.mask = mask := by
  constructor
  · intro h
    simpa using List.find?_some h
  · rintro rfl
    cases c <;> decide

theorem mask_toBitVec (c : Condition) : c.mask.toBitVec = BitVec.twoPow 32 c.index := by
  cases c <;> decide

theorem isIn_eq (c : Condition) (mask : UInt32) : c.isIn mask = mask.toBitVec.getLsbD c.index := by
  have hand : (mask &&& c.mask).toBitVec = mask.toBitVec &&& BitVec.twoPow 32 c.index := by
    rw [UInt32.toBitVec_and, mask_toBitVec]
  rw [isIn, bne, Bool.eq_iff_iff, Bool.not_eq_true', beq_eq_false_iff_ne, Ne, ← UInt32.toBitVec_inj,
    hand, BitVec.and_twoPow]
  cases hbit : mask.toBitVec.getLsbD c.index with
  | true =>
    have hne : BitVec.twoPow 32 c.index ≠ 0 := by cases c <;> decide
    simpa using hne
  | false => simp

@[simp] theorem isIn_zero (c : Condition) : c.isIn 0 = false := by simp [isIn]

@[simp] theorem isIn_or (c : Condition) (a b : UInt32) :
    c.isIn (a ||| b) = (c.isIn a || c.isIn b) := by
  simp [isIn_eq]

@[simp] theorem isIn_mask (c k : Condition) : c.isIn k.mask = decide (c = k) := by
  cases c <;> cases k <;> decide

theorem union_bit {α : Type} (mask : α → UInt32) (xs : List α) (start : UInt32) (i : Nat) :
    (xs.foldl (fun m x => m ||| mask x) start).toBitVec.getLsbD i = true ↔
      start.toBitVec.getLsbD i = true ∨ ∃ x ∈ xs, (mask x).toBitVec.getLsbD i = true := by
  induction xs generalizing start with
  | nil => simp
  | cons x xs ih =>
    rw [List.foldl_cons, ih, UInt32.toBitVec_or, BitVec.getLsbD_or, Bool.or_eq_true, or_assoc]
    simp

theorem mask_bit (c : Condition) (i : Nat) : c.mask.toBitVec.getLsbD i = true ↔ c.index = i := by
  simp [mask_toBitVec, BitVec.getLsbD_twoPow, index_lt c]

theorem maskOf_bit (cs : List Condition) (i : Nat) :
    (maskOf cs).toBitVec.getLsbD i = true ↔ ∃ c ∈ cs, c.index = i := by
  simp [maskOf, union_bit, mask_bit]

@[simp] theorem isIn_maskOf {c : Condition} {cs : List Condition} :
    c.isIn (maskOf cs) = true ↔ c ∈ cs := by
  rw [isIn_eq, maskOf_bit]
  refine ⟨fun ⟨k, hk, hi⟩ => ?_, fun h => ⟨c, h, rfl⟩⟩
  rwa [← index_inj hi]

theorem maskOf_ne_zero {cs : List Condition} (h : cs ≠ []) : maskOf cs ≠ 0 := by
  obtain ⟨c, hc⟩ := List.exists_mem_of_ne_nil cs h
  intro hz
  have hin : c.isIn (maskOf cs) = true := isIn_maskOf.mpr hc
  simp [hz] at hin

theorem isIn_and_not (c : Condition) (a b : UInt32) :
    c.isIn (a &&& ~~~b) = (c.isIn a && !c.isIn b) := by
  have hlt := c.index_lt
  simp [isIn_eq, hlt]

theorem eq_maskOf {mask : UInt32} {cs : List Condition}
    (bits : ∀ i < 32, mask.toBitVec.getLsbD i = true ↔ ∃ c ∈ cs, c.index = i) :
    mask = maskOf cs := by
  refine UInt32.toBitVec_inj.mp (BitVec.eq_of_getLsbD_eq fun i hi => ?_)
  rw [Bool.eq_iff_iff, bits i hi, maskOf_bit]

theorem maskOf_without (cs : List Condition) (mask : UInt32) :
    maskOf cs &&& ~~~mask = maskOf (cs.filter fun c => !c.isIn mask) := by
  apply eq_maskOf
  intro i hi
  simp only [UInt32.toBitVec_and, UInt32.toBitVec_not, BitVec.getLsbD_and, BitVec.getLsbD_not, hi,
    decide_true, Bool.true_and, Bool.and_eq_true, Bool.not_eq_true', maskOf_bit, List.mem_filter,
    isIn_eq]
  constructor
  · rintro ⟨⟨c, hc, rfl⟩, hclear⟩
    exact ⟨c, ⟨hc, hclear⟩, rfl⟩
  · rintro ⟨c, ⟨hc, hclear⟩, rfl⟩
    exact ⟨⟨c, hc, rfl⟩, hclear⟩

theorem maskOf_and_not {cs : List Condition} {mask : UInt32} (h : ∀ c ∈ cs, c.isIn mask = false) :
    maskOf cs &&& ~~~mask = maskOf cs := by
  rw [maskOf_without, List.filter_eq_self.mpr fun c hc => by simp [h c hc]]

end GpuTelemetry.Condition
