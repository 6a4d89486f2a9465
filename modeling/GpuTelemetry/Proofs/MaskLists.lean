import GpuTelemetry.Proofs.Masks

namespace GpuTelemetry.Condition

variable {c : Condition} {m : UInt32}

theorem mem_listOf : c ∈ listOf m ↔ c.isIn m = true := by simp [listOf, mem_all]

theorem listOf_ascending (m : UInt32) : (listOf m).Pairwise fun c d => c.index < d.index :=
  all_ascending.filter _

theorem listOf_mask (c : Condition) : listOf c.mask = [c] := by cases c <;> decide

theorem known_bit {i : Nat} (hi : i < 32) :
    (0x7f : UInt32).toBitVec.getLsbD i = decide (i < 7) := by
  have hbits : ∀ i < 32, (0x7f : UInt32).toBitVec.getLsbD i = decide (i < 7) := by decide
  exact hbits i hi

theorem maskOf_listOf (m : UInt32) : maskOf (listOf m) = m &&& 0x7f := by
  symm
  apply eq_maskOf
  intro i hi
  rw [UInt32.toBitVec_and, BitVec.getLsbD_and, known_bit hi, Bool.and_eq_true, decide_eq_true_eq]
  constructor
  · rintro ⟨hbit, hknown⟩
    obtain ⟨c, rfl⟩ := exists_index hknown
    exact ⟨c, mem_listOf.mpr ((isIn_eq c m).trans hbit), rfl⟩
  · rintro ⟨c, hc, rfl⟩
    exact ⟨(isIn_eq c m).symm.trans (mem_listOf.mp hc), c.index_lt_seven⟩

theorem maskOf_append (cs ds : List Condition) : maskOf (cs ++ ds) = maskOf cs ||| maskOf ds := by
  symm
  apply eq_maskOf
  intro i _
  simp [maskOf_bit, or_and_right, exists_or]

theorem and_known_of_no_other (h : m &&& ~~~0x7f = 0) : m &&& 0x7f = m := by
  refine UInt32.toBitVec_inj.mp (BitVec.eq_of_getLsbD_eq fun i hi => ?_)
  have hother := congrArg (fun w : UInt32 => w.toBitVec.getLsbD i) h
  rw [UInt32.toBitVec_and, BitVec.getLsbD_and, known_bit hi]
  simp only [UInt32.toBitVec_and, UInt32.toBitVec_not, BitVec.getLsbD_and, BitVec.getLsbD_not, hi,
    known_bit hi, decide_true, Bool.true_and] at hother
  cases hbit : m.toBitVec.getLsbD i with
  | true => simpa [hbit] using hother
  | false => rfl

theorem ofMask?_eq_some_iff_listOf : ofMask? m = some c ↔ m &&& ~~~0x7f = 0 ∧ listOf m = [c] := by
  rw [ofMask?_eq_some_iff]
  constructor
  · rintro rfl
    exact ⟨by cases c <;> decide, listOf_mask c⟩
  · rintro ⟨hknown, hlist⟩
    rw [← and_known_of_no_other hknown, ← maskOf_listOf, hlist]
    simp [maskOf]

theorem ofMask?_counted (m : UInt32) :
    ofMask? m = if m.toBitVec.cpop = 1 then all.find? (·.mask == m) else none := by
  split
  · rfl
  · rename_i hcount
    refine Option.eq_none_iff_forall_ne_some.mpr fun c hc => hcount ?_
    obtain rfl := ofMask?_eq_some_iff.mp hc
    cases c <;> decide

/-- Lists of conditions and masks of 32 bits, there and back. A mask is decoded to a single condition
when its bit is the only one. -/
theorem masks_and_lists_inverse :
    (∀ cs, (listOf (maskOf cs)).Pairwise (fun c d => c.index < d.index) ∧
      ∀ c, c ∈ listOf (maskOf cs) ↔ c ∈ cs) ∧
    (∀ m, maskOf (listOf m) = m &&& 0x7f ∧
      (∀ c, ofMask? m = some c ↔ m &&& ~~~0x7f = 0 ∧ listOf m = [c]) ∧
      ofMask? m = if m.toBitVec.cpop = 1 then all.find? (·.mask == m) else none) ∧
    (∀ cs ds, maskOf (cs ++ ds) = maskOf cs ||| maskOf ds) ∧
    ∀ cs i, (maskOf cs).toBitVec.getLsbD i = true ↔ ∃ c ∈ cs, c.index = i := by
  refine ⟨fun cs => ⟨listOf_ascending _, fun c => ?_⟩, fun m => ⟨maskOf_listOf m, fun c => ?_, ?_⟩,
    maskOf_append, maskOf_bit⟩
  · rw [mem_listOf, isIn_maskOf]
  · exact ofMask?_eq_some_iff_listOf
  · exact ofMask?_counted m

end GpuTelemetry.Condition
