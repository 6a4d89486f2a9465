import GpuTelemetry.Proofs.LiveBytes
import GpuTelemetry.Proofs.Masks
import GpuTelemetry.Violation

namespace GpuTelemetry

namespace Block

theorem take_bytesOf {k size : Nat} (h : k ≤ size) (n : Nat) :
    (bytesOf size n).take k = bytesOf k n := by
  rw [bytesOf, ← List.map_take, List.take_range, Nat.min_eq_left h, bytesOf]

end Block

namespace Condition

def members : Condition → List Nat
  | doubleBitError | retiredPages => [8, 4, 4]
  | nvlink => [8, 2, 4]
  | pcie | thermal | power | xid => [8, 4]

def place (used : Nat) : List Nat → List (Nat × Nat)
  | [] => []
  | size :: rest =>
    let start := (used + size - 1) / size * size
    (start, size) :: place (start + size) rest

end Condition

namespace Response

variable (r r' : Response) (c : Condition)

def payload : List UInt8 :=
  Block.bytesOf 8 r.time.toUInt64.toNat ++
    (Block.bytesOf 4 r.word0.toNat ++ Block.bytesOf 4 r.word1.toNat)

def member (place : Nat × Nat) : List UInt8 := (r.payload.drop place.1).take place.2

def live : List (List UInt8) := (Condition.place 0 c.members).map r.member

theorem exists_of_bytes (mask gpu : UInt32) {bs : List UInt8} (length : bs.length = 16) :
    ∃ r : Response, r.condition = mask ∧ r.gpu = gpu ∧ r.payload = bs := by
  refine ⟨{ condition := mask, gpu,
            time := (UInt64.ofNat (Block.value (bs.take 8))).toInt64,
            word0 := .ofNat (Block.value ((bs.drop 8).take 4)),
            word1 := .ofNat (Block.value ((bs.drop 8).drop 4)) }, rfl, rfl, ?_⟩
  have htime : Block.bytesOf 8 (Block.value (bs.take 8)) = bs.take 8 :=
    Block.bytesOf_value (by simp [length])
  have hfirst : Block.bytesOf 4 (Block.value ((bs.drop 8).take 4)) = (bs.drop 8).take 4 :=
    Block.bytesOf_value (by simp [length])
  have hsecond : Block.bytesOf 4 (Block.value ((bs.drop 8).drop 4)) = (bs.drop 8).drop 4 :=
    Block.bytesOf_value (by simp [length])
  have hlong (n : Nat) : Block.bytesOf 8 (UInt64.ofNat n).toNat = Block.bytesOf 8 n :=
    Block.bytesOf_mod 8 n
  have hword (n : Nat) : Block.bytesOf 4 (UInt32.ofNat n).toNat = Block.bytesOf 4 n :=
    Block.bytesOf_mod 4 n
  rw [payload, UInt64.toUInt64_toInt64, hlong, hword, hword, htime, hfirst, hsecond,
    List.take_append_drop, List.take_append_drop]

theorem member_time : r.member (0, 8) = Block.bytesOf 8 r.time.toUInt64.toNat := by
  simp [member, payload]

theorem member_first {k : Nat} (h : k ≤ 4) : r.member (8, k) = Block.bytesOf k r.word0.toNat := by
  simp [member, payload, List.take_append_of_le_length, h, Block.take_bytesOf]

theorem member_second : r.member (12, 4) = Block.bytesOf 4 r.word1.toNat := by
  rw [member, payload, ← List.append_assoc, List.drop_left' (by simp),
    List.take_of_length_le (by simp)]

end Response

namespace Location

def code : Location → UInt32
  | l1 => 0
  | l2 => 1
  | device => 2
  | register => 3
  | texture => 4
  | unknown c => c

theorem code_ofCode (c : UInt32) : (ofCode c).code = c := by
  unfold ofCode
  repeat' split
  all_goals simp_all [code]

theorem le_of_unknown {c k : UInt32} (h : ofCode c = unknown k) : 5 ≤ k.toNat := by
  unfold ofCode at h
  repeat' split at h
  all_goals simp_all [← UInt32.toNat_inj]
  omega

end Location

namespace Detail

def condition : Detail → Condition
  | doubleBitError .. => .doubleBitError
  | pcie _ => .pcie
  | retiredPages .. => .retiredPages
  | thermal _ => .thermal
  | power _ => .power
  | nvlink .. => .nvlink
  | xid _ => .xid

def numbers : Detail → List Nat
  | doubleBitError location errors => [location.code.toNat, errors.toNat]
  | retiredPages single double => [single.toNat, double.toNat]
  | nvlink field counter => [field.toNat, counter.toNat]
  | pcie n | thermal n | power n | xid n => [n.toNat]

variable {c : Condition} {a b a' b' : UInt32}

@[simp] theorem condition_ofWords : (ofWords c a b).condition = c := by cases c <;> rfl

theorem ofWords_eq_of_numbers (h : (ofWords c a b).numbers = (ofWords c a' b').numbers) :
    ofWords c a b = ofWords c a' b' := by
  cases c <;>
    simp_all [ofWords, numbers, Location.code_ofCode, UInt32.toNat_inj, ← UInt16.toNat_inj]

end Detail

namespace Response

variable (r r' : Response) (c : Condition)

theorem live_eq : r.live c = List.zipWith Block.bytesOf c.members
    (r.time.toUInt64.toNat :: (Detail.ofWords c r.word0 r.word1).numbers) := by
  have htime := r.member_time
  have hfirst := @r.member_first
  have hsecond := r.member_second
  -- what the padding of nvlink holds is lost here
  have hfield : Block.bytesOf 2 (r.word0.toNat % 65536) = Block.bytesOf 2 r.word0.toNat :=
    Block.bytesOf_mod 2 r.word0.toNat
  cases c <;>
    simp [live, Condition.members, Condition.place, Detail.ofWords, Detail.numbers,
      Location.code_ofCode, htime, hfirst, hsecond, hfield]

theorem map_value_live : (r.live c).map Block.value =
    r.time.toUInt64.toNat :: (Detail.ofWords c r.word0 r.word1).numbers := by
  have htime : r.time.toUInt64.toNat % Nat.pow 256 8 = r.time.toUInt64.toNat :=
    Nat.mod_eq_of_lt (UInt64.toNat_lt _)
  have hword (w : UInt32) : w.toNat % Nat.pow 256 4 = w.toNat := Nat.mod_eq_of_lt w.toNat_lt
  have hfield (w : UInt16) : w.toNat % Nat.pow 256 2 = w.toNat := Nat.mod_eq_of_lt w.toNat_lt
  rw [live_eq]
  cases c <;>
    simp only [Condition.members, Detail.ofWords, Detail.numbers, List.zipWith_cons_cons,
      List.zipWith_nil_left, List.map_cons, List.map_nil, Block.value_bytesOf, htime, hword, hfield]

variable {r r' c}

theorem live_eq_iff : r'.live c = r.live c ↔
    r'.time = r.time ∧ Detail.ofWords c r'.word0 r'.word1 = Detail.ofWords c r.word0 r.word1 := by
  constructor
  · intro h
    have hnumbers := congrArg (List.map Block.value) h
    rw [map_value_live, map_value_live, List.cons.injEq, UInt64.toNat_inj] at hnumbers
    obtain ⟨htime, hdetail⟩ := hnumbers
    refine ⟨?_, Detail.ofWords_eq_of_numbers hdetail⟩
    rw [← r'.time.toInt64_toUInt64, htime, Int64.toInt64_toUInt64]
  · rintro ⟨htime, hdetail⟩
    rw [live_eq, live_eq, htime, hdetail]

end Response

namespace Violation

def live (v : Violation) : List (List UInt8) :=
  List.zipWith Block.bytesOf v.condition.members (v.time.toUInt64.toNat :: v.detail.numbers)

variable {r r' : Response} {v : Violation}

theorem ofResponse?_eq_some_iff : ofResponse? r = some v ↔
    v.condition.mask = r.condition ∧
      v = ⟨v.condition, r.gpu, r.time, .ofWords v.condition r.word0 r.word1⟩ := by
  rw [ofResponse?, Option.map_eq_some_iff]
  constructor
  · rintro ⟨c, hc, rfl⟩
    exact ⟨Condition.ofMask?_eq_some_iff.mp hc, rfl⟩
  · rintro ⟨hmask, hv⟩
    exact ⟨_, Condition.ofMask?_eq_some_iff.mpr hmask, hv.symm⟩

theorem decodes_iff_single_bit :
    (∃ v, ofResponse? r = some v) ↔ ∃ i < 7, r.condition.toNat = Nat.pow 2 i := by
  constructor
  · rintro ⟨v, h⟩
    have hmask := (ofResponse?_eq_some_iff.mp h).1
    refine ⟨v.condition.index, ?_, by rw [← hmask, Condition.toNat_mask]⟩
    cases v.condition <;> decide
  · rintro ⟨i, hi, hbit⟩
    obtain ⟨c, rfl⟩ := Condition.exists_index hi
    have hmask : c.mask = r.condition := UInt32.toNat_inj.mp (by rw [c.toNat_mask, hbit])
    exact ⟨⟨c, r.gpu, r.time, .ofWords c r.word0 r.word1⟩,
      ofResponse?_eq_some_iff.mpr ⟨hmask, rfl⟩⟩

theorem detail_le_of_unknown {a b k errors : UInt32} {c : Condition}
    (h : Detail.ofWords c a b = .doubleBitError (.unknown k) errors) : 5 ≤ k.toNat := by
  cases c <;> simp only [Detail.ofWords, reduceCtorEq, Detail.doubleBitError.injEq] at h
  exact Location.le_of_unknown h.1

theorem ofResponse?_eq_iff {c : Condition} (h : r.condition = c.mask) :
    ofResponse? r' = ofResponse? r ↔
      r'.condition = r.condition ∧ r'.gpu = r.gpu ∧ r'.live c = r.live c := by
  have hr : ofResponse? r = some ⟨c, r.gpu, r.time, .ofWords c r.word0 r.word1⟩ :=
    ofResponse?_eq_some_iff.mpr ⟨h.symm, rfl⟩
  rw [hr, ofResponse?_eq_some_iff, Response.live_eq_iff, h]
  simp [eq_comm]

/-- A response is a violation just when its mask is a single bit, the violation tells the members which
that condition has in their order, and two responses are told apart by these alone. -/
theorem decodes_exactly_live_members :
    (∀ (mask gpu : UInt32) (bs : List UInt8), bs.length = 16 →
      ∃ r : Response, r.condition = mask ∧ r.gpu = gpu ∧ r.payload = bs) ∧
    (∀ r : Response,
      ((∃ v, ofResponse? r = some v) ↔ ∃ i < 7, r.condition.toNat = Nat.pow 2 i) ∧
      ∀ v, ofResponse? r = some v →
        v.condition.mask = r.condition ∧ v.detail.condition = v.condition ∧
        v.gpu = r.gpu ∧ v.time = r.time ∧
        v.time.toUInt64.toNat :: v.detail.numbers = (r.live v.condition).map Block.value ∧
        (∀ k errors, v.detail = .doubleBitError (.unknown k) errors → 5 ≤ k.toNat) ∧
        v.live = r.live v.condition) ∧
    ∀ (r r' : Response) (c : Condition), r.condition = c.mask →
      (ofResponse? r' = ofResponse? r ↔
        r'.condition = r.condition ∧ r'.gpu = r.gpu ∧ r'.live c = r.live c) := by
  refine ⟨fun mask gpu bs => Response.exists_of_bytes mask gpu,
    fun r => ⟨decodes_iff_single_bit, fun v h => ?_⟩, fun r r' c => ofResponse?_eq_iff⟩
  obtain ⟨hmask, hv⟩ := ofResponse?_eq_some_iff.mp h
  generalize hc : v.condition = c at hv hmask
  subst hv
  exact ⟨hmask, Detail.condition_ofWords, rfl, rfl, (r.map_value_live c).symm,
    fun k errors => detail_le_of_unknown, (r.live_eq c).symm⟩

theorem nvlink_padding_ignored :
    ofResponse? { condition := 0x20, word0 := 0xdead0199, word1 := 7 } =
      ofResponse? { condition := 0x20, word0 := 0x199, word1 := 7 } :=
  (decodes_exactly_live_members.2.2 _ _ .nvlink rfl).mpr ⟨rfl, rfl, by decide⟩

end Violation

end GpuTelemetry
