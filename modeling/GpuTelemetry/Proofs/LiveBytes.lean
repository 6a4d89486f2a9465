import GpuTelemetry.Proofs.EngineCalls
import GpuTelemetry.Sample
import Mathlib.Data.List.Basic

namespace GpuTelemetry

theorem trimZeros_append_zeros (bs : List UInt8) (n : Nat) :
    trimZeros (bs ++ List.replicate n 0) = trimZeros bs := by
  induction bs with
  | nil =>
    induction n with
    | zero => rfl
    | succ n ih =>
      rw [List.nil_append] at ih
      simp [trimZeros, List.replicate_succ, ih]
  | cons b rest ih => simp only [List.cons_append, trimZeros, ih]

theorem trimZeros_padded (bs : List UInt8) :
    trimZeros bs ++ List.replicate (bs.length - (trimZeros bs).length) 0 = bs := by
  induction bs with
  | nil => rfl
  | cons b rest ih =>
    rw [trimZeros]
    split
    · rename_i h
      obtain ⟨rfl, hrest⟩ := h
      rw [hrest] at ih
      simpa [List.replicate_succ] using ih
    · simpa using ih

namespace Blob

@[simp] theorem length_toList (b : Blob) : b.toList.length = b.size := by
  have hle := b.length_le
  simp only [toList, List.length_append, List.length_replicate]
  omega

theorem toList_ofBytes (bs : List UInt8) : (ofBytes bs).toList = bs := trimZeros_padded bs

theorem ofBytes_toList (b : Blob) : ofBytes b.toList = b := by
  obtain ⟨size, bytes, length_le, trimmed⟩ := b
  have hsize : size = bytes.length + (size - bytes.length) := by omega
  simp only [ofBytes, length_toList, mk.injEq, true_and]
  exact (trimZeros_append_zeros _ _).trans trimmed

theorem toList_injective {a b : Blob} (h : a.toList = b.toList) : a = b := by
  rw [← ofBytes_toList a, h, ofBytes_toList]

end Blob

namespace Block

@[simp] theorem length_toList (b : Block) : b.toList.length = blockSize := b.toBlob.length_toList

theorem getElem_toList (b : Block) {i : Nat} (h : i < b.toList.length) : b.toList[i] = b.byte i := by
  simp only [toList, byte, List.getElem_append, List.getD_eq_getElem?_getD]
  split
  · rename_i hi
    simp [hi]
  · rename_i hi
    simp [Nat.le_of_not_lt hi]

def value (bs : List UInt8) : Nat := bs.foldr (fun b n => b.toNat + 256 * n) 0

theorem value_shift (bs : List UInt8) (i : Nat) : value bs >>> (8 * i) = value (bs.drop i) := by
  induction i generalizing bs with
  | zero => simp
  | succ i ih =>
    cases bs with
    | nil => simp [value]
    | cons b rest =>
      have hb : b.toNat < 256 := b.toNat_lt
      have hone : value (b :: rest) >>> 8 = value rest := by
        rw [Nat.shiftRight_eq_div_pow]
        simp only [value, List.foldr_cons]
        omega
      rw [Nat.mul_succ, Nat.add_comm, Nat.shiftRight_add, hone, ih, List.drop_succ_cons]

theorem ofNat_value (bs : List UInt8) : UInt8.ofNat (value bs) = bs.headD 0 := by
  cases bs with
  | nil => rfl
  | cons b rest =>
    apply UInt8.toNat_inj.mp
    have hb : b.toNat < 256 := b.toNat_lt
    simp only [value, List.foldr_cons, List.headD_cons, UInt8.toNat_ofNat']
    omega

def bytesOf (size n : Nat) : List UInt8 :=
  (List.range size).map fun i => UInt8.ofNat (n >>> (8 * i))

@[simp] theorem length_bytesOf (size n : Nat) : (bytesOf size n).length = size := by
  simp [bytesOf]

theorem bytesOf_value {bs : List UInt8} {size : Nat} (length : bs.length = size) :
    bytesOf size (value bs) = bs := by
  apply List.ext_getElem
  · simp [length]
  · intro i hi hi'
    simp [bytesOf, value_shift, ofNat_value, List.headD_eq_head?_getD, List.head?_drop, hi']

theorem value_bytesOf (size n : Nat) : value (bytesOf size n) = n % Nat.pow 256 size := by
  induction size generalizing n with
  | zero => simp [bytesOf, value, Nat.mod_one]
  | succ size ih =>
    have hshift (i : Nat) : n >>> (8 * (i + 1)) = (n / 256) >>> (8 * i) := by
      rw [Nat.mul_succ, Nat.add_comm, Nat.shiftRight_add, Nat.shiftRight_eq_div_pow n 8]
    have hrest : bytesOf (size + 1) n = UInt8.ofNat n :: bytesOf size (n / 256) := by
      simp [bytesOf, List.range_succ_eq_map, hshift]
    have hpow : Nat.pow 256 (size + 1) = 256 * Nat.pow 256 size := Nat.pow_succ'
    rw [hrest, hpow, Nat.mod_mul, ← ih]
    simp [value]

theorem bytesOf_mod (size n : Nat) :
    bytesOf size (n % Nat.pow 256 size) = bytesOf size n := by
  rw [← value_bytesOf, bytesOf_value (length_bytesOf size n)]

theorem wordBytes_ofNat_value {bs : List UInt8} (h : bs.length = 8) :
    wordBytes (UInt64.ofNat (value bs)) = bs := by
  change bytesOf 8 (UInt64.ofNat (value bs)).toNat = bs
  have hmod : bytesOf 8 (UInt64.ofNat (value bs)).toNat = bytesOf 8 (value bs) :=
    bytesOf_mod 8 (value bs)
  rw [hmod, bytesOf_value h]

theorem take_toList (b : Block) : b.toList.take 8 = (List.range 8).map b.byte := by
  apply List.ext_getElem
  · simp [blockSize]
  · intro i hi hi'
    simp [getElem_toList]

theorem word_eq (b : Block) : b.word = UInt64.ofNat (value (b.toList.take 8)) := by
  rw [take_toList, value, List.foldr_map]
  rfl

theorem wordBytes_word (b : Block) : wordBytes b.word = b.toList.take 8 := by
  rw [word_eq]
  exact wordBytes_ofNat_value (by simp [blockSize])

end Block

def Kind.live (k : Kind) (b : Block) : List UInt8 :=
  match k with
  | .double | .int64 | .timestamp => b.toList.take 8
  | .string => b.stringBytes
  | .binary | .unknown _ => b.toList

namespace Reading

def bytes : Reading → List UInt8
  | int v => Block.wordBytes v.toUInt64
  | real x => Block.wordBytes x.bits
  | text s => Text.Utf8.encode s.toList
  | blob b => b.toList

theorem bytes_ofBlock {k : Kind} (h : k ≠ .string) (b : Block) : (ofBlock k b).bytes = k.live b := by
  cases k with
  | double => exact b.wordBytes_word
  | int64 | timestamp => exact b.wordBytes_word
  | string => exact absurd rfl h
  | binary | unknown => rfl

end Reading

structure Header where
  group : UInt32
  id : UInt32
  field : UInt16
  tag : UInt16
  status : Int32
  time : Int64
  deriving DecidableEq

def Sample.header (s : Sample) : Header :=
  ⟨s.entity.group.code, s.entity.id, s.field, s.kind.tag, s.status.code, s.time⟩

inductive Sent where
  | named (group id : UInt32) (r : Record)
  | whole (r : EntityRecord)

namespace Sent

def header : Sent → Header
  | named group id r => ⟨group, id, r.field, r.tag, r.status, r.time⟩
  | whole r => ⟨r.group, r.id, r.field, r.tag, r.status, r.time⟩

def payload : Sent → Block
  | named _ _ r => r.payload
  | whole r => r.payload

def live (x : Sent) : List UInt8 := (Kind.ofTag x.header.tag).live x.payload

def sample : Sent → Sample
  | named group id r => .ofRecord group id r
  | whole r => .ofEntityRecord r

variable (x y : Sent)

theorem header_sample : x.sample.header = x.header := by
  cases x <;>
    simp [sample, header, Sample.header, Sample.ofRecord, Sample.ofEntityRecord, Entity.ofCodes,
      EntityGroup.code_ofCode, Kind.tag_ofTag, Status.code_ofCode]

theorem kind_sample : x.sample.kind = .ofTag x.header.tag := by cases x <;> rfl

theorem status_sample : x.sample.status = .ofCode x.header.status := by cases x <;> rfl

theorem reading_sample : x.sample.reading = .ofBlock (.ofTag x.header.tag) x.payload := by
  cases x <;> rfl

variable {x y}

theorem bytes_sample (h : x.header.tag ≠ Tag.string) : x.sample.reading.bytes = x.live := by
  rw [reading_sample]
  refine Reading.bytes_ofBlock (fun hk => h ?_) _
  rw [← Kind.tag_ofTag x.header.tag, hk]
  rfl

theorem header_eq_of_sample (h : x.sample = y.sample) : x.header = y.header := by
  rw [← header_sample, h, header_sample]

theorem live_eq_of_sample (h : x.sample = y.sample) (htag : x.header.tag ≠ Tag.string) :
    x.live = y.live := by
  have htag' : y.header.tag ≠ Tag.string := by rwa [← header_eq_of_sample h]
  rw [← bytes_sample htag, h, bytes_sample htag']

/-- Records that differ in their header, or without being text in a live byte, have different samples. -/
theorem decoding_loses_nothing :
    (∀ x : Sent, x.sample.header = x.header ∧
      (x.header.tag ≠ Tag.string → x.sample.reading.bytes = x.live) ∧
      (x.sample.isOk = true ↔ x.header.status = 0)) ∧
    ∀ x y : Sent, (x.sample.kind = y.sample.kind ↔ x.header.tag = y.header.tag) ∧
      (x.header ≠ y.header ∨ (x.header.tag ≠ Tag.string ∧ x.live ≠ y.live) →
        x.sample ≠ y.sample) := by
  refine ⟨fun x => ⟨header_sample x, bytes_sample, ?_⟩, fun x y => ⟨⟨fun h => ?_, fun h => ?_⟩, ?_⟩⟩
  · rw [Sample.isOk, status_sample]
    exact Status.ofCode_isOk _
  · rw [← Kind.tag_ofTag x.header.tag, ← kind_sample, h, kind_sample, Kind.tag_ofTag]
  · rw [kind_sample, kind_sample, h]
  · rintro (hheader | ⟨htag, hlive⟩) h
    · exact hheader (header_eq_of_sample h)
    · exact hlive (live_eq_of_sample h htag)

theorem nans_told_apart :
    (whole { tag := Tag.double, payload := .ofWord 0x7ff8000000000000 }).sample ≠
      (whole { tag := Tag.double, payload := .ofWord 0x7ff8000000000001 }).sample :=
  (decoding_loses_nothing.2 _ _).2 (.inr ⟨by decide, by decide⟩)

end Sent

end GpuTelemetry
