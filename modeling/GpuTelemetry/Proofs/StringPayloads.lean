import GpuTelemetry.Proofs.LiveBytes
import GpuTelemetry.Proofs.LossyText
import Mathlib.Data.List.TakeWhile

namespace GpuTelemetry

theorem takeWhile_append_zeros (bs : List UInt8) (n : Nat) :
    (bs ++ List.replicate n 0).takeWhile (· != 0) = bs.takeWhile (· != 0) := by
  induction bs with
  | nil => cases n <;> simp [List.replicate_succ]
  | cons b rest ih => simp only [List.cons_append, List.takeWhile_cons, ih]

theorem zero_not_mem_takeWhile (bs : List UInt8) : 0 ∉ bs.takeWhile (· != 0) := by
  intro h
  simpa using List.mem_takeWhile_imp h

namespace Block

theorem toList_ofBytes {bs : List UInt8} (h : bs.length ≤ blockSize) :
    (ofBytes bs).toList = bs ++ List.replicate (blockSize - bs.length) 0 := by
  have hle := length_trimZeros_le bs
  have hbytes : (ofBytes bs).bytes = trimZeros bs := congrArg trimZeros (List.take_of_length_le h)
  have hzeros : blockSize - (trimZeros bs).length =
      (bs.length - (trimZeros bs).length) + (blockSize - bs.length) := by omega
  rw [toList, hbytes, hzeros, List.replicate_add, ← List.append_assoc, trimZeros_padded]

theorem stringBytes_ofBytes {bs : List UInt8} (h : bs.length ≤ 256) :
    (ofBytes bs).stringBytes = bs.takeWhile (· != 0) := by
  have hblock : bs.length ≤ blockSize := Nat.le_trans h (by decide)
  rw [stringBytes, toList_ofBytes hblock, List.take_append, List.take_of_length_le h,
    List.take_replicate, takeWhile_append_zeros]

theorem length_stringBytes_le (b : Block) : b.stringBytes.length ≤ 256 :=
  Nat.le_trans (List.takeWhile_sublist _).length_le (List.length_take_le ..)

end Block

open Text.Utf8

namespace Record

def stored (value : String) : List UInt8 := ((encode value.toList).take 255).takeWhile (· != 0)

theorem stored_begins (s : String) : stored s <+: encode s.toList :=
  (List.takeWhile_prefix _).trans (List.take_prefix ..)

theorem stored_eq {s : String} (hshort : (encode s.toList).length ≤ 255) (hnul : '\x00' ∉ s.toList) :
    stored s = encode s.toList := by
  rw [stored, List.take_of_length_le hshort, List.takeWhile_eq_self_iff]
  rintro b hb
  obtain ⟨c, hc, hbc⟩ := List.mem_flatMap.mp hb
  simp only [bne_iff_ne, ne_eq]
  rintro rfl
  exact hnul (eq_nul_of_zero_mem hbc ▸ hc)

theorem reading_ofText (group id : UInt32) (field : UInt16) (time : Int64) (s : String) :
    (Sample.ofRecord group id (.ofText field time s)).reading =
      .text (String.ofList (decode (stored s))) := by
  have hbytes : (Record.ofText field time s).payload.stringBytes = stored s :=
    Block.stringBytes_ofBytes (Nat.le_trans (List.length_take_le ..) (by decide))
  rw [← hbytes]
  rfl

/-- A text is found again up to the end of its record: a character cut in two there leaves one
replacement. -/
theorem text_round_trip (field : UInt16) (time : Int64) (s : String) (group id : UInt32) :
    (∃ p part, Cut s.toList (stored s) p part) ∧
    (∀ p part, Cut s.toList (stored s) p part →
      (Sample.ofRecord group id (.ofText field time s)).reading =
        .text (String.ofList (p ++ if part = [] then [] else [replacement]))) ∧
    ((encode s.toList).length ≤ 255 → '\x00' ∉ s.toList →
      (Sample.ofRecord group id (.ofText field time s)).reading = .text s) := by
  have hreading := reading_ofText group id field time s
  refine ⟨exists_cut (stored_begins s), fun p part hcut => ?_, fun hshort hnul => ?_⟩
  · rw [hreading, decode_cut hcut]
  · rw [hreading, stored_eq hshort hnul, decode_encode, String.ofList_toList]

theorem text_cut_in_last_character :
    (Sample.ofRecord 1 0 (.ofText 54 0 (String.ofList (List.replicate 64 '😀')))).reading =
      .text (String.ofList (List.replicate 63 '😀' ++ [replacement])) := by
  have hcut : Cut (String.ofList (List.replicate 64 '😀')).toList
      (stored (String.ofList (List.replicate 64 '😀'))) (List.replicate 63 '😀') [0xF0, 0x9F, 0x98] := by
    rw [stored, String.toList_ofList]
    exact ⟨⟨['😀'], by decide⟩, by decide +kernel,
      .inr ⟨'😀', [], by decide, by decide, by decide⟩⟩
  have hreading := (text_round_trip 54 0 _ 1 0).2.1 _ _ hcut
  rwa [if_neg (by decide)] at hreading

end Record

theorem Reading.ofBlock_eq_of_live {k : Kind} {a b : Block} (h : k.live a = k.live b) :
    ofBlock k a = ofBlock k b := by
  cases k with
  | double | int64 | timestamp =>
    simp only [Kind.live] at h
    simp only [ofBlock, Block.word_eq, h]
  | string =>
    simp only [Kind.live] at h
    simp only [ofBlock, h]
  | binary | unknown => exact congrArg blob (Blob.toList_injective h)

namespace Sent

variable {x y : Sent}

theorem sample_eq_of_live (hheader : x.header = y.header) (hlive : x.live = y.live) :
    x.sample = y.sample := by
  have hreading : x.sample.reading = y.sample.reading := by
    rw [live, live, ← hheader] at hlive
    rw [reading_sample, reading_sample, ← hheader]
    exact Reading.ofBlock_eq_of_live hlive
  have hsample (z : Sent) : z.sample = ⟨.ofCodes z.header.group z.header.id, z.header.field,
      .ofTag z.header.tag, .ofCode z.header.status, z.header.time, z.sample.reading⟩ := by
    cases z <;> rfl
  rw [hsample x, hsample y, hheader, hreading]

/-- What a block held before never shows, although it may complete a character that was cut in two. -/
theorem live_bytes_alone_are_read :
    (∀ x : Sent, x.header.tag = Tag.string → ∃ text : String, x.sample.reading = .text text ∧
      x.live = (x.payload.toList.take 256).takeWhile (· != 0) ∧
      (∀ t, Lossy x.live t ↔ t = text.toList) ∧ '\x00' ∉ text.toList ∧
      (encode text.toList = x.live ↔ ∃ s, encode s = x.live) ∧
      (encode text.toList).length ≤ 768) ∧
    ∀ x y : Sent, x.header = y.header → x.live = y.live → x.sample = y.sample := by
  refine ⟨fun x htag => ?_, fun x y => sample_eq_of_live⟩
  have hkind : Kind.ofTag x.header.tag = .string := by rw [htag]; rfl
  have hlive : x.live = x.payload.stringBytes := by rw [live, hkind]; rfl
  have hlossy : Lossy x.live (decode x.live) := lossy_iff.mpr rfl
  have hlength : x.live.length ≤ 256 := hlive ▸ x.payload.length_stringBytes_le
  refine ⟨String.ofList (decode x.live), ?_, hlive, ?_⟩
  · rw [reading_sample, hkind, hlive]
    rfl
  · rw [String.toList_ofList]
    refine ⟨fun t => lossy_iff, hlossy.no_nul ?_, encode_decode_iff, ?_⟩
    · rw [hlive]
      exact zero_not_mem_takeWhile _
    · have hle := hlossy.length_encode_le
      omega

theorem residue_not_read :
    (whole { tag := Tag.string, payload := .ofBytes [0x41, 0xC3, 0, 0xA9] }).sample =
        (whole { tag := Tag.string, payload := .ofBytes [0x41, 0xC3] }).sample ∧
      ∃ text, (whole { tag := Tag.string, payload := .ofBytes [0x41, 0xC3, 0, 0xA9] }).sample.reading =
        .text text ∧ text = "A\uFFFD" := by
  refine ⟨live_bytes_alone_are_read.2 _ _ rfl (by decide +kernel), ?_⟩
  obtain ⟨text, hreading, -, hlossy, -⟩ := live_bytes_alone_are_read.1
    (whole { tag := Tag.string, payload := .ofBytes [0x41, 0xC3, 0, 0xA9] }) rfl
  refine ⟨text, hreading, ?_⟩
  have htext := (hlossy _).mp (lossy_iff.mpr rfl)
  rw [← String.ofList_toList (s := text), ← htext]
  decide +kernel

end Sent

end GpuTelemetry
