import GpuTelemetry.Proofs.Utf8
import Mathlib.Data.Nat.Find

/-!
What reading makes of bytes that are not the encoding of a text: one replacement for each maximal invalid
subpart, so one for all that is left of a character whose end was cut off.
-/

namespace GpuTelemetry.Text.Utf8

/-- No character can be read from `part ++ rest`, and `part` is as much of it as some character begins
with, or a single byte if no character begins with that. -/
structure Subpart (part rest : List UInt8) : Prop where
  invalid : ∀ c, ¬ String.utf8EncodeChar c <+: part ++ rest
  maximal : ∀ bs, bs <+: part ++ rest → Begins bs → bs.length ≤ part.length
  least : (part ≠ [] ∧ Begins part) ∨ part.length = 1

inductive Lossy : List UInt8 → List Char → Prop
  | nil : Lossy [] []
  | char (c : Char) {rest : List UInt8} {text : List Char} (h : Lossy rest text) :
      Lossy (String.utf8EncodeChar c ++ rest) (c :: text)
  | subpart {part rest : List UInt8} {text : List Char} (is : Subpart part rest)
      (h : Lossy rest text) : Lossy (part ++ rest) (replacement :: text)

theorem decode_subpart {part rest : List UInt8} (h : Subpart part rest) :
    decode (part ++ rest) = replacement :: decode rest := by
  obtain ⟨invalid, maximal, least⟩ := h
  by_cases hbegins : part ≠ [] ∧ Begins part
  · obtain ⟨hsome, c, hc⟩ := hbegins
    have hproper : part ≠ String.utf8EncodeChar c := by
      rintro rfl
      exact invalid c (List.prefix_append ..)
    obtain ⟨p, hawaits, -⟩ := awaits_begun hc hsome hproper
    rw [decode, hawaits.scan_eq]
    cases rest with
    | nil => rfl
    | cons b rest =>
      -- a byte in the awaited range would make the subpart longer
      have hrange : ¬ (p.lo ≤ b ∧ b ≤ p.hi) := by
        rintro ⟨lo, hi⟩
        have hle := maximal (part ++ [b]) (by simp) (hawaits.accepts lo hi)
        rw [List.length_append, List.length_singleton] at hle
        omega
      simp [scan, step, hrange, decode]
  · obtain ⟨b, rfl⟩ := List.length_eq_one_iff.mp (least.resolve_left hbegins)
    have hnone : ¬ Begins [b] := fun h => hbegins ⟨by simp, h⟩
    obtain hfirst | ⟨c, hfirst, hc⟩ | ⟨p, hfirst⟩ := first_cases b
    · simp [decode, scan, step, hfirst]
    · exact absurd ⟨c, by simp [hc]⟩ hnone
    · exact absurd (Awaits.lead hfirst).begins hnone

theorem subpart_ne_nil {part rest : List UInt8} (h : Subpart part rest) : part ≠ [] := by
  obtain ⟨hsome, -⟩ | hone := h.least
  · exact hsome
  · rintro rfl
    cases hone

theorem char_or_subpart {bs : List UInt8} (h : bs ≠ []) :
    (∃ c rest, bs = String.utf8EncodeChar c ++ rest) ∨
      ∃ part rest, bs = part ++ rest ∧ Subpart part rest := by
  classical
  by_cases hchar : ∃ c, String.utf8EncodeChar c <+: bs
  · obtain ⟨c, rest, hrest⟩ := hchar
    exact .inl ⟨c, rest, hrest.symm⟩
  · -- as much as some character begins with, and at least one byte
    let longest := Nat.findGreatest (fun n => Begins (bs.take n)) bs.length
    have hbegins : Begins (bs.take longest) :=
      Nat.findGreatest_spec (P := fun n => Begins (bs.take n)) (Nat.zero_le _) ⟨'a', by simp⟩
    have hmaximal (xs : List UInt8) (hxs : xs <+: bs) (hb : Begins xs) : xs.length ≤ longest := by
      apply Nat.le_findGreatest hxs.length_le
      rwa [← List.prefix_iff_eq_take.mp hxs]
    refine .inr ⟨bs.take (max 1 longest), bs.drop (max 1 longest), (List.take_append_drop ..).symm, ?_⟩
    refine ⟨?_, ?_, ?_⟩
    · rw [List.take_append_drop]
      exact fun c hc => hchar ⟨c, hc⟩
    · rw [List.take_append_drop]
      intro xs hxs hb
      have hle := hmaximal xs hxs hb
      have hle' := hxs.length_le
      rw [List.length_take]
      omega
    · have hpos : 0 < bs.length := List.length_pos_iff.mpr h
      by_cases hnone : longest = 0
      · right
        rw [hnone, List.length_take]
        omega
      · left
        rw [Nat.max_eq_right (by omega)]
        refine ⟨List.ne_nil_of_length_pos ?_, hbegins⟩
        rw [List.length_take]
        omega

theorem lossy_iff {bs : List UInt8} {text : List Char} : Lossy bs text ↔ text = decode bs := by
  constructor
  · intro h
    induction h with
    | nil => rfl
    | char c _ ih => rw [decode_char, ih]
    | subpart is _ ih => rw [decode_subpart is, ih]
  · rintro rfl
    induction hn : bs.length using Nat.strongRecOn generalizing bs with
    | ind n ih =>
      by_cases hnil : bs = []
      · subst hnil
        exact .nil
      · obtain ⟨c, rest, rfl⟩ | ⟨part, rest, rfl, is⟩ := char_or_subpart hnil
        · have hpos := c.utf8Size_pos
          rw [List.length_append, String.length_utf8EncodeChar] at hn
          rw [decode_char]
          exact .char c (ih rest.length (by omega) rfl)
        · have hpos := List.length_pos_iff.mpr (subpart_ne_nil is)
          rw [List.length_append] at hn
          rw [decode_subpart is]
          exact .subpart is (ih rest.length (by omega) rfl)

theorem Lossy.no_nul {bs : List UInt8} {text : List Char} (h : Lossy bs text) (hbs : 0 ∉ bs) :
    '\x00' ∉ text := by
  induction h with
  | nil => simp
  | char c _ ih =>
    rw [List.mem_append, not_or] at hbs
    rw [List.mem_cons, not_or]
    refine ⟨?_, ih hbs.2⟩
    rintro rfl
    exact hbs.1 (by decide)
  | subpart _ _ ih =>
    rw [List.mem_append, not_or] at hbs
    rw [List.mem_cons, not_or]
    exact ⟨by decide, ih hbs.2⟩

theorem Lossy.length_encode_le {bs : List UInt8} {text : List Char} (h : Lossy bs text) :
    (encode text).length ≤ 3 * bs.length := by
  induction h with
  | nil => simp [encode]
  | char c _ ih =>
    simp only [encode, List.flatMap_cons, List.length_append] at ih ⊢
    omega
  | subpart is _ ih =>
    have hpos := List.length_pos_iff.mpr (subpart_ne_nil is)
    have hthree : (String.utf8EncodeChar replacement).length = 3 := by decide
    simp only [encode, List.flatMap_cons, List.length_append] at ih ⊢
    omega

structure Cut (s : List Char) (bs : List UInt8) (p : List Char) (part : List UInt8) : Prop where
  whole : p <+: s
  split : bs = encode p ++ part
  inside : part = [] ∨ ∃ c rest, s = p ++ c :: rest ∧ part <+: String.utf8EncodeChar c ∧
    part ≠ String.utf8EncodeChar c

theorem exists_cut {s : List Char} {bs : List UInt8} (h : bs <+: encode s) :
    ∃ p part, Cut s bs p part := by
  induction s generalizing bs with
  | nil =>
    obtain rfl : bs = [] := List.prefix_nil.mp h
    exact ⟨[], [], ⟨List.prefix_refl _, rfl, .inl rfl⟩⟩
  | cons c s ih =>
    have hcons : encode (c :: s) = String.utf8EncodeChar c ++ encode s := List.flatMap_cons
    rw [hcons] at h
    obtain hshort | ⟨rest, hrest⟩ := List.prefix_or_prefix_of_prefix h (List.prefix_append ..)
    · by_cases hfull : bs = String.utf8EncodeChar c
      · exact ⟨[c], [], ⟨⟨s, rfl⟩, by simp [encode, hfull], .inl rfl⟩⟩
      · exact ⟨[], bs, ⟨List.nil_prefix, rfl, .inr ⟨c, s, rfl, hshort, hfull⟩⟩⟩
    · rw [← hrest, List.prefix_append_right_inj] at h
      obtain ⟨p, part, hwhole, hsplit, hinside⟩ := ih h
      refine ⟨c :: p, part, ?_, ?_, ?_⟩
      · simpa using hwhole
      · rw [← hrest, hsplit, ← List.append_assoc]
        rfl
      · obtain hnone | ⟨d, more, rfl, hpart⟩ := hinside
        · exact .inl hnone
        · exact .inr ⟨d, more, rfl, hpart⟩

theorem decode_cut {s : List Char} {bs : List UInt8} {p : List Char} {part : List UInt8}
    (h : Cut s bs p part) : decode bs = p ++ if part = [] then [] else [replacement] := by
  rw [h.split, decode_encode_append]
  congr 1
  split
  · rename_i hnone
    rw [hnone]
    rfl
  · rename_i hsome
    obtain ⟨c, -, -, hpart, hproper⟩ := h.inside.resolve_left hsome
    -- no shorter encoding begins `part`, so that it is all one subpart
    have hsub : Subpart part [] := by
      refine ⟨fun d hd => ?_, fun xs hxs _ => ?_, .inl ⟨hsome, c, hpart⟩⟩
      · rw [List.append_nil] at hd
        obtain rfl := eq_of_prefix_encode (hd.trans hpart)
        exact hproper (hpart.eq_of_length_le hd.length_le)
      · simpa using hxs.length_le
    simpa [decode, scan] using decode_subpart hsub

end GpuTelemetry.Text.Utf8
