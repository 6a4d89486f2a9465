import GpuTelemetry.Condition
import Mathlib.Data.List.Forall2
import Mathlib.Data.List.TakeWhile

namespace GpuTelemetry

namespace Text

def whiteSpace : List Nat :=
  [0x09, 0x0a, 0x0b, 0x0c, 0x0d, 0x20, 0x85, 0xa0, 0x1680, 0x2000, 0x2001, 0x2002, 0x2003, 0x2004,
    0x2005, 0x2006, 0x2007, 0x2008, 0x2009, 0x200a, 0x2028, 0x2029, 0x202f, 0x205f, 0x3000]

theorem isBlank_iff {c : Char} : isBlank c = true ↔ c.toNat ∈ whiteSpace := by
  simp only [isBlank, Ranges.has, blankRanges, whiteSpace, List.any_cons, List.any_nil, Bool.or_false,
    Bool.or_eq_true, Bool.and_eq_true, decide_eq_true_eq, List.mem_cons, List.not_mem_nil, or_false]
  omega

structure Trimmed (s t : List Char) : Prop where
  padding : ∃ before after, s = before ++ (t ++ after) ∧ (∀ c ∈ before, isBlank c = true) ∧
    ∀ c ∈ after, isBlank c = true
  front : ∀ c ∈ t.head?, isBlank c = false
  back : ∀ c ∈ t.getLast?, isBlank c = false

theorem trimStart_padded {before t : List Char} (blank : ∀ c ∈ before, isBlank c = true)
    (front : ∀ c ∈ t.head?, isBlank c = false) : trimStart (before ++ t) = t := by
  rw [trimStart, List.dropWhile_append_of_pos blank]
  cases t with
  | nil => rfl
  | cons c t => rw [List.dropWhile_cons_of_neg (by simp [front c rfl])]

theorem exists_padding (s : List Char) :
    ∃ before, s = before ++ trimStart s ∧ ∀ c ∈ before, isBlank c = true :=
  ⟨s.takeWhile isBlank, List.takeWhile_append_dropWhile.symm, fun _ => List.mem_takeWhile_imp⟩

theorem trimStart_front (s : List Char) : ∀ c ∈ (trimStart s).head?, isBlank c = false := by
  intro c hc
  have hnot := List.head?_dropWhile_not isBlank s
  rw [← trimStart, hc] at hnot
  simpa using hnot

theorem Trimmed.trim_eq {s t : List Char} (h : Trimmed s t) : trim s = t := by
  obtain ⟨⟨before, after, rfl, hbefore, hafter⟩, front, back⟩ := h
  have hback : trimStart (after.reverse ++ t.reverse) = t.reverse :=
    trimStart_padded (by simpa using hafter) (by simpa [List.head?_reverse] using back)
  cases t with
  | nil =>
    -- of blanks alone the first of the two cuts leaves nothing
    have hall : trimStart (before ++ after ++ []) = [] := by
      refine trimStart_padded (fun c hc => ?_) (by simp)
      exact (List.mem_append.mp hc).elim (hbefore c) (hafter c)
    rw [List.append_nil] at hall
    rw [trim, List.nil_append, hall]
    rfl
  | cons c t =>
    have hfront : trimStart (before ++ (c :: t ++ after)) = c :: t ++ after :=
      trimStart_padded hbefore (by simpa using front)
    rw [trim, hfront, List.reverse_append, hback, List.reverse_reverse]

theorem trimmed_trim (s : List Char) : Trimmed s (trim s) := by
  obtain ⟨before, hs, hbefore⟩ := exists_padding s
  obtain ⟨after, hrest, hafter⟩ := exists_padding (trimStart s).reverse
  have hsplit : trimStart s = trim s ++ after.reverse := by
    rw [← List.reverse_inj, List.reverse_append, List.reverse_reverse, trim, List.reverse_reverse]
    exact hrest
  refine ⟨⟨before, after.reverse, by rw [← hsplit]; exact hs, hbefore, by simpa using hafter⟩,
    fun c hc => ?_, fun c hc => ?_⟩
  · apply trimStart_front s c
    rw [hsplit, List.head?_append, hc]
    rfl
  · apply trimStart_front (trimStart s).reverse c
    rwa [trim, List.getLast?_reverse] at hc

theorem Trimmed.self {s t : List Char} (h : Trimmed s t) : Trimmed t t :=
  ⟨⟨[], [], by simp, by simp, by simp⟩, h.front, h.back⟩

def letters : List (Char × Char) :=
  "ABCDEFGHIJKLMNOPQRSTUVWXYZ".toList.zip "abcdefghijklmnopqrstuvwxyz".toList

def SameLetter (c d : Char) : Prop := c = d ∨ (c, d) ∈ letters ∨ (d, c) ∈ letters

def Alike (s t : List Char) : Prop := List.Forall₂ SameLetter s t

structure Lowered (s t : List Char) : Prop where
  alike : Alike s t
  small : ∀ c ∈ t, ∀ d, (c, d) ∉ letters

theorem letters_fold : ∀ p ∈ letters, p.1.toLower = p.2 ∧ p.2.toLower = p.2 ∧ p.1 ≠ p.2 := by
  decide +kernel

theorem letters_plain : ∀ p ∈ letters,
    isBlank p.1 = false ∧ isBlank p.2 = false ∧ p.1.toNat ≤ 127 := by decide +kernel

theorem letters_inj : ∀ p ∈ letters, ∀ q ∈ letters, p.2 = q.2 → p.1 = q.1 := by decide +kernel

theorem mem_letters_of_toLower_ne {c : Char} (h : c.toLower ≠ c) : (c, c.toLower) ∈ letters := by
  have hall : ∀ n < 26, (Char.ofNat (65 + n), (Char.ofNat (65 + n)).toLower) ∈ letters := by
    decide +kernel
  have hcapital : 65 ≤ c.toNat ∧ c.toNat ≤ 90 := by
    by_contra hnot
    refine h (dif_neg fun hrange => hnot ?_)
    exact ⟨UInt32.le_iff_toNat_le.mp hrange.1, UInt32.le_iff_toNat_le.mp hrange.2⟩
  have hc := hall (c.toNat - 65) (by omega)
  rwa [Nat.add_sub_of_le hcapital.1, Char.ofNat_toNat] at hc

theorem toLower_eq_self_iff {c : Char} : c.toLower = c ↔ ∀ d, (c, d) ∉ letters := by
  constructor
  · intro h d hd
    obtain ⟨hfold, -, hne⟩ := letters_fold _ hd
    exact hne (h.symm.trans hfold)
  · intro h
    by_contra hne
    exact h _ (mem_letters_of_toLower_ne hne)

theorem toLower_toLower (c : Char) : c.toLower.toLower = c.toLower := by
  by_cases h : c.toLower = c
  · rw [h, h]
  · exact (letters_fold _ (mem_letters_of_toLower_ne h)).2.1

theorem sameLetter_iff {c d : Char} : SameLetter c d ↔ c.toLower = d.toLower := by
  constructor
  · rintro (rfl | h | h)
    · rfl
    · exact (letters_fold _ h).1.trans (letters_fold _ h).2.1.symm
    · exact (letters_fold _ h).2.1.trans (letters_fold _ h).1.symm
  · intro h
    by_cases hc : c.toLower = c
    · by_cases hd : d.toLower = d
      · exact .inl (hc.symm.trans (h.trans hd))
      · have hmem := mem_letters_of_toLower_ne hd
        rw [← h, hc] at hmem
        exact .inr (.inr hmem)
    · have hmem := mem_letters_of_toLower_ne hc
      by_cases hd : d.toLower = d
      · rw [h, hd] at hmem
        exact .inr (.inl hmem)
      · exact .inl (letters_inj _ hmem _ (mem_letters_of_toLower_ne hd) h)

theorem alike_iff {s t : List Char} : Alike s t ↔ s.map Char.toLower = t.map Char.toLower := by
  rw [← List.forall₂_eq_eq_eq, List.forall₂_map_left_iff, List.forall₂_map_right_iff]
  have hsame : SameLetter = fun c d => c.toLower = d.toLower := by
    funext c d
    exact propext sameLetter_iff
  rw [Alike, hsame]

theorem lowered_iff {s t : List Char} : Lowered s t ↔ s.map Char.toLower = t := by
  constructor
  · rintro ⟨alike, small⟩
    rw [alike_iff.mp alike]
    exact (List.map_congr_left fun c hc => toLower_eq_self_iff.mpr (small c hc)).trans (List.map_id t)
  · rintro rfl
    have hmap : (s.map Char.toLower).map Char.toLower = s.map Char.toLower := by
      rw [List.map_map]
      exact List.map_congr_left fun c _ => toLower_toLower c
    refine ⟨alike_iff.mpr hmap.symm, fun c hc => ?_⟩
    obtain ⟨d, -, rfl⟩ := List.mem_map.mp hc
    exact toLower_eq_self_iff.mp (toLower_toLower d)

@[simp] theorem isBlank_toLower (c : Char) : isBlank c.toLower = isBlank c := by
  by_cases h : c.toLower = c
  · rw [h]
  · obtain ⟨hcapital, hsmall, -⟩ := letters_plain _ (mem_letters_of_toLower_ne h)
    exact hsmall.trans hcapital.symm

theorem toLower_of_not_ascii {c : Char} (h : 127 < c.toNat) : c.toLower = c := by
  by_contra hne
  obtain ⟨-, -, hascii⟩ := letters_plain _ (mem_letters_of_toLower_ne hne)
  exact absurd hascii (Nat.not_le_of_lt h)

theorem trimStart_map_toLower (s : List Char) :
    trimStart (s.map Char.toLower) = (trimStart s).map Char.toLower := by
  rw [trimStart, List.dropWhile_map]
  simp [trimStart, Function.comp_def]

theorem trim_map_toLower (s : List Char) : trim (s.map Char.toLower) = (trim s).map Char.toLower := by
  simp only [trim, trimStart_map_toLower, ← List.map_reverse]

end Text

namespace Condition

open Text (Trimmed Alike Lowered isBlank)

def written : List (String × Condition) :=
  [("dbe", doubleBitError), ("double-bit-error", doubleBitError), ("pcie", pcie), ("pci", pcie),
    ("retired-pages", retiredPages), ("mpr", retiredPages), ("max-pages-retired", retiredPages),
    ("thermal", thermal), ("power", power), ("nvlink", nvlink), ("xid", xid)]

/-- The text is a spelling of the condition, but for blanks around it and for capitals. -/
def Denotes (s : String) (c : Condition) : Prop :=
  ∃ t w, Trimmed s.toList t ∧ (w, c) ∈ written ∧ Alike t w.toList

variable {s s' w : String} {c d : Condition}

theorem mem_written_iff : (w, c) ∈ written ↔ w ∈ c.spellings := by
  cases c <;> simp [written, spellings, name, aliases]

-- tested as a computation, since a quantifier over characters would be tried on all of them
theorem spelling_plain (h : w ∈ c.spellings) {x : Char} (hx : x ∈ w.toList) :
    x.toLower = x ∧ isBlank x = false ∧ x.toNat ≤ 127 := by
  have hall : (c.spellings.all fun w => w.toList.all fun x =>
      x.toLower == x && (!isBlank x && decide (x.toNat ≤ 127))) = true := by
    cases c <;> decide +kernel
  simpa using List.all_eq_true.mp (List.all_eq_true.mp hall w h) x hx

theorem spelling_unique (hc : w ∈ c.spellings) (hd : w ∈ d.spellings) : c = d := by
  have hall : (c.spellings.all fun w => !d.spellings.contains w || c == d) = true := by
    cases c <;> cases d <;> decide +kernel
  simpa [hd] using List.all_eq_true.mp hall w hc

theorem map_toLower_spelling (h : w ∈ c.spellings) : w.toList.map Char.toLower = w.toList :=
  (List.map_congr_left fun _ hx => (spelling_plain h hx).1).trans (List.map_id _)

theorem denotes_iff : Denotes s c ↔ ∃ w ∈ c.spellings, w.toList = fold s.toList := by
  constructor
  · rintro ⟨t, w, htrim, hw, halike⟩
    rw [mem_written_iff] at hw
    refine ⟨w, hw, ?_⟩
    rw [fold, htrim.trim_eq, Text.alike_iff.mp halike, map_toLower_spelling hw]
  · rintro ⟨w, hw, heq⟩
    refine ⟨_, w, Text.trimmed_trim _, mem_written_iff.mpr hw, Text.alike_iff.mpr ?_⟩
    rw [map_toLower_spelling hw]
    exact heq.symm

theorem Denotes.unique (hc : Denotes s c) (hd : Denotes s d) : c = d := by
  obtain ⟨w, hw, heq⟩ := denotes_iff.mp hc
  obtain ⟨w', hw', heq'⟩ := denotes_iff.mp hd
  obtain rfl : w = w' := String.toList_inj.mp (heq.trans heq'.symm)
  exact spelling_unique hw hw'

theorem denotes_of_parse? (h : parse? s = some c) : Denotes s c := by
  unfold parse? at h
  have hfound := List.find?_some h
  simpa [denotes_iff] using hfound

theorem parse?_eq_some_iff : parse? s = some c ↔ Denotes s c := by
  refine ⟨denotes_of_parse?, fun h => ?_⟩
  have hsome : (parse? s).isSome = true := by
    refine List.find?_isSome.mpr ⟨c, c.mem_all, ?_⟩
    simpa [denotes_iff] using h
  obtain ⟨d, hd⟩ := Option.isSome_iff_exists.mp hsome
  rw [hd, h.unique (denotes_of_parse? hd)]

theorem parse?_eq_none_iff : parse? s = none ↔ ∀ c, ¬ Denotes s c := by
  simp only [Option.eq_none_iff_forall_not_mem, Option.mem_def, parse?_eq_some_iff]

theorem fold_of_alike {s t : List Char} (h : Alike s t) : fold t = fold s := by
  rw [fold, ← Text.trim_map_toLower, ← Text.alike_iff.mp h, Text.trim_map_toLower, fold]

theorem fold_of_trimmed {s t : List Char} (h : Trimmed s t) : fold t = fold s := by
  rw [fold, h.self.trim_eq, fold, h.trim_eq]

theorem not_denotes_of_mem {t : List Char} (htrim : Trimmed s.toList t) {x : Char} (hx : x ∈ t)
    (odd : isBlank x = true ∨ 127 < x.toNat) : ¬ Denotes s c := by
  intro h
  obtain ⟨w, hw, heq⟩ := denotes_iff.mp h
  have hmem : x.toLower ∈ w.toList := by
    rw [heq, fold, htrim.trim_eq]
    exact List.mem_map_of_mem hx
  obtain ⟨-, hblank, hascii⟩ := spelling_plain hw hmem
  obtain hodd | hodd := odd
  · simp [hodd] at hblank
  · rw [Text.toLower_of_not_ascii hodd] at hascii
    exact absurd hascii (Nat.not_le_of_lt hodd)

theorem parseError_eq (s : String) : ∃ t u, Trimmed s.toList t ∧ Lowered t u ∧
    parseError s = "unknown policy condition: " ++ String.ofList u :=
  ⟨_, _, Text.trimmed_trim _, Text.lowered_iff.mpr rfl, rfl⟩

theorem parse_congr (h : fold s'.toList = fold s.toList) :
    parse? s' = parse? s ∧ parseError s' = parseError s := by
  refine ⟨?_, congrArg (fun v => "unknown policy condition: " ++ String.ofList v) h⟩
  unfold parse?
  rw [h]

theorem denotes_padded {before t after : List Char} (blank : ∀ x ∈ before ++ after, isBlank x = true)
    (hw : (w, c) ∈ written) (alike : Alike t w.toList) :
    Denotes (String.ofList (before ++ (t ++ after))) c := by
  have hspelling : w ∈ c.spellings := mem_written_iff.mp hw
  have hvisible : ∀ x ∈ t, isBlank x = false := by
    intro x hx
    have hmem : x.toLower ∈ w.toList := by
      rw [← map_toLower_spelling hspelling, ← Text.alike_iff.mp alike]
      exact List.mem_map_of_mem hx
    rw [← Text.isBlank_toLower]
    exact (spelling_plain hspelling hmem).2.1
  refine ⟨t, w, ⟨⟨before, after, String.toList_ofList, ?_, ?_⟩, ?_, ?_⟩, hw, alike⟩
  · exact fun x hx => blank x (List.mem_append_left _ hx)
  · exact fun x hx => blank x (List.mem_append_right _ hx)
  · exact fun x hx => hvisible x (List.mem_of_mem_head? hx)
  · exact fun x hx => hvisible x (List.mem_of_mem_getLast? hx)

/-- A text parses just when it is a spelling, but for blanks around it and capitals, of a condition, of
which there is one at most; the message for another text shows it without the blanks and in small
letters. Blank is the white space of Unicode. Blanks within and characters beyond ASCII are in no
spelling, and neither trimming nor another choice of capitals makes a difference. -/
theorem parses_exactly_spellings :
    (∀ s c, parse? s = some c ↔ Denotes s c) ∧
    (∀ s c d, Denotes s c → Denotes s d → c = d) ∧
    (∀ s, (∀ c, ¬ Denotes s c) → parse? s = none ∧ ∃ t u, Trimmed s.toList t ∧ Lowered t u ∧
      parseError s = "unknown policy condition: " ++ String.ofList u) ∧
    (∀ x, isBlank x = true ↔ x.toNat ∈ Text.whiteSpace) ∧
    (∀ c, (c.name, c) ∈ written) ∧
    (∀ w c before t after, (w, c) ∈ written → (∀ x ∈ before ++ after, isBlank x = true) →
      Alike t w.toList → parse? (String.ofList (before ++ (t ++ after))) = some c) ∧
    (∀ s t x, Trimmed s.toList t → x ∈ t → isBlank x = true ∨ 127 < x.toNat → parse? s = none) ∧
    ∀ s s', Trimmed s.toList s'.toList ∨ Alike s.toList s'.toList →
      parse? s' = parse? s ∧ parseError s' = parseError s := by
  refine ⟨fun s c => parse?_eq_some_iff, fun s c d => Denotes.unique,
    fun s foreign => ⟨parse?_eq_none_iff.mpr foreign, parseError_eq s⟩,
    fun x => Text.isBlank_iff, fun c => mem_written_iff.mpr (List.mem_cons_self ..),
    fun w c before t after hw blank alike => ?_,
    fun s t x htrim hx odd => parse?_eq_none_iff.mpr fun c => not_denotes_of_mem htrim hx odd,
    fun s s' same => parse_congr (same.elim fold_of_trimmed fold_of_alike)⟩
  exact parse?_eq_some_iff.mpr (denotes_padded blank hw alike)

theorem kelvin_sign_rejected :
    parse? (String.ofList (['\u2003'] ++ ("ReTiReD-PaGeS".toList ++ ['\t']))) = some .retiredPages ∧
      parse? (String.ofList (['\u2003'] ++ ("MPR".toList ++ ['\t']))) = some .retiredPages ∧
      parse? "nvlin\u212a" = none := by
  obtain ⟨-, -, -, -, hnames, hwritten, hrejects, -⟩ := parses_exactly_spellings
  have hblank : ∀ x ∈ ['\u2003'] ++ ['\t'], isBlank x = true := by
    intro x hx
    obtain rfl | rfl : x = '\u2003' ∨ x = '\t' := by simpa using hx
    · decide
    · decide
  have halike : Alike "ReTiReD-PaGeS".toList (name .retiredPages).toList :=
    Text.alike_iff.mpr (by decide +kernel)
  have hshort : Alike "MPR".toList "mpr".toList := Text.alike_iff.mpr (by decide +kernel)
  have hkelvin : '\u212a' ∈ Text.trim "nvlin\u212a".toList := by decide +kernel
  have hfar : 127 < '\u212a'.toNat := by decide
  exact ⟨hwritten _ _ ['\u2003'] "ReTiReD-PaGeS".toList ['\t'] (hnames .retiredPages) hblank halike,
    hwritten "mpr" .retiredPages ['\u2003'] "MPR".toList ['\t'] (by decide) hblank hshort,
    hrejects _ _ _ (Text.trimmed_trim _) hkelvin (.inr hfar)⟩

end Condition

end GpuTelemetry
