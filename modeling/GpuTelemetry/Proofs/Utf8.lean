import GpuTelemetry.Text.Utf8
import Mathlib.Data.List.Induction

namespace GpuTelemetry.Text.Utf8

def high : Nat → Nat → Nat
  | 0, v => v
  | n + 1, v => high n v / 64

def tail : Nat → Nat → List UInt8
  | 0, _ => []
  | n + 1, v => UInt8.ofNat (high n v % 64 + 0x80) :: tail n v

def Pending.Admits (p : Pending) (v : Nat) : Prop :=
  p.value * 64 + (p.lo.toNat - 0x80) ≤ high (p.need - 1) v ∧
    high (p.need - 1) v ≤ p.value * 64 + (p.hi.toNat - 0x80)

theorem first_eq (b : UInt8) : first b =
    if b.toNat < 0x80 then ([Char.ofNat b.toNat], .start)
    else if b.toNat < 0xC2 then ([replacement], .start)
    else if b.toNat < 0xE0 then ([], .inside ⟨1, 0x80, 0xBF, b.toNat - 0xC0⟩)
    else if b.toNat = 0xE0 then ([], .inside ⟨2, 0xA0, 0xBF, 0⟩)
    else if b.toNat = 0xED then ([], .inside ⟨2, 0x80, 0x9F, 13⟩)
    else if b.toNat < 0xF0 then ([], .inside ⟨2, 0x80, 0xBF, b.toNat - 0xE0⟩)
    else if b.toNat = 0xF0 then ([], .inside ⟨3, 0x90, 0xBF, 0⟩)
    else if b.toNat < 0xF4 then ([], .inside ⟨3, 0x80, 0xBF, b.toNat - 0xF0⟩)
    else if b.toNat = 0xF4 then ([], .inside ⟨3, 0x80, 0x8F, 4⟩)
    else ([replacement], .start) := by
  simp only [first, UInt8.lt_iff_toNat_lt, ← UInt8.toNat_inj, UInt8.reduceToNat]

inductive Row (b : UInt8) : List Char × State → Prop
  | one (most : b.toNat < 0x80) : Row b ([Char.ofNat b.toNat], .start)
  | stray : Row b ([replacement], .start)
  | two (least : 0xC2 ≤ b.toNat) (most : b.toNat < 0xE0) :
      Row b ([], .inside ⟨1, 0x80, 0xBF, b.toNat - 0xC0⟩)
  | three_first (is : b.toNat = 0xE0) : Row b ([], .inside ⟨2, 0xA0, 0xBF, 0⟩)
  | three_surrogate (is : b.toNat = 0xED) : Row b ([], .inside ⟨2, 0x80, 0x9F, 13⟩)
  | three (least : 0xE0 < b.toNat) (not : b.toNat ≠ 0xED) (most : b.toNat < 0xF0) :
      Row b ([], .inside ⟨2, 0x80, 0xBF, b.toNat - 0xE0⟩)
  | four_first (is : b.toNat = 0xF0) : Row b ([], .inside ⟨3, 0x90, 0xBF, 0⟩)
  | four (least : 0xF0 < b.toNat) (most : b.toNat < 0xF4) :
      Row b ([], .inside ⟨3, 0x80, 0xBF, b.toNat - 0xF0⟩)
  | four_last (is : b.toNat = 0xF4) : Row b ([], .inside ⟨3, 0x80, 0x8F, 4⟩)

theorem first_row (b : UInt8) : Row b (first b) := by
  rw [first_eq]
  by_cases one : b.toNat < 0x80
  · rw [if_pos one]
    exact .one one
  rw [if_neg one]
  by_cases early : b.toNat < 0xC2
  · rw [if_pos early]
    exact .stray
  rw [if_neg early]
  by_cases two : b.toNat < 0xE0
  · rw [if_pos two]
    exact .two (by omega) two
  rw [if_neg two]
  by_cases three_first : b.toNat = 0xE0
  · rw [if_pos three_first]
    exact .three_first three_first
  rw [if_neg three_first]
  by_cases three_surrogate : b.toNat = 0xED
  · rw [if_pos three_surrogate]
    exact .three_surrogate three_surrogate
  rw [if_neg three_surrogate]
  by_cases three : b.toNat < 0xF0
  · rw [if_pos three]
    exact .three (by omega) three_surrogate three
  rw [if_neg three]
  by_cases four_first : b.toNat = 0xF0
  · rw [if_pos four_first]
    exact .four_first four_first
  rw [if_neg four_first]
  by_cases four : b.toNat < 0xF4
  · rw [if_pos four]
    exact .four (by omega) four
  rw [if_neg four]
  by_cases four_last : b.toNat = 0xF4
  · rw [if_pos four_last]
    exact .four_last four_last
  · rw [if_neg four_last]
    exact .stray

section leads

variable {b : UInt8} {v : Nat}

def Opens (b : UInt8) (v need : Nat) : Prop :=
  ∃ p, first b = ([], .inside p) ∧ p.need = need ∧ p.Admits v

theorem opens_two (hb : b.toNat = v / 64 + 0xC0) (least : 0x80 ≤ v) (most : v < 0x800) :
    Opens b v 1 := by
  refine ⟨⟨1, 0x80, 0xBF, v / 64⟩, ?_, rfl, ?_⟩
  · rw [first_eq, hb, if_neg (by omega), if_neg (by omega), if_pos (by omega), Nat.add_sub_cancel]
  · simp only [Pending.Admits, Nat.sub_self, high, UInt8.reduceToNat]
    omega

theorem opens_three (hb : b.toNat = v / 4096 + 0xE0) (least : 0x800 ≤ v) (most : v < 0x10000)
    (valid : v < 0xD800 ∨ 0xDFFF < v) : Opens b v 2 := by
  obtain hE0 | hED | hother : v / 4096 = 0 ∨ v / 4096 = 13 ∨ (v / 4096 ≠ 0 ∧ v / 4096 ≠ 13) := by
    omega
  · refine ⟨⟨2, 0xA0, 0xBF, 0⟩, by rw [first_eq, hb, hE0]; rfl, rfl, ?_⟩
    simp only [Pending.Admits, high, UInt8.reduceToNat]
    omega
  · refine ⟨⟨2, 0x80, 0x9F, 13⟩, by rw [first_eq, hb, hED]; rfl, rfl, ?_⟩
    simp only [Pending.Admits, high, UInt8.reduceToNat]
    omega
  · refine ⟨⟨2, 0x80, 0xBF, v / 4096⟩, ?_, rfl, ?_⟩
    · rw [first_eq, hb, if_neg (by omega), if_neg (by omega), if_neg (by omega),
        if_neg (by omega), if_neg (by omega), if_pos (by omega), Nat.add_sub_cancel]
    · simp only [Pending.Admits, high, UInt8.reduceToNat]
      omega

theorem opens_four (hb : b.toNat = v / 262144 + 0xF0) (least : 0x10000 ≤ v) (most : v < 0x110000) :
    Opens b v 3 := by
  obtain hF0 | hF4 | hother : v / 262144 = 0 ∨ v / 262144 = 4 ∨
      (0 < v / 262144 ∧ v / 262144 < 4) := by omega
  · refine ⟨⟨3, 0x90, 0xBF, 0⟩, by rw [first_eq, hb, hF0]; rfl, rfl, ?_⟩
    simp only [Pending.Admits, high, UInt8.reduceToNat]
    omega
  · refine ⟨⟨3, 0x80, 0x8F, 4⟩, by rw [first_eq, hb, hF4]; rfl, rfl, ?_⟩
    simp only [Pending.Admits, high, UInt8.reduceToNat]
    omega
  · refine ⟨⟨3, 0x80, 0xBF, v / 262144⟩, ?_, rfl, ?_⟩
    · rw [first_eq, hb, if_neg (by omega), if_neg (by omega), if_neg (by omega), if_neg (by omega),
        if_neg (by omega), if_neg (by omega), if_neg (by omega), if_pos (by omega),
        Nat.add_sub_cancel]
    · simp only [Pending.Admits, high, UInt8.reduceToNat]
      omega

end leads

theorem toNat_valid (c : Char) : c.toNat < 0xD800 ∨ (0xDFFF < c.toNat ∧ c.toNat < 0x110000) :=
  c.valid

section encodings

variable {c : Char}

theorem encode_one (most : c.toNat < 0x80) :
    String.utf8EncodeChar c = [UInt8.ofNat c.toNat] := by
  rw [String.utf8EncodeChar, show c.val.toNat = c.toNat from rfl, if_pos (by omega)]

theorem encode_two (least : 0x80 ≤ c.toNat) (most : c.toNat < 0x800) :
    String.utf8EncodeChar c = UInt8.ofNat (c.toNat / 64 + 0xC0) :: tail 1 c.toNat := by
  have hmod : c.toNat / 64 % 32 = c.toNat / 64 := by omega
  rw [String.utf8EncodeChar, show c.val.toNat = c.toNat from rfl, if_neg (by omega),
    if_pos (by omega), hmod]
  rfl

theorem encode_three (least : 0x800 ≤ c.toNat) (most : c.toNat < 0x10000) :
    String.utf8EncodeChar c = UInt8.ofNat (c.toNat / 4096 + 0xE0) :: tail 2 c.toNat := by
  have hmod : c.toNat / 4096 % 16 = c.toNat / 4096 := by omega
  rw [String.utf8EncodeChar, show c.val.toNat = c.toNat from rfl, if_neg (by omega),
    if_neg (by omega), if_pos (by omega), hmod]
  rfl

theorem encode_four (least : 0x10000 ≤ c.toNat) :
    String.utf8EncodeChar c = UInt8.ofNat (c.toNat / 262144 + 0xF0) :: tail 3 c.toNat := by
  have hvalid := toNat_valid c
  have hmod : c.toNat / 262144 % 8 = c.toNat / 262144 := by omega
  have hdiv : c.toNat / 64 / 64 = c.toNat / 4096 := by omega
  rw [String.utf8EncodeChar, show c.val.toNat = c.toNat from rfl, if_neg (by omega),
    if_neg (by omega), if_neg (by omega), hmod]
  simp only [tail, high, hdiv]

end encodings

theorem toNat_ofNat {n : Nat} (h : n < 256) : (UInt8.ofNat n).toNat = n := by
  rw [UInt8.toNat_ofNat']
  omega

theorem encode_cases (c : Char) : ∃ b,
    (String.utf8EncodeChar c = [b] ∧ first b = ([c], .start)) ∨
      ∃ p, String.utf8EncodeChar c = b :: tail p.need c.toNat ∧ first b = ([], .inside p) ∧
        p.Admits c.toNat := by
  have hvalid := toNat_valid c
  obtain h | ⟨h, h'⟩ | ⟨h, h'⟩ | h : c.toNat < 0x80 ∨ (0x80 ≤ c.toNat ∧ c.toNat < 0x800) ∨
      (0x800 ≤ c.toNat ∧ c.toNat < 0x10000) ∨ 0x10000 ≤ c.toNat := by omega
  · have hb : (UInt8.ofNat c.toNat).toNat = c.toNat := toNat_ofNat (by omega)
    refine ⟨_, .inl ⟨encode_one h, ?_⟩⟩
    rw [first_eq, hb, if_pos h, Char.ofNat_toNat]
  · obtain ⟨p, hfirst, hneed, hadmits⟩ := opens_two (toNat_ofNat (by omega)) h h'
    exact ⟨_, .inr ⟨p, hneed ▸ encode_two h h', hfirst, hadmits⟩⟩
  · obtain ⟨p, hfirst, hneed, hadmits⟩ := opens_three (toNat_ofNat (by omega)) h h' (by omega)
    exact ⟨_, .inr ⟨p, hneed ▸ encode_three h h', hfirst, hadmits⟩⟩
  · obtain ⟨p, hfirst, hneed, hadmits⟩ := opens_four (toNat_ofNat (by omega)) h (by omega)
    exact ⟨_, .inr ⟨p, hneed ▸ encode_four h, hfirst, hadmits⟩⟩

structure Pending.Sound (p : Pending) : Prop where
  need : 0 < p.need
  lo : 0x80 ≤ p.lo.toNat
  hi : p.hi.toNat ≤ 0xBF
  nonempty : p.lo.toNat ≤ p.hi.toNat

theorem exists_char {v : Nat} (h : v < 0xD800 ∨ (0xDFFF < v ∧ v < 0x110000)) :
    ∃ c : Char, c.toNat = v :=
  ⟨Char.ofNat v, by rw [Char.ofNat, dif_pos h]; rfl⟩

theorem ofNat_eq {b : UInt8} {n : Nat} (h : b.toNat = n) : UInt8.ofNat n = b := by
  rw [← h, UInt8.ofNat_toNat]

theorem opened {b : UInt8} {p : Pending} (h : first b = ([], .inside p)) :
    p.Sound ∧ ∀ v, p.Admits v → ∃ c : Char, c.toNat = v ∧
      String.utf8EncodeChar c = b :: tail p.need v := by
  have row := first_row b
  rw [h] at row
  cases row
  all_goals
    -- the ranges of second bytes leave out just the numbers that are not characters
    refine ⟨⟨by simp, by simp, by simp, by simp⟩, fun v hv => ?_⟩
    simp only [Pending.Admits, Nat.reduceSub, high, UInt8.reduceToNat] at hv
    obtain ⟨c, rfl⟩ := exists_char (show v < 0xD800 ∨ (0xDFFF < v ∧ v < 0x110000) by omega)
    refine ⟨c, rfl, ?_⟩
  case two => exact (encode_two (by omega) (by omega)).trans (congrArg (· :: _) (ofNat_eq (by omega)))
  case three_first | three_surrogate | three =>
    exact (encode_three (by omega) (by omega)).trans (congrArg (· :: _) (ofNat_eq (by omega)))
  case four_first | four | four_last =>
    exact (encode_four (by omega)).trans (congrArg (· :: _) (ofNat_eq (by omega)))

theorem first_cases (b : UInt8) : first b = ([replacement], .start) ∨
    (∃ c, first b = ([c], .start) ∧ String.utf8EncodeChar c = [b]) ∨
      ∃ p, first b = ([], .inside p) := by
  have row := first_row b
  generalize first b = x at row
  cases row with
  | one most =>
    obtain ⟨c, hc⟩ := exists_char (show b.toNat < 0xD800 ∨ _ from .inl (by omega))
    refine .inr (.inl ⟨c, by rw [← hc, Char.ofNat_toNat], ?_⟩)
    rw [encode_one (by omega), hc, UInt8.ofNat_toNat]
  | stray => exact .inl rfl
  | _ => exact .inr (.inr ⟨_, rfl⟩)

def Begins (bs : List UInt8) : Prop := ∃ c, bs <+: String.utf8EncodeChar c

def Pending.next (p : Pending) (b : UInt8) : Pending :=
  ⟨p.need - 1, 0x80, 0xBF, p.value * 64 + (b.toNat - 0x80)⟩

inductive Awaits : List UInt8 → Pending → Prop
  | lead {b : UInt8} {p : Pending} (h : first b = ([], .inside p)) : Awaits [b] p
  | more {part : List UInt8} {p : Pending} (b : UInt8) (h : Awaits part p) (lo : p.lo ≤ b)
      (hi : b ≤ p.hi) (need : p.need ≠ 1) : Awaits (part ++ [b]) (p.next b)

namespace Awaits

variable {part rest : List UInt8} {p : Pending} {b : UInt8}

theorem scan_eq (h : Awaits part p) (rest : List UInt8) :
    scan .start (part ++ rest) = scan (.inside p) rest := by
  induction h generalizing rest with
  | lead h => simp [scan, step, h]
  | more b h lo hi need ih =>
    rw [List.append_assoc, ih]
    simp [scan, step, lo, hi, need, Pending.next]

theorem sound (h : Awaits part p) : p.Sound := by
  induction h with
  | lead h => exact (opened h).1
  | more b h lo hi need ih =>
    have hneed := ih.need
    refine ⟨?_, by simp [Pending.next], by simp [Pending.next], by simp [Pending.next]⟩
    simp only [Pending.next]
    omega

end Awaits

theorem Pending.Sound.admits_next {p : Pending} {b : UInt8} {v : Nat} (h : p.Sound) (lo : p.lo ≤ b)
    (hi : b ≤ p.hi) (need : p.need ≠ 1) (admits : (p.next b).Admits v) :
    p.Admits v ∧ tail p.need v = b :: tail (p.next b).need v := by
  obtain ⟨hneed, hlo, hhi, -⟩ := h
  rw [UInt8.le_iff_toNat_le] at lo hi
  obtain ⟨n, hn⟩ : ∃ n, p.need = n + 1 + 1 := ⟨p.need - 2, by omega⟩
  simp only [Pending.Admits, Pending.next, hn, Nat.add_sub_cancel, UInt8.reduceToNat] at admits ⊢
  refine ⟨by simp only [high]; omega, congrArg (· :: tail (n + 1) v) (ofNat_eq ?_)⟩
  simp only [high]
  omega

theorem Awaits.completes {part : List UInt8} {p : Pending} (h : Awaits part p) {v : Nat}
    (admits : p.Admits v) : ∃ c : Char, c.toNat = v ∧
      String.utf8EncodeChar c = part ++ tail p.need v := by
  induction h with
  | lead h => exact (opened h).2 v admits
  | more b h lo hi need ih =>
    obtain ⟨hadmits, htail⟩ := h.sound.admits_next lo hi need admits
    obtain ⟨c, hc, hencode⟩ := ih hadmits
    exact ⟨c, hc, by rw [hencode, htail, List.append_assoc]; rfl⟩

def shifted : Nat → Nat → Nat
  | 0, x => x
  | n + 1, x => shifted n (x * 64)

theorem high_shifted (n x : Nat) : high n (shifted n x) = x := by
  induction n generalizing x with
  | zero => rfl
  | succ n ih =>
    rw [high, shifted, ih]
    omega

theorem Awaits.accepts {part : List UInt8} {p : Pending} {b : UInt8} (h : Awaits part p)
    (lo : p.lo ≤ b) (hi : b ≤ p.hi) : Begins (part ++ [b]) := by
  obtain ⟨hneed, hlo, hhi, -⟩ := h.sound
  rw [UInt8.le_iff_toNat_le] at lo hi
  obtain ⟨n, hn⟩ : ∃ n, p.need = n + 1 := ⟨p.need - 1, by omega⟩
  have hhigh := high_shifted n (p.value * 64 + (b.toNat - 0x80))
  have hadmits : p.Admits (shifted n (p.value * 64 + (b.toNat - 0x80))) := by
    simp only [Pending.Admits, hn, Nat.add_sub_cancel, hhigh]
    omega
  obtain ⟨c, -, hc⟩ := h.completes hadmits
  have hb : UInt8.ofNat ((p.value * 64 + (b.toNat - 0x80)) % 64 + 0x80) = b := ofNat_eq (by omega)
  rw [hn, tail, hhigh, hb] at hc
  exact ⟨c, by rw [hc]; simp⟩

theorem Awaits.begins {part : List UInt8} {p : Pending} (h : Awaits part p) : Begins part := by
  have hlo : p.lo ≤ p.hi := UInt8.le_iff_toNat_le.mpr h.sound.nonempty
  obtain ⟨c, hc⟩ := h.accepts (UInt8.le_refl p.lo) hlo
  exact ⟨c, (List.prefix_append part [p.lo]).trans hc⟩

theorem Pending.Sound.admits_tail {p : Pending} {v : Nat} (h : p.Sound) (admits : p.Admits v) :
    ∃ b, p.lo ≤ b ∧ b ≤ p.hi ∧ tail p.need v = b :: tail (p.need - 1) v ∧
      (p.need = 1 → p.value * 64 + (b.toNat - 0x80) = v) ∧
      (p.need ≠ 1 → (p.next b).Admits v) := by
  obtain ⟨hneed, hlo, hhi, hsome⟩ := h
  obtain ⟨n, hn⟩ : ∃ n, p.need = n + 1 := ⟨p.need - 1, by omega⟩
  simp only [Pending.Admits, hn, Nat.add_sub_cancel] at admits
  have hb : (UInt8.ofNat (high n v % 64 + 0x80)).toNat = high n v % 64 + 0x80 :=
    toNat_ofNat (by omega)
  refine ⟨UInt8.ofNat (high n v % 64 + 0x80), ?_, ?_, ?_, ?_, ?_⟩
  · rw [UInt8.le_iff_toNat_le, hb]
    omega
  · rw [UInt8.le_iff_toNat_le, hb]
    omega
  · rw [hn]
    rfl
  · -- with no more to come, the number is complete
    intro hone
    obtain rfl : n = 0 := by omega
    rw [hb]
    simp only [high] at admits ⊢
    omega
  · intro hmore
    obtain ⟨k, rfl⟩ : ∃ k, n = k + 1 := ⟨n - 1, by omega⟩
    simp only [Pending.Admits, Pending.next, hn, hb, Nat.add_sub_cancel, UInt8.reduceToNat]
    simp only [high] at admits ⊢
    omega

theorem awaits_begun {c : Char} {part : List UInt8} (hpart : part <+: String.utf8EncodeChar c)
    (some : part ≠ []) (proper : part ≠ String.utf8EncodeChar c) :
    ∃ p, Awaits part p ∧ p.Admits c.toNat ∧ String.utf8EncodeChar c = part ++ tail p.need c.toNat := by
  -- along what has been read: the machine after `front` decides what it does at `b`
  induction part using List.reverseRecOn with
  | nil => exact absurd rfl some
  | append_singleton front b ih =>
    obtain ⟨back, hback⟩ := hpart
    by_cases hfront : front = []
    · subst hfront
      obtain ⟨b', ⟨hone, -⟩ | ⟨p, hmore, hfirst, hadmits⟩⟩ := encode_cases c
      · rw [hone] at hback proper
        simp at hback proper
        exact absurd hback.1 proper
      · rw [hmore] at hback
        obtain ⟨rfl, -⟩ := List.cons.inj hback
        exact ⟨p, .lead hfirst, hadmits, hmore⟩
    · obtain ⟨p, hawaits, hadmits, hsplit⟩ := ih ⟨b :: back, by simpa using hback⟩ hfront
        fun heq => by rw [← heq] at hback; simp at hback
      obtain ⟨b', lo, hi, htail, hlast, hnext⟩ := hawaits.sound.admits_tail hadmits
      rw [htail] at hsplit
      have hb : b = b' := by
        rw [← hback, List.append_assoc] at hsplit
        exact (List.cons.inj (List.append_cancel_left hsplit)).1
      subst hb
      have hneed : p.need ≠ 1 := by
        intro hone
        rw [hone] at hsplit
        exact proper hsplit.symm
      exact ⟨p.next b, hawaits.more b lo hi hneed, hnext hneed, by rw [hsplit, List.append_assoc]; rfl⟩

@[simp] theorem length_tail (n v : Nat) : (tail n v).length = n := by
  induction n with
  | zero => rfl
  | succ n ih => rw [tail, List.length_cons, ih]

theorem decode_char (c : Char) (rest : List UInt8) :
    decode (String.utf8EncodeChar c ++ rest) = c :: decode rest := by
  obtain ⟨b, ⟨hone, hfirst⟩ | ⟨q, hmore, hfirst, -⟩⟩ := encode_cases c
  · simp [hone, decode, scan, step, hfirst]
  · -- up to the last byte the machine is silent
    obtain hnil | ⟨front, last, hlast⟩ := (tail q.need c.toNat).eq_nil_or_concat
    · have hneed : q.need = 0 := by simpa using congrArg List.length hnil
      have hsome := (opened hfirst).1.need
      omega
    · rw [List.concat_eq_append] at hlast
      have hsplit : String.utf8EncodeChar c = (b :: front) ++ [last] := by rw [hmore, hlast]; rfl
      obtain ⟨p, hawaits, hadmits, htail⟩ :=
        awaits_begun (c := c) ⟨[last], hsplit.symm⟩ (by simp) (by simp [hsplit])
      obtain ⟨b', lo, hi, hnext, hvalue, -⟩ := hawaits.sound.admits_tail hadmits
      rw [hsplit] at htail
      have hthis := List.append_cancel_left htail
      have hneed : p.need = 1 := by simpa using (congrArg List.length hthis).symm
      rw [hnext] at hthis
      obtain ⟨rfl, -⟩ := List.cons.inj hthis
      rw [decode, hsplit, List.append_assoc, hawaits.scan_eq]
      simp [scan, step, lo, hi, hneed, hvalue hneed, Char.ofNat_toNat, decode]

theorem decode_encode_append (s : List Char) (rest : List UInt8) :
    decode (encode s ++ rest) = s ++ decode rest := by
  induction s with
  | nil => rfl
  | cons c s ih =>
    have hcons : encode (c :: s) = String.utf8EncodeChar c ++ encode s := List.flatMap_cons
    rw [hcons, List.append_assoc, decode_char, ih]
    rfl

theorem decode_encode (s : List Char) : decode (encode s) = s := by
  have happend := decode_encode_append s []
  simpa [decode, scan] using happend

theorem eq_of_prefix_encode {c d : Char} (h : String.utf8EncodeChar c <+: String.utf8EncodeChar d) :
    c = d := by
  obtain ⟨rest, hrest⟩ := h
  have hd : decode (String.utf8EncodeChar d) = [d] := by simpa [decode, scan] using decode_char d []
  rw [← hrest, decode_char] at hd
  exact (List.cons.inj hd).1

theorem encode_decode_iff {bs : List UInt8} : encode (decode bs) = bs ↔ ∃ s, encode s = bs := by
  constructor
  · exact fun h => ⟨_, h⟩
  · rintro ⟨s, rfl⟩
    rw [decode_encode]

theorem eq_nul_of_zero_mem {c : Char} (h : 0 ∈ String.utf8EncodeChar c) : c = '\x00' := by
  obtain ⟨front, back, hsplit⟩ := List.append_of_mem h
  by_cases hfront : front = []
  · subst hfront
    have hnul : String.utf8EncodeChar '\x00' <+: String.utf8EncodeChar c := ⟨back, hsplit.symm⟩
    exact (eq_of_prefix_encode hnul).symm
  · -- every byte but the first is at least `0x80`
    obtain ⟨p, hawaits, hadmits, htail⟩ :=
      awaits_begun ⟨_, hsplit.symm⟩ hfront (by simp [hsplit])
    obtain ⟨b, lo, -, hnext, -⟩ := hawaits.sound.admits_tail hadmits
    rw [hsplit, hnext] at htail
    obtain ⟨rfl, -⟩ := List.cons.inj (List.append_cancel_left htail)
    have hlo := hawaits.sound.lo
    have hzero : p.lo.toNat ≤ 0 := UInt8.le_iff_toNat_le.mp lo
    omega

end GpuTelemetry.Text.Utf8
