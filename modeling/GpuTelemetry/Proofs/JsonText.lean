import GpuTelemetry.Json
import Mathlib.Data.List.Basic
import Mathlib.Tactic.SplitIfs

namespace GpuTelemetry.Json

theorem induct {P : Json → Prop} (null : P null) (int : ∀ n, P (int n)) (real : ∀ x, P (real x))
    (str : ∀ s, P (str s)) (arr : ∀ items, (∀ v ∈ items, P v) → P (arr items))
    (obj : ∀ fields, (∀ f ∈ fields, P f.2) → P (obj fields)) (v : Json) : P v :=
  match v with
  | .null => null
  | .int n => int n
  | .real x => real x
  | .str s => str s
  | .arr items => arr items fun w _ => induct null int real str arr obj w
  | .obj fields => obj fields fun f _ => induct null int real str arr obj f.2
termination_by v
decreasing_by
  · have hmem : sizeOf w < sizeOf items := List.sizeOf_lt_of_mem ‹_›
    simp only [Json.arr.sizeOf_spec]
    omega
  · have hmem : sizeOf f < sizeOf fields := List.sizeOf_lt_of_mem ‹_›
    have hvalue : sizeOf f.2 < sizeOf f := by
      cases f
      simp only [Prod.mk.sizeOf_spec]
      omega
    simp only [Json.obj.sizeOf_spec]
    omega

def fieldChars (f : String × Json) : List Char := quote f.1 ++ ':' :: f.2.render

def listed {α : Type} (write : α → List Char) : List α → List Char
  | [] => []
  | x :: rest => write x ++ rest.flatMap fun y => ',' :: write y

theorem renderItems_eq (items : List Json) : renderItems items = listed render items := by
  induction items with
  | nil => rfl
  | cons v rest ih =>
    cases rest with
    | nil => simp [renderItems, listed]
    | cons w rest =>
      rw [renderItems, ih]
      simp [listed]

theorem renderFields_eq (fields : List (String × Json)) :
    renderFields fields = listed fieldChars fields := by
  induction fields with
  | nil => rfl
  | cons f rest ih =>
    cases rest with
    | nil => simp [renderFields, listed, fieldChars]
    | cons g rest =>
      rw [renderFields, ih]
      simp [listed, fieldChars]

section strings

def hexValue (c : Char) : Nat := if c.toNat < 58 then c.toNat - 48 else c.toNat - 87

theorem hexValue_hexDigit : ∀ n < 16, hexValue (hexDigit n) = n := by decide

def unescape : List Char → Option (Char × List Char)
  | '\\' :: 'u' :: _ :: _ :: a :: b :: rest =>
    some (Char.ofNat (16 * hexValue a + hexValue b), rest)
  | '\\' :: 'n' :: rest => some ('\n', rest)
  | '\\' :: 'r' :: rest => some ('\r', rest)
  | '\\' :: 't' :: rest => some ('\t', rest)
  | '\\' :: 'b' :: rest => some ('\x08', rest)
  | '\\' :: 'f' :: rest => some ('\x0c', rest)
  | '\\' :: c :: rest => some (c, rest)
  | c :: rest => some (c, rest)
  | [] => none

theorem unescape_control {c : Char} (h : c.toNat < 32) (rest : List Char) :
    unescape ('\\' :: 'u' :: '0' :: '0' :: hexDigit (c.toNat / 16) :: hexDigit (c.toNat % 16) :: rest) =
      some (c, rest) := by
  have hhigh := hexValue_hexDigit (c.toNat / 16) (by omega)
  have hlow := hexValue_hexDigit (c.toNat % 16) (by omega)
  have hcode : 16 * (c.toNat / 16) + c.toNat % 16 = c.toNat := Nat.div_add_mod ..
  simp [unescape, hhigh, hlow, hcode]

theorem unescape_escape (c : Char) (rest : List Char) :
    unescape (escape c ++ rest) = some (c, rest) := by
  unfold escape
  split_ifs with _ _ _ _ _ _ _ hcontrol
  pick_goal 8
  · exact unescape_control hcontrol rest
  all_goals simp_all [unescape]

theorem escape_ne_quote (c : Char) (rest r : List Char) : escape c ++ rest ≠ '"' :: r := by
  intro h
  have hone := congrArg unescape h
  rw [unescape_escape] at hone
  obtain ⟨rfl, rfl⟩ : c = '"' ∧ rest = r := by simpa [unescape] using hone
  simp [escape] at h

theorem escaped_append_inj {cs ds r r' : List Char}
    (h : cs.flatMap escape ++ '"' :: r = ds.flatMap escape ++ '"' :: r') : cs = ds ∧ r = r' := by
  induction cs generalizing ds with
  | nil =>
    cases ds with
    | nil => simpa using h
    | cons d ds =>
      rw [List.flatMap_cons, List.append_assoc] at h
      exact absurd h.symm (escape_ne_quote d _ _)
  | cons c cs ih =>
    cases ds with
    | nil =>
      rw [List.flatMap_cons, List.append_assoc] at h
      exact absurd h (escape_ne_quote c _ _)
    | cons d ds =>
      rw [List.flatMap_cons, List.flatMap_cons, List.append_assoc, List.append_assoc] at h
      have hone := congrArg unescape h
      rw [unescape_escape, unescape_escape] at hone
      obtain ⟨rfl, hrest⟩ : c = d ∧ _ := by simpa using hone
      obtain ⟨rfl, rfl⟩ := ih hrest
      exact ⟨rfl, rfl⟩

theorem quote_append_inj {s t : String} {r r' : List Char} (h : quote s ++ r = quote t ++ r') :
    s = t ∧ r = r' := by
  have hinner : s.toList.flatMap escape ++ '"' :: r = t.toList.flatMap escape ++ '"' :: r' := by
    simpa [quote] using h
  obtain ⟨hchars, hr⟩ := escaped_append_inj hinner
  exact ⟨String.toList_inj.mp hchars, hr⟩

end strings

section numbers

def Ends (r : List Char) : Prop := ∀ c ∈ r.head?, c.isDigit = false

theorem ends_nil : Ends [] := by simp [Ends]

theorem ends_cons {c : Char} (h : c.isDigit = false) (r : List Char) : Ends (c :: r) := by
  simpa [Ends] using h

theorem isDigit_of_mem_toDigits {n : Nat} {c : Char} (h : c ∈ Nat.toDigits 10 n) :
    c.isDigit = true := Nat.isDigit_of_mem_toDigits (by decide) (by decide) h

theorem takeWhile_digits {ds r : List Char} (hds : ∀ c ∈ ds, c.isDigit = true) (hr : Ends r) :
    (ds ++ r).takeWhile Char.isDigit = ds := by
  rw [List.takeWhile_append_of_pos hds]
  cases r with
  | nil => simp
  | cons c r => simp [hr c rfl]

theorem digits_append_inj {n m : Nat} {r r' : List Char} (hr : Ends r) (hr' : Ends r')
    (h : Nat.toDigits 10 n ++ r = Nat.toDigits 10 m ++ r') : n = m ∧ r = r' := by
  have hdigits : Nat.toDigits 10 n = Nat.toDigits 10 m := by
    have hwhile := congrArg (List.takeWhile Char.isDigit) h
    rwa [takeWhile_digits (fun _ => isDigit_of_mem_toDigits) hr,
      takeWhile_digits (fun _ => isDigit_of_mem_toDigits) hr'] at hwhile
  have hvalue := congrArg (Nat.ofDigitChars 10 · 0) hdigits
  rw [hdigits] at h
  exact ⟨by simpa using hvalue, List.append_cancel_left h⟩

theorem toDigits_append_ne {c : Char} (hc : c.isDigit = false) (n : Nat) (rest r : List Char) :
    Nat.toDigits 10 n ++ rest ≠ c :: r := by
  intro h
  cases hds : Nat.toDigits 10 n with
  | nil => exact Nat.toDigits_ne_nil hds
  | cons d ds =>
    have hd : d.isDigit = true := isDigit_of_mem_toDigits (hds ▸ List.mem_cons_self)
    rw [hds, List.cons_append] at h
    obtain ⟨rfl, -⟩ := List.cons.inj h
    simp [hd] at hc

theorem intChars_append_inj {n m : Int} {r r' : List Char} (hr : Ends r) (hr' : Ends r')
    (h : intChars n ++ r = intChars m ++ r') : n = m ∧ r = r' := by
  cases n with
  | ofNat n =>
    cases m with
    | ofNat m =>
      obtain ⟨rfl, rfl⟩ := digits_append_inj hr hr' h
      exact ⟨rfl, rfl⟩
    | negSucc m => exact absurd h (toDigits_append_ne (by decide) n _ _)
  | negSucc n =>
    cases m with
    | ofNat m => exact absurd h.symm (toDigits_append_ne (by decide) m _ _)
    | negSucc m =>
      obtain ⟨hnat, rfl⟩ := digits_append_inj hr hr' (List.cons.inj h).2
      obtain rfl : n = m := by omega
      exact ⟨rfl, rfl⟩

end numbers

section shapes

inductive Shape where
  | null | number | string | array | object
  deriving DecidableEq

def shapeOf (c : Char) : Option Shape :=
  if c = 'n' then some .null
  else if c = '"' then some .string
  else if c = '[' then some .array
  else if c = '\x7b' then some .object
  else if c = '-' ∨ c.isDigit = true then some .number
  else none

def shape : Json → Shape
  | null => .null
  | int _ => .number
  | real _ => .number
  | str _ => .string
  | arr _ => .array
  | obj _ => .object

/-- No binary fraction occurs in it. Those that are not finite all read null. -/
inductive Exact : Json → Prop
  | null : Exact null
  | int (n : Int) : Exact (int n)
  | str (s : String) : Exact (str s)
  | arr (items : List Json) (h : ∀ v ∈ items, Exact v) : Exact (arr items)
  | obj (fields : List (String × Json)) (h : ∀ f ∈ fields, Exact f.2) : Exact (obj fields)

theorem Exact.tagged (name : String) (n : Int) : Exact (.obj [(name, .int n)]) :=
  .obj _ fun f hf => by
    rw [List.mem_singleton.mp hf]
    exact .int n

theorem shapeOf_digit {c : Char} (h : c.isDigit = true) : shapeOf c = some .number := by
  have hne (d : Char) (hd : d.isDigit = false) : c ≠ d := by
    rintro rfl
    simp [hd] at h
  simp [shapeOf, hne 'n' rfl, hne '"' rfl, hne '[' rfl, hne '\x7b' rfl, h]

theorem render_start {v : Json} (h : Exact v) : ∃ c rest, v.render = c :: rest ∧
    shapeOf c = some v.shape := by
  cases h with
  | null => exact ⟨'n', _, rfl, rfl⟩
  | int n =>
    cases n with
    | ofNat n =>
      cases hds : Nat.toDigits 10 n with
      | nil => exact absurd hds Nat.toDigits_ne_nil
      | cons d ds =>
        refine ⟨d, ds, hds, shapeOf_digit (isDigit_of_mem_toDigits (hds ▸ List.mem_cons_self))⟩
    | negSucc n => exact ⟨'-', _, rfl, rfl⟩
  | str s => exact ⟨'"', _, rfl, rfl⟩
  | arr items => exact ⟨'[', _, rfl, rfl⟩
  | obj fields => exact ⟨'\x7b', _, rfl, rfl⟩

theorem render_ne_of_shapeless {v : Json} (h : Exact v) {c : Char} (hc : shapeOf c = none)
    (rest r : List Char) : v.render ++ rest ≠ c :: r := by
  intro he
  obtain ⟨d, ds, hv, hd⟩ := render_start h
  rw [hv, List.cons_append] at he
  obtain ⟨rfl, -⟩ := List.cons.inj he
  simp [hd] at hc

theorem shape_eq_of_render {v w : Json} (hv : Exact v) (hw : Exact w) {r r' : List Char}
    (h : v.render ++ r = w.render ++ r') : v.shape = w.shape := by
  obtain ⟨c, cs, hc, hshape⟩ := render_start hv
  obtain ⟨d, ds, hd, hshape'⟩ := render_start hw
  rw [hc, hd, List.cons_append, List.cons_append] at h
  obtain ⟨rfl, -⟩ := List.cons.inj h
  exact Option.some.inj (hshape.symm.trans hshape')

end shapes

section lists

variable {α : Type} {write : α → List Char} {close : Char} {xs ys : List α} {r r' : List Char}

theorem ends_following (hdigit : close.isDigit = false) (xs : List α) (r : List Char) :
    Ends ((xs.flatMap fun x => ',' :: write x) ++ close :: r) := by
  cases xs with
  | nil => exact ends_cons hdigit r
  | cons x xs => exact ends_cons (by decide) _

theorem following_append_inj (hdigit : close.isDigit = false) (hcomma : close ≠ ',')
    (tell : ∀ x ∈ xs, ∀ y ∈ ys, ∀ r r', Ends r → Ends r' → write x ++ r = write y ++ r' →
      x = y ∧ r = r')
    (h : (xs.flatMap fun x => ',' :: write x) ++ close :: r =
      (ys.flatMap fun y => ',' :: write y) ++ close :: r') : xs = ys ∧ r = r' := by
  induction xs generalizing ys with
  | nil =>
    cases ys with
    | nil => simpa using h
    | cons y ys => exact absurd (List.cons.inj h).1 hcomma
  | cons x xs ih =>
    cases ys with
    | nil => exact absurd (List.cons.inj h).1.symm hcomma
    | cons y ys =>
      simp only [List.flatMap_cons, List.cons_append, List.append_assoc, List.cons.injEq,
        true_and] at h
      obtain ⟨rfl, hrest⟩ := tell x List.mem_cons_self y List.mem_cons_self _ _
        (ends_following hdigit xs r) (ends_following hdigit ys r') h
      obtain ⟨rfl, rfl⟩ := ih (fun a ha b hb => tell a (List.mem_cons_of_mem _ ha) b
        (List.mem_cons_of_mem _ hb)) hrest
      exact ⟨rfl, rfl⟩

theorem listed_append_inj (hdigit : close.isDigit = false) (hcomma : close ≠ ',')
    (start : ∀ x, x ∈ xs ∨ x ∈ ys → ∀ rest r, write x ++ rest ≠ close :: r)
    (tell : ∀ x ∈ xs, ∀ y ∈ ys, ∀ r r', Ends r → Ends r' → write x ++ r = write y ++ r' →
      x = y ∧ r = r')
    (h : listed write xs ++ close :: r = listed write ys ++ close :: r') : xs = ys ∧ r = r' := by
  cases xs with
  | nil =>
    cases ys with
    | nil => simpa [listed] using h
    | cons y ys =>
      rw [listed, listed, List.append_assoc] at h
      exact absurd h.symm (start y (.inr List.mem_cons_self) _ _)
  | cons x xs =>
    cases ys with
    | nil =>
      rw [listed, listed, List.append_assoc] at h
      exact absurd h (start x (.inl List.mem_cons_self) _ _)
    | cons y ys =>
      rw [listed, listed, List.append_assoc, List.append_assoc] at h
      obtain ⟨rfl, hrest⟩ := tell x List.mem_cons_self y List.mem_cons_self _ _
        (ends_following hdigit xs r) (ends_following hdigit ys r') h
      obtain ⟨rfl, rfl⟩ := following_append_inj hdigit hcomma (fun a ha b hb =>
        tell a (List.mem_cons_of_mem _ ha) b (List.mem_cons_of_mem _ hb)) hrest
      exact ⟨rfl, rfl⟩

end lists

section values

variable {v w : Json} {r r' : List Char}

def Told (v : Json) : Prop :=
  ∀ w, Exact w → ∀ r r', Ends r → Ends r' → v.render ++ r = w.render ++ r' → v = w ∧ r = r'

theorem fieldChars_append_inj {f g : String × Json} (hf : Told f.2) (hg : Exact g.2) (hr : Ends r)
    (hr' : Ends r') (h : fieldChars f ++ r = fieldChars g ++ r') : f = g ∧ r = r' := by
  obtain ⟨k, v⟩ := f
  obtain ⟨l, w⟩ := g
  simp only [fieldChars, List.append_assoc, List.cons_append] at h
  obtain ⟨rfl, hrest⟩ := quote_append_inj h
  obtain ⟨rfl, rfl⟩ := hf w hg r r' hr hr' (List.cons.inj hrest).2
  exact ⟨rfl, rfl⟩

theorem fieldChars_ne (f : String × Json) (rest r : List Char) :
    fieldChars f ++ rest ≠ '\x7d' :: r := by
  simp [fieldChars, quote]

theorem Exact.told (h : Exact v) : Told v := by
  induction h with
  | null =>
    intro w hw r r' _ _ h
    have hshape := shape_eq_of_render .null hw h
    cases hw with
    | null => exact ⟨rfl, List.append_cancel_left h⟩
    | _ => cases hshape
  | int n =>
    intro w hw r r' hr hr' h
    have hshape := shape_eq_of_render (.int n) hw h
    cases hw with
    | int m =>
      obtain ⟨rfl, rfl⟩ := intChars_append_inj hr hr' h
      exact ⟨rfl, rfl⟩
    | _ => cases hshape
  | str s =>
    intro w hw r r' _ _ h
    have hshape := shape_eq_of_render (.str s) hw h
    cases hw with
    | str t =>
      obtain ⟨rfl, rfl⟩ := quote_append_inj h
      exact ⟨rfl, rfl⟩
    | _ => cases hshape
  | arr items hitems ih =>
    intro w hw r r' _ _ h
    have hshape := shape_eq_of_render (.arr items hitems) hw h
    cases hw with
    | arr others hothers =>
      have hmembers : listed render items ++ ']' :: r = listed render others ++ ']' :: r' := by
        simpa [render, renderItems_eq] using h
      obtain ⟨rfl, rfl⟩ := listed_append_inj (by decide) (by decide)
        (fun x hx => render_ne_of_shapeless (hx.elim (hitems x) (hothers x)) rfl)
        (fun x hx y hy => ih x hx y (hothers y hy)) hmembers
      exact ⟨rfl, rfl⟩
    | _ => cases hshape
  | obj fields hfields ih =>
    intro w hw r r' _ _ h
    have hshape := shape_eq_of_render (.obj fields hfields) hw h
    cases hw with
    | obj others hothers =>
      have hmembers : listed fieldChars fields ++ '\x7d' :: r =
          listed fieldChars others ++ '\x7d' :: r' := by
        simpa [render, renderFields_eq] using h
      obtain ⟨rfl, rfl⟩ := listed_append_inj (by decide) (by decide)
        (fun f _ => fieldChars_ne f)
        (fun f hf g hg _ _ => fieldChars_append_inj (ih f hf) (hothers g hg)) hmembers
      exact ⟨rfl, rfl⟩
    | _ => cases hshape

theorem text_injective (hv : Exact v) (hw : Exact w) (h : v.text = w.text) : v = w := by
  have hrender : v.render ++ [] = w.render ++ [] := by
    simpa [text] using congrArg String.toList h
  exact (hv.told w hw [] [] ends_nil ends_nil hrender).1

end values

section plain

def Plain (cs : List Char) : Prop := ∀ c ∈ cs, 32 ≤ c.toNat

variable {cs ds : List Char} {c : Char}

@[simp] theorem plain_nil : Plain [] := by simp [Plain]

@[simp] theorem plain_cons : Plain (c :: cs) ↔ 32 ≤ c.toNat ∧ Plain cs := by simp [Plain]

@[simp] theorem plain_append : Plain (cs ++ ds) ↔ Plain cs ∧ Plain ds := by
  simp only [Plain, List.mem_append, or_imp, forall_and]

theorem Plain.take (h : Plain cs) (n : Nat) : Plain (cs.take n) :=
  fun c hc => h c (List.mem_of_mem_take hc)

theorem Plain.drop (h : Plain cs) (n : Nat) : Plain (cs.drop n) :=
  fun c hc => h c (List.mem_of_mem_drop hc)

theorem plain_flatMap {α : Type} {f : α → List Char} {xs : List α} (h : ∀ x ∈ xs, Plain (f x)) :
    Plain (xs.flatMap f) := by
  intro c hc
  obtain ⟨x, hx, hc⟩ := List.mem_flatMap.mp hc
  exact h x hx c hc

theorem plain_toDigits (n : Nat) : Plain (Nat.toDigits 10 n) := by
  intro c hc
  have hdigit := isDigit_of_mem_toDigits hc
  simp only [Char.isDigit, Bool.and_eq_true, decide_eq_true_eq] at hdigit
  have hzero : '0'.toNat ≤ c.toNat := hdigit.1
  exact Nat.le_trans (by decide) hzero

theorem plain_intChars (n : Int) : Plain (intChars n) := by
  cases n with
  | ofNat n => exact plain_toDigits n
  | negSucc n => exact plain_cons.mpr ⟨by decide, plain_toDigits (n + 1)⟩

theorem plain_zeros (n : Nat) : Plain (List.replicate n '0') := by
  intro c hc
  rw [List.eq_of_mem_replicate hc]
  decide

theorem plain_decimal (d : Binary64.Decimal) : Plain d.text.toList := by
  have hdigits := plain_toDigits d.digits
  unfold Binary64.Decimal.text
  simp only
  generalize Nat.toDigits 10 d.digits = ds at hdigits ⊢
  split_ifs
  · simp
  · simp [hdigits, plain_zeros]
  · simp [hdigits.take, hdigits.drop]
  · simp [hdigits, plain_zeros]
  all_goals
    -- a mantissa of one digit has no point
    rcases ds with _ | ⟨c, _ | ⟨c', rest⟩⟩
    · simp [plain_toDigits]
    · simpa [plain_toDigits] using hdigits
    · simpa [plain_toDigits] using hdigits

theorem plain_shortest (x : Binary64) : Plain x.shortest.toList := by
  unfold Binary64.shortest
  rw [String.toList_append, plain_append]
  refine ⟨?_, plain_decimal _⟩
  split <;> simp

theorem plain_hexDigit : ∀ n < 16, 32 ≤ (hexDigit n).toNat := by decide

theorem plain_escape (c : Char) : Plain (escape c) := by
  unfold escape
  split_ifs with _ _ _ _ _ _ _ hcontrol
  pick_goal 8
  · have hhigh := plain_hexDigit (c.toNat / 16) (by omega)
    have hlow := plain_hexDigit (c.toNat % 16) (by omega)
    simp [hhigh, hlow]
  all_goals simp
  omega

theorem plain_quote (s : String) : Plain (quote s) := by
  have hinner : Plain (s.toList.flatMap escape) := plain_flatMap fun c _ => plain_escape c
  simp [quote, hinner]

theorem plain_listed {α : Type} {write : α → List Char} {xs : List α}
    (h : ∀ x ∈ xs, Plain (write x)) : Plain (listed write xs) := by
  cases xs with
  | nil => exact plain_nil
  | cons x xs =>
    refine plain_append.mpr ⟨h x List.mem_cons_self, plain_flatMap fun y hy => ?_⟩
    exact plain_cons.mpr ⟨by decide, h y (List.mem_cons_of_mem _ hy)⟩

theorem plain_render (v : Json) : Plain v.render := by
  induction v using induct with
  | null => simp [render]
  | int n => exact plain_intChars n
  | real x =>
    rw [render]
    split
    · exact plain_shortest x
    · simp
  | str s => exact plain_quote s
  | arr items ih => simp [render, renderItems_eq, plain_listed ih]
  | obj fields ih =>
    have hfields : Plain (listed fieldChars fields) :=
      plain_listed fun f hf => by simp [fieldChars, plain_quote, ih f hf]
    simp [render, renderFields_eq, hfields]

end plain

end GpuTelemetry.Json
