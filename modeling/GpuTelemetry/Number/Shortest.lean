import GpuTelemetry.Number.Binary64

/-!
The shortest decimal text of a binary64 number. Of the decimals that read back to the number it has
the fewest digits, and of those it is the nearest.
-/

namespace GpuTelemetry.Binary64

structure Decimal where
  digits : Nat
  exponent : Int

def lowGap (x : Binary64) : Nat :=
  if x.fraction = 0 ∧ 1 < x.exponent then 1 else 2

def ratio (x : Binary64) (k : Nat) (e : Int) : Nat × Nat :=
  let num := k <<< x.scale * Nat.pow 10 (-e).toNat
  let den := 1 <<< 1076 * Nat.pow 10 e.toNat
  (num, den)

def reads (x : Binary64) (d : Nat) (e : Int) : Bool :=
  let (lo, den) := x.ratio (4 * x.significand - x.lowGap) e
  let (hi, _) := x.ratio (4 * x.significand + 2) e
  let v := d * den
  if x.significand % 2 = 0 then lo ≤ v && v ≤ hi else lo < v && v < hi

def onGrid (x : Binary64) (e : Int) : Option Nat :=
  let (num, den) := x.ratio (4 * x.significand) e
  let d := num / den
  let r := num % den
  match x.reads d e && d != 0, x.reads (d + 1) e with
  | true, true => some (if 2 * r < den then d else if den < 2 * r then d + 1 else d + d % 2)
  | true, false => some d
  | false, true => some (d + 1)
  | false, false => none

def magnitude (x : Binary64) : Nat → Int → Int
  | 0, e => e
  | fuel + 1, e =>
    let (num, den) := x.ratio (4 * x.significand) (e - 1)
    if num < den then x.magnitude fuel (e - 1) else e

def search (x : Binary64) : Nat → Int → Decimal
  | 0, e => ⟨0, e⟩
  | fuel + 1, e =>
    match x.onGrid e with
    | some d => ⟨d, e⟩
    | none => x.search fuel (e - 1)

def Decimal.strip : Nat → Decimal → Decimal
  | 0, d => d
  | fuel + 1, d =>
    if d.digits ≠ 0 ∧ d.digits % 10 = 0 then Decimal.strip fuel ⟨d.digits / 10, d.exponent + 1⟩ else d

def decimal (x : Binary64) : Decimal :=
  if x.isZero then ⟨0, 0⟩ else (x.search 18 (x.magnitude 640 310 - 1)).strip 20

def Decimal.text (d : Decimal) : String :=
  let ds := Nat.toDigits 10 d.digits
  let point := (ds.length : Int) + d.exponent
  let zeros (n : Int) := List.replicate n.toNat '0'
  if d.digits = 0 then "0.0"
  else if 0 ≤ d.exponent ∧ point ≤ 16 then
    String.ofList (ds ++ zeros d.exponent ++ ['.', '0'])
  else if 0 < point ∧ point ≤ 16 then
    String.ofList (ds.take point.toNat ++ '.' :: ds.drop point.toNat)
  else if -5 < point ∧ point ≤ 0 then
    String.ofList (['0', '.'] ++ zeros (-point) ++ ds)
  else
    let mantissa := match ds with
      | [c] => [c]
      | c :: rest => c :: '.' :: rest
      | [] => []
    let sign := if 0 < point then "+" else "-"
    String.ofList mantissa ++ "e" ++ sign ++ toString (point - 1).natAbs

def shortest (x : Binary64) : String :=
  (if x.negative then "-" else "") ++ x.decimal.text

end GpuTelemetry.Binary64
