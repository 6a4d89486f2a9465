namespace GpuTelemetry

structure Binary64 where
  bits : UInt64
  deriving DecidableEq, Repr

namespace Binary64

def negative (x : Binary64) : Bool := x.bits >>> 63 == 1

def leading : Nat := 1 <<< 52

def exponent (x : Binary64) : Nat := x.bits.toNat / leading % 2048

def fraction (x : Binary64) : Nat := x.bits.toNat % leading

def isFinite (x : Binary64) : Bool := x.exponent != 2047

def isNaN (x : Binary64) : Bool := x.exponent == 2047 && x.fraction != 0

def isZero (x : Binary64) : Bool := x.exponent == 0 && x.fraction == 0

def significand (x : Binary64) : Nat :=
  if x.exponent = 0 then x.fraction else x.fraction + leading

def scale (x : Binary64) : Nat := x.exponent - 1

def same (x y : Binary64) : Bool :=
  !x.isNaN && !y.isNaN && (x.bits == y.bits || (x.isZero && y.isZero))

def roundEven (n d : Nat) : Nat :=
  let q := n / d
  let r := n % d
  if 2 * r < d then q else if d < 2 * r then q + 1 else q + q % 2

def ofNat (n : Nat) : Binary64 :=
  if n = 0 then ⟨0⟩
  else
    let e := n.log2
    let m := if e ≤ 52 then n <<< (52 - e) else roundEven n (1 <<< (e - 52))
    ⟨UInt64.ofNat ((e + 1022) * leading + m)⟩

def negate (x : Binary64) : Binary64 := ⟨x.bits ^^^ 0x8000000000000000⟩

def ofInt : Int → Binary64
  | .ofNat n => ofNat n
  | .negSucc n => (ofNat (n + 1)).negate

end Binary64

end GpuTelemetry
