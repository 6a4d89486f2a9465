/-!
UTF-8. Reading replaces each maximal invalid subpart by U+FFFD: the longest start of a character
that the bytes still allow, or else a single byte.
-/

namespace GpuTelemetry.Text.Utf8

structure Pending where
  need : Nat
  lo : UInt8
  hi : UInt8
  value : Nat
  deriving DecidableEq, Repr

inductive State where
  | start
  | inside (p : Pending)
  deriving DecidableEq, Repr

def replacement : Char := '\uFFFD'

def first (b : UInt8) : List Char × State :=
  let v := b.toNat
  let enter (need : Nat) (lo hi : UInt8) (value : Nat) := ([], State.inside ⟨need, lo, hi, value⟩)
  if b < 0x80 then ([Char.ofNat v], .start)
  else if b < 0xC2 then ([replacement], .start)
  else if b < 0xE0 then enter 1 0x80 0xBF (v - 0xC0)
  else if b = 0xE0 then enter 2 0xA0 0xBF 0
  else if b = 0xED then enter 2 0x80 0x9F 13
  else if b < 0xF0 then enter 2 0x80 0xBF (v - 0xE0)
  else if b = 0xF0 then enter 3 0x90 0xBF 0
  else if b < 0xF4 then enter 3 0x80 0xBF (v - 0xF0)
  else if b = 0xF4 then enter 3 0x80 0x8F 4
  else ([replacement], .start)

def step : State → UInt8 → List Char × State
  | .start, b => first b
  | .inside p, b =>
    if p.lo ≤ b ∧ b ≤ p.hi then
      let value := p.value * 64 + (b.toNat - 0x80)
      if p.need = 1 then ([Char.ofNat value], .start)
      else ([], .inside ⟨p.need - 1, 0x80, 0xBF, value⟩)
    else (replacement :: (first b).1, (first b).2)

def scan : State → List UInt8 → List Char
  | .start, [] => []
  | .inside _, [] => [replacement]
  | q, b :: rest => (step q b).1 ++ scan (step q b).2 rest

def decode (bytes : List UInt8) : List Char := scan .start bytes

def encode (s : List Char) : List UInt8 := s.flatMap String.utf8EncodeChar

def decode? (bytes : List UInt8) : Option (List Char) :=
  if encode (decode bytes) = bytes then some (decode bytes) else none

end GpuTelemetry.Text.Utf8
