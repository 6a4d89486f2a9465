import GpuTelemetry.Number.Binary64

namespace GpuTelemetry.Binary64

def scaled (x : Binary64) (places : Nat) : Nat :=
  roundEven (x.significand <<< x.scale * Nat.pow 10 places) (1 <<< 1074)

def padLeft (width : Nat) (fill : Char) (digits : List Char) : List Char :=
  List.replicate (width - digits.length) fill ++ digits

def places (x : Binary64) (n : Nat) : String :=
  if x.isNaN then "NaN"
  else
    let sign := if x.negative then "-" else ""
    if x.isFinite then
      let ds := padLeft (n + 1) '0' (Nat.toDigits 10 (x.scaled n))
      let k := ds.length - n
      sign ++ String.ofList (ds.take k) ++ "." ++ String.ofList (ds.drop k)
    else sign ++ "inf"

end GpuTelemetry.Binary64
