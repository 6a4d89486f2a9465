namespace GpuTelemetry.Calendar

structure Instant where
  seconds : Int
  nanos : Nat
  deriving DecidableEq, Repr

def firstSecond : Int := -8334601228800

def lastSecond : Int := 8210266876799

def utc? (micros : Int64) : Option Instant :=
  let seconds := micros.toInt.fdiv 1000000
  if firstSecond ≤ seconds ∧ seconds ≤ lastSecond then
    some ⟨seconds, (micros.toInt.fmod 1000000).toNat * 1000⟩
  else none

end GpuTelemetry.Calendar
