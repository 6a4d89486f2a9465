import GpuTelemetry.Limits
import GpuTelemetry.Number.Binary64
import GpuTelemetry.Policy
import GpuTelemetry.Text.Utf8

/-!
Native records. A payload is a block of 4096 bytes; which of them are live depends on the type tag of
its record.
-/

namespace GpuTelemetry

def blockSize : Nat := 4096

def trimZeros : List UInt8 → List UInt8
  | [] => []
  | b :: rest =>
    let r := trimZeros rest
    if b = 0 ∧ r = [] then [] else b :: r

theorem length_trimZeros_le (bs : List UInt8) : (trimZeros bs).length ≤ bs.length := by
  induction bs with
  | nil => simp [trimZeros]
  | cons b rest ih =>
    rw [trimZeros]
    split
    · simp
    · simpa using ih

theorem trimZeros_trimZeros (bs : List UInt8) : trimZeros (trimZeros bs) = trimZeros bs := by
  induction bs with
  | nil => rfl
  | cons b rest ih =>
    by_cases h : b = 0 ∧ trimZeros rest = []
    · simp [trimZeros, h]
    · rw [trimZeros, if_neg h, trimZeros, ih, if_neg h]

structure Block where
  bytes : List UInt8 := []
  length_le : bytes.length ≤ blockSize := by decide
  trimmed : trimZeros bytes = bytes := by rfl
  deriving DecidableEq

namespace Block

def zero : Block := {}

def ofBytes (bs : List UInt8) : Block where
  bytes := trimZeros (bs.take blockSize)
  length_le := Nat.le_trans (length_trimZeros_le _) (List.length_take_le ..)
  trimmed := trimZeros_trimZeros _

def overlay (fill : UInt8) (start : Nat) (bs : List UInt8) : Block :=
  let padded := List.replicate start fill ++ bs
  ofBytes (padded ++ List.replicate (if fill = 0 then 0 else blockSize - padded.length) fill)

def byte (b : Block) (i : Nat) : UInt8 := b.bytes.getD i 0

def toList (b : Block) : List UInt8 :=
  b.bytes ++ List.replicate (blockSize - b.bytes.length) 0

def word (b : Block) : UInt64 :=
  UInt64.ofNat ((List.range 8).foldr (fun i n => (b.byte i).toNat + 256 * n) 0)

def wordBytes (w : UInt64) : List UInt8 :=
  (List.range 8).map fun i => UInt8.ofNat (w.toNat >>> (8 * i))

def ofWord (w : UInt64) : Block := ofBytes (wordBytes w)

def stringBytes (b : Block) : List UInt8 := (b.toList.take 256).takeWhile (· != 0)

end Block

/-- Bytes of any number. Only those before the zeros at their end are kept. -/
structure Blob where
  size : Nat
  bytes : List UInt8
  length_le : bytes.length ≤ size
  trimmed : trimZeros bytes = bytes
  deriving DecidableEq

namespace Blob

def ofBytes (bs : List UInt8) : Blob where
  size := bs.length
  bytes := trimZeros bs
  length_le := length_trimZeros_le bs
  trimmed := trimZeros_trimZeros bs

def toList (b : Blob) : List UInt8 := b.bytes ++ List.replicate (b.size - b.bytes.length) 0

end Blob

def Block.toBlob (b : Block) : Blob where
  size := blockSize
  bytes := b.bytes
  length_le := b.length_le
  trimmed := b.trimmed

structure Record where
  version : UInt32 := versionWord 4120 1
  field : UInt16 := 0
  tag : UInt16 := 0
  status : Int32 := 0
  time : Int64 := 0
  payload : Block := .zero
  deriving DecidableEq

structure EntityRecord where
  version : UInt32 := versionWord 4128 2
  group : UInt32 := 0
  id : UInt32 := 0
  field : UInt16 := 0
  tag : UInt16 := 0
  status : Int32 := 0
  time : Int64 := 0
  payload : Block := .zero
  deriving DecidableEq

namespace Tag

def double : UInt16 := 100
def int64 : UInt16 := 105
def string : UInt16 := 115
def timestamp : UInt16 := 116
def binary : UInt16 := 98

end Tag

namespace Record

def size : Nat := 4120

def blank : Record := {}

def ofInt (field : UInt16) (time value : Int64) : Record :=
  { field, tag := Tag.int64, time, payload := .ofWord value.toUInt64 }

def ofReal (field : UInt16) (time : Int64) (value : Binary64) : Record :=
  { field, tag := Tag.double, time, payload := .ofWord value.bits }

def ofText (field : UInt16) (time : Int64) (value : String) : Record :=
  { field, tag := Tag.string, time,
    payload := .ofBytes ((Text.Utf8.encode value.toList).take 255) }

def series (field : UInt16) (start : Int64) (count : Nat) : List Record :=
  (List.range count).map fun i => ofInt field (start + Int64.ofNat i) (Int64.ofNat i)

def withEntity (r : Record) (group id : UInt32) : EntityRecord :=
  { group, id, field := r.field, tag := r.tag, status := r.status, time := r.time,
    payload := r.payload }

end Record

namespace EntityRecord

def size : Nat := 4128

def blank : EntityRecord := {}

end EntityRecord

end GpuTelemetry
