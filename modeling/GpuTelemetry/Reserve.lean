import GpuTelemetry.Limits

/-!
A reserve of record buffers. Released buffers are emptied and wait on a list, to serve later requests of
a similar size; a buffer is filled up with blank slots as it is lent.
-/

namespace GpuTelemetry

structure Layout (α : Type) where
  blank : α
  bytes : Nat

structure Buffer (α : Type) where
  capacity : Nat
  slots : Array α := #[]

namespace Buffer

variable {α : Type}

def clear (b : Buffer α) : Buffer α := { b with slots := #[] }

def resize (b : Buffer α) (size : Nat) (x : α) : Buffer α :=
  { b with slots := b.slots.take size ++ Array.replicate (size - b.slots.size) x }

end Buffer

structure Reserve (α : Type) where
  layout : Layout α
  maxSlots : Nat
  maxBuffers : Nat
  maxBytes : Nat
  idle : List (Buffer α) := []

namespace Reserve

variable {α : Type}

def byteSize (r : Reserve α) (b : Buffer α) : Nat :=
  Limits.saturate (b.capacity * r.layout.bytes)

def idleBytes (r : Reserve α) : Nat := r.idle.foldr (fun b n => r.byteSize b + n) 0

def fits (size : Nat) (b : Buffer α) : Bool :=
  size ≤ b.capacity && b.capacity ≤ Limits.saturate (size * Limits.reserveFit)

def removeSwap {β : Type} (l : List β) (i : Nat) : List β :=
  match l.getLast? with
  | some b => (l.set i b).dropLast
  | none => []

def pick (r : Reserve α) (size : Nat) : Buffer α × Reserve α :=
  match r.idle.findIdx? (fits size) with
  | some i => (r.idle.getD i ⟨size, #[]⟩, { r with idle := removeSwap r.idle i })
  | none => (⟨size, #[]⟩, r)

def lend (r : Reserve α) (size : Nat) : Buffer α × Reserve α :=
  let (b, rest) := r.pick size
  (b.resize size r.layout.blank, rest)

def lend? (r : Reserve α) (size : Nat) : Option (Buffer α × Reserve α) :=
  if !r.idle.any (fits size) && Limits.maxAllocation < size * r.layout.bytes then none
  else some (r.lend size)

def isOversized (r : Reserve α) (b : Buffer α) : Bool := r.maxSlots < b.capacity

def giveBack (r : Reserve α) (b : Buffer α) : Reserve α :=
  let b := b.clear
  if r.isOversized b then r
  else if r.maxBuffers ≤ r.idle.length then r
  else if r.maxBytes < Limits.saturate (r.idleBytes + r.byteSize b) then r
  else { r with idle := r.idle ++ [b] }

end Reserve

end GpuTelemetry
