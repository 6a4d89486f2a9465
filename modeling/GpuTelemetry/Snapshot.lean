import GpuTelemetry.Failure
import GpuTelemetry.Reserve
import GpuTelemetry.Sample

namespace GpuTelemetry.Snapshot

def live : UInt32 := 1

def layout : Layout EntityRecord := ⟨.blank, EntityRecord.size⟩

def emptyReserve : Reserve EntityRecord where
  layout := layout
  maxSlots := Limits.reserveSlots
  maxBuffers := Limits.reserveBuffers
  maxBytes := Limits.reserveBytes

def slots (entities : List Entity) (fields : List UInt16) : Except Failure Nat :=
  let n := Limits.saturate (entities.length * fields.length)
  if entities.isEmpty then .error (.invalidArgument "no entities requested")
  else if fields.isEmpty then .error (.invalidArgument "no fields requested")
  else if Limits.snapshotValues < n then .error (.limitExceeded Limits.snapshotValues)
  else .ok n

structure Answer where
  status : Status := .ok
  written : Nat → Option EntityRecord

def Answer.fill (a : Answer) (slots : Array EntityRecord) : Array EntityRecord :=
  slots.mapIdx fun i old => (a.written i).getD old

def result (status : Status) (slots : Array EntityRecord) : Except Failure (List Sample) :=
  match status.check "dcgmEntitiesGetLatestValues" with
  | .error f => .error f
  | .ok _ => .ok (slots.toList.map .ofEntityRecord)

end GpuTelemetry.Snapshot
