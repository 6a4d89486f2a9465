import GpuTelemetry.Failure
import GpuTelemetry.Sample

namespace GpuTelemetry.History

structure Delivery where
  addressed : Bool := true
  group : UInt32
  id : UInt32
  records : Option (List Record)
  count : Int

namespace Delivery

def batch (d : Delivery) : List Record :=
  match d.records with
  | some rs => rs.take d.count.toNat
  | none => []

def samples (d : Delivery) : List Sample := d.batch.map (.ofRecord d.group d.id)

end Delivery

structure Reply where
  deliveries : List Delivery
  cursor : Option Int64
  status : Status

def goOn : Int32 := 0

structure Staging where
  limit : Nat
  values : Array Sample := #[]
  capacity : Nat
  overflowed : Bool := false
  calls : Nat := 0

namespace Staging

def start (limit : Nat) : Staging := { limit, capacity := min Limits.stagingStart limit }

def grown (capacity needed limit : Nat) : Nat :=
  if needed ≤ capacity then capacity
  else
    min (max (max (Limits.saturate (capacity * 2)) Limits.stagingGrowth) needed) (max limit needed)

def add (s : Staging) (group id : UInt32) (batch : List Record) : Staging :=
  let s := { s with calls := s.calls + 1 }
  if s.overflowed then s
  else
    let needed := Limits.saturate (s.values.size + batch.length)
    if s.limit < needed then { s with overflowed := true }
    else
      { s with
        values := s.values ++ (batch.map (Sample.ofRecord group id)).toArray
        capacity := grown s.capacity needed s.limit }

def receive (s : Staging) (d : Delivery) : Int32 × Staging :=
  if d.addressed then (goOn, s.add d.group d.id d.batch) else (goOn, s)

def receiveAll (s : Staging) (ds : List Delivery) : Staging :=
  ds.foldl (fun s d => (s.receive d).2) s

end Staging

structure Query where
  group : UInt64
  fieldGroup : UInt64
  since : Int64 := 0
  limit : Nat := Limits.historyValues

structure Result where
  values : Array Sample
  cursor : Int64

namespace Query

def limited (q : Query) (n : Nat) : Query := { q with limit := min n Limits.historyValues }

def result (q : Query) (reply : Reply) : Except Failure Result :=
  let staged := (Staging.start q.limit).receiveAll reply.deliveries
  if staged.overflowed then .error (.limitExceeded q.limit)
  else
    match reply.status.check "dcgmGetValuesSince_v2" with
    | .error f => .error f
    | .ok _ => .ok ⟨staged.values, reply.cursor.getD q.since⟩

end Query

end GpuTelemetry.History
