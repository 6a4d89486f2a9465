import GpuTelemetry.Assign
import GpuTelemetry.History
import GpuTelemetry.Violation

/-!
An engine inside the process. What it answers is set beforehand; policies and registrations behave as
those of a real engine: a new policy replaces the whole policy of its group, and unregistering a
condition takes it from every registration of the group.
-/

namespace GpuTelemetry

inductive Sink where
  | subscriptions | recorder
  deriving DecidableEq, Repr

structure Registration where
  group : GroupId
  mask : UInt32
  user : Nat
  sink : Sink := .subscriptions
  deriving DecidableEq, Repr

def Registration.cleared (r : Registration) (group : GroupId) (mask : UInt32) : Registration :=
  if r.group = group then { r with mask := r.mask &&& ~~~mask } else r

def Record.overwritten (r : Record) : Record :=
  { r with
    field := 0xffff
    status := Status.genericError.code
    time := -1
    payload := .ofBytes (Block.wordBytes 0x8000000000000000 ++ r.payload.toList.drop 8) }

structure Batch where
  group : UInt32
  id : UInt32
  records : List Record

namespace Batch

def delivery (b : Batch) : History.Delivery where
  group := b.group
  id := b.id
  records := some b.records
  count := b.records.length

def overwritten (b : Batch) : Batch := { b with records := b.records.map Record.overwritten }

end Batch

/-- Calls back with a copy of each batch, until an answer is not zero, and overwrites the copy as soon as
its callback has returned. -/
def handOut {σ : Type} (callback : σ → History.Delivery → Int32 × σ) : List Batch → σ → List Batch × σ
  | [], s => ([], s)
  | b :: rest, s =>
    let (answer, s) := callback s b.delivery
    if answer = 0 then
      let (copies, s) := handOut callback rest s
      (b.overwritten :: copies, s)
    else (b.overwritten :: rest, s)

structure Simulator where
  batches : List Batch := []
  historyStatus : Status := .ok
  cursor : Int64 := 0
  historyCalls : Nat := 0
  latest : List EntityRecord := []
  snapshotStatus : Status := .ok
  snapshotCalls : Nat := 0
  lastPolicy : Option (GroupId × Policy) := none
  policies : GroupId → Option Policy := fun _ => none
  policyStatus : Status := .ok
  registerStatus : Status := .ok
  registrations : List Registration := []
  unregistered : List (GroupId × UInt32) := []

namespace Simulator

def pushBatch (s : Simulator) (b : Batch) : Simulator := { s with batches := s.batches ++ [b] }

def setLatest (s : Simulator) (group id : UInt32) (r : Record) : Simulator :=
  { s with latest := r.withEntity group id :: s.latest }

def history (s : Simulator) (answer : Nat → Int32) : History.Reply × Simulator :=
  let tell (told : List History.Delivery) (d : History.Delivery) := (answer told.length, told ++ [d])
  let (_, told) := handOut tell s.batches []
  (⟨told, some s.cursor, s.historyStatus⟩, { s with historyCalls := s.historyCalls + 1 })

def lookup (s : Simulator) (group id : UInt32) (field : UInt16) : EntityRecord :=
  match s.latest.find? fun r => r.group == group && r.id == id && r.field == field with
  | some r => r
  | none => { group, id, field, tag := Tag.int64, status := Status.noData.code }

def snapshot (s : Simulator) (entities : List (UInt32 × UInt32)) (fields : List UInt16)
    (slots : Array EntityRecord) : (Status × Array EntityRecord) × Simulator :=
  if slots.size ≠ entities.length * fields.length then ((.badParam, slots), s)
  else
    let s := { s with snapshotCalls := s.snapshotCalls + 1 }
    if s.snapshotStatus.isOk then
      ((.ok, (entities.flatMap fun (g, i) => fields.map (s.lookup g i)).toArray), s)
    else ((s.snapshotStatus, slots), s)

def setPolicy (s : Simulator) (group : GroupId) (p : Policy) : Status × Simulator :=
  if s.policyStatus.isOk then
    (.ok, { s with
      lastPolicy := some (group, p), policies := assign s.policies group (some p) })
  else (s.policyStatus, s)

def register (s : Simulator) (r : Registration) : Status × Simulator :=
  if s.registerStatus.isOk then (.ok, { s with registrations := s.registrations ++ [r] })
  else (s.registerStatus, s)

def unregister (s : Simulator) (group : GroupId) (mask : UInt32) : Status × Simulator :=
  (.ok, { s with
    unregistered := s.unregistered ++ [(group, mask)]
    registrations :=
      (s.registrations.map (·.cleared group mask)).filter (·.mask != 0) })

def registeredMask (s : Simulator) : UInt32 :=
  s.registrations.foldl (fun m r => m ||| r.mask) 0

def isTarget (s : Simulator) (condition : UInt32) (r : Registration) : Bool :=
  r.mask &&& condition != 0 &&
    match s.policies r.group with
    | some p => p.condition &&& condition != 0
    | none => false

def targets (s : Simulator) (condition : UInt32) : List Registration :=
  s.registrations.filter (s.isTarget condition)

namespace Demo

def gpuTemperature : UInt16 := 150
def powerUsage : UInt16 := 155
def gpuUtilization : UInt16 := 203
def deviceName : UInt16 := 50

def temperature (gpu : Nat) (now : Int64) : Record :=
  .ofInt gpuTemperature now (Int64.ofNat (61 + gpu * 4))

def power (gpu : Nat) (now : Int64) : Record :=
  .ofReal powerUsage now ⟨if gpu = 0 then 0x4066d00000000000 else 0x4068100000000000⟩

def utilization (gpu : Nat) (now : Int64) : Record :=
  .ofInt gpuUtilization now (Int64.ofNat (87 - gpu * 30))

def name (now : Int64) : Record := .ofText deviceName now "NVIDIA H100 80GB HBM3"

def addGpu (now : Int64) (s : Simulator) (gpu : Nat) : Simulator :=
  let id := UInt32.ofNat gpu
  let code := EntityGroup.gpu.code
  (((s.pushBatch ⟨code, id, [temperature gpu now, power gpu now, utilization gpu now]⟩).setLatest
    code id (temperature gpu now)).setLatest code id (power gpu now)).setLatest code id (name now)

def violation (tick : Nat) (now : Int64) : Response :=
  let gpu := UInt32.ofNat (tick % 2)
  if tick % 3 = 0 then .report .xid gpu 13 now
  else if tick % 3 = 1 then .report .thermal gpu 104 now
  else .report .power gpu 312 now

end Demo

def demo (now : Int64) : Simulator :=
  { [0, 1].foldl (Demo.addGpu now) {} with cursor := now + 1 }

end Simulator

end GpuTelemetry
