import GpuTelemetry.Monitor.Subscribe

namespace GpuTelemetry.Monitor

def askHistory (m : Monitor) (e : Nat) (q : History.Query) (script : Option History.Reply) :
    History.Reply × Monitor :=
  m.call e (.history q.group q.fieldGroup q.since) (some ·.status) fun g =>
    match script with
    | some reply => (reply, g, [])
    | none => g.history q

def collect (m : Monitor) (engine : Option Nat) (q : History.Query)
    (script : Option History.Reply) : Except Failure History.Result × Monitor :=
  match m.resolve engine with
  | .error f => (.error f, m)
  | .ok e =>
    let (reply, m) := m.askHistory e q script
    (q.result reply, m)

def askSnapshot (m : Monitor) (e : Nat) (entities : List (UInt32 × UInt32)) (fields : List UInt16)
    (flags : UInt32) (slots : Array EntityRecord)
    (script : Option (Array EntityRecord → Snapshot.Answer)) :
    (Status × Array EntityRecord) × Monitor :=
  m.call e (.snapshot entities fields flags slots.size) (some ·.1) fun g =>
    match script with
    | some answer => (((answer slots).status, (answer slots).fill slots), g, [])
    | none => g.snapshot entities fields flags slots

def snapshot (m : Monitor) (engine : Option Nat) (entities : List Entity) (fields : List UInt16)
    (flags : UInt32) (script : Option (Array EntityRecord → Snapshot.Answer)) :
    Except Failure (List Sample) × Monitor :=
  match m.resolve engine with
  | .error f => (.error f, m)
  | .ok e =>
    match Snapshot.slots entities fields with
    | .error f => (.error f, m)
    | .ok n =>
      let (buffer, reserve) := m.reserve.lend n
      let ((status, slots), m) := { m with reserve }.askSnapshot e
        (entities.map Entity.codes) fields flags buffer.slots script
      (Snapshot.result status slots,
        { m with reserve := m.reserve.giveBack { buffer with slots } })

end GpuTelemetry.Monitor
