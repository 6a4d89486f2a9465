import GpuTelemetry.Proofs.FirstFit
import GpuTelemetry.Proofs.Journal
import GpuTelemetry.Proofs.Snapshots

namespace GpuTelemetry

namespace Reserve

variable {α : Type} {r : Reserve α} {b c : Buffer α} {size : Nat}

theorem giveBack_congr (h : b.capacity = c.capacity) : r.giveBack b = r.giveBack c := by
  have hclear : b.clear = c.clear := by simp [Buffer.clear, h]
  unfold giveBack
  rw [hclear]

end Reserve

def Event.answered? : Event → Option (Nat × EngineCall × Option Status)
  | .called e what answer => some (e, what, answer)
  | _ => none

namespace Monitor

variable {m : Monitor} {engine : Option Nat} {e n : Nat} {entities : List Entity}
  {fields : List UInt16} {flags : UInt32} {script : Option (Array EntityRecord → Snapshot.Answer)}

def answers (m : Monitor) : List (Nat × EngineCall × Option Status) := m.said Event.answered?

theorem snapshot_rejected (he : m.resolve engine = .ok e) {f : Failure}
    (hslots : Snapshot.slots entities fields = .error f) :
    m.snapshot engine entities fields flags script = (.error f, m) := by
  simp only [snapshot, he, hslots]

def lent (m : Monitor) (n : Nat) : Monitor := { m with reserve := (m.reserve.lend n).2 }

def served (m : Monitor) (e n : Nat) (entities : List Entity) (fields : List UInt16) (flags : UInt32)
    (script : Option (Array EntityRecord → Snapshot.Answer)) : (Status × Array EntityRecord) × Monitor :=
  (m.lent n).askSnapshot e (entities.map Entity.codes) fields flags (m.reserve.lend n).1.slots script

theorem snapshot_served (he : m.resolve engine = .ok e)
    (hslots : Snapshot.slots entities fields = .ok n) :
    let done := m.served e n entities fields flags script
    m.snapshot engine entities fields flags script =
      (Snapshot.result done.1.1 done.1.2,
        { done.2 with reserve := (m.reserve.lend n).2.giveBack (m.reserve.lend n).1 }) := by
  intro done
  have hback : (m.reserve.lend n).2.giveBack { (m.reserve.lend n).1 with slots := done.1.2 } =
      (m.reserve.lend n).2.giveBack (m.reserve.lend n).1 := Reserve.giveBack_congr rfl
  rw [← hback]
  simp only [snapshot, he, hslots]
  rfl

end Monitor

namespace Shared

open Reserve (Window)

def returned : List Step :=
  [.act .addEngine, .use (.acquire 5), .use (.acquire 3), .use (.release 0), .use (.release 0)]

end Shared

end GpuTelemetry
