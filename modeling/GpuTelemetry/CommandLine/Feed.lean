import GpuTelemetry.Monitor.Caller
import GpuTelemetry.Monitor.Progress

namespace GpuTelemetry.CommandLine

structure Feed where
  monitor : Monitor
  engine : Nat
  subscription : Nat
  count : Option Nat
  json : Bool
  seen : Nat := 0

def violationLine (json : Bool) (v : Violation) : String := if json then v.toJson.text else v.text

namespace Feed

def start (m : Monitor) (engine : Nat) (wish : Monitor.Wish) (count : Option Nat) (json : Bool) :
    Except Failure Feed :=
  let m := (m.subscribe 0 { wish with engine := some engine }).settle
  match m.outcome? 0 with
  | some (.ok subscription) => .ok { monitor := m, engine, subscription, count, json }
  | some (.error e) => .error e
  | none => .error Monitor.resolve.uninitialized

def isDone (f : Feed) : Bool :=
  match f.count with
  | some n => f.seen != 0 && n ≤ f.seen
  | none => false

def report (f : Feed) (r : Response) : Option String × Feed :=
  match (f.monitor.fire 0 f.engine r 1 false).settle.receive f.subscription with
  | (.occurrence v, m) =>
    (some (violationLine f.json v), { f with monitor := m.settle, seen := f.seen + 1 })
  | (_, m) => (none, { f with monitor := m })

end Feed

end GpuTelemetry.CommandLine
