import GpuTelemetry.CommandLine.Run
import GpuTelemetry.Environment
import Std.Time.DateTime.Timestamp

namespace GpuTelemetry.CommandLine

def now : IO Int64 := do
  let t ← Std.Time.Timestamp.now
  return Int64.ofInt (t.toNanosecondsSinceUnixEpoch.val / 1000)

def surroundings : IO Surroundings := do
  let host ← IO.getEnv Environment.hostVariable
  return {
    now := ← now
    load := fun _ => none
    libraryPath := ← IO.getEnv Environment.libraryVariable
    hostAddress := Environment.hostAddress (host.map (·.toUTF8.toList)) }

partial def watch (f : Feed) (tick : Nat) : IO Unit := do
  IO.sleep 500
  let (line, f) := f.report (Simulator.Demo.violation tick (← now))
  line.forM IO.println
  (← IO.getStdout).flush
  if f.isDone then return
  watch f (tick + 1)

def execute : Plan → IO UInt32
  | .finished o => do
    o.out.forM IO.println
    o.err.forM IO.eprintln
    return UInt32.ofNat o.exit
  | .watching f => do
    watch f 0
    return 0

end GpuTelemetry.CommandLine

def main (args : List String) : IO UInt32 := do
  GpuTelemetry.CommandLine.execute
    (GpuTelemetry.CommandLine.run (← GpuTelemetry.CommandLine.surroundings) args)
