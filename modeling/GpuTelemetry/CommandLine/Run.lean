import GpuTelemetry.CommandLine.Command
import GpuTelemetry.CommandLine.Feed
import GpuTelemetry.Monitor.Query
import GpuTelemetry.Number.Places

namespace GpuTelemetry.CommandLine

structure Surroundings where
  now : Int64
  load : Native.Loader
  libraryPath : Option String := none
  hostAddress : Option String := none

structure Outcome where
  exit : Nat
  out : List String := []
  err : List String := []
  deriving DecidableEq, Repr

inductive Plan where
  | finished (o : Outcome)
  | watching (f : Feed)

def readingText : Reading → String
  | .int v => toString v.toInt
  | .real v => v.places 2
  | .text s => s
  | .blob b => "<" ++ toString b.toList.length ++ " bytes>"

def fieldText (s : Sample) : String :=
  s.entity.text ++ " field " ++
    String.ofList (Binary64.padLeft 4 ' ' (Nat.toDigits 10 s.field.toNat)) ++ ": "

def latestLine (json : Bool) (s : Sample) : String :=
  if json then s.toJson.text
  else fieldText s ++ if s.isOk then readingText s.reading else s.status.text

def sinceLine (json : Bool) (s : Sample) : String :=
  if json then s.toJson.text
  else toString s.time.toInt ++ " " ++ fieldText s ++ readingText s.reading

def failed (f : Failure) : Outcome := { exit := 1, err := ["Error: " ++ f.message] }

def unconnected (f : Failure) : Outcome where
  exit := 1
  err := ["Error: Failed to connect to DCGM", "", "Caused by:", "    " ++ f.message]

def engine (s : Surroundings) (i : Invocation) : Except Failure Nat × Monitor :=
  let m : Monitor := {}
  if i.simulated then (.ok m.engineCount, m.addEngine { sim := .demo s.now })
  else
    let mode := match i.host.or s.hostAddress with
      | some address => Native.Mode.standalone address
      | none => .embedded
    m.adopt (Native.openAny s.load mode s.libraryPath)

def perform (m : Monitor) (e : Nat) (json : Bool) : Command → Plan
  | .latest gpus fields live =>
    match (m.snapshot (some e) (gpus.map .gpu) fields (if live then Snapshot.live else 0) none).1 with
    | .error f => .finished (failed f)
    | .ok samples => .finished { exit := 0, out := samples.map (latestLine json) }
  | .since group fieldGroup since limit =>
    match (m.collect (some e) ((⟨group, fieldGroup, since, limit⟩ : History.Query).limited limit)
      none).1 with
    | .error f => .finished (failed f)
    | .ok r => .finished {
        exit := 0
        out := r.values.toList.map (sinceLine json)
        err := [toString r.values.size ++ " value(s), next cursor " ++ toString r.cursor.toInt] }
  | .violations conditions group count thresholds =>
    let m := m.addToken none
    match Feed.start m e { group, conditions, thresholds, token := m.tokens.length - 1 } count
        json with
    | .error f => .finished (failed f)
    | .ok feed => .watching feed

def usage : List String :=
  ["Usage: [--mock] [--host ADDRESS] [--json] COMMAND",
    "  latest [--gpus IDS] [--fields IDS] [--live]",
    "  since --field-group ID [--group ID] [--since CURSOR] [--limit COUNT]",
    "  violations [--conditions NAMES] [--group ID] [--count COUNT]",
    "    [--max-temperature DEGREES] [--max-power WATTS] [--max-retired-pages PAGES]"]

def version : String := "dcgm-bridge 0.1.0"

def run (s : Surroundings) (args : List String) : Plan :=
  if asksVersion args then .finished { exit := 0, out := [version] }
  else
    match invocation? args with
    | none => .finished { exit := 2, err := usage }
    | some i =>
      match engine s i with
      | (.error f, _) => .finished (unconnected f)
      | (.ok e, m) => perform (m.activate e).2 e i.json i.command

end GpuTelemetry.CommandLine
