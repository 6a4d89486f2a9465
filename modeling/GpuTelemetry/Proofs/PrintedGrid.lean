import GpuTelemetry.CommandLine.Run
import GpuTelemetry.Proofs.Arguments
import GpuTelemetry.Proofs.JsonLines
import GpuTelemetry.Proofs.LatestValues
import Mathlib.Data.List.Find

namespace GpuTelemetry

namespace Simulator.Demo

structure Value where
  gpu : UInt32
  field : UInt16
  kind : Kind
  reading : Reading
  text : String

def values : List Value :=
  [⟨1, 50, .string, .text "NVIDIA H100 80GB HBM3", "NVIDIA H100 80GB HBM3"⟩,
    ⟨1, 155, .double, .real ⟨0x4068100000000000⟩, "192.50"⟩,
    ⟨1, 150, .int64, .int 65, "65"⟩,
    ⟨0, 50, .string, .text "NVIDIA H100 80GB HBM3", "NVIDIA H100 80GB HBM3"⟩,
    ⟨0, 155, .double, .real ⟨0x4066d00000000000⟩, "182.50"⟩,
    ⟨0, 150, .int64, .int 61, "61"⟩]

def value? (gpu : UInt32) (field : UInt16) : Option Value :=
  values.find? fun v => v.gpu == gpu && v.field == field

def sample (now : Int64) (gpu : UInt32) (field : UInt16) : Sample :=
  match value? gpu field with
  | some v => ⟨.gpu gpu, field, v.kind, .ok, now, v.reading⟩
  | none => ⟨.gpu gpu, field, .int64, .noData, 0, .int 0⟩

def text (gpu : UInt32) (field : UInt16) : String :=
  match value? gpu field with
  | some v => v.text
  | none => "No data (DCGM_ST_NO_DATA, -14)"

def Value.record (now : Int64) (v : Value) : EntityRecord :=
  let r : Record := match v.reading with
    | .int n => .ofInt v.field now n
    | .real x => .ofReal v.field now x
    | .text s => .ofText v.field now s
    | .blob _ => .blank
  r.withEntity EntityGroup.gpu.code v.gpu

theorem latest_eq (now : Int64) : (demo now).latest = values.map (Value.record now) := rfl

theorem sample_record (now : Int64) {v : Value} (h : v ∈ values) :
    Sample.ofEntityRecord (v.record now) = ⟨.gpu v.gpu, v.field, v.kind, .ok, now, v.reading⟩ := by
  -- the time is no part of what is decoded
  have hreadings : ∀ v ∈ values,
      Reading.ofBlock (.ofTag (v.record 0).tag) (v.record 0).payload = v.reading := by
    decide +kernel
  have hread := hreadings v h
  simp only [values, List.mem_cons, List.not_mem_nil, or_false] at h
  rcases h with rfl | rfl | rfl | rfl | rfl | rfl
  all_goals exact congrArg (Sample.mk _ _ _ _ _) hread

theorem sample_lookup (now : Int64) (gpu : UInt32) (field : UInt16) :
    Sample.ofEntityRecord ((demo now).lookup EntityGroup.gpu.code gpu field) = sample now gpu field := by
  have haddress (v : Value) (hv : v ∈ values) :
      isFor (EntityGroup.gpu.code, gpu) field (v.record now) = (v.gpu == gpu && v.field == field) := by
    simp only [values, List.mem_cons, List.not_mem_nil, or_false] at hv
    rcases hv with rfl | rfl | rfl | rfl | rfl | rfl
    all_goals rfl
  have hfind : (demo now).latest.find? (isFor (EntityGroup.gpu.code, gpu) field) =
      (value? gpu field).map (Value.record now) := by
    rw [latest_eq, List.find?_map, value?]
    exact congrArg _ (List.find?_congr haddress)
  rw [lookup_eq (demo now) (EntityGroup.gpu.code, gpu), hfind, sample]
  cases hv : value? gpu field with
  | none =>
    have hmissing : Status.ofCode Status.noData.code = .noData := by decide
    have hzero : Reading.ofBlock (.ofTag Tag.int64) .zero = .int 0 := by decide
    simp only [Option.map_none, Option.getD_none, Sample.ofEntityRecord, hmissing, hzero]
    rfl
  | some v =>
    obtain ⟨rfl, rfl⟩ : v.gpu = gpu ∧ v.field = field := by simpa using List.find?_some hv
    exact sample_record now (List.mem_of_find?_eq_some hv)

end Simulator.Demo

open Simulator (Demo.sample Demo.text)

namespace Monitor

variable {gpus : List UInt32} {fields : List UInt16}

def simulating (now : Int64) : Monitor := ((({} : Monitor).addEngine { sim := .demo now }).activate 0).2

theorem resolve_simulating (now : Int64) : (simulating now).resolve (some 0) = .ok 0 := rfl

theorem snapshot_simulating (now : Int64) (some_gpu : gpus ≠ []) (some_field : fields ≠ [])
    (fits : gpus.length * fields.length ≤ Limits.snapshotValues) (flags : UInt32) :
    ((simulating now).snapshot (some 0) (gpus.map .gpu) fields flags none).1 =
      .ok (gpus.flatMap fun g => fields.map (Demo.sample now g)) := by
  have some_entity : gpus.map Entity.gpu ≠ [] := by simpa using some_gpu
  have hslots := Snapshot.slots_eq some_entity some_field (by simpa using fits)
  have hsimulated : ((simulating now).engines 0).connection = none := rfl
  have hsim : ((simulating now).engines 0).sim = .demo now := rfl
  have hok : (Simulator.demo now).snapshotStatus.isOk = true := rfl
  have hcell (g : UInt32) : Demo.sample now g =
      Sample.ofEntityRecord ∘ (Simulator.demo now).lookup EntityGroup.gpu.code g :=
    funext fun f => (Simulator.Demo.sample_lookup now g f).symm
  rw [snapshot_result (resolve_simulating now) hslots flags]
  simp only [Engine.latestSamples, hsimulated, Simulator.latestSamples, hsim, hok, if_true,
    List.map_flatMap, List.flatMap_map, List.map_map, hcell]
  rfl

theorem snapshot_past_limit (now : Int64) (some_gpu : gpus ≠ []) (some_field : fields ≠ [])
    (past : Limits.snapshotValues < gpus.length * fields.length) (flags : UInt32) :
    ((simulating now).snapshot (some 0) (gpus.map .gpu) fields flags none).1 =
      .error (.limitExceeded Limits.snapshotValues) := by
  have hpast : Limits.snapshotValues < Limits.saturate ((gpus.map Entity.gpu).length * fields.length) := by
    rw [List.length_map]
    exact (Limits.lt_saturate (by decide)).mpr past
  have hgpus : (gpus.map Entity.gpu).isEmpty = false := by simpa using some_gpu
  have hfields : fields.isEmpty = false := by simpa using some_field
  have hslots : Snapshot.slots (gpus.map Entity.gpu) fields =
      .error (.limitExceeded Limits.snapshotValues) := by
    simp only [Snapshot.slots, hgpus, hfields, Bool.false_eq_true, if_false, if_pos hpast]
  simp only [snapshot, resolve_simulating, hslots]

end Monitor

namespace CommandLine

def gridLine (gpu : UInt32) (field : UInt16) (value : String) : String :=
  "Gpu:" ++ toString gpu.toNat ++ " field " ++
    String.ofList (List.leftpad 4 ' ' (Nat.toDigits 10 field.toNat)) ++ ": " ++ value

theorem text_eq_reading (now : Int64) (gpu : UInt32) (field : UInt16) :
    Demo.text gpu field = if (Demo.sample now gpu field).isOk then
      readingText (Demo.sample now gpu field).reading else (Demo.sample now gpu field).status.text := by
  have htexts : ∀ v ∈ Simulator.Demo.values, readingText v.reading = v.text := by decide +kernel
  have hmissing : Status.noData.text = "No data (DCGM_ST_NO_DATA, -14)" := by decide +kernel
  rw [Demo.sample, Demo.text]
  cases hv : Simulator.Demo.value? gpu field with
  | none => exact hmissing.symm
  | some v => exact (htexts v (List.mem_of_find?_eq_some hv)).symm

theorem sample_address (now : Int64) (gpu : UInt32) (field : UInt16) :
    (Demo.sample now gpu field).entity = .gpu gpu ∧ (Demo.sample now gpu field).field = field := by
  rw [Demo.sample]
  split <;> exact ⟨rfl, rfl⟩

theorem latestLine_sample (now : Int64) (gpu : UInt32) (field : UInt16) :
    latestLine false (Demo.sample now gpu field) = gridLine gpu field (Demo.text gpu field) := by
  obtain ⟨hentity, hfield⟩ := sample_address now gpu field
  have hgpu : "Gpu:" = "Gpu" ++ ":" := rfl
  simp only [latestLine, Bool.false_eq_true, if_false, fieldText, hentity, hfield, ← text_eq_reading,
    gridLine, hgpu]
  rfl

def latestCell (json : Bool) (now : Int64) (gpu : UInt32) (field : UInt16) : String :=
  if json then (Demo.sample now gpu field).toJson.text else gridLine gpu field (Demo.text gpu field)

theorem latestLine_eq_cell (json : Bool) (now : Int64) (gpu : UInt32) (field : UInt16) :
    latestLine json (Demo.sample now gpu field) = latestCell json now gpu field := by
  cases json with
  | false => exact latestLine_sample now gpu field
  | true => rfl

/-- Words that ask a simulated engine for the latest values of the fields of some devices. -/
structure AsksLatest (args : List String) (json : Bool) (gpus : List UInt32) (fields : List UInt16) :
    Prop where
  noVersion : asksVersion args = false
  command : ∃ host live, invocation? args = some ⟨true, host, json, .latest gpus fields live⟩

variable {args : List String} {json : Bool} {gpus : List UInt32} {fields : List UInt16}

theorem AsksLatest.run_eq (h : AsksLatest args json gpus fields) (s : Surroundings) :
    ∃ flags, run s args =
      match ((Monitor.simulating s.now).snapshot (some 0) (gpus.map .gpu) fields flags none).1 with
      | .error f => .finished (failed f)
      | .ok samples => .finished { exit := 0, out := samples.map (latestLine json) } := by
  obtain ⟨host, live, hinvocation⟩ := h.command
  refine ⟨if live then Snapshot.live else 0, ?_⟩
  rw [run, h.noVersion, hinvocation]
  rfl

theorem asksLatest_latestWords (some_gpu : gpus ≠ []) (some_field : fields ≠ []) (json live : Bool) :
    AsksLatest (latestWords json live gpus fields) json gpus fields :=
  ⟨asksVersion_latestWords some_gpu some_field json live,
    none, live, invocation?_latestWords some_gpu some_field json live⟩

theorem plain_latestCell (json : Bool) (now : Int64) (gpu : UInt32) (field : UInt16) :
    Json.Plain (latestCell json now gpu field).toList := by
  cases json with
  | true =>
    change Json.Plain (Demo.sample now gpu field).toJson.text.toList
    rw [Json.text, String.toList_ofList]
    exact Json.plain_render _
  | false =>
    have hvalues : ∀ v ∈ Simulator.Demo.values, Json.Plain v.text.toList := by
      simp [Simulator.Demo.values]
    have htext : Json.Plain (Demo.text gpu field).toList := by
      rw [Demo.text]
      cases hv : Simulator.Demo.value? gpu field with
      | none => simp
      | some v => exact hvalues v (List.mem_of_find?_eq_some hv)
    have hblanks (n : Nat) : Json.Plain (List.replicate n ' ') := fun c hc => by
      rw [List.eq_of_mem_replicate hc]
      decide
    change Json.Plain (gridLine gpu field (Demo.text gpu field)).toList
    simp [gridLine, List.leftpad, htext, hblanks, Json.plain_toDigits]

/-- Whatever words ask for the latest values of a simulated engine, and there are such words for all
devices and fields: a line for each field of each device, device by device, or no line and the limit.
A line tells the value that the demo engine has, or that it has none. -/
theorem latest_prints_grid (s : Surroundings) (some_gpu : gpus ≠ []) (some_field : fields ≠ []) :
    (∀ g f, Demo.text g f = if (Demo.sample s.now g f).isOk then
      readingText (Demo.sample s.now g f).reading else (Demo.sample s.now g f).status.text) ∧
    (∀ json live, AsksLatest (latestWords json live gpus fields) json gpus fields) ∧
    ∀ args json, AsksLatest args json gpus fields →
      (gpus.length * fields.length ≤ Limits.snapshotValues → ∃ out,
        run s args = .finished { exit := 0, out } ∧
        out.length = gpus.length * fields.length ∧
        (printed out).splitOn '\n' = out.map String.toList ++ [[]] ∧
        ∀ i j g f, gpus[i]? = some g → fields[j]? = some f →
          out[i * fields.length + j]? = some (latestCell json s.now g f)) ∧
      (Limits.snapshotValues < gpus.length * fields.length →
        run s args = .finished {
          exit := 1
          err := ["Error: Callback value limit exceeded: more than 8192 values in one request"] }) := by
  refine ⟨text_eq_reading s.now, asksLatest_latestWords some_gpu some_field,
    fun args json h => ⟨fun fits => ?_, fun past => ?_⟩⟩
  · obtain ⟨flags, hrun⟩ := h.run_eq s
    rw [Monitor.snapshot_simulating s.now some_gpu some_field fits flags] at hrun
    refine ⟨gpus.flatMap fun g => fields.map (latestCell json s.now g), ?_, ?_, ?_,
      fun i j g f hg hf => ?_⟩
    · simp only [hrun, List.map_flatMap, List.map_map, Function.comp_def, latestLine_eq_cell]
    · simp [List.length_flatMap]
    · refine splitOn_printed fun l hl => ?_
      obtain ⟨g, -, hl⟩ := List.mem_flatMap.mp hl
      obtain ⟨f, -, rfl⟩ := List.mem_map.mp hl
      exact plain_latestCell json s.now g f
    · exact getElem?_grid _ gpus fields hg hf
  · obtain ⟨flags, hrun⟩ := h.run_eq s
    rw [hrun, Monitor.snapshot_past_limit s.now some_gpu some_field past flags]
    have hmessage : "Error: " ++ (Failure.limitExceeded Limits.snapshotValues).message =
        "Error: Callback value limit exceeded: more than 8192 values in one request" := by
      decide +kernel
    rw [← hmessage]
    rfl

def atSeven : Surroundings := { now := 7, load := fun _ => none }

theorem repeated_and_unknown_devices :
    (([1, 9, 1] : List UInt32) ≠ [] ∧ ([155, 4] : List UInt16) ≠ [] ∧
      (List.replicate 8193 0 : List UInt32) ≠ []) ∧
    (∃ out, run atSeven ["--mock", "latest", "--gpus", "1,9,1", "--fields", "155,4"] =
        .finished { exit := 0, out } ∧
      out.length = 6 ∧ out[3]? = some "Gpu:9 field    4: No data (DCGM_ST_NO_DATA, -14)" ∧
      out[4]? = some "Gpu:1 field  155: 192.50") ∧
    (∃ out, run atSeven (latestWords true false [1, 9, 1] [155, 4]) = .finished { exit := 0, out } ∧
      out[4]? = some ("\x7b\"entity\":\x7b\"group\":\"Gpu\",\"id\":1\x7d,\"field_id\":155," ++
        "\"field_type\":\"Double\",\"status\":\"Ok\",\"timestamp\":7,\"value\":192.5\x7d")) ∧
    run atSeven (latestWords true false (List.replicate 8193 0) [155, 4]) = .finished {
      exit := 1
      err := ["Error: Callback value limit exceeded: more than 8192 values in one request"] } := by
  have three : ([1, 9, 1] : List UInt32) ≠ [] := by decide
  have many : (List.replicate 8193 0 : List UInt32) ≠ [] :=
    mt (List.replicate_eq_nil_iff _).mp (by decide)
  have two : ([155, 4] : List UInt16) ≠ [] := by decide
  have hwords : latestWords false false [1, 9, 1] [155, 4] =
      ["--mock", "latest", "--gpus", "1,9,1", "--fields", "155,4"] := by decide +kernel
  obtain ⟨-, hasks, hprints⟩ := latest_prints_grid atSeven three two
  obtain ⟨out, hrun, hlength, -, hcells⟩ := (hprints _ false (hasks false false)).1 (by decide)
  obtain ⟨json, hrun_json, -, -, hcells_json⟩ := (hprints _ true (hasks true false)).1 (by decide)
  obtain ⟨-, hasks', hprints'⟩ := latest_prints_grid atSeven many two
  refine ⟨⟨three, two, many⟩, ⟨out, hwords ▸ hrun, hlength, ?_, ?_⟩, ⟨json, hrun_json, ?_⟩,
    (hprints' _ true (hasks' true false)).2 (by rw [List.length_replicate]; decide)⟩
  · exact (hcells 1 1 9 4 rfl rfl).trans (congrArg some (by decide +kernel))
  · exact (hcells 2 0 1 155 rfl rfl).trans (congrArg some (by decide +kernel))
  · exact (hcells_json 2 0 1 155 rfl rfl).trans (congrArg some (by decide +kernel))

end CommandLine

end GpuTelemetry
