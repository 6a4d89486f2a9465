import GpuTelemetry.Calendar
import GpuTelemetry.Record
import GpuTelemetry.Status

namespace GpuTelemetry

inductive EntityGroup where
  | none | gpu | vgpu | switch | gpuInstance | computeInstance | link | cpu | cpuCore
  | other (code : UInt32)
  deriving DecidableEq, Repr

namespace EntityGroup

def ofCode (c : UInt32) : EntityGroup :=
  if c = 0 then none else if c = 1 then gpu else if c = 2 then vgpu else if c = 3 then switch
  else if c = 4 then gpuInstance else if c = 5 then computeInstance else if c = 6 then link
  else if c = 7 then cpu else if c = 8 then cpuCore else other c

def code : EntityGroup → UInt32
  | none => 0
  | gpu => 1
  | vgpu => 2
  | switch => 3
  | gpuInstance => 4
  | computeInstance => 5
  | link => 6
  | cpu => 7
  | cpuCore => 8
  | other c => c

theorem code_ofCode (c : UInt32) : (ofCode c).code = c := by
  unfold ofCode
  repeat' split
  all_goals simp_all [code]

def name : EntityGroup → String
  | none => "None"
  | gpu => "Gpu"
  | vgpu => "Vgpu"
  | switch => "Switch"
  | gpuInstance => "GpuInstance"
  | computeInstance => "ComputeInstance"
  | link => "Link"
  | cpu => "Cpu"
  | cpuCore => "CpuCore"
  | other _ => "Other"

def label : EntityGroup → String
  | other c => "Other(" ++ toString c.toNat ++ ")"
  | g => g.name

def toJson : EntityGroup → Json
  | other c => .obj [("Other", .int c.toNat)]
  | g => .str g.name

end EntityGroup

structure Entity where
  group : EntityGroup
  id : UInt32
  deriving DecidableEq, Repr

namespace Entity

def ofCodes (group id : UInt32) : Entity := ⟨.ofCode group, id⟩

def codes (e : Entity) : UInt32 × UInt32 := (e.group.code, e.id)

theorem codes_ofCodes (group id : UInt32) : (ofCodes group id).codes = (group, id) := by
  simp [codes, ofCodes, EntityGroup.code_ofCode]

def gpu (id : UInt32) : Entity := ⟨.gpu, id⟩

def text (e : Entity) : String := e.group.label ++ ":" ++ toString e.id.toNat

def toJson (e : Entity) : Json := .obj [("group", e.group.toJson), ("id", .int e.id.toNat)]

end Entity

inductive Kind where
  | double | int64 | string | timestamp | binary
  | unknown (tag : UInt16)
  deriving DecidableEq, Repr

namespace Kind

def ofTag (t : UInt16) : Kind :=
  if t = Tag.double then double else if t = Tag.int64 then int64
  else if t = Tag.string then string else if t = Tag.timestamp then timestamp
  else if t = Tag.binary then binary else unknown t

def tag : Kind → UInt16
  | double => Tag.double
  | int64 => Tag.int64
  | string => Tag.string
  | timestamp => Tag.timestamp
  | binary => Tag.binary
  | unknown t => t

theorem tag_ofTag (t : UInt16) : (ofTag t).tag = t := by
  unfold ofTag
  repeat' split
  all_goals simp_all [tag]

def name : Kind → String
  | double => "Double"
  | int64 => "Int64"
  | string => "String"
  | timestamp => "Timestamp"
  | binary => "Binary"
  | unknown _ => "Unknown"

def label : Kind → String
  | unknown t => "Unknown(" ++ toString t.toNat ++ ")"
  | k => k.name

def toJson : Kind → Json
  | unknown t => .obj [("Unknown", .int t.toNat)]
  | k => .str k.name

end Kind

inductive Reading where
  | int (value : Int64)
  | real (value : Binary64)
  | text (value : String)
  | blob (value : Blob)
  deriving DecidableEq

namespace Reading

def ofBlock (k : Kind) (b : Block) : Reading :=
  match k with
  | .double => real ⟨b.word⟩
  | .int64 | .timestamp => int b.word.toInt64
  | .string => text (String.ofList (Text.Utf8.decode b.stringBytes))
  | .binary | .unknown _ => blob b.toBlob

def same : Reading → Reading → Bool
  | int a, int b => a == b
  | real a, real b => a.same b
  | text a, text b => a == b
  | blob a, blob b => a == b
  | _, _ => false

def int? : Reading → Option Int64
  | int v => some v
  | _ => none

def real? : Reading → Option Binary64
  | real v => some v
  | int v => some (.ofInt v.toInt)
  | _ => none

def text? : Reading → Option String
  | text v => some v
  | _ => none

def toJson : Reading → Json
  | int v => .int v.toInt
  | real v => .real v
  | text v => .str v
  | blob v => .arr (v.toList.map fun b => .int b.toNat)

end Reading

structure Sample where
  entity : Entity
  field : UInt16
  kind : Kind
  status : Status
  time : Int64
  reading : Reading
  deriving DecidableEq

namespace Sample

def ofRecord (group id : UInt32) (r : Record) : Sample where
  entity := .ofCodes group id
  field := r.field
  kind := .ofTag r.tag
  status := .ofCode r.status
  time := r.time
  reading := .ofBlock (.ofTag r.tag) r.payload

def ofEntityRecord (r : EntityRecord) : Sample where
  entity := .ofCodes r.group r.id
  field := r.field
  kind := .ofTag r.tag
  status := .ofCode r.status
  time := r.time
  reading := .ofBlock (.ofTag r.tag) r.payload

def isOk (s : Sample) : Bool := s.status.isOk

def utc? (s : Sample) : Option Calendar.Instant := Calendar.utc? s.time

def same (a b : Sample) : Bool :=
  a.entity == b.entity && a.field == b.field && a.kind == b.kind && a.status == b.status &&
    a.time == b.time && a.reading.same b.reading

def toJson (s : Sample) : Json :=
  .obj [("entity", s.entity.toJson), ("field_id", .int s.field.toNat),
    ("field_type", s.kind.toJson), ("status", s.status.toJson), ("timestamp", .int s.time.toInt),
    ("value", s.reading.toJson)]

end Sample

end GpuTelemetry
