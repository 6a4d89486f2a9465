import GpuTelemetry.Json

namespace GpuTelemetry

inductive Status where
  | ok | badParam | genericError | memory | notConfigured | notSupported | initError | nvmlError
  | pending | uninitialized | timeout | versionMismatch | unknownField | noData | staleData
  | notWatched | noPermission | gpuIsLost | resetRequired | functionNotFound | connectionNotValid
  | gpuNotSupported | groupIncompatible | maxLimit | libraryNotFound | duplicateKey
  | other (code : Int32)
  deriving DecidableEq, Repr

namespace Status

structure Entry where
  status : Status
  code : Int32
  label : String
  constant : String
  summary : String

def table : List Entry :=
  [⟨ok, 0, "Ok", "DCGM_ST_OK", "Success"⟩,
   ⟨badParam, -1, "BadParam", "DCGM_ST_BADPARAM", "Bad parameter"⟩,
   ⟨genericError, -3, "GenericError", "DCGM_ST_GENERIC_ERROR", "Generic error"⟩,
   ⟨memory, -4, "Memory", "DCGM_ST_MEMORY", "Out of memory"⟩,
   ⟨notConfigured, -5, "NotConfigured", "DCGM_ST_NOT_CONFIGURED", "Not configured"⟩,
   ⟨notSupported, -6, "NotSupported", "DCGM_ST_NOT_SUPPORTED", "Not supported"⟩,
   ⟨initError, -7, "InitError", "DCGM_ST_INIT_ERROR", "Initialization error"⟩,
   ⟨nvmlError, -8, "NvmlError", "DCGM_ST_NVML_ERROR", "NVML error"⟩,
   ⟨pending, -9, "Pending", "DCGM_ST_PENDING", "Pending"⟩,
   ⟨uninitialized, -10, "Uninitialized", "DCGM_ST_UNINITIALIZED", "Uninitialized"⟩,
   ⟨timeout, -11, "Timeout", "DCGM_ST_TIMEOUT", "Timeout"⟩,
   ⟨versionMismatch, -12, "VersionMismatch", "DCGM_ST_VER_MISMATCH", "Version mismatch"⟩,
   ⟨unknownField, -13, "UnknownField", "DCGM_ST_UNKNOWN_FIELD", "Unknown field"⟩,
   ⟨noData, -14, "NoData", "DCGM_ST_NO_DATA", "No data"⟩,
   ⟨staleData, -15, "StaleData", "DCGM_ST_STALE_DATA", "Stale data"⟩,
   ⟨notWatched, -16, "NotWatched", "DCGM_ST_NOT_WATCHED", "Field not watched"⟩,
   ⟨noPermission, -17, "NoPermission", "DCGM_ST_NO_PERMISSION", "No permission"⟩,
   ⟨gpuIsLost, -18, "GpuIsLost", "DCGM_ST_GPU_IS_LOST", "GPU is lost"⟩,
   ⟨resetRequired, -19, "ResetRequired", "DCGM_ST_RESET_REQUIRED", "GPU reset required"⟩,
   ⟨functionNotFound, -20, "FunctionNotFound", "DCGM_ST_FUNCTION_NOT_FOUND", "Function not found"⟩,
   ⟨connectionNotValid, -21, "ConnectionNotValid", "DCGM_ST_CONNECTION_NOT_VALID",
    "Connection not valid"⟩,
   ⟨gpuNotSupported, -22, "GpuNotSupported", "DCGM_ST_GPU_NOT_SUPPORTED", "GPU not supported"⟩,
   ⟨groupIncompatible, -23, "GroupIncompatible", "DCGM_ST_GROUP_INCOMPATIBLE",
    "Group incompatible"⟩,
   ⟨maxLimit, -24, "MaxLimit", "DCGM_ST_MAX_LIMIT", "Maximum limit reached"⟩,
   ⟨libraryNotFound, -25, "LibraryNotFound", "DCGM_ST_LIBRARY_NOT_FOUND", "Library not found"⟩,
   ⟨duplicateKey, -26, "DuplicateKey", "DCGM_ST_DUPLICATE_KEY", "Duplicate key"⟩]

def entry? (s : Status) : Option Entry := table.find? (·.status == s)

def ofCode (c : Int32) : Status :=
  match table.find? (·.code == c) with
  | some e => e.status
  | none => other c

def code : Status → Int32
  | other c => c
  | s => match s.entry? with
    | some e => e.code
    | none => 0

theorem code_ofCode (c : Int32) : (ofCode c).code = c := by
  have hentry : ∀ e ∈ table, e.status.code = e.code := by decide
  unfold ofCode
  split
  · rename_i e he
    rw [hentry e (List.mem_of_find?_eq_some he)]
    simpa using List.find?_some he
  · rfl

def isOk (s : Status) : Bool := s == ok

def label : Status → String
  | other c => "Other(" ++ toString c.toInt ++ ")"
  | s => match s.entry? with
    | some e => e.label
    | none => ""

def text (s : Status) : String :=
  match s.entry? with
  | some e => e.summary ++ " (" ++ e.constant ++ ", " ++ toString s.code.toInt ++ ")"
  | none => "Unknown engine status (" ++ toString s.code.toInt ++ ")"

def toJson : Status → Json
  | other c => .obj [("Other", .int c.toInt)]
  | s => .str s.label

end Status

end GpuTelemetry
