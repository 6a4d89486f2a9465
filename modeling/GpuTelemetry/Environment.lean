import GpuTelemetry.Text.Blank
import GpuTelemetry.Text.Utf8

namespace GpuTelemetry.Environment

def libraryVariable : String := "DCGM_LIBRARY_PATH"

def hostVariable : String := "DCGM_HOST_ENGINE"

def libraryPath (value : Option (List UInt8)) : Option (List UInt8) :=
  value.filter (!·.isEmpty)

def hostAddress (value : Option (List UInt8)) : Option String :=
  ((value.bind Text.Utf8.decode?).filter fun s => !s.all Text.isBlank).map String.ofList

end GpuTelemetry.Environment
