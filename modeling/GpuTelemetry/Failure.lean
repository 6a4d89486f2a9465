import GpuTelemetry.Status

namespace GpuTelemetry

inductive LibraryFault where
  | notLoaded (path : String)
  | missingSymbol (name : String)
  | described (text : String)
  deriving DecidableEq, Repr

def LibraryFault.text : LibraryFault → String
  | notLoaded path => path
  | missingSymbol name => "missing symbol " ++ name
  | described text => text

inductive Failure where
  | noData
  | limitExceeded (limit : Nat)
  | engine (call : String) (status : Status)
  | invalidArgument (text : String)
  | library (fault : LibraryFault)
  | callback (text : String)
  | runtime (text : String)
  | io (text : String)
  deriving DecidableEq, Repr

namespace Failure

def ofStatus (call : String) (s : Status) : Failure :=
  if s = .noData then noData else engine call s

def status? : Failure → Option Status
  | noData => some .noData
  | engine _ s => some s
  | _ => none

def message : Failure → String
  | noData => "No data available for the requested query"
  | limitExceeded limit =>
    "Callback value limit exceeded: more than " ++ toString limit ++ " values in one request"
  | engine call s => call ++ " failed: " ++ s.text
  | invalidArgument text => "Invalid argument: " ++ text
  | library fault => "Library error: " ++ fault.text
  | callback text => "Native callback failed: " ++ text
  | runtime text => "Async runtime unavailable: " ++ text
  | io text => text

end Failure

def Status.check (s : Status) (call : String) : Except Failure Unit :=
  if s.isOk then .ok () else .error (.ofStatus call s)

end GpuTelemetry
