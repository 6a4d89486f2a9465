import GpuTelemetry.Failure
import GpuTelemetry.Native.Symbol
import GpuTelemetry.Text.Quoted
import GpuTelemetry.Text.Utf8

/-!
Connections to an engine in a native library: finding the library, obtaining a handle and giving it
back. Each function also returns the native calls it makes, in order.
-/

namespace GpuTelemetry.Native

structure Image where
  exports : Symbol → Bool
  codes : Symbol → Int32
  embeddedHandle : Nat
  remoteHandle : Nat
  strings : Int32 → Option (List UInt8)

abbrev Loader := String → Option Image

inductive Mode where
  | embedded
  | standalone (address : String)
  deriving DecidableEq, Repr

def Mode.describe : Mode → String
  | embedded => "Embedded"
  | standalone address => "Standalone(" ++ Text.Quoted.quote address ++ ")"

structure Connection where
  image : Image
  mode : Mode
  handle : Nat
  released : Bool := false

def automatic : Int := 1

def obtain (image : Image) : Mode → Except Failure (Int32 × Nat × Call)
  | .embedded =>
    .ok (image.codes .startEmbedded, image.embeddedHandle, ⟨.startEmbedded, [.int automatic]⟩)
  | .standalone address =>
    if address.toList.contains '\x00' then
      .error (.invalidArgument ("address " ++ Text.Quoted.quote address))
    else .ok (image.codes .connect, image.remoteHandle, ⟨.connect, [.text address]⟩)

def connect (image : Image) (mode : Mode) : Except Failure Connection × List Call :=
  match (Status.ofCode (image.codes .init)).check Symbol.init.name with
  | .error f => (.error f, [⟨.init, []⟩])
  | .ok _ =>
    match obtain image mode with
    | .error f => (.error f, [⟨.init, []⟩])
    | .ok (code, handle, call) =>
      match (Status.ofCode code).check Symbol.connect.name with
      | .error f => (.error f, [⟨.init, []⟩, call, ⟨.shutdown, []⟩])
      | .ok _ => (.ok { image, mode, handle }, [⟨.init, []⟩, call])

def openAt (load : Loader) (mode : Mode) (path : String) : Except Failure Connection × List Call :=
  match load path with
  | none => (.error (.library (.notLoaded path)), [])
  | some image =>
    match Symbol.all.find? fun s => !image.exports s with
    | some s => (.error (.library (.missingSymbol s.name)), [])
    | none => connect image mode

def searchPaths : List String :=
  ["libdcgm.so.4", "libdcgm.so.3", "libdcgm.so", "/usr/lib/x86_64-linux-gnu/libdcgm.so.4",
    "/usr/lib/aarch64-linux-gnu/libdcgm.so.4", "/usr/lib64/libdcgm.so.4"]

def search (load : Loader) (mode : Mode) :
    LibraryFault → List String → Except Failure Connection × List Call
  | fault, [] => (.error (.library fault), [])
  | _, path :: rest =>
    match openAt load mode path with
    | (.error (.library fault), calls) =>
      let (outcome, more) := search load mode fault rest
      (outcome, calls ++ more)
    | found => found

def openAny (load : Loader) (mode : Mode) (override : Option String) :
    Except Failure Connection × List Call :=
  match override.filter (!·.isEmpty) with
  | some path => openAt load mode path
  | none => search load mode (.described "libdcgm not found") searchPaths

namespace Connection

def codeOf (c : Connection) (s : Symbol) : Int32 := c.image.codes s

def release (c : Connection) : Connection × List Call :=
  let giveBack := match c.mode with
    | .embedded => Symbol.stopEmbedded
    | .standalone _ => Symbol.disconnect
  ({ c with released := true }, [⟨giveBack, [.int c.handle]⟩, ⟨.shutdown, []⟩])

def errorString (c : Connection) (code : Int32) : Option String × List Call :=
  ((c.image.strings code).map fun bs =>
      String.ofList (Text.Utf8.decode (bs.takeWhile (· != 0))),
    [⟨.errorString, [.int code.toInt]⟩])

end Connection

end GpuTelemetry.Native
