namespace GpuTelemetry.CommandLine

inductive Arity where
  | flag
  | single
  | list
  deriving DecidableEq, Repr

structure Spec where
  name : String
  arity : Arity

abbrev Given := List (String × String)

inductive Word where
  | long (name : List Char) (value : Option (List Char))
  | short
  | terminator
  | plain
  deriving DecidableEq, Repr

def Word.classify : List Char → Word
  | ['-', '-'] => terminator
  | '-' :: '-' :: rest =>
    let name := rest.takeWhile (· != '=')
    match rest.drop name.length with
    | _ :: value => long name (some value)
    | [] => long name none
  | ['-'] => plain
  | '-' :: _ => short
  | _ => plain

def isPlain (s : String) : Bool := Word.classify s.toList == .plain

def add (seen : Given) (spec : Spec) (value : String) : Option Given :=
  if spec.arity ≠ .list ∧ seen.any (·.1 == spec.name) then none
  else some (seen ++ [(spec.name, value)])

def scan (specs : List Spec) (seen : Given) : List String → Option (Given × List String)
  | [] => some (seen, [])
  | arg :: rest =>
    match Word.classify arg.toList with
    | .plain => some (seen, arg :: rest)
    | .short => none
    | .terminator => if rest.isEmpty then some (seen, []) else none
    | .long name value =>
      match specs.find? (·.name.toList == name) with
      | none => none
      | some spec =>
        match spec.arity, value with
        | .flag, some _ => none
        | .flag, none => (add seen spec "").bind fun seen => scan specs seen rest
        | _, some v => (add seen spec (String.ofList v)).bind fun seen => scan specs seen rest
        | _, none =>
          match rest with
          | v :: rest =>
            if isPlain v then (add seen spec v).bind fun seen => scan specs seen rest else none
          | [] => none

def pieces (separator : Char) : List Char → List (List Char)
  | [] => [[]]
  | c :: rest =>
    if c = separator then [] :: pieces separator rest
    else match pieces separator rest with
      | p :: ps => (c :: p) :: ps
      | [] => [[c]]

namespace Given

def has (g : Given) (name : String) : Bool := g.any (·.1 == name)

def last? (g : Given) (name : String) : Option String :=
  (g.reverse.find? (·.1 == name)).map (·.2)

def list (g : Given) (name : String) (default : List String) : List String :=
  if g.has name then
    (g.filter (·.1 == name)).flatMap fun (_, v) => (pieces ',' v.toList).map String.ofList
  else default

end Given

def digits? (s : List Char) : Option Nat :=
  if s.isEmpty || !s.all Char.isDigit then none
  else some (s.foldl (fun n c => n * 10 + (c.toNat - 48)) 0)

def natural? (max : Nat) (s : String) : Option Nat :=
  let ds := match s.toList with
    | '+' :: ds => ds
    | ds => ds
  (digits? ds).filter (· ≤ max)

def integer? (min max : Int) (s : String) : Option Int :=
  let n := match s.toList with
    | '-' :: ds => (digits? ds).map fun n => -(n : Int)
    | '+' :: ds => (digits? ds).map Int.ofNat
    | ds => (digits? ds).map Int.ofNat
  n.filter fun n => min ≤ n && n ≤ max

end GpuTelemetry.CommandLine
