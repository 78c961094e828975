/-
# TypeLens.CommandLine.Invocation -- what a command line asks for

The arguments are read from left to right; the last value of an option counts. The first error
ends the reading, and so does a request for help. Arguments that belong to no option are collected
and refused together at the end.
-/
import TypeLens.CommandLine.Argument

namespace TypeLens.CommandLine

/-- What a command line asks for. -/
structure Invocation where
  mode : Option Mode := none
  intellisenseMode : Option Text := none
  hideArchitecture : Bool := false
  printConfig : Bool := false
  transport : Transport := .stdio
  host : Text := "127.0.0.1".toList
  portNumber : Int := 8000
  path : Text := "/mcp".toList
deriving DecidableEq, Repr

namespace Invocation

/-- Takes an option with a value. -/
def takeValue (i : Invocation) (flag : Flag) (value : Text) : Except UsageError Invocation :=
  match flag with
  | .architecture =>
    match Mode.ofName? value with
    | some m => .ok { i with mode := some m }
    | none => .error (.invalidChoice flag value (Mode.all.map Mode.name))
  | .transport =>
    match Transport.ofName? value with
    | some t => .ok { i with transport := t }
    | none => .error (.invalidChoice flag value (Transport.all.map Transport.name))
  | .portNumber =>
    match integer? value with
    | some n => .ok { i with portNumber := n }
    | none => .error (.invalidInteger flag value)
  | .intellisenseMode => .ok { i with intellisenseMode := some value }
  | .host => .ok { i with host := value }
  | .path => .ok { i with path := value }
  | .help | .hideArchitecture | .printConfig => .error (.unusedValue flag value)

/-- Takes an option without a value. -/
def takeBare (i : Invocation) (flag : Flag) : Except UsageError Invocation :=
  match flag with
  | .hideArchitecture => .ok { i with hideArchitecture := true }
  | .printConfig => .ok { i with printConfig := true }
  | .help => .ok i
  | _ => .error (.missingValue flag)

end Invocation

/-- What comes of reading a command line without an error. -/
inductive Request where
  | help
  | run (invocation : Invocation)
deriving DecidableEq, Repr

/-- What is attached to the one-letter request for help: more such letters, and nothing else. -/
def helpLetters : Text → Except UsageError Unit
  | ['h'] => .ok ()
  | 'h' :: rest => helpLetters rest
  | letters => .error (.unusedValue .help letters)

/-- Reads classified arguments; `extras` are those that belong to no option. -/
def readFrom (i : Invocation) (extras : List Text) :
    List (Text × Argument) → Except UsageError Request
  | [] => if extras.isEmpty then .ok (.run i) else .error (.unrecognized extras)
  | (_, .option flag (some (.value value))) :: rest => do
    readFrom (← i.takeValue flag value) extras rest
  | (_, .option _ (some (.letters letters))) :: _ => do
    helpLetters letters
    return .help
  | (_, .option .help none) :: _ => .ok .help
  | (_, .option flag none) :: rest =>
    if flag.takesValue then
      match rest with
      | (value, .plain) :: behind => do readFrom (← i.takeValue flag value) extras behind
      | _ => .error (.missingValue flag)
    else do readFrom (← i.takeBare flag) extras rest
  | (argument, _) :: rest => readFrom i (extras ++ [argument]) rest

/-- Reads a command line. -/
def read (arguments : List Text) : Except UsageError Request := do
  readFrom {} [] (← classifyAll arguments)

end TypeLens.CommandLine
