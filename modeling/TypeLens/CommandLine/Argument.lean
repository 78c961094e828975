/-
# TypeLens.CommandLine.Argument -- what each argument of a command line is

An argument is an option, possibly with a value attached, or it stands for itself. A long option
may be shortened as long as only one option starts that way. To a one-letter option anything can be
attached, with or without an equals sign: it is read as more one-letter options. An argument with
a leading dash that names no option still stands for itself when it looks like a negative number or
holds a space. Behind two dashes everything stands for itself.
-/
import TypeLens.Settings

namespace TypeLens.CommandLine

/-! ## Options -/

/-- The options of the command line. -/
inductive Flag where
  | help
  | architecture
  | intellisenseMode
  | hideArchitecture
  | printConfig
  | transport
  | host
  | portNumber
  | path
deriving DecidableEq, Repr

/-- How the server talks to its clients. -/
inductive Transport where
  | stdio
  | http
  | sse
deriving DecidableEq, Repr

namespace Transport

/-- Every transport, in the order in which they are listed. -/
def all : List Transport := [stdio, http, sse]

/-- The word for a transport. -/
def name : Transport → Text
  | stdio => "stdio".toList
  | http => "http".toList
  | sse => "sse".toList

/-- The transport of a word. -/
def ofName? (word : Text) : Option Transport := all.find? fun t => t.name = word

end Transport

namespace Flag

/-- Every option, in the order in which they are listed. -/
def all : List Flag :=
  [help, architecture, intellisenseMode, hideArchitecture, printConfig, transport, host,
    portNumber, path]

/-- How an option is written. -/
def spellings : Flag → List Text
  | help => ["-h".toList, "--help".toList]
  | architecture => ["--architecture".toList]
  | intellisenseMode => ["--intellisense-mode".toList]
  | hideArchitecture => ["--hide-architecture".toList]
  | printConfig => ["--print-config".toList]
  | transport => ["--transport".toList]
  | host => ["--mcp-host".toList]
  | portNumber => ["--mcp-port".toList]
  | path => ["--mcp-path".toList]

/-- The option in messages. -/
def title (f : Flag) : Text := ['/'].intercalate f.spellings

/-- Whether a value belongs to the option. -/
def takesValue : Flag → Bool
  | help | hideArchitecture | printConfig => false
  | _ => true

/-- Every way to write an option, with the option. -/
def written : List (Text × Flag) := all.flatMap fun f => f.spellings.map fun s => (s, f)

/-- The option that is written in full. -/
def ofSpelling? (text : Text) : Option Flag :=
  (written.find? fun entry => entry.1 = text).map Prod.snd

end Flag

/-! ## Errors -/

/-- Why a command line is refused. -/
inductive UsageError where
  | ambiguous (argument : Text) (candidates : List Text)
  | missingValue (flag : Flag)
  | unusedValue (flag : Flag) (value : Text)
  | invalidChoice (flag : Flag) (value : Text) (choices : List Text)
  | invalidInteger (flag : Flag) (value : Text)
  | unrecognized (arguments : List Text)
deriving DecidableEq, Repr

/-- A complaint about an option. -/
def about (flag : Flag) (complaint : Text) : Text :=
  "argument ".toList ++ flag.title ++ ": ".toList ++ complaint

/-- The wording of an error. -/
def UsageError.message : UsageError → Text
  | ambiguous argument candidates =>
    "ambiguous option: ".toList ++ argument ++ " could match ".toList
      ++ [',', ' '].intercalate candidates
  | missingValue flag => about flag "expected one argument".toList
  | unusedValue flag value => about flag ("ignored explicit argument ".toList ++ quoted value)
  | invalidChoice flag value choices =>
    about flag ("invalid choice: ".toList ++ quoted value ++ " (choose from ".toList
      ++ [',', ' '].intercalate (choices.map quoted) ++ [')'])
  | invalidInteger flag value => about flag ("invalid int value: ".toList ++ quoted value)
  | unrecognized arguments =>
    "unrecognized arguments: ".toList ++ [' '].intercalate arguments

/-! ## Arguments -/

/-- What comes in the same argument as an option. -/
inductive Attached where
  /-- The value of a long option. -/
  | value (text : Text)
  /-- What is attached to a one-letter option. -/
  | letters (text : Text)
deriving DecidableEq, Repr

/-- What an argument is. -/
inductive Argument where
  /-- It stands for itself. -/
  | plain
  /-- The two dashes behind which everything stands for itself. -/
  | separator
  | option (flag : Flag) (attached : Option Attached)
  /-- It looks like an option, but there is no such option. -/
  | unknown
deriving DecidableEq, Repr

/-- The text before the first equals sign, and the text behind it if there is one. -/
def splitEquals : Text → Text × Option Text
  | [] => ([], none)
  | c :: rest =>
    if c = '=' then ([], some rest)
    else
      let (front, value) := splitEquals rest
      (c :: front, value)

/-- Whether an option is written with two dashes. -/
def isLong (spelling : Text) : Bool := ['-', '-'].isPrefixOf spelling

/-- Whether a text is a run of decimal digits of any script; a line feed at its end does not
matter. -/
def isDigitRun (text : Text) : Bool :=
  let digits := if text.getLast? = some '\n' then text.dropLast else text
  !digits.isEmpty && digits.all fun c => (digitValue? c).isSome

/-- Whether what follows a dash makes it a negative number: digits, or digits around a point with at
least one behind it. -/
def isNegativeTail (text : Text) : Bool :=
  isDigitRun text ||
    match text.dropWhile fun c => (digitValue? c).isSome with
    | '.' :: decimals => isDigitRun decimals
    | _ => false

/-- The ways in which an argument with a leading dash can be an option that is not written in
full. -/
def candidates : Text → List (Text × Argument)
  | '-' :: '-' :: rest =>
    let (front, value) := splitEquals rest
    let start := '-' :: '-' :: front
    (Flag.written.filter fun (s, _) => start.isPrefixOf s).map
      fun (s, f) => (s, .option f (value.map .value))
  | '-' :: c :: letters =>
    (Flag.written.filter fun (s, _) => s = ['-', c]).map
      fun (s, f) => (s, .option f (some (.letters letters)))
  | _ => []

/-- What an argument is, taken by itself. -/
def classify (argument : Text) : Except UsageError Argument :=
  match argument with
  | '-' :: c :: rest =>
    match Flag.ofSpelling? argument with
    | some f => .ok (.option f none)
    | none =>
      match splitEquals argument with
      | (front, some value) =>
        match Flag.ofSpelling? front with
        | some f => .ok (.option f (some (if isLong front then .value value else .letters value)))
        | none => byCandidates (c :: rest)
      | _ => byCandidates (c :: rest)
  | _ => .ok .plain
where
  /-- The argument by the options that it may be short for. -/
  byCandidates (behindDash : Text) : Except UsageError Argument :=
    match candidates argument with
    | [(_, a)] => .ok a
    | [] =>
      if isNegativeTail behindDash || argument.contains ' ' then .ok .plain else .ok .unknown
    | several => .error (.ambiguous argument (several.map Prod.fst))

/-- The arguments with what they are. An ambiguous one is an error wherever it stands. -/
def classifyAll : List Text → Except UsageError (List (Text × Argument))
  | [] => .ok []
  | argument :: rest =>
    if argument = ['-', '-'] then .ok ((argument, .separator) :: rest.map fun a => (a, .plain))
    else do
      let a ← classify argument
      let others ← classifyAll rest
      return (argument, a) :: others

end TypeLens.CommandLine
