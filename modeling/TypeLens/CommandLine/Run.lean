/-
# TypeLens.CommandLine.Run -- what a command line does

A refused command line and a request for help have no effect but their output. Otherwise the
options that override settings are written to the environment first, so that the session which is
then started reads them like any other setting. Either the effective settings are printed, or the
tools are registered, the session is started up, and the server runs on the chosen transport. The
transports themselves are outside this library: a run only says which service is asked for.
-/
import TypeLens.CommandLine.Invocation
import TypeLens.Session

namespace TypeLens.CommandLine

/-! ## Texts -/

/-- Lines of text, each with its end. -/
def textOfLines (lines : List String) : Text := lines.flatMap fun l => l.toList ++ ['\n']

/-- How the program is called. -/
def usage : Text := textOfLines [
  "usage: c-layout-analyzer [-h] [--architecture \x7bauto,x32,x64,target\x7d]",
  "                         [--intellisense-mode INTELLISENSE_MODE]",
  "                         [--hide-architecture] [--print-config]",
  "                         [--transport \x7bstdio,http,sse\x7d] [--mcp-host MCP_HOST]",
  "                         [--mcp-port MCP_PORT] [--mcp-path MCP_PATH]"]

/-- What the options mean. -/
def optionHelp : Text := textOfLines [
  "",
  "C Layout Analyzer MCP Server",
  "",
  "options:",
  "  -h, --help            show this help message and exit",
  "  --architecture \x7bauto,x32,x64,target\x7d",
  "                        Architecture mode (default: auto)",
  "  --intellisense-mode INTELLISENSE_MODE",
  "                        Toolchain target descriptor used in target mode (e.g.",
  "                        windows-msvc-x64)",
  "  --hide-architecture   Do not append the architecture label to hovers",
  "  --print-config        Print effective config and exit",
  "  --transport \x7bstdio,http,sse\x7d",
  "                        MCP transport (default: stdio)",
  "  --mcp-host MCP_HOST   Host for http/sse transport (default: 127.0.0.1)",
  "  --mcp-port MCP_PORT   Port for http/sse transport (default: 8000)",
  "  --mcp-path MCP_PATH   Path prefix for http transport (default: /mcp)"]

/-- The answer to a request for help. -/
def helpText : Text := usage ++ optionHelp

/-- What is said about a refused command line. -/
def usageErrorText (e : UsageError) : Text :=
  usage ++ "c-layout-analyzer: error: ".toList ++ e.message ++ ['\n']

/-! ## Tools and services -/

/-- A tool that the server offers to its clients. -/
structure Tool where
  name : Text
  description : Text
deriving DecidableEq, Repr

/-- A tool by its name and description. -/
def Tool.of (name description : String) : Tool := ⟨name.toList, description.toList⟩

/-- The tools that the server offers, in the order in which they are registered. -/
def tools : List Tool := [
  .of "get_type_layout"
    "Resolve the C/C++ type under a cursor in a source line to size/alignment",
  .of "get_type_layout_in_file"
    "Resolve the C/C++ type at a line/column in a source file to size/alignment",
  .of "lookup_type"
    "Look up size/alignment of a C/C++ type expression (e.g. 'unsigned long *')",
  .of "get_architecture"
    "Get the effective target architecture (32/64-bit, label, pointer size)",
  .of "configure"
    "Change architecture mode / toolchain target descriptor / hover options"]

/-- A service that the program is to run. -/
inductive Service where
  | stdio
  | http (host : Text) (portNumber : Int) (path : Text)
  | sse (host : Text) (portNumber : Int)
deriving DecidableEq, Repr

/-- The service that an invocation asks for. -/
def Invocation.service (i : Invocation) : Service :=
  match i.transport with
  | .stdio => .stdio
  | .http => .http i.host i.portNumber i.path
  | .sse => .sse i.host i.portNumber

/-! ## Running -/

/-- What a run of the program leaves behind. -/
structure Outcome where
  /-- The exit code, if the program ends by itself. -/
  exitCode : Option Nat
  stdout : Text
  stderr : Text
  tools : List Tool
  services : List Service
  env : Environment
deriving DecidableEq, Repr

/-- The environment with the settings that an invocation overrides. -/
def Invocation.override (i : Invocation) (env : Environment) : Environment where
  architecture := (i.mode.map Mode.name).or env.architecture
  intellisenseMode := i.intellisenseMode.or env.intellisenseMode
  showArchitecture := if i.hideArchitecture then some "false".toList else env.showArchitecture
  cacheEnabled := env.cacheEnabled
  cacheMaxSize := env.cacheMaxSize

/-- The word for a switch. -/
def switchText (b : Bool) : Text := if b then "True".toList else "False".toList

/-- A descriptor, or a note that there is none. -/
def descriptorText (d : Option Text) : Text :=
  match d.getD [] with
  | [] => "(unset)".toList
  | text => text

/-- Settings, and the label of the architecture that they resolve to. -/
def settingsText (settings : Settings) (label : Text) : Text :=
  [ "[C Layout Analyzer] Effective config:".toList,
    "  ARCHITECTURE: ".toList ++ settings.mode.name,
    "  INTELLISENSE_MODE: ".toList ++ descriptorText settings.descriptor,
    "  SHOW_ARCHITECTURE: ".toList ++ switchText settings.showArchitecture,
    "  CACHE: enabled=".toList ++ switchText settings.cacheEnabled ++ " max_size=".toList
      ++ integerText settings.cacheCapacity,
    "  Resolved: ".toList ++ label ].flatMap (· ++ ['\n'])

/-- What the log says when the tools have been registered. -/
def registeredLine : Text :=
  Session.logLine ("Registered ".toList ++ integerText tools.length ++ " tools.".toList)

/-- Runs an invocation in an environment that already holds its overrides. -/
def Invocation.perform (i : Invocation) (host : Host) (env : Environment) : Outcome :=
  let session := Session.start host env []
  if i.printConfig then
    ⟨none, settingsText session.settings session.needLink.architecture.label, [], [], [], env⟩
  else ⟨none, [], registeredLine ++ session.startUp.2, tools, [i.service], env⟩

/-- Runs a command line that is read in some way. -/
def runBy (parse : List Text → Except UsageError Request) (host : Host) (env : Environment)
    (arguments : List Text) : Outcome :=
  match parse arguments with
  | .error e => ⟨some 2, [], usageErrorText e, [], [], env⟩
  | .ok .help => ⟨some 0, helpText, [], [], [], env⟩
  | .ok (.run i) => i.perform host (i.override env)

/-- Runs a command line. -/
def run : Host → Environment → List Text → Outcome := runBy read

end TypeLens.CommandLine
