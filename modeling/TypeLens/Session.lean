/-
# TypeLens.Session -- requests to a running analyzer

Every request takes a session to the next one and is answered, or fails for a stated reason. A
failing request may still have brought parts of the session into being. A file that cannot be read at
a line leaves no trace; but whether an answer can be printed shows only when all else is done.
-/
import TypeLens.Hover
import TypeLens.Session.State

namespace TypeLens

namespace Session

/-! ## Failures -/

/-- Why a request fails. -/
inductive Fault where
  | refused (refusal : Settings.Refusal)
  | file (obstacle : Obstacle) (path : Text)
  | lineOutOfRange (line : Int) (count : Nat)
  /-- A number in the answer has more digits than can be printed. -/
  | tooManyDigits
deriving DecidableEq, Repr

/-- The wording of an obstacle. -/
def obstacleText (obstacle : Obstacle) (path : Text) : Text :=
  match obstacle with
  | .missing => "File not found: ".toList ++ path
  | .nameTooLong => "[Errno 36] File name too long: ".toList ++ quoted (Path.shown path)
  | .denied => "[Errno 13] Permission denied: ".toList ++ quoted (Path.shown path)
  | .isDirectory => "[Errno 21] Is a directory: ".toList ++ quoted (Path.shown path)

/-- What is said in place of a text that a number with too many digits belongs to. -/
def digitLimitText : Text :=
  "Exceeds the limit (".toList ++ integerText maxDigits
    ++ " digits) for integer string conversion; ".toList
    ++ "use sys.set_int_max_str_digits() to increase the limit".toList

/-- The wording of a failure. -/
def Fault.message : Fault → Text
  | refused refusal => refusal.message
  | file obstacle path => obstacleText obstacle path
  | lineOutOfRange line count =>
    match integerText? line, integerText? count with
    | some line, some count =>
      "Line out of range: ".toList ++ line ++ " (file has ".toList ++ count ++ " lines)".toList
    | _, _ => digitLimitText
  | tooManyDigits => digitLimitText

/-! ## Answers -/

/-- An answer about a type: the label of the architecture and, if the type is known, its layout with
the text for a hover. -/
structure Report where
  architecture : Text
  found : Option (Layout × Text)
deriving DecidableEq, Repr

/-- An answer about a place in a file. -/
structure FileReport where
  report : Report
  path : Text
  line : Int
  declared : List Text
deriving DecidableEq, Repr

/-- The effective architecture. -/
structure ArchitectureReport where
  mode : Mode
  architecture : Architecture
  machine : Text
deriving DecidableEq, Repr

/-- The report on a layout, or on the lack of one, under the label of an architecture. -/
def Report.on (label : Text) (showArchitecture : Bool) : Option Layout → Except Fault Report
  | none => .ok ⟨label, none⟩
  | some l =>
    match Hover.render? (.ofShape l.shape) label showArchitecture with
    | some hover => .ok ⟨label, some (l, hover)⟩
    | none => .error .tooManyDigits

/-- Reports on a layout, or on the lack of one. The settings are needed only for a layout. -/
def report (s : Session) (layout : Option Layout) : Session × Except Fault Report :=
  let s := s.needLink
  let s := if layout.isSome then s.needSettings else s
  (s, Report.on s.architecture.label s.settings.showArchitecture layout)

/-- The layout of the type at a cursor in a line. -/
def layoutInLine (s : Session) (known : List Text) (sizes : SizeMap) (line : Text) (cursor : Int) :
    Session × Except Fault Report :=
  let s := s.needLink
  s.report (Layout.atCursor? s.architecture.width (known ++ sizes.names) sizes line cursor)

/-- The layout of a type expression. -/
def lookUp (s : Session) (sizes : SizeMap) (text : Text) : Session × Except Fault Report :=
  let s := s.needLink
  s.report (Layout.ofText? s.architecture.width sizes text)

/-- The declarations in a file that has been found. -/
def scanFound (s : Session) (place : Place) (file : StoredFile) : Session × List Declaration :=
  let s := s.needScanner
  let s := s.needSettingsUnless s.scanner.own
  let (cache, declarations) := s.scanner.cache.scanFile s.scanPolicy
    (Declaration.scanWith s.scanner.queries) place file
  ({ s with scanner? := some { s.scanner with cache := cache } }, declarations)

/-- Whether a file that has been found can be scanned: it may be read, or need not be. -/
def mayScan (s : Session) (place : Place) (file : StoredFile) : Bool :=
  s.files.mayRead place || s.scanner.cache.remembers s.scanPolicy place file.stamp

/-- The declarations in a file. What is found is looked up in the cache first, for which settings are
needed, and read then. -/
def scanFile (s : Session) (path : Text) : Session × Except Fault (List Declaration) :=
  let s := s.needScanner
  match s.files.find path with
  | .error obstacle => (s, .error (.file obstacle path))
  | .ok (.directory place) =>
    let obstacle := if s.files.mayRead place then .isDirectory else .denied
    (s.needSettingsUnless s.scanner.own, .error (.file obstacle path))
  | .ok (.file place file) =>
    if s.mayScan place file then
      let (s, declarations) := s.scanFound place file
      (s, .ok declarations)
    else (s.needSettingsUnless s.scanner.own, .error (.file .denied path))

/-- The lines of a text. -/
def linesOf (content : Text) : List Text := content.splitOn '\n'

/-- The line of a text with a number, counted from one. -/
def lineAt? (content : Text) (number : Int) : Option Text :=
  if number < 1 then none else (linesOf content)[(number - 1).toNat]?

/-- The layout of the type at a place in a file whose declarations are taken into account. -/
def layoutInFile (s : Session) (sizes : SizeMap) (path : Text) (line column : Int) :
    Session × Except Fault FileReport :=
  match s.files.read path with
  | .error obstacle => (s, .error (.file obstacle path))
  | .ok (place, file) =>
    let content := Utf8.textOf file.octets
    match lineAt? content line with
    | none => (s, .error (.lineOutOfRange line (linesOf content).length))
    | some text =>
      let (s, declarations) := s.scanFound place file
      let known := Declaration.knownNames declarations
      let sizes := Declaration.spreadSizes declarations sizes
      let (s, outcome) := s.layoutInLine known sizes text column
      (s, outcome.map fun report => ⟨report, path, line, sortedUnique known⟩)

/-- The effective architecture. -/
def describeArchitecture (s : Session) : Session × ArchitectureReport :=
  let s := s.needLink.needSettings
  (s, ⟨s.settings.mode, s.architecture, s.host.machine⟩)

/-! ## Changing settings -/

/-- Changes settings without telling anyone. -/
def change (s : Session) (changes : List Settings.Change) :
    Session × Except Fault (List Settings.Key) :=
  let (settings, outcome) := s.settings.update changes
  ({ s with settings? := some settings },
    match outcome with
    | .ok keys => .ok keys
    | .error refusal => .error (.refused refusal))

/-- The options that can be changed at run time; each one that is not given stays. -/
structure Options where
  mode : Option Text
  descriptor : Option Text
  showArchitecture : Option Bool
deriving DecidableEq, Repr

/-- The changes that options ask for, in the order in which they are made. -/
def Options.changes (o : Options) : List Settings.Change :=
  (o.mode.map .mode).toList ++ (o.descriptor.map fun d => .descriptor (some d)).toList
    ++ (o.showArchitecture.map .showArchitecture).toList

/-- Changes options and lets the engine react; the answer names the settings that changed. -/
def configure (s : Session) (options : Options) :
    Session × Except Fault (List Text × ArchitectureReport) :=
  match s.change options.changes with
  | (s, .error fault) => (s, .error fault)
  | (s, .ok keys) =>
    let (s, summary) := (s.announce keys).describeArchitecture
    (s, .ok (Settings.keyNames keys, summary))

/-! ## Starting up -/

/-- A line for the log. -/
def logLine (message : Text) : Text :=
  "[C Layout Analyzer] ".toList ++ message ++ ['\n']

/-- Resolves the architecture and lets changed settings clear the remembered scans; the answer is
what goes to the log. -/
def startUp (s : Session) : Session × Text :=
  let s := s.needEngine.needScanner
  let s := (s.addListener .dropScans).refresh none
  (s, logLine ("Architecture: ".toList ++ s.architecture.label))

/-- The queries that run when some cannot be compiled, and the warnings about those. Names beyond
the known ones only cause warnings. -/
def brokenQueries (failing : List Text) : List Declaration.Query × List Text :=
  let known := Declaration.Query.all.map Declaration.Query.name
  let failed := known.filter failing.contains ++ (failing.filter (!known.contains ·)).eraseDups
  (Declaration.Query.all.filter fun q => !failing.contains q.name,
    failed.map fun n => "Warning: Failed to compile query '".toList ++ n ++ ['\''])

/-! ## Requests -/

/-- What a session can be asked. -/
inductive Request where
  | setVariable (name : Text) (value : Option Text)
  | readSettings
  | replaceSettings (given : Settings.Given)
  | dropSettings
  | change (changes : List Settings.Change)
  | announce (keys : List Settings.Key)
  | refresh (given : Option Settings.Given)
  | dropEngine
  | dropResolver
  | replaceScanner (given : Option Settings.Given)
  | breakScanner (failing : List Text)
  | addListener
  | startUp
  | extentOf (name : Text)
  | write (path : Text) (file : StoredFile)
  | remove (path : Text)
  | scanFile (path : Text)
  | clearScans
  | layoutInLine (known : List Text) (sizes : SizeMap) (line : Text) (cursor : Int)
  | layoutInFile (sizes : SizeMap) (path : Text) (line column : Int)
  | lookUp (sizes : SizeMap) (text : Text)
  | describeArchitecture
  | configure (options : Options)

/-- What a session answers. -/
inductive Reply where
  | done
  | settings (settings : Settings)
  | changed (keys : List Text)
  | warnings (lines : List Text)
  | log (text : Text)
  | extent (extent : Option Extent)
  | declarations (declarations : List Declaration)
  | report (report : Report)
  | fileReport (report : FileReport)
  | architecture (report : ArchitectureReport)
  | configured (changed : List Text) (report : ArchitectureReport)
deriving DecidableEq, Repr

/-- The session after a request, and the answer. -/
def handle (s : Session) : Request → Session × Except Fault Reply
  | .setVariable name value =>
    match Variable.ofName? name with
    | some v => ({ s with env := s.env.set v value }, .ok .done)
    | none => (s, .ok .done)
  | .readSettings => (s.needSettings, .ok (.settings s.settings))
  | .replaceSettings given =>
    ({ s with settings? := some (.create s.env given) }, .ok .done)
  | .dropSettings => ({ s with settings? := none }, .ok .done)
  | .change changes =>
    let (s, outcome) := s.change changes
    (s, outcome.map fun keys => .changed (Settings.keyNames keys))
  | .announce keys => (s.announce keys, .ok .done)
  | .refresh given => (s.refresh (given.map (.create s.env)), .ok .done)
  | .dropEngine => ({ s with engine? := none }, .ok .done)
  | .dropResolver => (s.dropResolver, .ok .done)
  | .replaceScanner given =>
    (s.setScanner (given.map fun g => freshScanner (some (.create s.env g)) Declaration.Query.all),
      .ok .done)
  | .breakScanner failing =>
    let (queries, warnings) := brokenQueries failing
    (s.setScanner (some (freshScanner none queries)), .ok (.warnings warnings))
  | .addListener => (s.needEngine.addListener .notify, .ok .done)
  | .startUp =>
    let (s, line) := s.startUp
    (s, .ok (.log line))
  | .extentOf name =>
    let s := s.needResolver
    (s, .ok (.extent ((Builtin.find? name).map (·.extent s.resolver.architecture.width))))
  | .write path file => ({ s with files := s.files.write path file }, .ok .done)
  | .remove path => ({ s with files := s.files.remove path }, .ok .done)
  | .scanFile path =>
    let (s, outcome) := s.scanFile path
    (s, outcome.map .declarations)
  | .clearScans => (s.needScanner.clearScans, .ok .done)
  | .layoutInLine known sizes line cursor =>
    let (s, outcome) := s.layoutInLine known sizes line cursor
    (s, outcome.map .report)
  | .layoutInFile sizes path line column =>
    let (s, outcome) := s.layoutInFile sizes path line column
    (s, outcome.map .fileReport)
  | .lookUp sizes text =>
    let (s, outcome) := s.lookUp sizes text
    (s, outcome.map .report)
  | .describeArchitecture =>
    let (s, r) := s.describeArchitecture
    (s, .ok (.architecture r))
  | .configure options =>
    let (s, outcome) := s.configure options
    (s, outcome.map fun (changed, r) => .configured changed r)

/-- The answers to a list of requests, each with the session after it. -/
def run (s : Session) : List Request → List (Session × Except Fault Reply)
  | [] => []
  | request :: rest =>
    let (s, reply) := s.handle request
    (s, reply) :: run s rest

end Session

end TypeLens
