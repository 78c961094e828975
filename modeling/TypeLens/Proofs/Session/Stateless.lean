/-
# TypeLens.Proofs.Session.Stateless -- answers do not depend on history

A server that holds nothing but host, settings and files (`World`) can answer every call afresh:
it resolves the architecture each time, scans each file each time, and remembers a successful change
of settings by having other settings. This module states that server and proves that a session whose
parts are all still to be made answers every run of calls like it (`run_eq_stateless`).

The refinement is one step at a time: in a current session with a faithful scan memory, a call is
answered as the stateless server answers it, and leads to a session that shows the next world.
-/
import Mathlib.Data.List.Basic
import TypeLens.Proofs.ScanTransparency
import TypeLens.Proofs.Session.Answers

namespace TypeLens

open FileStore (StampsTell)

/-! ## The stateless server -/

/-- The calls of a server, and changes of files between them. -/
inductive ServerCall where
  | startUp
  | configure (options : Session.Options)
  | describeArchitecture
  | layoutInLine (known : List Text) (sizes : SizeMap) (line : Text) (cursor : Int)
  | layoutInFile (sizes : SizeMap) (path : Text) (line column : Int)
  | lookUp (sizes : SizeMap) (text : Text)
  | write (path : Text) (file : StoredFile)
  | remove (path : Text)

namespace ServerCall

/-- The request that a call makes of a session. -/
def request : ServerCall → Session.Request
  | startUp => .startUp
  | configure options => .configure options
  | describeArchitecture => .describeArchitecture
  | layoutInLine known sizes line cursor => .layoutInLine known sizes line cursor
  | layoutInFile sizes path line column => .layoutInFile sizes path line column
  | lookUp sizes text => .lookUp sizes text
  | write path file => .write path file
  | remove path => .remove path

/-- Whether a call only asks. It may bring parts of a session into being. -/
def asksOnly : ServerCall → Bool
  | startUp | describeArchitecture | layoutInLine .. | layoutInFile .. | lookUp .. => true
  | configure _ | write .. | remove _ => false

end ServerCall

/-- All that the answers of a server depend on. -/
structure World where
  host : Host
  settings : Settings
  files : FileStore

namespace World

open Session (Report FileReport ArchitectureReport Fault Reply Options)

/-- The architecture, resolved afresh. -/
def architecture (w : World) : Architecture := Architecture.resolve w.host w.settings

/-- The report on a layout, or on the lack of one. -/
def report (w : World) (layout : Option Layout) : Except Fault Report :=
  Report.on w.architecture.label w.settings.showArchitecture layout

/-- The layout of the type at a cursor in a line. -/
def layoutInLine (w : World) (known : List Text) (sizes : SizeMap) (line : Text) (cursor : Int) :
    Except Fault Report :=
  w.report (Layout.atCursor? w.architecture.width (known ++ sizes.names) sizes line cursor)

/-- The layout of the type at a place in a file, which is scanned afresh. -/
def layoutInFile (w : World) (sizes : SizeMap) (path : Text) (line column : Int) :
    Except Fault FileReport :=
  match w.files.read path with
  | .error obstacle => .error (.file obstacle path)
  | .ok (_, file) =>
    let content := Utf8.textOf file.octets
    match Session.lineAt? content line with
    | none => .error (.lineOutOfRange line (Session.linesOf content).length)
    | some text =>
      let declarations := Declaration.scan content
      let known := Declaration.knownNames declarations
      let sizes := Declaration.spreadSizes declarations sizes
      (w.layoutInLine known sizes text column).map fun report =>
        ⟨report, path, line, sortedUnique known⟩

/-- The effective architecture. -/
def architectureReport (w : World) : ArchitectureReport :=
  ⟨w.settings.mode, w.architecture, w.host.machine⟩

/-- The world after a call: a change of settings counts when it succeeds. -/
def next (w : World) : ServerCall → World
  | .configure options =>
    match w.settings.update options.changes with
    | (settings, .ok _) => { w with settings := settings }
    | (_, .error _) => w
  | .write path file => { w with files := w.files.write path file }
  | .remove path => { w with files := w.files.remove path }
  | _ => w

/-- The answer to a call. -/
def answer (w : World) : ServerCall → Except Fault Reply
  | .startUp => .ok (.log (Session.logLine ("Architecture: ".toList ++ w.architecture.label)))
  | .configure options =>
    match w.settings.update options.changes with
    | (settings, .ok keys) =>
      .ok (.configured (Settings.keyNames keys) { w with settings := settings }.architectureReport)
    | (_, .error refusal) => .error (.refused refusal)
  | .describeArchitecture => .ok (.architecture w.architectureReport)
  | .layoutInLine known sizes line cursor =>
    (w.layoutInLine known sizes line cursor).map .report
  | .layoutInFile sizes path line column =>
    (w.layoutInFile sizes path line column).map .fileReport
  | .lookUp sizes text =>
    (w.report (Layout.ofText? w.architecture.width sizes text)).map .report
  | .write _ _ => .ok .done
  | .remove _ => .ok .done

/-- The answers to a list of calls, each with the world after it. -/
def run (w : World) : List ServerCall → List (World × Except Fault Reply)
  | [] => []
  | call :: rest => (w.next call, w.answer call) :: (w.next call).run rest

/-- The stores that a list of calls goes through. -/
def storesAlong (w : World) : List ServerCall → List FileStore
  | [] => [w.files]
  | call :: rest => w.files :: (w.next call).storesAlong rest

theorem files_mem_storesAlong (w : World) (calls : List ServerCall) :
    w.files ∈ w.storesAlong calls := by
  cases calls <;> simp [storesAlong]

/-! ## Calls that only ask -/

theorem next_eq_self (w : World) {call : ServerCall} (h : call.asksOnly = true) :
    w.next call = w := by
  cases call with
  | configure options => simp [ServerCall.asksOnly] at h
  | write path file => simp [ServerCall.asksOnly] at h
  | remove path => simp [ServerCall.asksOnly] at h
  | startUp => rfl
  | describeArchitecture => rfl
  | layoutInLine known sizes line cursor => rfl
  | layoutInFile sizes path line column => rfl
  | lookUp sizes text => rfl

/-- Asking first changes neither the answers to what follows nor the stores that are seen. -/
theorem run_after_asking (w : World) {asked : List ServerCall} (calls : List ServerCall)
    (h : ∀ call ∈ asked, call.asksOnly = true) :
    (w.run (asked ++ calls)).drop asked.length = w.run calls ∧
      ∀ store ∈ w.storesAlong (asked ++ calls), store ∈ w.storesAlong calls := by
  induction asked with
  | nil => exact ⟨rfl, fun _ hstore => hstore⟩
  | cons call rest ih =>
    have hnext := w.next_eq_self (h call (by simp))
    obtain ⟨hrun, hstores⟩ := ih fun c hc => h c (List.mem_cons_of_mem _ hc)
    constructor
    · rw [List.cons_append, run, hnext, List.length_cons, List.drop_succ_cons, hrun]
    · intro store hstore
      rw [List.cons_append, storesAlong, hnext] at hstore
      rcases List.mem_cons.mp hstore with rfl | hstore
      · exact w.files_mem_storesAlong calls
      · exact hstores store hstore

end World

/-! ## What a session shows -/

namespace Session

/-- The world that a session shows. -/
def world (s : Session) : World := ⟨s.host, s.settings, s.files⟩

theorem Frame.world_eq {s t : Session} (h : Frame s t) (hsettings : t.settings = s.settings) :
    t.world = s.world := by
  rw [world, h.host, hsettings, h.files, world]

theorem Alike.world_eq {s t : Session} (h : Alike s t) : t.world = s.world := by
  rw [world, h.host, h.settings, h.files, world]

@[simp] theorem world_needLink (s : Session) : s.needLink.world = s.world :=
  s.frame_needLink.world_eq s.settings_needLink

@[simp] theorem world_refresh (s : Session) : (s.refresh none).world = s.world :=
  (s.frame_refresh none).world_eq (s.settings_refresh none)

theorem Current.architecture_eq_world {s : Session} (h : s.Current) :
    s.architecture = s.world.architecture := h.architecture_eq

/-! ## One operation at a time -/

theorem world_report (s : Session) (layout : Option Layout) :
    (s.report layout).1.world = s.world := by
  cases layout with
  | none => exact s.world_needLink
  | some l => exact s.world_needLink

theorem Current.report {s : Session} (h : s.Current) (layout : Option Layout) :
    (s.report layout).1.Current := by
  cases layout with
  | none => exact h.needLink
  | some l => exact h.needLink.alike (alike_needSettings _)

/-- A current session answers for the architecture of its world. -/
theorem Current.reportOn_eq {s : Session} (h : s.Current) (layout : Option Layout) :
    s.reportOn layout = s.world.report layout := by
  rw [reportOn, World.report, h.architecture_eq_world]
  rfl

theorem world_layoutInLine (s : Session) (known : List Text) (sizes : SizeMap) (line : Text)
    (cursor : Int) : (s.layoutInLine known sizes line cursor).1.world = s.world := by
  rw [layoutInLine, world_report, world_needLink]

theorem Current.layoutInLine_eq {s : Session} (h : s.Current) (known : List Text)
    (sizes : SizeMap) (line : Text) (cursor : Int) :
    (s.layoutInLine known sizes line cursor).2 = s.world.layoutInLine known sizes line cursor := by
  rw [layoutInLine_eq_reportOn, h.reportOn_eq, h.architecture_eq_world, World.layoutInLine]

theorem Current.layoutInLine {s : Session} (h : s.Current) (known : List Text) (sizes : SizeMap)
    (line : Text) (cursor : Int) : (s.layoutInLine known sizes line cursor).1.Current :=
  h.needLink.report _

theorem Current.lookUp_eq {s : Session} (h : s.Current) (sizes : SizeMap) (text : Text) :
    (s.lookUp sizes text).2 =
      s.world.report (Layout.ofText? s.world.architecture.width sizes text) := by
  rw [lookUp_eq_reportOn, h.reportOn_eq, h.architecture_eq_world]

theorem Current.describeArchitecture {s : Session} (h : s.Current) :
    s.describeArchitecture.1.Current := h.needLink.alike (alike_needSettings _)

theorem Current.describeArchitecture_eq {s : Session} (h : s.Current) :
    s.describeArchitecture.2 = s.world.architectureReport := by
  have hcurrent := h.describeArchitecture
  have hworld : s.describeArchitecture.1.world = s.world := s.world_needLink
  rw [World.architectureReport, ← hworld, ← hcurrent.architecture_eq_world]
  rfl

/-- With a faithful memory, a scan in a current session finds what all queries find in the file. -/
theorem Current.scanFound_eq_scan {s : Session} (h : s.Current) {stores : List FileStore}
    (hscans : ScansFaithful stores s.scanner) (htell : StampsTell stores)
    (hfiles : s.files ∈ stores) {place : Place} {file : StoredFile}
    (hfile : s.files.fileAt? place = some file) :
    (s.scanFound place file).2 = Declaration.scan (Utf8.textOf file.octets) := by
  rw [scanFound_eq]
  show (s.consult place file).2 = _
  rw [hscans.consult_eq htell hfiles hfile, h.scannerQueries, Declaration.scan]

theorem Current.layoutInFile_eq {s : Session} (h : s.Current) {stores : List FileStore}
    (hscans : ScansFaithful stores s.scanner) (htell : StampsTell stores)
    (hfiles : s.files ∈ stores) (sizes : SizeMap) (path : Text) (line column : Int) :
    (s.layoutInFile sizes path line column).2 = s.world.layoutInFile sizes path line column ∧
      (s.layoutInFile sizes path line column).1.Current ∧
      (s.layoutInFile sizes path line column).1.world = s.world := by
  have hfiles' : s.world.files.read path = s.files.read path := rfl
  cases hread : s.files.read path with
  | error obstacle =>
    simp only [Session.layoutInFile, World.layoutInFile, hfiles', hread]
    exact ⟨trivial, h, trivial⟩
  | ok found =>
    obtain ⟨place, file⟩ := found
    cases hline : lineAt? (Utf8.textOf file.octets) line with
    | none =>
      simp only [Session.layoutInFile, World.layoutInFile, hfiles', hread, hline]
      exact ⟨trivial, h, trivial⟩
    | some text =>
      -- the only answer that reads the scanner's memory
      have hfind := (FileStore.read_eq_ok_iff.mp hread).1
      have hscan := h.scanFound_eq_scan hscans htell hfiles (FileStore.fileAt?_of_find hfind)
      have halike := s.alike_scanFound place file
      have hcurrent := h.alike halike
      simp only [Session.layoutInFile, World.layoutInFile, hfiles', hread, hline, hscan,
        hcurrent.layoutInLine_eq, world_layoutInLine, halike.world_eq, and_true, true_and]
      exact hcurrent.layoutInLine _ _ _ _

theorem Current.startUp {s : Session} (h : s.Current) : s.startUp.1.Current :=
  (h.alike s.alike_beforeStartUp).toWired.refresh

theorem world_startUp (s : Session) : s.startUp.1.world = s.world :=
  (world_refresh _).trans s.alike_beforeStartUp.world_eq

theorem Current.startUp_eq {s : Session} (h : s.Current) :
    s.startUp.2 = logLine ("Architecture: ".toList ++ s.world.architecture.label) := by
  rw [← world_startUp, ← h.startUp.architecture_eq_world]
  rfl

theorem world_announce (s : Session) (keys : List Settings.Key) :
    (s.announce keys).world = s.world := by
  have hworld : (if keys.any Settings.Key.architectural.contains
      then s.needEngine.refresh none else s.needEngine).world = s.world := by
    split
    · exact world_refresh _
    · rfl
  unfold announce
  dsimp only
  split
  · rw [(alike_callAll _ _).world_eq, hworld]
  · exact hworld

theorem change_eq_ok {s : Session} {changes : List Settings.Change} {settings : Settings}
    {keys : List Settings.Key} (h : s.settings.update changes = (settings, .ok keys)) :
    s.change changes = ({ s with settings? := some settings }, .ok keys) := by
  simp only [change, h]

theorem change_eq_refused {s : Session} {changes : List Settings.Change} {settings : Settings}
    {refusal : Settings.Refusal} (h : s.settings.update changes = (settings, .error refusal)) :
    s.change changes = ({ s with settings? := some settings }, .error (.refused refusal)) := by
  simp only [change, h]

/-- A change of options is answered from the settings alone, and shows in the world exactly when it
succeeds. -/
theorem Current.configure_eq {s : Session} (h : s.Current) (options : Options) :
    (s.handle (.configure options)).2 = s.world.answer (.configure options) ∧
      (s.handle (.configure options)).1.Current ∧
      (s.handle (.configure options)).1.world = s.world.next (.configure options) := by
  cases hupdate : s.settings.update options.changes with
  | mk settings outcome =>
    have hupdate' : s.world.settings.update options.changes = (settings, outcome) := hupdate
    cases outcome with
    | error refusal =>
      -- the settings are written back as they were
      have hsame : settings = s.settings := update_options_refused hupdate
      simp only [handle, configure, change_eq_refused hupdate, World.answer, World.next, hupdate',
        hsame]
      exact ⟨rfl, h.alike s.alike_needSettings, rfl⟩
    | ok keys =>
      -- between change and announcement the session is wired only
      have hwired := h.toWired.change options.changes
      have hcurrent : ((s.change options.changes).1.announce keys).Current :=
        current_announce hwired fun hkeys => h.change (by rw [hupdate]) hkeys
      rw [change_eq_ok hupdate] at hcurrent
      simp only [handle, configure, change_eq_ok hupdate, World.answer, World.next, hupdate']
      refine ⟨?_, hcurrent.describeArchitecture, ?_⟩
      · simp only [Except.map, hcurrent.describeArchitecture_eq, world_announce]
        rfl
      · exact (world_needLink _).trans (world_announce _ keys)

/-- Files are nothing that the other parts depend on. -/
theorem Current.withFiles {s : Session} (h : s.Current) (files : FileStore) :
    Current { s with files := files } where
  resolver := h.resolver
  engine := h.engine
  scannerOwn := h.scannerOwn
  scannerQueries := h.scannerQueries
  upToDate := h.upToDate

/-! ## Runs -/

/-- One call of a current session with a faithful memory is answered by the world that the session
shows, and leads to a current session that shows the next world. -/
theorem Current.handle_eq {s : Session} (h : s.Current) {stores : List FileStore}
    (hscans : ScansFaithful stores s.scanner) (htell : StampsTell stores)
    (hfiles : s.files ∈ stores) (call : ServerCall) :
    (s.handle call.request).2 = s.world.answer call ∧
      (s.handle call.request).1.Current ∧
      (s.handle call.request).1.world = s.world.next call := by
  cases call with
  | startUp =>
    exact ⟨congrArg (fun line => Except.ok (Reply.log line)) h.startUp_eq, h.startUp,
      s.world_startUp⟩
  | configure options => exact h.configure_eq options
  | describeArchitecture =>
    exact ⟨congrArg (fun r => Except.ok (Reply.architecture r)) h.describeArchitecture_eq,
      h.describeArchitecture, s.world_needLink⟩
  | layoutInLine known sizes line cursor =>
    exact ⟨congrArg (Except.map Reply.report) (h.layoutInLine_eq known sizes line cursor),
      h.layoutInLine known sizes line cursor, s.world_layoutInLine known sizes line cursor⟩
  | layoutInFile sizes path line column =>
    obtain ⟨hanswer, hcurrent, hworld⟩ :=
      h.layoutInFile_eq hscans htell hfiles sizes path line column
    exact ⟨congrArg (Except.map Reply.fileReport) hanswer, hcurrent, hworld⟩
  | lookUp sizes text =>
    exact ⟨congrArg (Except.map Reply.report) (h.lookUp_eq sizes text),
      h.needLink.report _, (world_report _ _).trans s.world_needLink⟩
  | write path file => exact ⟨rfl, h.withFiles _, rfl⟩
  | remove path => exact ⟨rfl, h.withFiles _, rfl⟩

/-- A run of a current session with a faithful memory shows the run of its world. -/
theorem Current.run_eq {s : Session} (h : s.Current) {stores : List FileStore}
    (hscans : ScansFaithful stores s.scanner) (htell : StampsTell stores)
    {calls : List ServerCall} (hstores : ∀ f ∈ s.world.storesAlong calls, f ∈ stores) :
    (s.run (calls.map ServerCall.request)).map (fun e => (e.1.world, e.2)) = s.world.run calls ∧
      ∀ e ∈ s.run (calls.map ServerCall.request), e.1.Current := by
  induction calls generalizing s with
  | nil => exact ⟨rfl, by simp [run]⟩
  | cons call rest ih =>
    have hfiles : s.files ∈ stores := hstores _ (s.world.files_mem_storesAlong _)
    -- both invariants go on to the session after the call: current, and a faithful memory
    obtain ⟨hanswer, hcurrent, hworld⟩ := h.handle_eq hscans htell hfiles call
    have hscans' := hscans.turn hfiles (turn_handle s call.request)
    obtain ⟨hrun, hall⟩ := ih hcurrent hscans' fun f hf =>
      hstores f (List.mem_cons_of_mem _ (by rwa [hworld] at hf))
    constructor
    · simp only [List.map_cons, run, World.run, hrun, hworld, hanswer]
    · intro e he
      rcases List.mem_cons.mp he with rfl | he
      · exact hcurrent
      · exact hall e he

theorem Untouched.world_eq {s : Session} (h : s.Untouched) :
    s.world = ⟨s.host, .ofEnvironment s.env, s.files⟩ := by
  rw [world, Session.settings, h.settings, Option.getD_none]

theorem Untouched.scansFaithful {s : Session} (h : s.Untouched) (stores : List FileStore) :
    ScansFaithful stores s.scanner := by
  apply scansFaithful_of_empty
  rw [Session.scanner, h.scanner]
  rfl

/-- **Answers do not depend on history.** From a session none of whose parts exists, every run of
calls is answered, call by call, as by the stateless server that starts with the settings of the
environment. In every session on the way a resolver that the engine holds is that of the settings
then in force, and asking anything first, which brings parts into being, changes no later answer. -/
theorem run_eq_stateless (s : Session) (calls : List ServerCall) (hs : s.Untouched)
    (htell : StampsTell (s.world.storesAlong calls)) :
    (s.run (calls.map ServerCall.request)).map (fun e => (e.1.world, e.2)) =
        World.run ⟨s.host, .ofEnvironment s.env, s.files⟩ calls ∧
      (∀ e ∈ s.run (calls.map ServerCall.request), ∀ a, e.1.engineArchitecture? = some a →
        ∃ settings, e.1.settings? = some settings ∧ a = Architecture.resolve e.1.host settings) ∧
      ∀ asked : List ServerCall, (∀ call ∈ asked, call.asksOnly = true) →
        ((s.run ((asked ++ calls).map ServerCall.request)).drop asked.length).map Prod.snd =
          (s.run (calls.map ServerCall.request)).map Prod.snd := by
  obtain ⟨hrun, hcurrent⟩ := hs.current.run_eq (hs.scansFaithful _) htell fun _ hf => hf
  refine ⟨hs.world_eq ▸ hrun, ?_, ?_⟩
  · intro e he a ha
    obtain ⟨hsettings, harch⟩ := (hcurrent e he).engineArchitecture?_eq ha
    exact ⟨e.1.settings, hsettings, harch⟩
  · intro asked hasked
    obtain ⟨hdrop, hstores⟩ := s.world.run_after_asking calls hasked
    obtain ⟨hlong, -⟩ := hs.current.run_eq (hs.scansFaithful _) (htell.mono hstores) fun _ hf => hf
    -- both runs show runs of the same world, of which the longer one only asks first
    have hanswers : ∀ {n : Nat} {requests : List Request} {r : List (World × Except Fault Reply)},
        ((s.run requests).map fun e => (e.1.world, e.2)) = r →
          ((s.run requests).drop n).map Prod.snd = (r.drop n).map Prod.snd := by
      rintro n requests _ rfl
      simp only [List.map_drop, List.map_map, Function.comp_def]
    rw [hanswers hlong, hdrop, ← hrun, List.map_map]
    rfl

/-- A type is looked up, a header is written, asked about, overwritten and asked about again, while
the mode changes and a further change is refused. -/
def busyDay : List ServerCall := [
  .lookUp [] "long".toList,
  .write "a.h".toList (asciiFile "struct A{};" 1),
  .layoutInFile [("A".toList, 24)] "a.h".toList 1 8,
  .configure ⟨some "x32".toList, none, none⟩,
  .write "a.h".toList (asciiFile "struct B{};" 2),
  .configure ⟨some "x33".toList, none, some false⟩,
  .startUp,
  .layoutInFile [("A".toList, 24)] "./a.h".toList 1 8]

/-- The answers of that day, on a 64-bit host. -/
def busyAnswers : List (Except Fault Reply) :=
  let host64 := "x86_64 (host)".toList
  let manual32 : Architecture := ⟨.bits32, "x32 (manual)".toList⟩
  let long : Layout := ⟨"long".toList, none,
    .scalar ⟨8, 8⟩ "Long integer (platform dependent)".toList⟩
  let longHover := "Memory Size: `8 bytes`\n\n_Long integer (platform dependent)_\n\n".toList
    ++ "Architecture: x86_64 (host)".toList
  let a : Layout := ⟨"A".toList, some ⟨7, 8⟩, .aggregate 24⟩
  let aHover := "Size: `24 bytes`\n\n_User-defined type_\n\nArchitecture: x86_64 (host)".toList
  [.ok (.report ⟨host64, some (long, longHover)⟩),
    .ok .done,
    .ok (.fileReport ⟨⟨host64, some (a, aHover)⟩, "a.h".toList, 1, ["A".toList]⟩),
    .ok (.configured ["architecture".toList] ⟨.x32, manual32, "x86_64".toList⟩),
    .ok .done,
    .error (.refused (.invalidMode "x33".toList)),
    .ok (.log "[C Layout Analyzer] Architecture: x32 (manual)\n".toList),
    .ok (.fileReport ⟨⟨manual32.label, none⟩, "./a.h".toList, 1, ["B".toList]⟩)]

theorem run_busyDay :
    plainStart.Untouched ∧ StampsTell (plainStart.world.storesAlong busyDay) ∧
      (plainStart.run (busyDay.map ServerCall.request)).map Prod.snd = busyAnswers := by
  have hs : plainStart.Untouched := ⟨rfl, rfl, rfl, rfl⟩
  have htell : StampsTell (plainStart.world.storesAlong busyDay) :=
    FileStore.stampsTell_of_entries (by decide)
  have hanswers : (World.run ⟨plainStart.host, .ofEnvironment {}, .empty []⟩ busyDay).map Prod.snd =
      busyAnswers := by decide +kernel
  refine ⟨hs, htell, ?_⟩
  rw [← hanswers]
  -- the world decides, and nothing that the session has kept
  have hrun := (run_eq_stateless plainStart busyDay hs htell).1
  exact (List.map_map ..).symm.trans (congrArg (List.map Prod.snd) hrun)

end Session

end TypeLens
