/-
# TypeLens.Proofs.ScanTransparency -- remembered scans never show

A session may be asked anything in any order, files may be written, overwritten and removed, and
the cache settings that the scanner goes by may change to any values in between (`Event`). As long
as no two contents of one place carry the same stamp in the stores that the session goes through
(`StampsTell`), a scan answers what a scan of the file as it stands would answer
(`scanFile_eq_freshScan`), failures included.

The invariant is that the scanner remembers only scans of versions that stood in one of those
stores (`ScansFaithful`). It is kept by every turn of a scanner, hence by every event. Nothing is
said here about how much is remembered.
-/
import TypeLens.Proofs.ScanMemory
import TypeLens.Proofs.Session.Frame

namespace TypeLens

/-! ## Versions of files -/

namespace FileStore

/-- A version of a file that stands at a place in one of the stores. -/
def SeenIn (stores : List FileStore) (place : Place) (file : StoredFile) : Prop :=
  ∃ store ∈ stores, store.fileAt? place = some file

/-- No two different contents of one place carry the same stamp, in whichever of the stores. -/
def StampsTell (stores : List FileStore) : Prop :=
  ∀ place f g, SeenIn stores place f → SeenIn stores place g → f.stamp = g.stamp →
    f.octets = g.octets

theorem StampsTell.mono {fewer stores : List FileStore} (h : StampsTell stores)
    (hsub : ∀ store ∈ fewer, store ∈ stores) : StampsTell fewer := by
  rintro place f g ⟨a, ha, hf⟩ ⟨b, hb, hg⟩
  exact h place f g ⟨a, hsub a ha, hf⟩ ⟨b, hsub b hb, hg⟩

/-- It is enough to compare all entries of all stores, which can be computed. -/
theorem stampsTell_of_entries {stores : List FileStore}
    (h : ∀ a ∈ stores.flatMap files, ∀ b ∈ stores.flatMap files, a.1 = b.1 →
      a.2.stamp = b.2.stamp → a.2.octets = b.2.octets) : StampsTell stores := by
  have entry : ∀ {place file}, SeenIn stores place file →
      (place, file) ∈ stores.flatMap files := by
    rintro place file ⟨store, hstore, hfile⟩
    obtain ⟨found, hfound, rfl⟩ := Option.map_eq_some_iff.mp hfile
    have hplace : found.1 = place := by simpa using List.find?_some hfound
    rw [← hplace]
    exact List.mem_flatMap.mpr ⟨store, hstore, List.mem_of_find?_eq_some hfound⟩
  intro place f g hf hg
  exact h _ (entry hf) _ (entry hg) rfl

end FileStore

open FileStore (SeenIn StampsTell)

/-! ## Runs of a session -/

namespace Session

/-- What can happen to a session: any request, or a change of the cache settings that its scanner
goes by. -/
inductive Event where
  | request (request : Request)
  | retune (enabled : Bool) (capacity : Int)

/-- Gives other cache settings to the settings that the scanner goes by: its own ones if it has
any, else those of the session. -/
def retune (s : Session) (enabled : Bool) (capacity : Int) : Session :=
  match s.scanner.own with
  | some own =>
    { s with scanner? := some { s.scanner with
        own := some { own with cacheEnabled := enabled, cacheCapacity := capacity } } }
  | none =>
    { s with settings? := some { s.settings with
        cacheEnabled := enabled, cacheCapacity := capacity } }

/-- The session after an event. -/
def step (s : Session) : Event → Session
  | .request request => (s.handle request).1
  | .retune enabled capacity => s.retune enabled capacity

/-- The session after a list of events. -/
def after (s : Session) (events : List Event) : Session := events.foldl step s

/-- The stores that a session goes through, the first and the last one included. -/
def storesAlong (s : Session) : List Event → List FileStore
  | [] => [s.files]
  | event :: rest => s.files :: (s.step event).storesAlong rest

theorem files_mem_storesAlong (s : Session) (events : List Event) :
    s.files ∈ s.storesAlong events := by
  cases events <;> simp [storesAlong]

/-- The scanner goes by the new cache settings, wherever it has them from. -/
theorem scanPolicy_retune (s : Session) (enabled : Bool) (capacity : Int) :
    (s.retune enabled capacity).scanPolicy = ⟨enabled, capacity⟩ := by
  cases h : s.scanner.own with
  | some own =>
    rw [retune, h]
    rfl
  | none =>
    rw [retune, h]
    have hscanner : ({ s with settings? := some { s.settings with
        cacheEnabled := enabled, cacheCapacity := capacity } } : Session).scanner = s.scanner := rfl
    show scanPolicy { s with settings? := _ } = _
    rw [scanPolicy, scanSettings, hscanner, h]
    rfl

theorem turn_retune (s : Session) (enabled : Bool) (capacity : Int) :
    Scanner.Turn s.files s.scanPolicy s.scanner (s.retune enabled capacity).scanner := by
  unfold retune
  split <;> exact .kept _

theorem turn_step (s : Session) (event : Event) :
    Scanner.Turn s.files s.scanPolicy s.scanner (s.step event).scanner := by
  cases event with
  | request request => exact turn_handle s request
  | retune enabled capacity => exact turn_retune s enabled capacity

/-! ## The invariant -/

/-- The scanner remembers only scans, with its own queries, of versions that stood in one of the
stores. -/
def ScansFaithful (stores : List FileStore) (scanner : Scanner) : Prop :=
  scanner.cache.Faithful (SeenIn stores) (Declaration.scanWith scanner.queries)

theorem scansFaithful_of_empty (stores : List FileStore) {scanner : Scanner}
    (h : scanner.cache = .empty) : ScansFaithful stores scanner := by
  rw [ScansFaithful, h]
  exact ScanCache.faithful_empty

theorem ScansFaithful.turn {stores : List FileStore} {files : FileStore}
    {policy : ScanCache.Policy} {old new : Scanner} (h : ScansFaithful stores old)
    (hfiles : files ∈ stores) (hturn : Scanner.Turn files policy old new) :
    ScansFaithful stores new := by
  cases hturn with
  | kept own => exact h
  | fresh hempty => exact scansFaithful_of_empty stores hempty
  | scanned hfile => exact h.scanFile policy ⟨files, hfiles, hfile⟩

theorem ScansFaithful.after {stores : List FileStore} {s : Session} {events : List Event}
    (h : ScansFaithful stores s.scanner) (hstores : ∀ f ∈ s.storesAlong events, f ∈ stores) :
    ScansFaithful stores (s.after events).scanner ∧ (s.after events).files ∈ stores := by
  induction events generalizing s with
  | nil => exact ⟨h, hstores _ (s.files_mem_storesAlong [])⟩
  | cons event rest ih =>
    -- a turn may look up a file of the store before the event, which is among the stores
    have hhere : s.files ∈ stores := hstores _ (s.files_mem_storesAlong (event :: rest))
    exact ih (h.turn hhere (turn_step s event))
      fun f hf => hstores f (List.mem_cons_of_mem _ hf)

/-! ## Scans answer as if nothing were remembered -/

/-- What a scan of a path finds in the files as they stand. Of what the scanner remembers it matters
only whether a file need not be read, which is seen where it may not be read. -/
def freshScan (s : Session) (path : Text) : Except Fault (List Declaration) :=
  match s.files.find path with
  | .error obstacle => .error (.file obstacle path)
  | .ok (.directory place) =>
    .error (.file (if s.files.mayRead place then .isDirectory else .denied) path)
  | .ok (.file place file) =>
    if s.mayScan place file then
      .ok (Declaration.scanWith s.scanner.queries (Utf8.textOf file.octets))
    else .error (.file .denied path)

/-- A file that can be read is scanned whatever is remembered. -/
theorem freshScan_of_read {s : Session} {path : Text} {place : Place} {file : StoredFile}
    (h : s.files.read path = .ok (place, file)) :
    s.freshScan path = .ok (Declaration.scanWith s.scanner.queries (Utf8.textOf file.octets)) := by
  obtain ⟨hfind, hread⟩ := FileStore.read_eq_ok_iff.mp h
  simp only [freshScan, hfind, mayScan, hread, Bool.true_or, if_true]

/-- What is found is always found in the file as it stands. -/
theorem exists_find_of_freshScan {s : Session} {path : Text} {declarations : List Declaration}
    (h : s.freshScan path = .ok declarations) :
    ∃ place file, s.files.find path = .ok (.file place file) ∧
      declarations = Declaration.scanWith s.scanner.queries (Utf8.textOf file.octets) := by
  unfold freshScan at h
  split at h
  · cases h
  · cases h
  · rename_i place file hfind
    split at h
    · exact ⟨place, file, hfind, (Except.ok.inj h).symm⟩
    · cases h

/-- The scan of a file that has been found, by a scanner with a faithful memory. -/
theorem ScansFaithful.consult_eq {stores : List FileStore} {s : Session}
    (h : ScansFaithful stores s.scanner) (htell : StampsTell stores) (hfiles : s.files ∈ stores)
    {place : Place} {file : StoredFile} (hfile : s.files.fileAt? place = some file) :
    (s.consult place file).2 =
      Declaration.scanWith s.scanner.queries (Utf8.textOf file.octets) := by
  refine h.scanFile_eq s.scanPolicy ?_
  intro other hother hstamp
  exact htell place other file hother ⟨s.files, hfiles, hfile⟩ hstamp

theorem ScansFaithful.scanFile_eq {stores : List FileStore} {s : Session}
    (h : ScansFaithful stores s.scanner) (htell : StampsTell stores) (hfiles : s.files ∈ stores)
    (path : Text) : (s.scanFile path).2 = s.freshScan path := by
  cases hfind : s.files.find path with
  | error obstacle =>
    have hfind' : s.needScanner.files.find path = .error obstacle := hfind
    simp only [scanFile, freshScan, hfind, hfind']
  | ok node =>
    have hfind' : s.needScanner.files.find path = .ok node := hfind
    cases node with
    | directory place =>
      simp only [scanFile, freshScan, hfind, hfind']
      rfl
    | file place file =>
      have hconsult := h.consult_eq htell hfiles (FileStore.fileAt?_of_find hfind)
      have hmay : s.needScanner.mayScan place file = s.mayScan place file := rfl
      simp only [scanFile, freshScan, hfind, hfind', hmay, scanFound_eq]
      split
      · exact congrArg Except.ok hconsult
      · rfl

/-- **The scan cache is transparent.** Whatever has happened since the scanner had scanned nothing,
a scan answers what a scan of the file as it stands would: the place was never scanned, is
remembered in this version or an older one, was evicted, or nothing is remembered at all. In
particular a file that may be read is answered for with its declarations, and no other declarations
are ever answered with. -/
theorem scanFile_eq_freshScan (s : Session) (events : List Event) (path : Text)
    (hfresh : s.scanner.cache = .empty) (htell : StampsTell (s.storesAlong events)) :
    let t := s.after events
    let scanned := fun (file : StoredFile) =>
      Declaration.scanWith t.scanner.queries (Utf8.textOf file.octets)
    (t.scanFile path).2 = t.freshScan path ∧
    (∀ place file, t.files.read path = .ok (place, file) →
      (t.scanFile path).2 = .ok (scanned file)) ∧
    ∀ declarations, (t.scanFile path).2 = .ok declarations →
      ∃ place file, t.files.find path = .ok (.file place file) ∧ declarations = scanned file := by
  intro t scanned
  have hinit : ScansFaithful (s.storesAlong events) s.scanner := scansFaithful_of_empty _ hfresh
  obtain ⟨hfaithful, hfiles⟩ := hinit.after fun _ hf => hf
  have hscan : (t.scanFile path).2 = t.freshScan path := hfaithful.scanFile_eq htell hfiles path
  refine ⟨hscan, ?_, ?_⟩
  · intro place file hread
    rw [hscan, freshScan_of_read hread]
  · intro declarations hanswer
    exact exists_find_of_freshScan (hscan.symm.trans hanswer)

/-- A file with the given characters, which all fit into one octet each. -/
def asciiFile (text : String) (modified : Int) : StoredFile :=
  ⟨text.toList.map fun c => c.toNat.toUInt8, modified⟩

/-- A header is scanned and overwritten by a text of the same length; in between the capacity goes
down to nothing. -/
def overwriting : List Event := [
  .request (.write "a.h".toList (asciiFile "struct A{};" 1)),
  .request (.scanFile "a.h".toList),
  .retune true 0,
  .request (.write "a.h".toList (asciiFile "struct B{};" 2))]

/-- A session on a 64-bit host whose environment sets nothing. -/
def plainStart : Session := start ⟨"x86_64".toList, .bits64⟩ {} []

/-- The older text is still remembered, and the scan is of the newer one. -/
theorem scanFile_overwriting :
    (plainStart.after overwriting).scanner.cache.keys = [["a.h".toList]] ∧
      StampsTell (plainStart.storesAlong overwriting) ∧
      ((plainStart.after overwriting).scanFile "./a.h".toList).2 =
        .ok [⟨"B".toList, .structType, 1, []⟩] := by
  have htell : StampsTell (plainStart.storesAlong overwriting) :=
    FileStore.stampsTell_of_entries (by decide)
  refine ⟨rfl, htell, ?_⟩
  have hfound : Declaration.scan "struct B{};".toList = [⟨"B".toList, .structType, 1, []⟩] := by
    decide +kernel
  have hread : (plainStart.after overwriting).files.read "./a.h".toList =
      .ok (["a.h".toList], asciiFile "struct B{};" 2) := rfl
  obtain ⟨-, hscan, -⟩ := scanFile_eq_freshScan plainStart overwriting "./a.h".toList rfl htell
  rw [hscan _ _ hread, ← hfound]
  rfl

end Session

end TypeLens
