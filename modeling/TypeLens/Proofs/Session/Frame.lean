/-
# TypeLens.Proofs.Session.Frame -- what an operation of a session leaves alone

Most operations bring settings, resolver or engine up to date and touch nothing else: host,
environment, files, scanner and the log of calls stay (`Frame`). What remains are the operations that
reach the scanner. They are summed up by `Scanner.Turn`: one request leaves a scanner's memory as it
is, starts it afresh, or looks up one file that is in the store. Every statement about all runs of a
scanner follows from `turn_handle`.
-/
import TypeLens.Session

namespace TypeLens

namespace Session

/-! ## Operations that do not reach the scanner -/

/-- Two sessions that differ at most in settings, resolver and engine. -/
structure Frame (s t : Session) : Prop where
  host : t.host = s.host
  env : t.env = s.env
  files : t.files = s.files
  scanner? : t.scanner? = s.scanner?
  calls : t.calls = s.calls

namespace Frame

theorem refl (s : Session) : Frame s s := ⟨rfl, rfl, rfl, rfl, rfl⟩

theorem trans {s t u : Session} (h₁ : Frame s t) (h₂ : Frame t u) : Frame s u :=
  ⟨h₂.host.trans h₁.host, h₂.env.trans h₁.env, h₂.files.trans h₁.files,
    h₂.scanner?.trans h₁.scanner?, h₂.calls.trans h₁.calls⟩

theorem scanner {s t : Session} (h : Frame s t) : t.scanner = s.scanner := by
  rw [Session.scanner, h.scanner?, Session.scanner]

end Frame

theorem frame_needSettings (s : Session) : Frame s s.needSettings := ⟨rfl, rfl, rfl, rfl, rfl⟩

theorem frame_needSettingsUnless (s : Session) (own : Option Settings) :
    Frame s (s.needSettingsUnless own) := by
  unfold needSettingsUnless
  split
  · exact .refl s
  · exact s.frame_needSettings

theorem frame_needResolver (s : Session) : Frame s s.needResolver := by
  unfold needResolver
  split
  · exact .refl s
  · exact ⟨rfl, rfl, rfl, rfl, rfl⟩

theorem frame_needEngine (s : Session) : Frame s s.needEngine := ⟨rfl, rfl, rfl, rfl, rfl⟩

theorem frame_needLink (s : Session) : Frame s s.needLink := by
  unfold needLink
  split
  · exact s.frame_needResolver.trans ⟨rfl, rfl, rfl, rfl, rfl⟩
  · exact s.frame_needEngine

theorem frame_setEngineResolver (s : Session) (r : Resolver) :
    Frame s (s.setEngineResolver r) := by
  unfold setEngineResolver
  split <;> exact ⟨rfl, rfl, rfl, rfl, rfl⟩

theorem frame_refresh (s : Session) (given : Option Settings) : Frame s (s.refresh given) :=
  (s.frame_needLink.trans (frame_needSettingsUnless _ _)).trans (frame_setEngineResolver _ _)

theorem frame_dropResolver (s : Session) : Frame s s.dropResolver := ⟨rfl, rfl, rfl, rfl, rfl⟩

theorem frame_addListener (s : Session) (l : Listener) : Frame s (s.addListener l) :=
  ⟨rfl, rfl, rfl, rfl, rfl⟩

theorem frame_change (s : Session) (changes : List Settings.Change) :
    Frame s (s.change changes).1 := ⟨rfl, rfl, rfl, rfl, rfl⟩

theorem frame_report (s : Session) (layout : Option Layout) : Frame s (s.report layout).1 := by
  cases layout with
  | none => exact s.frame_needLink
  | some l => exact s.frame_needLink.trans (frame_needSettings _)

theorem frame_layoutInLine (s : Session) (known : List Text) (sizes : SizeMap) (line : Text)
    (cursor : Int) : Frame s (s.layoutInLine known sizes line cursor).1 :=
  s.frame_needLink.trans (frame_report _ _)

theorem frame_lookUp (s : Session) (sizes : SizeMap) (text : Text) :
    Frame s (s.lookUp sizes text).1 :=
  s.frame_needLink.trans (frame_report _ _)

theorem frame_describeArchitecture (s : Session) : Frame s s.describeArchitecture.1 :=
  s.frame_needLink.trans (frame_needSettings _)

/-! ## Operations that reach the scanner -/

@[simp] theorem scanner_needScanner (s : Session) : s.needScanner.scanner = s.scanner := rfl

/-- Forgetting the scans leaves a scanner as it was made; one that is not there yet has none. -/
theorem scanner_clearScans (s : Session) :
    s.clearScans.scanner = { s.scanner with cache := .empty } := by
  cases h : s.scanner? <;> simp [clearScans, scanner, h, freshScanner]

/-- A call of listeners leaves the scanner alone or clears it. -/
theorem scanner_callAll (listeners : List Listener) (s : Session) :
    (listeners.foldl call s).scanner = s.scanner ∨
      (listeners.foldl call s).scanner = { s.scanner with cache := .empty } := by
  induction listeners generalizing s with
  | nil => exact Or.inl rfl
  | cons l rest ih =>
    rw [List.foldl_cons]
    cases l with
    | notify => exact ih (s.call .notify)
    | dropOldScans => exact ih (s.call .dropOldScans)
    | dropScans =>
      have hcall : (s.call .dropScans).scanner = { s.scanner with cache := .empty } :=
        s.scanner_clearScans
      -- once cleared, it stays cleared: later listeners clear nothing more
      have ih := ih (s.call .dropScans)
      rw [hcall] at ih
      rcases ih with h | h
      · exact Or.inr h
      · exact Or.inr h

theorem scanner_announce (s : Session) (keys : List Settings.Key) :
    (s.announce keys).scanner = s.scanner ∨
      (s.announce keys).scanner = { s.scanner with cache := .empty } := by
  -- up to the listeners, only the architecture may have been resolved again
  have hframe : Frame s (if keys.any Settings.Key.architectural.contains
      then s.needEngine.refresh none else s.needEngine) := by
    split
    · exact s.frame_needEngine.trans (frame_refresh _ none)
    · exact s.frame_needEngine
  unfold announce
  dsimp only
  split
  · rw [← hframe.scanner]
    exact scanner_callAll _ _
  · exact Or.inl hframe.scanner

/-! ## Scans -/

@[simp] theorem settings_needSettings (s : Session) : s.needSettings.settings = s.settings := rfl

@[simp] theorem settings_needSettingsUnless (s : Session) (own : Option Settings) :
    (s.needSettingsUnless own).settings = s.settings := by
  unfold needSettingsUnless
  split <;> rfl

/-- The outcome of looking a file up in the scanner's memory. -/
def consult (s : Session) (place : Place) (file : StoredFile) : ScanCache × List Declaration :=
  s.scanner.cache.scanFile s.scanPolicy (Declaration.scanWith s.scanner.queries) place file

/-- A scan of a file that has been found brings the settings into being that it needs, and goes
through the scanner's memory. -/
theorem scanFound_eq (s : Session) (place : Place) (file : StoredFile) :
    s.scanFound place file =
      ({ s.needSettingsUnless s.scanner.own with
          scanner? := some { s.scanner with cache := (s.consult place file).1 } },
        (s.consult place file).2) := by
  have hscanner : (s.needScanner.needSettingsUnless s.scanner.own).scanner = s.scanner :=
    (frame_needSettingsUnless _ _).scanner
  have hsettings : (s.needScanner.needSettingsUnless s.scanner.own).settings = s.settings :=
    settings_needSettingsUnless _ _
  unfold scanFound
  simp only [scanner_needScanner, hscanner, hsettings, consult, scanPolicy, scanSettings]
  unfold needSettingsUnless
  split <;> rfl

theorem scanner_scanFound (s : Session) (place : Place) (file : StoredFile) :
    (s.scanFound place file).1.scanner =
      { s.scanner with cache := (s.consult place file).1 } := by
  rw [scanFound_eq]
  rfl

/-- A scan of a path goes through the scanner's memory, or fails and leaves the scanner alone. The
first happens exactly if a file is found that may be scanned. -/
theorem scanFile_cases (s : Session) (path : Text) :
    (∃ place file, s.files.find path = .ok (.file place file) ∧ s.mayScan place file = true ∧
      s.scanFile path = ((s.needScanner.scanFound place file).1, .ok (s.consult place file).2)) ∨
    ((∀ place file, s.files.find path = .ok (.file place file) → s.mayScan place file = false) ∧
      (∃ fault, (s.scanFile path).2 = .error fault) ∧
      Frame s.needScanner (s.scanFile path).1) := by
  have hfiles : s.needScanner.files.find path = s.files.find path := rfl
  have hmay : ∀ place file, s.needScanner.mayScan place file = s.mayScan place file :=
    fun _ _ => rfl
  unfold scanFile
  dsimp only
  rw [hfiles]
  split
  · rename_i hfind
    exact .inr ⟨(fun _ _ h => nomatch hfind.symm.trans h), ⟨_, rfl⟩, .refl _⟩
  · rename_i hfind
    exact .inr ⟨(fun _ _ h => nomatch hfind.symm.trans h), ⟨_, rfl⟩, frame_needSettingsUnless _ _⟩
  · rename_i place file hfind
    rw [hmay]
    split
    · rename_i hscan
      refine .inl ⟨place, file, hfind, hscan, ?_⟩
      rw [scanFound_eq]
      rfl
    · rename_i hscan
      refine .inr ⟨?_, ⟨_, rfl⟩, frame_needSettingsUnless _ _⟩
      rintro place' file' hfound
      obtain ⟨rfl, rfl⟩ := FileStore.Node.file.inj (Except.ok.inj (hfind.symm.trans hfound))
      simpa using hscan

end Session

/-! ## One request and the scanner -/

/-- How one request can change a scanner in front of given files and under a cache policy. -/
inductive Scanner.Turn (files : FileStore) (policy : ScanCache.Policy) (old : Scanner) :
    Scanner → Prop where
  /-- What it remembers stays. -/
  | kept (own : Option Settings) : Turn files policy old { old with own := own }
  /-- It is left with nothing remembered, or is another one that has scanned nothing. -/
  | fresh {new : Scanner} (h : new.cache = .empty) : Turn files policy old new
  /-- A file that is in the store was looked up. -/
  | scanned {place : Place} {file : StoredFile} (h : files.fileAt? place = some file) :
      Turn files policy old { old with
        cache := (old.cache.scanFile policy (Declaration.scanWith old.queries) place file).1 }

namespace Session

open Scanner (Turn)

theorem turn_of_eq {files : FileStore} {policy : ScanCache.Policy} {old new : Scanner}
    (h : new = old) : Turn files policy old new := by
  subst h
  exact .kept new.own

theorem turn_of_frame {s t : Session} (h : Frame s t) :
    Turn s.files s.scanPolicy s.scanner t.scanner :=
  turn_of_eq h.scanner

theorem turn_announce (files : FileStore) (policy : ScanCache.Policy) (s : Session)
    (keys : List Settings.Key) : Turn files policy s.scanner (s.announce keys).scanner := by
  rcases s.scanner_announce keys with h | h
  · exact turn_of_eq h
  · exact .fresh (by rw [h])

theorem turn_scanFound (s : Session) {place : Place} {file : StoredFile}
    (h : s.files.fileAt? place = some file) :
    Turn s.files s.scanPolicy s.scanner (s.scanFound place file).1.scanner := by
  rw [scanner_scanFound]
  exact .scanned h

theorem turn_scanFile (s : Session) (path : Text) :
    Turn s.files s.scanPolicy s.scanner (s.scanFile path).1.scanner := by
  rcases s.scanFile_cases path with ⟨place, file, hfind, -, hscan⟩ | ⟨-, -, hframe⟩
  · rw [hscan]
    exact turn_scanFound s.needScanner (FileStore.fileAt?_of_find hfind)
  · exact turn_of_eq hframe.scanner

theorem turn_layoutInFile (s : Session) (sizes : SizeMap) (path : Text) (line column : Int) :
    Turn s.files s.scanPolicy s.scanner (s.layoutInFile sizes path line column).1.scanner := by
  unfold layoutInFile
  split
  · exact .kept _
  · rename_i place file h
    dsimp only
    split
    · exact .kept _
    · rw [(frame_layoutInLine _ _ _ _ _).scanner]
      exact turn_scanFound s (FileStore.fileAt?_of_find (FileStore.read_eq_ok_iff.mp h).1)

theorem turn_configure (s : Session) (options : Options) :
    Turn s.files s.scanPolicy s.scanner (s.configure options).1.scanner := by
  have hchange := (s.frame_change options.changes).scanner
  unfold configure
  split
  · rename_i t fault ht
    rw [ht] at hchange
    exact turn_of_eq hchange
  · rename_i t keys ht
    rw [ht] at hchange
    dsimp only
    -- of the three steps only the middle one, the announcement, reaches the scanner
    rw [(frame_describeArchitecture _).scanner, ← hchange]
    exact turn_announce _ _ t keys

/-- Whatever is asked of a session, its scanner makes one turn. -/
theorem turn_handle (s : Session) (request : Request) :
    Turn s.files s.scanPolicy s.scanner (s.handle request).1.scanner := by
  cases request with
  | setVariable name value =>
    rw [handle]
    split <;> exact .kept _
  | readSettings => exact .kept _
  | replaceSettings given => exact .kept _
  | dropSettings => exact .kept _
  | change changes => exact turn_of_frame (s.frame_change changes)
  | announce keys => exact turn_announce _ _ s keys
  | refresh given => exact turn_of_frame (s.frame_refresh _)
  | dropEngine => exact .kept _
  | dropResolver => exact turn_of_frame s.frame_dropResolver
  | replaceScanner given => cases given <;> exact .fresh rfl
  | breakScanner failing => exact .fresh rfl
  | addListener => exact turn_of_frame (s.frame_needEngine.trans (frame_addListener _ _))
  | startUp =>
    have hframe := (frame_addListener s.needEngine.needScanner .dropScans).trans
      (frame_refresh _ none)
    exact turn_of_eq hframe.scanner
  | extentOf name => exact turn_of_frame s.frame_needResolver
  | write path file => exact .kept _
  | remove path => exact .kept _
  | scanFile path => exact turn_scanFile s path
  | clearScans => exact .fresh (by rw [show (s.handle .clearScans).1 = s.needScanner.clearScans
      from rfl, scanner_clearScans])
  | layoutInLine known sizes line cursor => exact turn_of_frame (s.frame_layoutInLine _ _ _ _)
  | layoutInFile sizes path line column => exact turn_layoutInFile s sizes path line column
  | lookUp sizes text => exact turn_of_frame (s.frame_lookUp _ _)
  | describeArchitecture => exact turn_of_frame s.frame_describeArchitecture
  | configure options => exact turn_configure s options

end Session

end TypeLens
