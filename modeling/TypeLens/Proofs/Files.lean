/-
# TypeLens.Proofs.Files -- what can be read at a path

A path is read at if a walk along its names ends at a file that may be read. It can fail for five
reasons, which exclude each other (`FileStore.Blocked`), and for no others (`read_eq_error_iff`).

What was written at a path is read there, whether the path starts at the top of the file system or
not (`read_write`). Writing makes the directories on the way, and a walk finds them: each name is
walked in the directory in which it was made.
-/
import TypeLens.FileStore

namespace TypeLens

namespace FileStore

/-! ## Paths at which nothing can be read -/

/-- Why no file can be read at a path. -/
inductive Blocked (store : FileStore) (path : Text) : Obstacle → Prop where
  /-- Nothing is there. -/
  | missing (h : store.find path = .error .missing) : Blocked store path .missing
  /-- The system does not take the path, or a name in it. -/
  | nameTooLong (h : store.find path = .error .nameTooLong) : Blocked store path .nameTooLong
  /-- A directory on the way may not be searched. -/
  | unsearchable (h : store.find path = .error .denied) : Blocked store path .denied
  /-- What is there may not be read. -/
  | unreadable {node : Node} (h : store.find path = .ok node)
      (hread : store.mayRead node.place = false) : Blocked store path .denied
  /-- What is there may be read and is a directory. -/
  | directory {place : Place} (h : store.find path = .ok (.directory place))
      (hread : store.mayRead place = true) : Blocked store path .isDirectory

variable {store : FileStore} {path : Text} {obstacle : Obstacle}

/-- A walk does not fail because of a directory. -/
theorem walk_ne_isDirectory (store : FileStore) (directory : Place) (names : List Text) :
    store.walk directory names ≠ .error .isDirectory := by
  intro h
  fun_induction walk store directory names with
  | case1 => cases h
  | case2 => cases h
  | case3 => cases h
  | case4 _ _ _ _ ih => exact ih h
  | case5 _ _ _ _ _ ih => exact ih h
  | case6 _ _ _ _ _ _ _ _ _ ih => exact ih h
  | case7 => cases h
  | case8 => cases h

theorem blocked_of_find (h : store.find path = .error obstacle) : store.Blocked path obstacle := by
  cases obstacle with
  | missing => exact .missing h
  | nameTooLong => exact .nameTooLong h
  | denied => exact .unsearchable h
  | isDirectory =>
    unfold find at h
    split at h
    · cases h
    · split at h
      · cases h
      · exact absurd h (store.walk_ne_isDirectory _ _)

/-- What keeps a path from being read, exactly. -/
theorem read_eq_error_iff : store.read path = .error obstacle ↔ store.Blocked path obstacle := by
  rw [read]
  constructor
  · intro h
    cases hfind : store.find path with
    | error other =>
      rw [hfind] at h
      obtain rfl := Except.error.inj h
      exact blocked_of_find hfind
    | ok node =>
      rw [hfind] at h
      have haccess : store.access node = .error obstacle := h
      unfold access at haccess
      split at haccess
      · rename_i hread
        cases node with
        | file place file => cases haccess
        | directory place =>
          obtain rfl := Except.error.inj haccess
          exact .directory hfind hread
      · rename_i hread
        obtain rfl := Except.error.inj haccess
        exact .unreadable hfind (Bool.eq_false_iff.mpr hread)
  · rintro (hfind | hfind | hfind | ⟨hfind, hread⟩ | ⟨hfind, hread⟩)
    · rw [hfind]
      rfl
    · rw [hfind]
      rfl
    · rw [hfind]
      rfl
    · rw [hfind]
      exact if_neg (Bool.eq_false_iff.mp hread)
    · rw [hfind]
      exact if_pos hread

end FileStore

/-! ## Files that have been written -/

/-- The system takes the path, and a file can have the last name. -/
structure Path.Writable (path : Text) : Prop where
  noZero : '\x00' ∉ path
  short : octetCount (shown path) ≤ maxPath
  shortNames : ∀ name ∈ names path, octetCount name ≤ maxName
  last : ∃ last, (names path).getLast? = some last ∧ last ≠ parentName

/-- Names that are walked do not stay. -/
theorem Path.ne_selfName_of_mem_names {path name : Text} (h : name ∈ names path) :
    name ≠ selfName := by
  rw [names, List.mem_filter, Bool.and_eq_true] at h
  exact of_decide_eq_true h.2.2

namespace FileStore

variable {store : FileStore}

theorem isDirectory_makeDirectory (store : FileStore) (place : Place) :
    (store.makeDirectory place).isDirectory place = true := by
  rw [makeDirectory]
  split
  · assumption
  · simp [isDirectory]

theorem exists_makeDirectory_eq (store : FileStore) (place : Place) :
    ∃ made, store.makeDirectory place = { store with directories := store.directories ++ made } := by
  rw [makeDirectory]
  split
  · exact ⟨[], by rw [List.append_nil]⟩
  · exact ⟨[place], rfl⟩

/-- Making a way changes a store by new directories and nothing else. -/
theorem exists_makeWay_eq (store : FileStore) (directory : Place) (names : List Text) :
    ∃ made, (store.makeWay directory names).1 =
      { store with directories := store.directories ++ made } := by
  fun_induction makeWay store directory names with
  | case1 => exact ⟨[], by rw [List.append_nil]⟩
  | case2 => exact ⟨[], by rw [List.append_nil]⟩
  | case3 _ _ _ _ ih => exact ih
  | case4 store directory name rest _ _ ih =>
    obtain ⟨first, hfirst⟩ := store.exists_makeDirectory_eq (directory ++ [name])
    obtain ⟨later, hlater⟩ := ih
    refine ⟨first ++ later, ?_⟩
    rw [hlater, hfirst, List.append_assoc]

/-- What was a directory is one when a way has been made. -/
theorem isDirectory_makeWay {store : FileStore} {place : Place}
    (h : store.isDirectory place = true) (directory : Place) (names : List Text) :
    (store.makeWay directory names).1.isDirectory place = true := by
  obtain ⟨made, hmade⟩ := store.exists_makeWay_eq directory names
  rw [hmade]
  simp only [isDirectory, Bool.or_eq_true, List.contains_iff_mem, List.mem_append] at h ⊢
  exact h.imp_right .inl

section Walk

variable {directory : Place} {name : Text} (hsearch : store.unsearchable = [])

include hsearch

theorem walk_parent (rest : List Text) :
    store.walk directory (Path.parentName :: rest) = store.walk directory.dropLast rest := by
  rw [walk, if_neg (by simp [hsearch]), if_neg (by decide), if_neg (by decide), if_pos rfl]

variable (hshort : Path.octetCount name ≤ Path.maxName) (hself : name ≠ Path.selfName)
  (hparent : name ≠ Path.parentName)

include hshort hself hparent

theorem walk_into (hdirectory : store.isDirectory (directory ++ [name]) = true)
    (rest : List Text) :
    store.walk directory (name :: rest) = store.walk (directory ++ [name]) rest := by
  rw [walk, if_neg (by simp [hsearch]), if_neg (Nat.not_lt.mpr hshort), if_neg hself,
    if_neg hparent]
  exact if_pos hdirectory

theorem walk_file {file : StoredFile}
    (hdirectory : store.isDirectory (directory ++ [name]) = false)
    (hfile : store.fileAt? (directory ++ [name]) = some file) :
    store.walk directory [name] = .ok (.file (directory ++ [name]) file) := by
  rw [walk, if_neg (by simp [hsearch]), if_neg (Nat.not_lt.mpr hshort), if_neg hself,
    if_neg hparent]
  simp only [hdirectory, hfile, Bool.false_eq_true, if_false]

end Walk

/-- A walk goes the way that was made, and ends at the file to which it was made. -/
theorem walk_of_makeWay {store final : FileStore} {directory : Place} {names : List Text}
    {file : StoredFile} (hsearch : final.unsearchable = [])
    (hgrown : ∀ place, (store.makeWay directory names).1.isDirectory place = true →
      final.isDirectory place = true)
    (hnames : ∀ name ∈ names, Path.octetCount name ≤ Path.maxName ∧ name ≠ Path.selfName)
    (hlast : ∃ last, names.getLast? = some last ∧ last ≠ Path.parentName)
    (hplace : final.isDirectory (store.makeWay directory names).2 = false)
    (hfile : final.fileAt? (store.makeWay directory names).2 = some file) :
    final.walk directory names = .ok (.file (store.makeWay directory names).2 file) := by
  fun_induction makeWay store directory names with
  | case1 =>
    obtain ⟨last, hnone, -⟩ := hlast
    cases hnone
  | case2 store directory name =>
    obtain ⟨last, hlast, hparent⟩ := hlast
    obtain rfl : name = last := Option.some.inj hlast
    obtain ⟨hshort, hself⟩ := hnames name List.mem_cons_self
    exact walk_file hsearch hshort hself hparent hplace hfile
  | case3 store directory rest hrest ih =>
    rw [List.getLast?_cons_of_ne_nil hrest] at hlast
    rw [walk_parent hsearch]
    exact ih hgrown (fun n hn => hnames n (List.mem_cons_of_mem _ hn)) hlast hplace hfile
  | case4 store directory name rest hrest hparent ih =>
    rw [List.getLast?_cons_of_ne_nil hrest] at hlast
    obtain ⟨hshort, hself⟩ := hnames name List.mem_cons_self
    -- the directory was made for the rest of the way, and is still there at its end
    have hmade : final.isDirectory (directory ++ [name]) = true :=
      hgrown _ (isDirectory_makeWay (store.isDirectory_makeDirectory _) _ _)
    rw [walk_into hsearch hshort hself hparent hmade]
    exact ih hgrown (fun n hn => hnames n (List.mem_cons_of_mem _ hn)) hlast hplace hfile

/-- **What was written is read.** If the system takes the path, every directory may be searched, and
neither a directory nor a file that may not be read is in its place, then a file is read at the path
at which it was written last. -/
theorem read_write (store : FileStore) {path : Text} (file : StoredFile) (hpath : Path.Writable path)
    (hsearch : store.unsearchable = []) :
    let made := store.makeWay (store.startOf path) (Path.names path)
    made.1.isDirectory made.2 = false → store.mayRead made.2 = true →
      (store.write path file).read path = .ok (made.2, file) := by
  intro made hplace hread
  obtain ⟨directories, hmade⟩ := store.exists_makeWay_eq (store.startOf path) (Path.names path)
  have hmade : made.1 = { store with directories := store.directories ++ directories } := hmade
  obtain ⟨last, hlast, hparent⟩ := hpath.last
  have hsteps : Path.steps path = Path.names path := by
    cases hnames : Path.names path with
    | nil =>
      rw [hnames] at hlast
      cases hlast
    | cons name rest => simp [Path.steps, hnames]
  have hstart : (store.write path file).startOf path = store.startOf path := by
    show (if _ then [] else made.1.home) = _
    rw [hmade]
    rfl
  have hwalk : (store.write path file).walk (store.startOf path) (Path.names path) =
      .ok (.file made.2 file) := by
    refine walk_of_makeWay ?_ (fun _ h => h)
      (fun n hn => ⟨hpath.shortNames n hn, Path.ne_selfName_of_mem_names hn⟩) ⟨last, hlast, hparent⟩ hplace ?_
    · show made.1.unsearchable = []
      rw [hmade]
      exact hsearch
    · simp [fileAt?, write]
  refine read_eq_ok_iff.mpr ⟨?_, ?_⟩
  · rw [find, if_neg (by simpa using hpath.noZero), if_neg (Nat.not_lt.mpr hpath.short), hstart,
      hsteps, hwalk]
  · show (!made.1.unreadable.contains made.2) = true
    rw [hmade]
    exact hread

/-- A file that was written at a path from the top is read at one from the home. -/
example :
    ((empty ["home".toList]).write "/home/a/b.h".toList ⟨[], 1⟩).read "./c/../a//b.h".toList =
      .error .missing ∧
    ((empty ["home".toList]).write "/home/a/b.h".toList ⟨[], 1⟩).read "./a/../a//b.h".toList =
      .ok (["home".toList, "a".toList, "b.h".toList], ⟨[], 1⟩) := ⟨rfl, rfl⟩

end FileStore

end TypeLens
