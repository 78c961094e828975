/-
# TypeLens.FileStore -- files by path

Files and directories have places, which are counted from the top of the file system. A path is
walked name by name, from the top if it starts with a slash and from the home of the store
otherwise: `.` and empty names stay, `..` goes up where there is something above, and every name on
the way must be that of a directory. Directories come into being with the files written below them
and stay when the files are removed; the home and what is above it are always there.

A walk need not end at a file (`Obstacle`). Nothing may be there, or a directory; a name or the whole
path may be longer than the system allows; and it may be forbidden to look names up in a directory on
the way, or to read what the walk ends at.
-/
import TypeLens.Text.Basic

namespace TypeLens

/-- What identifies a version of a file: its modification time and its size in octets. -/
structure Stamp where
  modified : Int
  size : Nat
deriving DecidableEq, Repr

/-- A stored file. -/
structure StoredFile where
  octets : List UInt8
  modified : Int
deriving DecidableEq, Repr

/-- The stamp of a file. -/
def StoredFile.stamp (f : StoredFile) : Stamp := ⟨f.modified, f.octets.length⟩

/-! ## Paths -/

/-- The names from the top of the file system to a file or directory. -/
abbrev Place := List Text

namespace Path

/-- The name that goes up. -/
def parentName : Text := ['.', '.']

/-- The name that stays. -/
def selfName : Text := ['.']

/-- The names of a path, without those that make no difference. -/
def names (path : Text) : List Text :=
  (path.splitOn '/').filter fun n => n ≠ [] && n ≠ selfName

/-- The slashes that a path keeps at its start: exactly two stay two, any other number is one. -/
def anchor : Text → Text
  | '/' :: '/' :: '/' :: _ => ['/']
  | '/' :: '/' :: _ => ['/', '/']
  | '/' :: _ => ['/']
  | _ => []

/-- Whether a path starts at the top of the file system. -/
def isAbsolute (path : Text) : Bool := !(anchor path).isEmpty

/-- The names that are walked. A relative path without names stays where it starts. -/
def steps (path : Text) : List Text :=
  if !isAbsolute path && (names path).isEmpty then [selfName] else names path

/-- A path without redundant parts, as the system gets it and messages show it. -/
def shown (path : Text) : Text := anchor path ++ ['/'].intercalate (steps path)

/-- The length of a text in octets, as the system counts it. -/
def octetCount (text : Text) : Nat := text.foldl (fun count c => count + c.utf8Size) 0

/-- The most octets a name may have. -/
def maxName : Nat := 255

/-- The most octets a path may have. -/
def maxPath : Nat := 4095

end Path

/-! ## The store -/

/-- Files and directories by place. -/
structure FileStore where
  /-- The directory from which relative paths start. -/
  home : Place
  files : List (Place × StoredFile)
  directories : List Place
  /-- Files and directories that may not be read. -/
  unreadable : List Place
  /-- Directories in which no name may be looked up. -/
  unsearchable : List Place

/-- What keeps a path from being read. -/
inductive Obstacle where
  /-- Nothing is there. -/
  | missing
  /-- A name or the path is longer than the system allows. -/
  | nameTooLong
  /-- What is there may not be read, or a directory on the way may not be searched. -/
  | denied
  | isDirectory
deriving DecidableEq, Repr

namespace FileStore

/-- A store with nothing but its home. -/
def empty (home : Place) : FileStore := ⟨home, [], [], [], []⟩

/-- What stands at a path. -/
inductive Node where
  | file (place : Place) (file : StoredFile)
  | directory (place : Place)
deriving DecidableEq, Repr

/-- Where it stands. -/
def Node.place : Node → Place
  | .file place _ => place
  | .directory place => place

/-- The file at a place. -/
def fileAt? (store : FileStore) (place : Place) : Option StoredFile :=
  (store.files.find? fun entry => entry.1 = place).map Prod.snd

/-- Whether a place is a directory. -/
def isDirectory (store : FileStore) (place : Place) : Bool :=
  place.isPrefixOf store.home || store.directories.contains place

/-- Whether what stands at a place may be read. -/
def mayRead (store : FileStore) (place : Place) : Bool := !store.unreadable.contains place

/-- Walks names from a directory. -/
def walk (store : FileStore) (directory : Place) : List Text → Except Obstacle Node
  | [] => .ok (.directory directory)
  | name :: rest =>
    if store.unsearchable.contains directory then .error .denied
    else if Path.maxName < Path.octetCount name then .error .nameTooLong
    else if name = Path.selfName then walk store directory rest
    else if name = Path.parentName then walk store directory.dropLast rest
    else
      let place := directory ++ [name]
      if store.isDirectory place then walk store place rest
      else
        match store.fileAt? place, rest with
        | some file, [] => .ok (.file place file)
        | _, _ => .error .missing

/-- Where a path starts. -/
def startOf (store : FileStore) (path : Text) : Place :=
  if Path.isAbsolute path then [] else store.home

/-- What stands at a path. No path has a zero character in it. -/
def find (store : FileStore) (path : Text) : Except Obstacle Node :=
  if path.contains '\x00' then .error .missing
  else if Path.maxPath < Path.octetCount (Path.shown path) then .error .nameTooLong
  else store.walk (store.startOf path) (Path.steps path)

/-- What reading comes to: a file that may be read. -/
def access (store : FileStore) (node : Node) : Except Obstacle (Place × StoredFile) :=
  if store.mayRead node.place then
    match node with
    | .file place file => .ok (place, file)
    | .directory _ => .error .isDirectory
  else .error .denied

/-- The file that is read at a path. -/
def read (store : FileStore) (path : Text) : Except Obstacle (Place × StoredFile) :=
  (store.find path).bind store.access

/-- A walk that ends at a file ends at the place where the store has it. -/
theorem fileAt?_of_walk {store : FileStore} {directory place : Place} {names : List Text}
    {file : StoredFile} (h : store.walk directory names = .ok (.file place file)) :
    store.fileAt? place = some file := by
  fun_induction walk store directory names with
  | case1 => cases h
  | case2 => cases h
  | case3 => cases h
  | case4 _ _ _ _ ih => exact ih h
  | case5 _ _ _ _ _ ih => exact ih h
  | case6 _ _ _ _ _ _ _ _ _ ih => exact ih h
  | case7 _ _ _ _ _ _ _ _ _ hfound =>
    obtain ⟨hplace, hfile⟩ := Node.file.inj (Except.ok.inj h)
    rw [← hplace, ← hfile]
    exact hfound
  | case8 => cases h

/-- A file that is found at a path is the one that the store has at its place. -/
theorem fileAt?_of_find {store : FileStore} {path : Text} {place : Place} {file : StoredFile}
    (h : store.find path = .ok (.file place file)) : store.fileAt? place = some file := by
  unfold find at h
  split at h
  · cases h
  · split at h
    · cases h
    · exact fileAt?_of_walk h

theorem read_eq_ok_iff {store : FileStore} {path : Text} {place : Place} {file : StoredFile} :
    store.read path = .ok (place, file) ↔
      store.find path = .ok (.file place file) ∧ store.mayRead place = true := by
  rw [read]
  cases store.find path with
  | error obstacle => simp [Except.bind]
  | ok node =>
    by_cases hread : store.mayRead node.place = true
    · simp only [Except.bind, access, if_pos hread]
      cases node with
      | directory at' => simp
      | file at' found =>
        simp only [Except.ok.injEq, Prod.mk.injEq, Node.file.injEq]
        exact ⟨fun h => ⟨h, h.1 ▸ hread⟩, fun h => h.1⟩
    · simp only [Except.bind, access, if_neg hread, Except.ok.injEq]
      refine iff_of_false nofun ?_
      rintro ⟨rfl, hplace⟩
      exact hread hplace

/-! ## Changes -/

/-- Makes a directory. -/
def makeDirectory (store : FileStore) (place : Place) : FileStore :=
  if store.isDirectory place then store
  else { store with directories := store.directories ++ [place] }

/-- Walks names from a directory, making the directories on the way, up to the last name. -/
def makeWay (store : FileStore) (directory : Place) : List Text → FileStore × Place
  | [] => (store, directory)
  | [name] => (store, directory ++ [name])
  | name :: rest =>
    if name = Path.parentName then makeWay store directory.dropLast rest
    else makeWay (store.makeDirectory (directory ++ [name])) (directory ++ [name]) rest

/-- Writes a file, with the directories above it. -/
def write (store : FileStore) (path : Text) (file : StoredFile) : FileStore :=
  let (store, place) := store.makeWay (store.startOf path) (Path.names path)
  { store with files := (place, file) :: store.files.filter fun entry => entry.1 ≠ place }

/-- Removes the file at a path. What is written there later may be read again. -/
def remove (store : FileStore) (path : Text) : FileStore :=
  match store.find path with
  | .ok (.file place _) =>
    { store with
      files := store.files.filter fun entry => entry.1 ≠ place
      unreadable := store.unreadable.filter (· ≠ place) }
  | _ => store

end FileStore

end TypeLens
