/-
# TypeLens.ScanCache -- remembered scans of files

The declarations of a file are remembered under its place together with the stamp of the version
that was scanned. They are used again while the stamp is the same. Places are listed in the order
in which they came in; when the cache is full, the one that came first makes room.

A scan of a newer version replaces the remembered one in place and does not move it in the queue.
-/
import TypeLens.Declaration
import TypeLens.FileStore
import TypeLens.Text.Utf8

namespace TypeLens

/-- The declarations of one version of a file. -/
structure RememberedScan where
  stamp : Stamp
  declarations : List Declaration
deriving DecidableEq, Repr

/-- Remembered scans by place, and the places in order of arrival. -/
structure ScanCache where
  entries : List (Place × RememberedScan)
  queue : List Place
deriving DecidableEq, Repr

namespace ScanCache

/-- The cache that remembers nothing. -/
def empty : ScanCache := ⟨[], []⟩

/-- The places that are remembered. -/
def keys (cache : ScanCache) : List Place := cache.entries.map Prod.fst

/-- The remembered scan of a place. -/
def get? (cache : ScanCache) (place : Place) : Option RememberedScan :=
  (cache.entries.find? fun entry => entry.1 = place).map Prod.snd

/-- Entries with the scan of a place put in: in its old position, or else at the end. -/
def put (place : Place) (scan : RememberedScan) :
    List (Place × RememberedScan) → List (Place × RememberedScan)
  | [] => [(place, scan)]
  | entry :: rest =>
    if entry.1 = place then (place, scan) :: rest else entry :: put place scan rest

/-- Putting in a place that is there keeps the list of places, and a new one goes to its end. -/
theorem map_fst_put (place : Place) (scan : RememberedScan)
    (entries : List (Place × RememberedScan)) :
    (put place scan entries).map Prod.fst =
      if place ∈ entries.map Prod.fst then entries.map Prod.fst
      else entries.map Prod.fst ++ [place] := by
  induction entries with
  | nil => simp [put]
  | cons entry rest ih =>
    by_cases he : entry.1 = place
    · simp [put, he]
    · have hp : ¬ place = entry.1 := fun e => he e.symm
      by_cases hm : place ∈ rest.map Prod.fst
      · simp only [put, he, if_false, List.map_cons, ih, hm, if_true, List.mem_cons, or_true]
      · simp only [put, he, if_false, List.map_cons, ih, hm, List.mem_cons, hp, or_self,
          List.cons_append]

/-- Replaces the remembered scan of a place; the queue stays as it is. -/
def replace (cache : ScanCache) (place : Place) (scan : RememberedScan) : ScanCache :=
  { cache with entries := put place scan cache.entries }

/-- Replacing the scan of a remembered place leaves the places as they are. -/
theorem keys_replace {cache : ScanCache} {place : Place} (scan : RememberedScan)
    (h : place ∈ cache.keys) : (cache.replace place scan).keys = cache.keys := by
  have := map_fst_put place scan cache.entries
  rwa [if_pos (show place ∈ cache.entries.map Prod.fst from h)] at this

/-- Forgets the place that came first. -/
def evict (cache : ScanCache) : ScanCache :=
  match cache.queue with
  | [] => cache
  | oldest :: rest => ⟨cache.entries.filter fun entry => entry.1 ≠ oldest, rest⟩

/-- Forgets one place if the cache holds as many as it may. -/
def makeRoom (cache : ScanCache) (capacity : Int) : ScanCache :=
  if capacity ≤ cache.entries.length then cache.evict else cache

/-- Remembers the scan of a place that comes in. -/
def insert (cache : ScanCache) (capacity : Int) (place : Place) (scan : RememberedScan) :
    ScanCache :=
  let cache := cache.makeRoom capacity
  ⟨put place scan cache.entries, cache.queue ++ [place]⟩

/-- Whether scans are remembered, and how many. -/
structure Policy where
  enabled : Bool
  capacity : Int
deriving DecidableEq, Repr

/-- Whether a scan of this version of a file is remembered, so that the file need not be read. -/
def remembers (cache : ScanCache) (policy : Policy) (place : Place) (stamp : Stamp) : Bool :=
  policy.enabled && (cache.get? place).any fun old => old.stamp = stamp

/-- The declarations of a file: the remembered ones if they are of this version, else those of a new
scan, which is then remembered. -/
def scanFile (cache : ScanCache) (policy : Policy) (scan : Text → List Declaration)
    (place : Place) (file : StoredFile) : ScanCache × List Declaration :=
  let fresh : RememberedScan := ⟨file.stamp, scan (Utf8.textOf file.octets)⟩
  if policy.enabled then
    match cache.get? place with
    | some old =>
      if old.stamp = file.stamp then (cache, old.declarations)
      else (cache.replace place fresh, fresh.declarations)
    | none => (cache.insert policy.capacity place fresh, fresh.declarations)
  else (cache, fresh.declarations)

end ScanCache

end TypeLens
