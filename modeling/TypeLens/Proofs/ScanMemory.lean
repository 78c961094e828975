/-
# TypeLens.Proofs.ScanMemory -- what a scan cache may hold

A cache is *faithful* when everything it remembers is the scan of some version of the file that
has stood at that place. Which versions those are is a parameter (`seen`), so that the same facts
serve a single store as well as all stores that a session has gone through.

A faithful cache answers like a fresh scan whenever the stamp tells the versions of the file apart:
a remembered scan is used only for its own stamp, so it is the scan of the same content. Each branch
of a look-up keeps the cache faithful: the hit, the replacement in place, the miss with or without
an eviction, and the look-up with caching off.
-/
import TypeLens.ScanCache

namespace TypeLens

namespace ScanCache

/-! ## Look-up after each operation -/

@[simp] theorem get?_empty (place : Place) : empty.get? place = none := rfl

/-- Putting in a scan is seen at its own place only. -/
theorem find?_put (place p : Place) (scan : RememberedScan)
    (entries : List (Place × RememberedScan)) :
    ((put place scan entries).find? fun entry => entry.1 = p).map Prod.snd =
      if p = place then some scan
      else (entries.find? fun entry => entry.1 = p).map Prod.snd := by
  induction entries with
  | nil =>
    by_cases hp : p = place
    · simp [put, hp]
    · have hp' : ¬ place = p := fun e => hp e.symm
      simp [put, hp, hp']
  | cons entry rest ih =>
    by_cases he : entry.1 = place
    · rw [put, if_pos he]
      by_cases hp : p = place
      · simp [hp]
      · have hp' : ¬ place = p := fun e => hp e.symm
        simp [he, hp, hp']
    · rw [put, if_neg he]
      by_cases hep : entry.1 = p
      · have hp : ¬ p = place := fun e => he (hep.trans e)
        simp [hep, hp]
      · simp only [List.find?_cons, hep, decide_false, ih]

theorem get?_replace (cache : ScanCache) (place p : Place) (scan : RememberedScan) :
    (cache.replace place scan).get? p = if p = place then some scan else cache.get? p :=
  find?_put place p scan cache.entries

/-- An eviction is seen only at the place that came first. -/
theorem get?_evict (cache : ScanCache) (p : Place) :
    cache.evict.get? p = if cache.queue.head? = some p then none else cache.get? p := by
  unfold evict
  split
  · rename_i hq
    simp [hq]
  · rename_i oldest rest hq
    rw [hq, List.head?_cons, get?, List.find?_filter]
    -- the entries of the oldest place are gone, and of no other
    by_cases hp : oldest = p
    · rw [if_pos (congrArg some hp), Option.map_eq_none_iff, List.find?_eq_none]
      intro entry _
      simp [hp]
    · rw [if_neg (fun e => hp (Option.some.inj e)), get?]
      congr 2
      funext entry
      by_cases he : entry.1 = p
      · have hne : ¬ p = oldest := fun e => hp e.symm
        simp [he, hne]
      · simp [he]

/-- What is remembered after making room was remembered before. -/
theorem get?_of_get?_makeRoom {cache : ScanCache} {capacity : Int} {p : Place}
    {scan : RememberedScan} (h : (cache.makeRoom capacity).get? p = some scan) :
    cache.get? p = some scan := by
  unfold makeRoom at h
  split at h
  · rw [get?_evict] at h
    split at h
    · simp at h
    · exact h
  · exact h

/-- After an insertion a place holds what came in there, or what it held before. -/
theorem get?_insert {cache : ScanCache} {capacity : Int} {place p : Place}
    {new scan : RememberedScan} (h : (cache.insert capacity place new).get? p = some scan) :
    (p = place ∧ scan = new) ∨ cache.get? p = some scan := by
  have h' := find?_put place p new (cache.makeRoom capacity).entries
  rw [show ((put place new (cache.makeRoom capacity).entries).find?
    fun entry => entry.1 = p).map Prod.snd = some scan from h] at h'
  by_cases hp : p = place
  · rw [if_pos hp] at h'
    exact Or.inl ⟨hp, Option.some.inj h'⟩
  · rw [if_neg hp] at h'
    exact Or.inr (get?_of_get?_makeRoom h'.symm)

/-! ## Faithful caches -/

/-- The remembered form of the scan of one version of a file. -/
def RememberedScan.of (scan : Text → List Declaration) (file : StoredFile) : RememberedScan :=
  ⟨file.stamp, scan (Utf8.textOf file.octets)⟩

/-- Everything that is remembered is the scan of a version that was seen at its place. -/
def Faithful (seen : Place → StoredFile → Prop) (scan : Text → List Declaration)
    (cache : ScanCache) : Prop :=
  ∀ place remembered, cache.get? place = some remembered →
    ∃ file, seen place file ∧ remembered = RememberedScan.of scan file

variable {seen : Place → StoredFile → Prop} {scan : Text → List Declaration} {cache : ScanCache}

theorem faithful_empty : Faithful seen scan empty := by
  intro place remembered h
  simp at h

/-- A look-up of a version that was seen keeps a cache faithful, whatever the policy. -/
theorem Faithful.scanFile (h : Faithful seen scan cache) (policy : Policy) {place : Place}
    {file : StoredFile} (hseen : seen place file) :
    Faithful seen scan (cache.scanFile policy scan place file).1 := by
  intro p remembered hp
  unfold ScanCache.scanFile at hp
  split at hp
  · split at hp
    · split at hp
      · -- a hit changes nothing
        exact h p remembered hp
      · -- a newer version takes the place of the remembered one
        rw [get?_replace] at hp
        split at hp
        · rename_i hpp
          exact ⟨file, hpp ▸ hseen, (Option.some.inj hp).symm⟩
        · exact h p remembered hp
    · -- a miss, after which the oldest entry may be gone
      rcases get?_insert hp with ⟨rfl, rfl⟩ | hold
      · exact ⟨file, hseen, rfl⟩
      · exact h p remembered hold
  · exact h p remembered hp

/-- A faithful cache answers like a fresh scan when the stamp of the file tells its content. -/
theorem Faithful.scanFile_eq (h : Faithful seen scan cache) (policy : Policy) {place : Place}
    {file : StoredFile}
    (htell : ∀ other, seen place other → other.stamp = file.stamp → other.octets = file.octets) :
    (cache.scanFile policy scan place file).2 = scan (Utf8.textOf file.octets) := by
  unfold ScanCache.scanFile
  split
  · split
    · rename_i old hold
      split
      · -- a hit: the remembered scan is of a version with the same stamp, hence the same content
        rename_i hstamp
        obtain ⟨other, hother, rfl⟩ := h place old hold
        show scan (Utf8.textOf other.octets) = scan (Utf8.textOf file.octets)
        rw [htell other hother hstamp]
      · rfl
    · rfl
  · rfl

end ScanCache

end TypeLens
