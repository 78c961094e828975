/-
# TypeLens.Proofs.ScanBound -- how many scans are remembered

A scan that lets a file in forgets at most one other, and lets it in whatever the capacity is. So
the capacity in force does not bound what is remembered: with a capacity of zero or less one scan is
remembered all the same, and where the capacity has been lowered the number stays what it was
(`scans_outnumber_capacity`).

What does hold is said exactly. After a scan that reads its file the number is within the capacity
if and only if the capacity is positive and the number was within it before; and no run remembers
more than the largest capacity that was in force along it, or one (`rescan_within_capacity_iff`).
-/
import TypeLens.Proofs.ScanQueue

namespace TypeLens

namespace Session

/-- The number of files whose scan is remembered. -/
def scanCount (s : Session) : Nat := s.scanner.cache.entries.length

/-- A scan of the path reads the file with caching on: there is a file that can be read, and no scan of
this version of it is remembered. -/
def Rescans (s : Session) (path : Text) : Prop :=
  ∃ place file, s.files.read path = .ok (place, file) ∧ s.scanPolicy.enabled = true ∧
    ∀ old, s.scanner.cache.get? place = some old → old.stamp ≠ file.stamp

theorem rescans_of_miss {s : Session} {path : Text} {place : Place} {file : StoredFile}
    (hread : s.files.read path = .ok (place, file)) (hon : s.scanPolicy.enabled = true)
    (hnone : s.scanner.cache.get? place = none) : s.Rescans path := by
  refine ⟨place, file, hread, hon, ?_⟩
  intro old hold
  rw [hnone] at hold
  exact absurd hold (Option.some_ne_none old).symm

/-! ## One scan -/

/-- A scan that reads its file adds one only where nothing is remembered or there is room; else the
number stays, and is not zero. -/
theorem scanCount_rescan {s : Session} {path : Text} (h : s.scanner.cache.Ordered)
    (hrescans : s.Rescans path) :
    ((s.scanFile path).1.scanCount = s.scanCount ∧ 0 < s.scanCount) ∨
      ((s.scanFile path).1.scanCount = s.scanCount + 1 ∧
        (s.scanCount = 0 ∨ s.scanCount < s.scanPolicy.capacity)) := by
  obtain ⟨place, file, hread, hon, -⟩ := hrescans
  have hcount : (s.scanFile path).1.scanCount =
      if s.scanPolicy.enabled = true ∧ s.scanner.cache.get? place = none ∧
          (s.scanCount = 0 ∨ s.scanCount < s.scanPolicy.capacity) then s.scanCount + 1
      else s.scanCount := by
    rw [scanCount, cache_scanFile_of_read hread]
    exact h.length_scanFile s.scanPolicy _ place file
  rw [hcount]
  cases hget : s.scanner.cache.get? place with
  | some old =>
    -- a remembered file that is read anew keeps its entry
    have hpos : 0 < s.scanCount := by
      have hmem : place ∈ s.scanner.cache.queue := by rw [h.mem_queue_iff, hget, Option.isSome_some]
      rw [scanCount, h.length_entries]
      exact List.length_pos_of_mem hmem
    left
    rw [if_neg (by simp)]
    exact ⟨rfl, hpos⟩
  | none =>
    by_cases hroom : s.scanCount = 0 ∨ s.scanCount < s.scanPolicy.capacity
    · right
      rw [if_pos ⟨hon, rfl, hroom⟩]
      exact ⟨rfl, hroom⟩
    · left
      rw [if_neg (fun hall => hroom hall.2.2)]
      exact ⟨rfl, by omega⟩

/-! ## Runs -/

/-- One event does not take the number beyond a positive limit that the capacity in force keeps to.
-/
theorem scanCount_step_le {s : Session} {limit : Int} (h : s.scanner.cache.Ordered)
    (hpos : 1 ≤ limit) (hcapacity : s.scanPolicy.capacity ≤ limit) (hle : s.scanCount ≤ limit)
    (event : Event) : (s.step event).scanCount ≤ limit := by
  have hturn := turn_step s event
  unfold scanCount at hle ⊢
  generalize (s.step event).scanner = new at hturn
  cases hturn with
  | kept own => exact hle
  | fresh hempty =>
    rw [hempty]
    show (0 : Int) ≤ limit
    omega
  | scanned hfile =>
    show ((s.scanner.cache.scanFile _ _ _ _).1.entries.length : Int) ≤ limit
    rw [h.length_scanFile]
    split <;> omega

/-- A run does not take the number beyond a positive limit that no capacity of the run exceeds. -/
theorem scanCount_after_le {s : Session} {limit : Int} (h : s.scanner.cache.Ordered)
    (hpos : 1 ≤ limit) (hle : s.scanCount ≤ limit) {events : List Event}
    (hcapacity : ∀ earlier, earlier <+: events → (s.after earlier).scanPolicy.capacity ≤ limit) :
    (s.after events).scanCount ≤ limit := by
  induction events generalizing s with
  | nil => exact hle
  | cons event rest ih =>
    have hhere : s.scanPolicy.capacity ≤ limit := hcapacity [] List.nil_prefix
    refine ih (ordered_turn h (turn_step s event)).1 (scanCount_step_le h hpos hhere hle event) ?_
    intro earlier hearlier
    exact hcapacity (event :: earlier) (List.cons_prefix_cons.mpr ⟨rfl, hearlier⟩)

/-- **When a scan keeps to the capacity.** After a scan that reads its file, the number of
remembered files is within the capacity in force exactly if that is positive and the number was
within it before. It is never beyond a positive limit that no capacity of the run exceeded, so a
positive capacity that is not lowered is kept to. -/
theorem rescan_within_capacity_iff (s : Session) (events : List Event) (path : Text)
    (hfresh : s.scanner.cache = .empty) (hrescans : (s.after events).Rescans path) :
    (((s.after events).scanFile path).1.scanCount ≤ max 0 (s.after events).scanPolicy.capacity ↔
      1 ≤ (s.after events).scanPolicy.capacity ∧
        (s.after events).scanCount ≤ (s.after events).scanPolicy.capacity) ∧
    ∀ limit : Int, 1 ≤ limit →
      (∀ earlier, earlier <+: events → (s.after earlier).scanPolicy.capacity ≤ limit) →
      ((s.after events).scanFile path).1.scanCount ≤ limit := by
  have hcount := scanCount_rescan (ordered_after hfresh events).1 hrescans
  have hzero : s.scanCount = 0 := by
    rw [scanCount, hfresh]
    rfl
  refine ⟨by omega, ?_⟩
  intro limit hpos hcapacity
  have hhere := hcapacity events List.prefix_rfl
  have hinit : s.scanner.cache.Ordered := (ordered_after hfresh []).1
  have hle := scanCount_after_le hinit hpos (by omega) hcapacity
  omega

/-- Two headers, of which one is scanned, when there is room for one. -/
def twoHeaders : List Event := [
  .retune true 1,
  .request (.write "a.h".toList (asciiFile "struct A{};" 1)),
  .request (.write "b.h".toList (asciiFile "struct B{};" 1)),
  .request (.scanFile "a.h".toList)]

/-- The capacity is one all along, and the second header takes the place of the first. -/
theorem rescan_twoHeaders :
    plainStart.scanner.cache = .empty ∧
      (plainStart.after twoHeaders).Rescans "b.h".toList ∧
      ((plainStart.after twoHeaders).scanFile "b.h".toList).1.scanCount ≤
        max 0 (plainStart.after twoHeaders).scanPolicy.capacity := by
  have hrescans : (plainStart.after twoHeaders).Rescans "b.h".toList :=
    rescans_of_miss rfl rfl rfl
  have hiff := (rescan_within_capacity_iff plainStart twoHeaders _ rfl hrescans).1
  exact ⟨rfl, hrescans, hiff.mpr ⟨by decide, by decide⟩⟩

/-- A header when there is room for none. -/
def noRoom : List Event := [
  .retune true 0,
  .request (.write "a.h".toList (asciiFile "struct A{};" 1))]

/-- One more header comes in when the room for two that have been scanned shrinks to one. -/
def lessRoom : List Event := [
  .retune true 2,
  .request (.write "a.h".toList (asciiFile "struct A{};" 1)),
  .request (.write "b.h".toList (asciiFile "struct B{};" 1)),
  .request (.scanFile "a.h".toList),
  .request (.scanFile "b.h".toList),
  .retune true 1,
  .request (.write "c.h".toList (asciiFile "struct C{};" 1))]

/-- **The capacity is not a bound.** With a capacity of zero a scan is remembered nevertheless, and
when the capacity is lowered from two to one, the next scan leaves two remembered. -/
theorem scans_outnumber_capacity :
    ((plainStart.after noRoom).Rescans "a.h".toList ∧
      max 0 (plainStart.after noRoom).scanPolicy.capacity = 0 ∧
      ((plainStart.after noRoom).scanFile "a.h".toList).1.scanCount = 1) ∧
    (plainStart.after lessRoom).Rescans "c.h".toList ∧
      max 0 (plainStart.after lessRoom).scanPolicy.capacity = 1 ∧
      ((plainStart.after lessRoom).scanFile "c.h".toList).1.scanCount = 2 := by
  refine ⟨⟨?_, rfl, rfl⟩, ?_, rfl, rfl⟩
  · exact rescans_of_miss rfl rfl rfl
  · exact rescans_of_miss rfl rfl rfl

end Session

end TypeLens
