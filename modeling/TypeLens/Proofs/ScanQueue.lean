/-
# TypeLens.Proofs.ScanQueue -- the queue of a scan cache

A cache holds its entries and, apart from them, a queue of places. The two are changed in different
branches of a look-up, and a scan of a newer version passes the queue by. That they never drift
apart is the representation invariant (`ScanCache.Ordered`): the queue lists each remembered place
once, and nothing else.

What a turn of a scanner can do to the queue is said once (`QueueTurn`): leave it, clear it, or let
a place in at its end, for which at most the first one goes. Along a run it follows that the queue
is in order of arrival, where a place has arrived when it was last remembered anew
(`ByArrival`). How long the queue can get is the matter of `TypeLens.Proofs.ScanBound`.
-/
import TypeLens.Proofs.ScanTransparency

namespace TypeLens

namespace ScanCache

variable {cache : ScanCache} {place : Place}

/-! ## Entries and queue -/

/-- A place is remembered exactly when a look-up finds it. -/
theorem mem_keys_iff : place ∈ cache.keys ↔ (cache.get? place).isSome = true := by
  simp [keys, get?, List.find?_isSome]

/-- The queue lists each remembered place once and nothing else; the entries stand in its order. -/
structure Ordered (cache : ScanCache) : Prop where
  nodup : cache.queue.Nodup
  keys_eq : cache.keys = cache.queue

theorem ordered_empty : empty.Ordered := ⟨List.nodup_nil, rfl⟩

namespace Ordered

theorem length_entries (h : cache.Ordered) : cache.entries.length = cache.queue.length := by
  rw [← h.keys_eq, keys, List.length_map]

theorem mem_queue_iff (h : cache.Ordered) :
    place ∈ cache.queue ↔ (cache.get? place).isSome = true := by
  rw [← h.keys_eq, mem_keys_iff]

theorem not_mem_queue (h : cache.Ordered) (hnone : cache.get? place = none) :
    place ∉ cache.queue := by
  rw [h.mem_queue_iff, hnone]
  exact Bool.false_ne_true

/-- A newer version takes the place of an older one in the entries, and keeps its turn. -/
theorem replace (h : cache.Ordered) {old : RememberedScan} (hold : cache.get? place = some old)
    (scan : RememberedScan) : (cache.replace place scan).Ordered where
  nodup := h.nodup
  keys_eq := by
    have hmem : place ∈ cache.keys := by rw [mem_keys_iff, hold, Option.isSome_some]
    rw [keys_replace scan hmem]
    exact h.keys_eq

end Ordered

/-! ### Making room -/

theorem queue_makeRoom (cache : ScanCache) (capacity : Int) :
    (cache.makeRoom capacity).queue =
      if capacity ≤ cache.entries.length then cache.queue.tail else cache.queue := by
  unfold makeRoom
  split
  · unfold evict
    split <;> simp_all
  · rfl

/-- Making room takes at most the first place of the queue. -/
theorem exists_queue_makeRoom (cache : ScanCache) (capacity : Int) :
    ∃ gone, cache.queue = gone ++ (cache.makeRoom capacity).queue ∧ gone.length ≤ 1 := by
  rw [queue_makeRoom]
  split
  · cases cache.queue with
    | nil => exact ⟨[], rfl, Nat.zero_le 1⟩
    | cons oldest rest => exact ⟨[oldest], rfl, Nat.le_refl 1⟩
  · exact ⟨[], rfl, Nat.zero_le 1⟩

theorem Ordered.evict (h : cache.Ordered) : cache.evict.Ordered := by
  unfold ScanCache.evict
  split
  · exact h
  · rename_i oldest rest hqueue
    have hnodup := h.nodup
    rw [hqueue, List.nodup_cons] at hnodup
    refine ⟨hnodup.2, ?_⟩
    -- the entries lose the oldest place and no other, since it is in the queue once
    have hkeys : (cache.entries.filter fun entry => entry.1 ≠ oldest).map Prod.fst =
        cache.keys.filter fun p => p ≠ oldest := by
      rw [keys, List.filter_map]
      rfl
    have hrest : rest.filter (fun p => p ≠ oldest) = rest := by
      rw [List.filter_eq_self]
      intro p hp
      have hne : p ≠ oldest := fun e => hnodup.1 (e ▸ hp)
      simpa using hne
    show (cache.entries.filter fun entry => entry.1 ≠ oldest).map Prod.fst = rest
    rw [hkeys, h.keys_eq, hqueue, List.filter_cons_of_neg (by simp), hrest]

theorem Ordered.makeRoom (h : cache.Ordered) (capacity : Int) :
    (cache.makeRoom capacity).Ordered := by
  unfold ScanCache.makeRoom
  split
  · exact h.evict
  · exact h

/-- A place that is not in the queue goes to its end, and to the end of the entries. -/
theorem Ordered.insert (h : cache.Ordered) (hnew : place ∉ cache.queue) (capacity : Int)
    (scan : RememberedScan) : (cache.insert capacity place scan).Ordered := by
  have hroom := h.makeRoom capacity
  have hnew' : place ∉ (cache.makeRoom capacity).queue := by
    obtain ⟨gone, hqueue, -⟩ := cache.exists_queue_makeRoom capacity
    intro hmem
    apply hnew
    rw [hqueue]
    exact List.mem_append_right gone hmem
  constructor
  · show ((cache.makeRoom capacity).queue ++ [place]).Nodup
    rw [List.nodup_append]
    refine ⟨hroom.nodup, List.pairwise_singleton _ _, ?_⟩
    intro p hp q hq heq
    rw [List.mem_singleton] at hq
    exact hnew' (hq ▸ heq ▸ hp)
  · have hkeys := map_fst_put place scan (cache.makeRoom capacity).entries
    rw [show (cache.makeRoom capacity).entries.map Prod.fst = (cache.makeRoom capacity).queue
      from hroom.keys_eq, if_neg hnew'] at hkeys
    exact hkeys

/-! ## Looking up a file -/

section ScanFile

variable {policy : Policy} {scan : Text → List Declaration} {file : StoredFile}

/-- With caching off, the cache is left alone. -/
theorem scanFile_of_disabled (cache : ScanCache) (scan : Text → List Declaration) (place : Place)
    (file : StoredFile) (hoff : policy.enabled = false) :
    (cache.scanFile policy scan place file).1 = cache := by
  simp [scanFile, hoff]

/-- A hit leaves the cache alone when it is fresh, and else renews the entry. -/
theorem scanFile_of_hit (hon : policy.enabled = true) {old : RememberedScan}
    (hold : cache.get? place = some old) :
    (cache.scanFile policy scan place file).1 =
      if old.stamp = file.stamp then cache
      else cache.replace place (RememberedScan.of scan file) := by
  simp only [scanFile, hon, if_true, hold]
  split <;> rfl

/-- A miss lets the place in. -/
theorem scanFile_of_miss (hon : policy.enabled = true) (hnone : cache.get? place = none) :
    (cache.scanFile policy scan place file).1 =
      cache.insert policy.capacity place (RememberedScan.of scan file) := by
  simp only [scanFile, hon, if_true, hnone]
  rfl

theorem queue_scanFile_of_hit (hon : policy.enabled = true) {old : RememberedScan}
    (hold : cache.get? place = some old) :
    (cache.scanFile policy scan place file).1.queue = cache.queue := by
  rw [scanFile_of_hit hon hold]
  split <;> rfl

theorem queue_scanFile_of_miss (hon : policy.enabled = true) (hnone : cache.get? place = none) :
    (cache.scanFile policy scan place file).1.queue =
      (cache.makeRoom policy.capacity).queue ++ [place] := by
  rw [scanFile_of_miss hon hnone]
  rfl

end ScanFile

/-- What a turn of a scanner can do to the queue of its cache. -/
inductive QueueTurn (old : List Place) : List Place → Prop where
  /-- It stays. -/
  | kept : QueueTurn old old
  /-- It is cleared. -/
  | cleared : QueueTurn old []
  /-- A place comes in at the end, and at most the first one goes. -/
  | arrived {place : Place} {gone rest : List Place} (hold : old = gone ++ rest)
      (hgone : gone.length ≤ 1) (hnew : place ∉ old) : QueueTurn old (rest ++ [place])

/-- A look-up keeps a cache ordered and makes one turn of its queue. -/
theorem Ordered.scanFile (h : cache.Ordered) (policy : Policy) (scan : Text → List Declaration)
    (place : Place) (file : StoredFile) :
    (cache.scanFile policy scan place file).1.Ordered ∧
      QueueTurn cache.queue (cache.scanFile policy scan place file).1.queue := by
  cases hon : policy.enabled with
  | false =>
    rw [scanFile_of_disabled cache scan place file hon]
    exact ⟨h, .kept⟩
  | true =>
    cases hget : cache.get? place with
    | some old =>
      refine ⟨?_, ?_⟩
      · rw [scanFile_of_hit hon hget]
        split
        · exact h
        · exact h.replace hget _
      · rw [queue_scanFile_of_hit hon hget]
        exact .kept
    | none =>
      have hnew := h.not_mem_queue hget
      refine ⟨?_, ?_⟩
      · rw [scanFile_of_miss hon hget]
        exact h.insert hnew _ _
      · obtain ⟨gone, hqueue, hgone⟩ := cache.exists_queue_makeRoom policy.capacity
        rw [queue_scanFile_of_miss hon hget]
        exact .arrived hqueue hgone hnew

/-- A look-up adds an entry exactly when it is a miss with caching on and the cache has room or is
empty; else the number of entries stays. -/
theorem Ordered.length_scanFile (h : cache.Ordered) (policy : Policy)
    (scan : Text → List Declaration) (place : Place) (file : StoredFile) :
    (cache.scanFile policy scan place file).1.entries.length =
      if policy.enabled = true ∧ cache.get? place = none ∧
          (cache.entries.length = 0 ∨ cache.entries.length < policy.capacity) then
        cache.entries.length + 1
      else cache.entries.length := by
  have hordered := (h.scanFile policy scan place file).1
  rw [hordered.length_entries]
  cases hon : policy.enabled with
  | false => simp [scanFile_of_disabled cache scan place file hon, h.length_entries]
  | true =>
    cases hget : cache.get? place with
    | some old => simp [queue_scanFile_of_hit hon hget, h.length_entries]
    | none =>
      rw [queue_scanFile_of_miss hon hget, queue_makeRoom, List.length_append,
        List.length_singleton, h.length_entries]
      -- one goes for the one that comes in, if the cache is full and there is one
      by_cases hfull : policy.capacity ≤ cache.queue.length
      · rw [if_pos hfull, List.length_tail]
        by_cases hempty : cache.queue.length = 0
        · rw [if_pos ⟨rfl, rfl, .inl hempty⟩]
          omega
        · rw [if_neg (by omega)]
          omega
      · rw [if_neg hfull, if_pos ⟨rfl, rfl, .inr (by omega)⟩]

/-! ## Order of arrival -/

/-- For how many caches, counted back from the latest one, a place has been remembered without a
break. The latest cache comes first. -/
def stay (history : List ScanCache) (place : Place) : Nat :=
  (history.takeWhile fun cache => place ∈ cache.keys).length

/-- A queue lists places by the length of their stay, so that the one that came first is first. -/
def ByArrival (history : List ScanCache) (queue : List Place) : Prop :=
  queue.Pairwise fun first second => stay history second < stay history first

theorem stay_cons_of_mem {history : List ScanCache} (h : place ∈ cache.keys) :
    stay (cache :: history) place = stay history place + 1 := by
  rw [stay, List.takeWhile_cons_of_pos (by simpa using h), List.length_cons, stay]

theorem stay_cons_of_not_mem {history : List ScanCache} (h : place ∉ cache.keys) :
    stay (cache :: history) place = 0 := by
  rw [stay, List.takeWhile_cons_of_neg (by simpa using h), List.length_nil]

/-- A turn of the queue keeps it in order of arrival: whoever stays has stayed one cache longer, and
whoever comes in has the shortest stay of all. -/
theorem ByArrival.turn {old new : ScanCache} {history : List ScanCache}
    (h : ByArrival (old :: history) old.queue) (hold : old.Ordered) (hnew : new.Ordered)
    (hturn : QueueTurn old.queue new.queue) : ByArrival (new :: old :: history) new.queue := by
  have hlonger : ∀ {p}, p ∈ new.queue →
      stay (new :: old :: history) p = stay (old :: history) p + 1 := by
    intro p hp
    exact stay_cons_of_mem (hnew.keys_eq ▸ hp)
  generalize hqueue : new.queue = queue at hturn hlonger
  cases hturn with
  | cleared => exact List.Pairwise.nil
  | kept =>
    refine List.Pairwise.imp_of_mem ?_ h
    intro p q hp hq hlt
    rw [hlonger hp, hlonger hq]
    omega
  | @arrived place gone rest hsplit _ hfresh =>
    have hrest : ∀ {p}, p ∈ rest → p ∈ old.queue := by
      intro p hp
      rw [hsplit]
      exact List.mem_append_right gone hp
    rw [ByArrival, List.pairwise_append]
    refine ⟨?_, List.pairwise_singleton _ _, ?_⟩
    · rw [ByArrival, hsplit, List.pairwise_append] at h
      refine List.Pairwise.imp_of_mem ?_ h.2.1
      intro p q hp hq hlt
      rw [hlonger (List.mem_append_left _ hp), hlonger (List.mem_append_left _ hq)]
      omega
    · intro p hp q hq
      obtain rfl : q = place := List.mem_singleton.mp hq
      have hlast : stay (old :: history) q = 0 :=
        stay_cons_of_not_mem (by rw [hold.keys_eq]; exact hfresh)
      have hfirst : stay (old :: history) p = stay history p + 1 :=
        stay_cons_of_mem (by rw [hold.keys_eq]; exact hrest hp)
      rw [hlonger (List.mem_append_left _ hp), hlonger (List.mem_append_right _ hq), hlast, hfirst]
      omega

end ScanCache

open ScanCache (Ordered QueueTurn ByArrival)

/-! ## Runs of a session -/

namespace Session

/-- Whatever a scanner's turn is, its cache stays ordered and its queue makes one turn too. -/
theorem ordered_turn {files : FileStore} {policy : ScanCache.Policy} {old new : Scanner}
    (h : old.cache.Ordered) (hturn : Scanner.Turn files policy old new) :
    new.cache.Ordered ∧ QueueTurn old.cache.queue new.cache.queue := by
  cases hturn with
  | kept own => exact ⟨h, .kept⟩
  | fresh hempty =>
    rw [hempty]
    exact ⟨ScanCache.ordered_empty, .cleared⟩
  | scanned hfile => exact h.scanFile policy _ _ _

/-- The caches that the scanner goes through, the latest first, before those of the past. -/
def scanHistory (past : List ScanCache) (s : Session) : List Event → List ScanCache
  | [] => s.scanner.cache :: past
  | event :: rest => scanHistory (s.scanner.cache :: past) (s.step event) rest

/-- The invariant along a run, by induction over its events. -/
theorem ordered_run {s : Session} {past : List ScanCache} (h : s.scanner.cache.Ordered)
    (harrival : ByArrival (s.scanner.cache :: past) s.scanner.cache.queue) (events : List Event) :
    (s.after events).scanner.cache.Ordered ∧
      ByArrival (s.scanHistory past events) (s.after events).scanner.cache.queue := by
  induction events generalizing s past with
  | nil => exact ⟨h, harrival⟩
  | cons event rest ih =>
    obtain ⟨hordered, hqueue⟩ := ordered_turn h (turn_step s event)
    exact ih hordered (harrival.turn h hordered hqueue)

/-- The invariant of a scanner that had scanned nothing when the run began. -/
theorem ordered_after {s : Session} (hfresh : s.scanner.cache = .empty) (events : List Event) :
    (s.after events).scanner.cache.Ordered ∧
      ByArrival (s.scanHistory [] events) (s.after events).scanner.cache.queue := by
  refine ordered_run ?_ ?_ events
  · rw [hfresh]
    exact ScanCache.ordered_empty
  · rw [hfresh]
    exact List.Pairwise.nil

/-! ## Single scans -/

/-- A scan of a file that may be scanned goes through the scanner's memory, and one of another file
leaves it alone. -/
theorem cache_scanFile {s : Session} {path : Text} {place : Place} {file : StoredFile}
    (h : s.files.find path = .ok (.file place file)) :
    (s.scanFile path).1.scanner.cache =
      if s.mayScan place file then (s.consult place file).1 else s.scanner.cache := by
  rcases s.scanFile_cases path with ⟨place', file', hfind, hmay, hscan⟩ | ⟨hnot, -, hframe⟩
  · obtain ⟨rfl, rfl⟩ := FileStore.Node.file.inj (Except.ok.inj (hfind.symm.trans h))
    rw [hscan, scanner_scanFound, if_pos hmay]
    rfl
  · rw [if_neg (by rw [hnot place file h]; exact Bool.false_ne_true), hframe.scanner,
      scanner_needScanner]

theorem cache_scanFile_of_read {s : Session} {path : Text} {place : Place} {file : StoredFile}
    (h : s.files.read path = .ok (place, file)) :
    (s.scanFile path).1.scanner.cache = (s.consult place file).1 := by
  obtain ⟨hfind, hread⟩ := FileStore.read_eq_ok_iff.mp h
  rw [cache_scanFile hfind, if_pos (by rw [mayScan, hread, Bool.true_or])]

/-- What a scan of a path does to the scanner's cache. -/
structure ScanLaws (s : Session) (path : Text) : Prop where
  /-- A hit leaves the queue as it is, whether the remembered scan is of this version or not. -/
  hit : ∀ place file old, s.files.find path = .ok (.file place file) →
    s.scanPolicy.enabled = true → s.scanner.cache.get? place = some old →
    (s.scanFile path).1.scanner.cache.queue = s.scanner.cache.queue
  /-- A miss of a file that can be read lets the place in at the end of the queue, and at most the
  first one goes. -/
  miss : ∀ place file, s.files.read path = .ok (place, file) →
    s.scanPolicy.enabled = true → s.scanner.cache.get? place = none →
    ∃ gone rest, s.scanner.cache.queue = gone ++ rest ∧ gone.length ≤ 1 ∧
      place ∉ s.scanner.cache.queue ∧
      (s.scanFile path).1.scanner.cache.queue = rest ++ [place]
  /-- A scan that fails leaves the cache alone. -/
  failure : ∀ fault, (s.scanFile path).2 = .error fault →
    (s.scanFile path).1.scanner.cache = s.scanner.cache
  /-- A cache that is full and not empty does not grow. -/
  full : s.scanPolicy.capacity ≤ s.scanner.cache.entries.length → s.scanner.cache.entries ≠ [] →
    (s.scanFile path).1.scanner.cache.entries.length ≤ s.scanner.cache.entries.length

theorem scanLaws {s : Session} (h : s.scanner.cache.Ordered) (path : Text) : s.ScanLaws path where
  hit place file old hfind hon hold := by
    rw [cache_scanFile hfind]
    split
    · exact ScanCache.queue_scanFile_of_hit hon hold
    · rfl
  miss place file hread hon hnone := by
    obtain ⟨gone, hqueue, hgone⟩ :=
      s.scanner.cache.exists_queue_makeRoom s.scanPolicy.capacity
    refine ⟨gone, _, hqueue, hgone, h.not_mem_queue hnone, ?_⟩
    rw [cache_scanFile_of_read hread]
    exact ScanCache.queue_scanFile_of_miss hon hnone
  failure fault hfault := by
    rcases s.scanFile_cases path with ⟨_, _, -, -, hscan⟩ | ⟨-, -, hframe⟩
    · rw [hscan] at hfault
      cases hfault
    · rw [hframe.scanner, scanner_needScanner]
  full hfull hne := by
    -- a scan that fails makes a turn as well, and leaves the cache alone
    have hturn := turn_scanFile s path
    generalize (s.scanFile path).1.scanner = new at hturn
    cases hturn with
    | kept own => exact Nat.le_refl _
    | fresh hempty =>
      rw [hempty]
      exact Nat.zero_le _
    | scanned hfile =>
      show (s.scanner.cache.scanFile _ _ _ _).1.entries.length ≤ _
      have hpos : s.scanner.cache.entries.length ≠ 0 := by simpa using hne
      rw [h.length_scanFile]
      split <;> omega

/-- **The queue and the entries of a scan cache never drift apart.** Whatever has happened since the
scanner had scanned nothing, the queue lists each remembered place once, in order of arrival, and
the next scan of any path keeps to the laws of the queue. -/
theorem scanQueue_after (s : Session) (events : List Event)
    (hfresh : s.scanner.cache = .empty) :
    (s.after events).scanner.cache.Ordered ∧
      ByArrival (s.scanHistory [] events) (s.after events).scanner.cache.queue ∧
      ∀ path, (s.after events).ScanLaws path := by
  obtain ⟨hordered, harrival⟩ := ordered_after hfresh events
  exact ⟨hordered, harrival, scanLaws hordered⟩

/-- Two headers are scanned, the older one once more in a newer version, and a third one comes in
when there is room for two. -/
def threeHeaders : List Event := [
  .retune true 2,
  .request (.write "a.h".toList (asciiFile "struct A{};" 1)),
  .request (.write "b.h".toList (asciiFile "struct B{};" 1)),
  .request (.write "c.h".toList (asciiFile "struct C{};" 1)),
  .request (.scanFile "a.h".toList),
  .request (.scanFile "b.h".toList),
  .request (.write "a.h".toList (asciiFile "struct D{};" 2)),
  .request (.scanFile "a.h".toList),
  .request (.scanFile "c.h".toList)]

/-- The header that was renewed keeps its turn and is the one that goes; coming back, it queues up
behind the others. -/
theorem scanQueue_threeHeaders :
    plainStart.scanner.cache = .empty ∧
      (plainStart.after threeHeaders).scanner.cache.queue = [["b.h".toList], ["c.h".toList]] ∧
      ByArrival (plainStart.scanHistory [] threeHeaders) [["b.h".toList], ["c.h".toList]] ∧
      ∃ gone rest, [["b.h".toList], ["c.h".toList]] = gone ++ rest ∧ gone.length ≤ 1 ∧
        ((plainStart.after threeHeaders).scanFile "a.h".toList).1.scanner.cache.queue =
          rest ++ [["a.h".toList]] := by
  have hqueue : (plainStart.after threeHeaders).scanner.cache.queue =
      [["b.h".toList], ["c.h".toList]] := rfl
  obtain ⟨-, harrival, hlaws⟩ := scanQueue_after plainStart threeHeaders rfl
  obtain ⟨gone, rest, hsplit, hgone, -, hnext⟩ :=
    (hlaws "a.h".toList).miss ["a.h".toList] (asciiFile "struct D{};" 2) rfl rfl rfl
  rw [hqueue] at harrival hsplit
  exact ⟨rfl, hqueue, harrival, gone, rest, hsplit, hgone, hnext⟩

end Session

end TypeLens
