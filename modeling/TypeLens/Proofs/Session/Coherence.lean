/-
# TypeLens.Proofs.Session.Coherence -- the parts of a session stay in step

Settings, resolver, engine and scanner come into being one by one, and the resolver remembers the
architecture that it resolved last. A session is *wired* when none of its parts has settings of its
own and the engine answers from the session's resolver; it is *current* when, besides, the
resolver's architecture is the one that the settings in force resolve to.

In a current session it cannot be told which parts exist already: the architecture that the engine
answers for is always `Architecture.resolve` of the settings in force. Bringing a part into being
keeps a session current. A change of settings may leave a session wired only; resolving the
architecture again makes it current.
-/
import TypeLens.Proofs.Session.Frame

namespace TypeLens

namespace Session

/-! ## Settings in force -/

@[simp] theorem settings_needResolver (s : Session) : s.needResolver.settings = s.settings := by
  unfold needResolver
  split <;> rfl

@[simp] theorem settings_needLink (s : Session) : s.needLink.settings = s.settings := by
  unfold needLink
  split
  · exact s.settings_needResolver
  · rfl

@[simp] theorem settings_setEngineResolver (s : Session) (r : Resolver) :
    (s.setEngineResolver r).settings = s.settings := by
  unfold setEngineResolver
  split <;> rfl

@[simp] theorem settings_refresh (s : Session) (given : Option Settings) :
    (s.refresh given).settings = s.settings := by
  rw [refresh, settings_setEngineResolver, settings_needSettingsUnless, settings_needLink]

/-! ## Wired and current sessions -/

/-- No part of the session has settings of its own, the scanner runs all queries, and an engine that
has looked up its resolver has that of the session. -/
structure Wired (s : Session) : Prop where
  resolver : ∀ r, s.resolver? = some r → r.own = none ∧ s.settings? = some s.settings
  engine : s.engine.link = .unset ∨ s.engine.link = .shared ∧ s.resolver?.isSome
  scannerOwn : s.scanner.own = none
  scannerQueries : s.scanner.queries = Declaration.Query.all

/-- A wired session whose resolver is up to date. -/
structure Current (s : Session) : Prop extends Wired s where
  upToDate : ∀ r, s.resolver? = some r → r.architecture = Architecture.resolve s.host s.settings

/-- A session none of whose parts exists. -/
structure Untouched (s : Session) : Prop where
  settings : s.settings? = none
  resolver : s.resolver? = none
  engine : s.engine? = none
  scanner : s.scanner? = none

theorem Untouched.current {s : Session} (h : s.Untouched) : s.Current where
  resolver r hr := by simp [h.resolver] at hr
  engine := Or.inl (by simp [Session.engine, h.engine])
  scannerOwn := by simp [Session.scanner, h.scanner, freshScanner]
  scannerQueries := by simp [Session.scanner, h.scanner, freshScanner]
  upToDate r hr := by simp [h.resolver] at hr

theorem Wired.resolver_own {s : Session} (h : s.Wired) : s.resolver.own = none := by
  unfold Session.resolver
  cases hr : s.resolver? with
  | none => rfl
  | some r => exact (h.resolver r hr).1

/-- A wired engine answers from the resolver of the session. -/
theorem Wired.engineResolver_eq {s : Session} (h : s.Wired) : s.engineResolver = s.resolver := by
  unfold engineResolver
  rcases h.engine with hlink | ⟨hlink, -⟩
  · rw [hlink]
  · rw [hlink]

/-- Whether or not the resolver exists, the engine of a current session answers for the architecture
that the settings in force resolve to. -/
theorem Current.architecture_eq {s : Session} (h : s.Current) :
    s.architecture = Architecture.resolve s.host s.settings := by
  rw [architecture, h.engineResolver_eq]
  unfold Session.resolver
  cases hr : s.resolver? with
  | none => rfl
  | some r => exact h.upToDate r hr

/-- A resolver that the engine of a wired session has looked up is the one that it answers from, and
there are settings. -/
theorem Wired.engineArchitecture?_eq {s : Session} (h : s.Wired) {a : Architecture}
    (ha : s.engineArchitecture? = some a) :
    s.settings? = some s.settings ∧ a = s.architecture := by
  cases he : s.engine? with
  | none => simp [engineArchitecture?, he] at ha
  | some e =>
    have hlink : s.engine.link = e.link := by simp [Session.engine, he]
    rcases h.engine with hunset | ⟨hshared, -⟩
    · simp [engineArchitecture?, he, ← hlink, hunset] at ha
    · -- the resolver that the engine has looked up is that of the session
      simp only [engineArchitecture?, he, Option.map_some, ← hlink, hshared] at ha
      obtain ⟨r, hr, rfl⟩ := Option.map_eq_some_iff.mp ha
      refine ⟨(h.resolver r hr).2, ?_⟩
      rw [architecture, h.engineResolver_eq, Session.resolver, hr, Option.getD_some]

/-- A resolver that the engine of a current session has looked up is up to date with settings that
exist. -/
theorem Current.engineArchitecture?_eq {s : Session} (h : s.Current) {a : Architecture}
    (ha : s.engineArchitecture? = some a) :
    s.settings? = some s.settings ∧ a = Architecture.resolve s.host s.settings := by
  obtain ⟨hsettings, harch⟩ := h.toWired.engineArchitecture?_eq ha
  exact ⟨hsettings, harch.trans h.architecture_eq⟩

/-! ## Bringing parts into being -/

/-- Two sessions with the same files, resolver and link to it, the same settings in force and
scanners that work alike. Settings that exist stay; other parts may have come into being. -/
structure Alike (s t : Session) : Prop where
  host : t.host = s.host
  files : t.files = s.files
  settings : t.settings = s.settings
  settings? : s.settings? = some s.settings → t.settings? = some s.settings
  resolver? : t.resolver? = s.resolver?
  link : t.engine.link = s.engine.link
  own : t.scanner.own = s.scanner.own
  queries : t.scanner.queries = s.scanner.queries

theorem Alike.trans {s t u : Session} (h₁ : Alike s t) (h₂ : Alike t u) : Alike s u where
  host := h₂.host.trans h₁.host
  files := h₂.files.trans h₁.files
  settings := h₂.settings.trans h₁.settings
  settings? hs := by
    rw [← h₁.settings]
    exact h₂.settings? (by rw [h₁.settings]; exact h₁.settings? hs)
  resolver? := h₂.resolver?.trans h₁.resolver?
  link := h₂.link.trans h₁.link
  own := h₂.own.trans h₁.own
  queries := h₂.queries.trans h₁.queries

theorem Wired.alike {s t : Session} (h : s.Wired) (ht : Alike s t) : t.Wired where
  resolver r hr := by
    rw [ht.resolver?] at hr
    obtain ⟨hown, hset⟩ := h.resolver r hr
    exact ⟨hown, by rw [ht.settings]; exact ht.settings? hset⟩
  engine := by
    rw [ht.link, ht.resolver?]
    exact h.engine
  scannerOwn := ht.own.trans h.scannerOwn
  scannerQueries := ht.queries.trans h.scannerQueries

theorem Current.alike {s t : Session} (h : s.Current) (ht : Alike s t) : t.Current where
  toWired := h.toWired.alike ht
  upToDate r hr := by
    rw [ht.resolver?] at hr
    rw [ht.host, ht.settings]
    exact h.upToDate r hr

theorem alike_needSettings (s : Session) : Alike s s.needSettings :=
  ⟨rfl, rfl, rfl, fun _ => rfl, rfl, rfl, rfl, rfl⟩

theorem alike_needEngine (s : Session) : Alike s s.needEngine :=
  ⟨rfl, rfl, rfl, id, rfl, rfl, rfl, rfl⟩

theorem alike_needScanner (s : Session) : Alike s s.needScanner :=
  ⟨rfl, rfl, rfl, id, rfl, rfl, rfl, rfl⟩

theorem alike_addListener (s : Session) (l : Listener) : Alike s (s.addListener l) :=
  ⟨rfl, rfl, rfl, id, rfl, rfl, rfl, rfl⟩

/-- Starting up brings engine and scanner into being before it resolves the architecture. -/
theorem alike_beforeStartUp (s : Session) :
    Alike s (s.needEngine.needScanner.addListener .dropScans) :=
  (s.alike_needEngine.trans (alike_needScanner _)).trans (alike_addListener _ .dropScans)

theorem alike_clearScans (s : Session) : Alike s s.clearScans :=
  ⟨rfl, rfl, rfl, id, rfl, rfl, by rw [scanner_clearScans], by rw [scanner_clearScans]⟩

theorem alike_scanFound (s : Session) (place : Place) (file : StoredFile) :
    Alike s (s.scanFound place file).1 := by
  rw [scanFound_eq]
  unfold needSettingsUnless
  split
  · exact ⟨rfl, rfl, rfl, id, rfl, rfl, rfl, rfl⟩
  · exact ⟨rfl, rfl, rfl, fun _ => rfl, rfl, rfl, rfl, rfl⟩

theorem alike_callAll (listeners : List Listener) (s : Session) :
    Alike s (listeners.foldl call s) := by
  induction listeners generalizing s with
  | nil => exact ⟨rfl, rfl, rfl, id, rfl, rfl, rfl, rfl⟩
  | cons l rest ih =>
    have hlogged : Alike s { s with calls := s.calls ++ [l] } :=
      ⟨rfl, rfl, rfl, id, rfl, rfl, rfl, rfl⟩
    have hcall : Alike s (s.call l) := by
      cases l with
      | notify | dropOldScans => exact hlogged
      | dropScans => exact hlogged.trans (alike_clearScans _)
    exact hcall.trans (ih (s.call l))

/-- A resolver that comes into being resolves the settings in force. -/
theorem Wired.needResolver {s : Session} (h : s.Wired) :
    s.needResolver.Wired ∧ s.needResolver.resolver?.isSome := by
  unfold Session.needResolver
  split
  · rename_i hsome
    exact ⟨h, hsome⟩
  · refine ⟨⟨?_, ?_, h.scannerOwn, h.scannerQueries⟩, rfl⟩
    · rintro r ⟨⟩
      exact ⟨rfl, rfl⟩
    · rcases h.engine with hlink | ⟨hlink, -⟩
      · exact Or.inl hlink
      · exact Or.inr ⟨hlink, rfl⟩

theorem Current.needResolver {s : Session} (h : s.Current) : s.needResolver.Current := by
  refine ⟨h.toWired.needResolver.1, ?_⟩
  unfold Session.needResolver
  split
  · exact h.upToDate
  · rintro r ⟨⟩
    rfl

/-- An engine that looks up its resolver finds that of the session. -/
theorem Wired.needLink {s : Session} (h : s.Wired) :
    s.needLink.Wired ∧ s.needLink.engine.link = .shared ∧ s.needLink.resolver?.isSome := by
  obtain ⟨hwired, hsome⟩ := h.needResolver
  rcases h.engine with hlink | ⟨hlink, hres⟩
  · simp only [Session.needLink, hlink]
    exact ⟨⟨hwired.resolver, Or.inr ⟨rfl, hsome⟩, hwired.scannerOwn, hwired.scannerQueries⟩,
      rfl, hsome⟩
  · simp only [Session.needLink, hlink]
    exact ⟨h.alike s.alike_needEngine, hlink, hres⟩

theorem Current.needLink {s : Session} (h : s.Current) : s.needLink.Current := by
  refine ⟨h.toWired.needLink.1, ?_⟩
  have hres := h.needResolver.upToDate
  rcases h.engine with hlink | ⟨hlink, -⟩
  · simp only [Session.needLink, hlink]
    exact hres
  · simp only [Session.needLink, hlink]
    exact h.upToDate

/-! ## Changing settings -/

/-- A change that is not reported as architectural keeps what the architecture depends on. -/
theorem apply_keeps_target {x y : Settings} {change : Settings.Change} {key : Option Settings.Key}
    (h : x.apply change = .ok (y, key)) (hkey : ∀ k ∈ key, k ∉ Settings.Key.architectural) :
    y.mode = x.mode ∧ y.descriptor = x.descriptor := by
  cases change with
  | mode text =>
    simp only [Settings.apply] at h
    split at h
    · simp at h
    · simp only [Except.ok.injEq, Prod.mk.injEq] at h
      obtain ⟨rfl, rfl⟩ := h
      -- the key is reported unless the value is the old one
      split at hkey
      · rename_i hsame
        exact ⟨hsame.symm, rfl⟩
      · exact absurd (by decide) (hkey .mode rfl)
  | descriptor value =>
    simp only [Settings.apply, Except.ok.injEq, Prod.mk.injEq] at h
    obtain ⟨rfl, rfl⟩ := h
    split at hkey
    · rename_i hsame
      exact ⟨rfl, hsame.symm⟩
    · exact absurd (by decide) (hkey .descriptor rfl)
  | showArchitecture value =>
    simp only [Settings.apply, Except.ok.injEq, Prod.mk.injEq] at h
    obtain ⟨rfl, -⟩ := h
    exact ⟨rfl, rfl⟩
  | cacheEnabled value =>
    simp only [Settings.apply, Except.ok.injEq, Prod.mk.injEq] at h
    obtain ⟨rfl, -⟩ := h
    exact ⟨rfl, rfl⟩
  | cacheCapacity value =>
    simp only [Settings.apply, Except.ok.injEq, Prod.mk.injEq] at h
    obtain ⟨rfl, -⟩ := h
    exact ⟨rfl, rfl⟩
  | unknown key => simp [Settings.apply] at h

/-- What a list of changes does, read off its first change. -/
theorem update_cons_ok {x y : Settings} {change : Settings.Change} {rest : List Settings.Change}
    {keys : List Settings.Key} (h : x.update (change :: rest) = (y, .ok keys)) :
    ∃ z key more, x.apply change = .ok (z, key) ∧ z.update rest = (y, .ok more) ∧
      keys = key.toList ++ more := by
  rw [Settings.update] at h
  split at h
  · simp at h
  · rename_i z key happly
    cases hrest : z.update rest with
    | mk last outcome =>
      rw [hrest] at h
      cases outcome with
      | error refusal => simp [Except.map] at h
      | ok more =>
        simp only [Except.map, Prod.mk.injEq, Except.ok.injEq] at h
        obtain ⟨rfl, rfl⟩ := h
        exact ⟨z, key, more, happly, hrest, rfl⟩

theorem update_keeps_target {x y : Settings} {changes : List Settings.Change}
    {keys : List Settings.Key} (h : x.update changes = (y, .ok keys))
    (hkeys : ∀ k ∈ keys, k ∉ Settings.Key.architectural) :
    y.mode = x.mode ∧ y.descriptor = x.descriptor := by
  induction changes generalizing x keys with
  | nil =>
    simp only [Settings.update, Prod.mk.injEq] at h
    exact ⟨by rw [← h.1], by rw [← h.1]⟩
  | cons change rest ih =>
    obtain ⟨z, key, more, happly, hrest, rfl⟩ := update_cons_ok h
    have hfirst := apply_keeps_target happly fun k hk =>
      hkeys k (List.mem_append_left _ (by simpa using hk))
    have hmore := ih hrest fun k hk => hkeys k (List.mem_append_right _ hk)
    exact ⟨hmore.1.trans hfirst.1, hmore.2.trans hfirst.2⟩

/-- Changes none of which can be refused succeed together. -/
theorem update_ok {changes : List Settings.Change}
    (h : ∀ change ∈ changes, ∀ x : Settings, ∃ y key, x.apply change = .ok (y, key))
    (x : Settings) : ∃ y keys, x.update changes = (y, .ok keys) := by
  induction changes generalizing x with
  | nil => exact ⟨x, [], rfl⟩
  | cons change rest ih =>
    obtain ⟨z, key, happly⟩ := h change (by simp) x
    obtain ⟨y, keys, hrest⟩ := ih (fun c hc => h c (List.mem_cons_of_mem _ hc)) z
    exact ⟨y, key.toList ++ keys, by simp [Settings.update, happly, hrest, Except.map]⟩

/-- Options are refused for their mode or not at all, and the mode comes first; so refused options
change nothing. -/
theorem update_options_refused {x y : Settings} {options : Options} {refusal : Settings.Refusal}
    (h : x.update options.changes = (y, .error refusal)) : y = x := by
  obtain ⟨mode, descriptor, showArchitecture⟩ := options
  have hrest : ∀ z : Settings, ∃ u keys,
      z.update ((descriptor.map fun d => Settings.Change.descriptor (some d)).toList ++
        (showArchitecture.map .showArchitecture).toList) = (u, .ok keys) := by
    apply update_ok
    intro change hchange z
    simp only [List.mem_append, Option.mem_toList, Option.map_eq_some_iff] at hchange
    rcases hchange with ⟨d, -, rfl⟩ | ⟨b, -, rfl⟩
    · exact ⟨_, _, rfl⟩
    · exact ⟨_, _, rfl⟩
  cases mode with
  | none =>
    obtain ⟨u, keys, hu⟩ := hrest x
    rw [Options.changes, Option.map_none, Option.toList_none, List.nil_append, hu] at h
    simp at h
  | some text =>
    rw [Options.changes, Option.map_some, Option.toList_some, List.append_assoc,
      List.singleton_append, Settings.update] at h
    split at h
    · exact (congrArg Prod.fst h).symm
    · -- a mode that was taken is followed by changes that cannot be refused
      rename_i z key _
      obtain ⟨u, keys, hu⟩ := hrest z
      simp [hu, Except.map] at h

/-- Settings that agree on mode and descriptor resolve to the same architecture. -/
theorem resolve_congr (host : Host) {x y : Settings} (hmode : y.mode = x.mode)
    (hdescriptor : y.descriptor = x.descriptor) :
    Architecture.resolve host y = Architecture.resolve host x := by
  rw [Architecture.resolve, hmode, hdescriptor, Architecture.resolve]

/-- Resolving the architecture again makes a wired session current. -/
theorem Wired.refresh {s : Session} (h : s.Wired) : (s.refresh none).Current := by
  obtain ⟨hwired, hlink, -⟩ := h.needLink
  have hown : s.needLink.engineResolver.own = none := by
    rw [hwired.engineResolver_eq, hwired.resolver_own]
  have hset := hwired.alike (alike_needSettings _)
  -- neither given settings nor settings of its own: the resolver turns to those in force
  simp only [Session.refresh, hown, Option.or_none, needSettingsUnless, Option.isSome_none,
    Bool.false_eq_true, if_false, Option.getD_none]
  have hlink' : s.needLink.needSettings.engine.link = .shared := hlink
  simp only [setEngineResolver, hlink']
  refine ⟨⟨?_, Or.inr ⟨hlink', rfl⟩, hset.scannerOwn, hset.scannerQueries⟩, ?_⟩
  · rintro r ⟨⟩
    exact ⟨rfl, rfl⟩
  · rintro r ⟨⟩
    rfl

/-- A session whose settings were replaced is wired. -/
theorem Wired.change {s : Session} (h : s.Wired) (changes : List Settings.Change) :
    (s.change changes).1.Wired where
  resolver r hr := ⟨(h.resolver r hr).1, rfl⟩
  engine := h.engine
  scannerOwn := h.scannerOwn
  scannerQueries := h.scannerQueries

/-- When no architectural key changed, a current session stays current without resolving again. -/
theorem Current.change {s : Session} (h : s.Current) {changes : List Settings.Change}
    {keys : List Settings.Key} (hok : (s.settings.update changes).2 = .ok keys)
    (hkeys : ∀ k ∈ keys, k ∉ Settings.Key.architectural) : (s.change changes).1.Current where
  toWired := h.toWired.change changes
  upToDate r hr := by
    have hkept := update_keeps_target (Prod.ext rfl hok) hkeys
    rw [h.upToDate r hr]
    exact (resolve_congr s.host hkept.1 hkept.2).symm

/-- The engine's reaction to changed settings makes the session current. -/
theorem current_announce {s : Session} {keys : List Settings.Key} (h : s.Wired)
    (hquiet : (∀ k ∈ keys, k ∉ Settings.Key.architectural) → s.Current) :
    (s.announce keys).Current := by
  have hcurrent : (if keys.any Settings.Key.architectural.contains
      then s.needEngine.refresh none else s.needEngine).Current := by
    split
    · exact (h.alike s.alike_needEngine).refresh
    · -- not resolved again, so it has to be right already
      rename_i hany
      refine (hquiet fun k hk hmem => hany ?_).alike s.alike_needEngine
      exact List.any_eq_true.mpr ⟨k, hk, by simpa using hmem⟩
  unfold announce
  dsimp only
  split
  · exact hcurrent.alike (alike_callAll _ _)
  · exact hcurrent

end Session

end TypeLens
