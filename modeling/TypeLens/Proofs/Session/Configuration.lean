/-
# TypeLens.Proofs.Session.Configuration -- options are changed together or not at all

A server is a session that was started up and has been asked things since; files are written and
listeners added in between (`Serving`). All of its parts exist and are in step (`Ready`), so that a
question changes nothing but what the scanner remembers.

For such a session a change of options is described completely (`configure_all_or_nothing`). It is
refused exactly for a mode that does not exist, and then nothing has happened. Otherwise the settings
are those from before with the options laid over them (`Options.onto`), and the keys that are reported
are those for which the two differ. Without any the session is the one from before; else the
architecture is resolved, every listener is called once, and no scan is remembered.

That a refused change of options changes nothing rests on their order: only the mode can be refused,
and it comes first. What changes in another order can do is the matter of
`TypeLens.Proofs.Session.Announcement`.
-/
import TypeLens.Proofs.Session.Announcement
import TypeLens.Proofs.Session.FileFailures
import TypeLens.Proofs.Session.Stateless

namespace TypeLens

theorem Mode.read?_eq_none_iff {text : Text} :
    Mode.read? text = none ↔ lower (trim text) ∉ Mode.all.map Mode.name := by
  rw [Mode.read?, Mode.ofName?, List.find?_eq_none]
  simp

namespace Settings

/-! ## Keys with other values -/

/-- Whether two settings have different values for a key. -/
def differ (x y : Settings) : Key → Bool
  | .mode => x.mode ≠ y.mode
  | .descriptor => x.descriptor ≠ y.descriptor
  | .showArchitecture => x.showArchitecture ≠ y.showArchitecture
  | .cacheEnabled => x.cacheEnabled ≠ y.cacheEnabled
  | .cacheCapacity => x.cacheCapacity ≠ y.cacheCapacity

theorem differ_self (x : Settings) (k : Key) : x.differ x k = false := by
  cases k <;> simp [differ]

/-- Settings that differ for no key are the same. -/
theorem eq_of_differ {x y : Settings} (h : ∀ k, x.differ y k = false) : x = y := by
  cases x
  cases y
  rw [Settings.mk.injEq]
  exact ⟨by simpa [differ] using h .mode, by simpa [differ] using h .descriptor,
    by simpa [differ] using h .showArchitecture, by simpa [differ] using h .cacheEnabled,
    by simpa [differ] using h .cacheCapacity⟩

theorem differ_of_agree_left {x y : Settings} {k : Key} (h : x.differ y k = false)
    (z : Settings) : x.differ z k = y.differ z k := by
  cases k <;> simp_all [differ]

theorem differ_of_agree_right {y z : Settings} {k : Key} (h : y.differ z k = false)
    (x : Settings) : x.differ z k = x.differ y k := by
  cases k <;> simp_all [differ]

/-- The key whose value a change sets. -/
def Change.key? : Change → Option Key
  | .mode _ => some .mode
  | .descriptor _ => some .descriptor
  | .showArchitecture _ => some .showArchitecture
  | .cacheEnabled _ => some .cacheEnabled
  | .cacheCapacity _ => some .cacheCapacity
  | .unknown _ => none

/-- A change reports its key exactly if the value is another one now, and touches no other key. -/
theorem differ_apply {x y : Settings} {change : Change} {key : Option Key}
    (h : x.apply change = .ok (y, key)) (k : Key) :
    (x.differ y k = true ↔ key = some k) ∧ (x.differ y k = true → change.key? = some k) := by
  cases change with
  | mode text =>
    simp only [apply] at h
    split at h
    · simp at h
    · simp only [Except.ok.injEq, Prod.mk.injEq] at h
      obtain ⟨rfl, rfl⟩ := h
      cases k <;> simp [differ, Change.key?]
  | unknown key => simp [apply] at h
  | _ =>
    simp only [apply, Except.ok.injEq, Prod.mk.injEq] at h
    obtain ⟨rfl, rfl⟩ := h
    cases k <;> simp [differ, Change.key?]

/-- A key that no change sets keeps its value. -/
theorem update_keeps {x y : Settings} {changes : List Change} {keys : List Key}
    (h : x.update changes = (y, .ok keys)) {k : Key} (hk : some k ∉ changes.map Change.key?) :
    x.differ y k = false := by
  induction changes generalizing x keys with
  | nil =>
    simp only [update, Prod.mk.injEq] at h
    rw [← h.1, differ_self]
  | cons change rest ih =>
    obtain ⟨z, key, more, happly, hrest, rfl⟩ := Session.update_cons_ok h
    rw [List.map_cons, List.mem_cons, not_or] at hk
    have hz : x.differ z k = false := by
      rw [← Bool.not_eq_true]
      intro hdiffer
      exact hk.1 ((differ_apply happly k).2 hdiffer).symm
    rw [differ_of_agree_left hz, ih hrest hk.2]

/-- Changes of different keys report exactly the keys whose values are other ones in the end. -/
theorem mem_update_iff {x y : Settings} {changes : List Change} {keys : List Key}
    (hchanges : (changes.map Change.key?).Nodup) (h : x.update changes = (y, .ok keys))
    (k : Key) : k ∈ keys ↔ x.differ y k = true := by
  induction changes generalizing x keys with
  | nil =>
    simp only [update, Prod.mk.injEq, Except.ok.injEq] at h
    simp [← h.1, ← h.2, differ_self]
  | cons change rest ih =>
    obtain ⟨z, key, more, happly, hrest, rfl⟩ := Session.update_cons_ok h
    obtain ⟨hnotin, hrestNodup⟩ := List.nodup_cons.mp hchanges
    obtain ⟨hreport, hkey⟩ := differ_apply happly k
    rw [List.mem_append, Option.mem_toList, ← hreport, ih hrestNodup hrest]
    cases hz : x.differ z k with
    | false => simp [differ_of_agree_left hz]
    | true =>
      -- the key of the first change is set by none of the others
      rw [hkey hz] at hnotin
      simp [differ_of_agree_right (update_keeps hrest hnotin), hz]

theorem mem_keyNames {keys : List Key} {name : Text} :
    name ∈ keyNames keys ↔ ∃ k ∈ keys, k.name = name := by
  rw [keyNames, mem_sortedUnique, List.mem_map]

theorem keyNames_eq_nil_iff {keys : List Key} : keyNames keys = [] ↔ keys = [] := by
  simp only [List.eq_nil_iff_forall_not_mem, mem_keyNames]
  constructor
  · intro h k hk
    exact h k.name ⟨k, hk, rfl⟩
  · rintro h name ⟨k, hk, -⟩
    exact h k hk

end Settings

namespace Session

/-! ## Options over settings -/

namespace Options

/-- Settings with the given options laid over them; every other value stays. -/
def onto (o : Options) (settings : Settings) : Settings :=
  { settings with
    mode := (o.mode.bind Mode.read?).getD settings.mode
    descriptor := o.descriptor.or settings.descriptor
    showArchitecture := o.showArchitecture.getD settings.showArchitecture }

theorem onto_onto (o : Options) (x : Settings) : o.onto (o.onto x) = o.onto x := by
  obtain ⟨mode, descriptor, showArchitecture⟩ := o
  simp only [onto, Settings.mk.injEq, and_true]
  refine ⟨?_, ?_, ?_⟩
  · cases mode.bind Mode.read? <;> rfl
  · cases descriptor <;> rfl
  · cases showArchitecture <;> rfl

theorem nodup_changes (o : Options) : (o.changes.map Settings.Change.key?).Nodup := by
  obtain ⟨_ | _, _ | _, _ | _⟩ := o <;> simp [changes, Settings.Change.key?]

/-- Whichever options are given, they are taken over if the mode among them exists. -/
theorem update_changes_ok {o : Options} (h : ∀ text ∈ o.mode, (Mode.read? text).isSome)
    (x : Settings) : ∃ keys, x.update o.changes = (o.onto x, .ok keys) := by
  obtain ⟨mode, descriptor, showArchitecture⟩ := o
  cases mode with
  | none => cases descriptor <;> cases showArchitecture <;> exact ⟨_, rfl⟩
  | some text =>
    obtain ⟨m, hm⟩ := Option.isSome_iff_exists.mp (h text rfl)
    simp only [changes, onto, Option.map_some, Option.toList_some, Option.bind_some, hm,
      List.cons_append, List.nil_append, Settings.update, Settings.apply]
    cases descriptor <;> cases showArchitecture <;> exact ⟨_, rfl⟩

/-- A mode that does not exist is refused before anything else is looked at. -/
theorem update_changes_refused {o : Options} {text : Text} (hmode : o.mode = some text)
    (hnone : Mode.read? text = none) (x : Settings) :
    x.update o.changes = (x, .error (.invalidMode (lower (trim text)))) := by
  simp only [changes, hmode, Option.map_some, Option.toList_some, List.cons_append,
    Settings.update, Settings.apply, hnone]

/-- Changes of options show in the answers. -/
theorem shows_of_differ {o : Options} {x : Settings} {k : Settings.Key}
    (h : x.differ (o.onto x) k = true) :
    k ∈ Settings.Key.architectural ∨ k ∈ Settings.Key.presentational := by
  cases k with
  | cacheEnabled => simp [Settings.differ, onto] at h
  | cacheCapacity => simp [Settings.differ, onto] at h
  | _ => decide

end Options

/-! ## Assembled and ready sessions -/

/-- A session all of whose parts exist, and whose scans are dropped when answers are no longer good. -/
structure Assembled (s : Session) : Prop extends Wired s where
  settings : s.settings? = some s.settings
  engine? : s.engine? = some s.engine
  link : s.engine.link = .shared
  listening : .dropScans ∈ s.engine.listeners
  scanner? : s.scanner? = some s.scanner

/-- An assembled session whose resolver is up to date. -/
structure Ready (s : Session) : Prop extends Assembled s, Current s

namespace Assembled

variable {s : Session}

theorem needSettings (h : s.Assembled) : s.needSettings = s := by
  rw [Session.needSettings, ← h.settings]

theorem needEngine (h : s.Assembled) : s.needEngine = s := by
  rw [Session.needEngine, ← h.engine?]

theorem needScanner (h : s.Assembled) : s.needScanner = s := by
  rw [Session.needScanner, ← h.scanner?]

theorem needLink (h : s.Assembled) : s.needLink = s := by
  rw [Session.needLink, h.link]
  exact h.needEngine

theorem needSettingsUnless (h : s.Assembled) (own : Option Settings) :
    s.needSettingsUnless own = s := by
  rw [Session.needSettingsUnless, h.needSettings, ite_self]

/-- Resolving the architecture again replaces the resolver and nothing else. -/
theorem refresh (h : s.Assembled) :
    s.refresh none =
      { s with resolver? := some ⟨none, Architecture.resolve s.host s.settings⟩ } := by
  have hown : s.engineResolver.own = none := by rw [h.engineResolver_eq, h.resolver_own]
  simp only [Session.refresh, h.needLink, hown, h.needSettingsUnless, setEngineResolver, h.link,
    Option.or_none, Option.getD_none]

theorem withSettings (h : s.Assembled) (settings : Settings) :
    Assembled { s with settings? := some settings } where
  resolver r hr := ⟨(h.resolver r hr).1, rfl⟩
  engine := h.engine
  scannerOwn := h.scannerOwn
  scannerQueries := h.scannerQueries
  settings := rfl
  engine? := h.engine?
  link := h.link
  listening := h.listening
  scanner? := h.scanner?

end Assembled

namespace Ready

variable {s : Session}

theorem resolver? (h : s.Ready) :
    s.resolver? = some ⟨none, Architecture.resolve s.host s.settings⟩ := by
  obtain ⟨r, hr⟩ : ∃ r, s.resolver? = some r := by
    rcases h.engine with hunset | ⟨-, hsome⟩
    · rw [h.link] at hunset
      cases hunset
    · exact Option.isSome_iff_exists.mp hsome
  obtain ⟨own, architecture⟩ := r
  obtain rfl : own = none := (h.resolver _ hr).1
  obtain rfl : architecture = _ := h.upToDate _ hr
  exact hr

theorem needResolver (h : s.Ready) : s.needResolver = s := by
  rw [Session.needResolver, h.resolver?]
  rfl

theorem engineArchitecture?_eq (h : s.Ready) :
    s.engineArchitecture? = some (Architecture.resolve s.host s.settings) := by
  simp only [engineArchitecture?, h.engine?, Option.map_some, h.link, h.resolver?]

theorem describeArchitecture_eq (h : s.Ready) :
    s.describeArchitecture =
      (s, ⟨s.settings.mode, Architecture.resolve s.host s.settings, s.host.machine⟩) := by
  simp only [Session.describeArchitecture, h.needLink, h.needSettings, h.architecture_eq]

/-! ## What leaves a session ready -/

theorem withScans (h : s.Ready) (cache : ScanCache) :
    Ready { s with scanner? := some { s.scanner with cache := cache } } where
  resolver := h.resolver
  engine := h.engine
  scannerOwn := h.scannerOwn
  scannerQueries := h.scannerQueries
  upToDate := h.upToDate
  settings := h.settings
  engine? := h.engine?
  link := h.link
  listening := h.listening
  scanner? := rfl

theorem withFiles (h : s.Ready) (files : FileStore) : Ready { s with files := files } where
  toWired := (h.toCurrent.withFiles files).toWired
  upToDate := h.upToDate
  settings := h.settings
  engine? := h.engine?
  link := h.link
  listening := h.listening
  scanner? := h.scanner?

theorem addListener (h : s.Ready) (l : Listener) : (s.addListener l).Ready where
  toWired := h.toWired.alike (alike_addListener s l)
  upToDate := h.upToDate
  settings := h.settings
  engine? := rfl
  link := h.link
  listening := List.mem_append_left _ h.listening
  scanner? := h.scanner?

theorem report_eq (h : s.Ready) (layout : Option Layout) : (s.report layout).1 = s := by
  cases layout with
  | none => exact h.needLink
  | some l => simp only [Session.report, h.needLink, h.needSettings, ite_self]

theorem layoutInLine_eq (h : s.Ready) (known : List Text) (sizes : SizeMap) (line : Text)
    (cursor : Int) : (s.layoutInLine known sizes line cursor).1 = s := by
  simp only [Session.layoutInLine, h.needLink, h.report_eq]

theorem scanFound_eq (h : s.Ready) (place : Place) (file : StoredFile) :
    (s.scanFound place file).1 =
      { s with scanner? := some { s.scanner with cache := (s.consult place file).1 } } := by
  rw [Session.scanFound_eq, h.needSettingsUnless]

/-- A question changes at most what the scanner remembers. -/
theorem ask (h : s.Ready) {question : Request} (hask : question.asksOnly = true) :
    ∃ cache, (s.handle question).1 =
      { s with scanner? := some { s.scanner with cache := cache } } := by
  have hsame : ∀ {t}, t = s →
      ∃ cache, t = { s with scanner? := some { s.scanner with cache := cache } } := by
    rintro t rfl
    exact ⟨t.scanner.cache, by rw [← h.scanner?]⟩
  cases question with
  | readSettings => exact hsame h.needSettings
  | extentOf name => exact hsame h.needResolver
  | layoutInLine known sizes line cursor => exact hsame (h.layoutInLine_eq known sizes line cursor)
  | lookUp sizes text =>
    refine hsame ?_
    simp only [handle, Session.lookUp, h.needLink, h.report_eq]
  | describeArchitecture => exact hsame (congrArg Prod.fst h.describeArchitecture_eq)
  | scanFile path =>
    simp only [handle, Session.scanFile, h.needScanner, h.needSettingsUnless]
    split
    · exact hsame rfl
    · exact hsame rfl
    · rename_i place file hfind
      split
      · exact ⟨(s.consult place file).1, h.scanFound_eq place file⟩
      · exact hsame rfl
  | layoutInFile sizes path line column =>
    cases hread : s.files.read path with
    | error obstacle => exact hsame (by simp only [handle, layoutInFile_of_blocked hread])
    | ok found =>
      obtain ⟨place, file⟩ := found
      cases htext : lineAt? (Utf8.textOf file.octets) line with
      | none => exact hsame (by simp only [handle, layoutInFile_of_noLine hread htext])
      | some text =>
        -- the file has the line, so it is scanned, and the line is asked about then
        refine ⟨(s.consult place file).1, ?_⟩
        simp only [handle, Session.layoutInFile, hread, htext, h.scanFound_eq,
          (h.withScans _).layoutInLine_eq]
  | _ => exact absurd hask Bool.false_ne_true

end Ready

/-! ## Starting up -/

/-- An engine that has looked up its resolver still has its listeners. -/
theorem Wired.engine?_needLink {s : Session} (h : s.Wired) :
    s.needLink.engine? = some ⟨.shared, s.engine.listeners⟩ := by
  have hengine : s.needResolver.engine = s.engine := by
    unfold Session.needResolver
    split <;> rfl
  rcases h.engine with hlink | ⟨hlink, -⟩
  · simp only [Session.needLink, hlink, hengine]
  · simp only [Session.needLink, hlink, Session.needEngine]
    rw [← hlink]

theorem Wired.engine?_refresh {s : Session} (h : s.Wired) :
    (s.refresh none).engine? = some ⟨.shared, s.engine.listeners⟩ := by
  have hengine : ∀ own, (s.needLink.needSettingsUnless own).engine? =
      some ⟨.shared, s.engine.listeners⟩ := by
    intro own
    rw [← h.engine?_needLink, needSettingsUnless]
    split <;> rfl
  simp only [Session.refresh, setEngineResolver, Session.engine, hengine, Option.getD_some]

/-- Starting up makes a session ready. -/
theorem Current.ready_startUp {s : Session} (h : s.Current) : s.startUp.1.Ready := by
  have hwired : (s.needEngine.needScanner.addListener .dropScans).Wired :=
    (h.alike s.alike_beforeStartUp).toWired
  have hengine? : s.startUp.1.engine? = some ⟨.shared, s.engine.listeners ++ [.dropScans]⟩ :=
    hwired.engine?_refresh
  have hengine : s.startUp.1.engine = ⟨.shared, s.engine.listeners ++ [.dropScans]⟩ := by
    rw [Session.engine, hengine?, Option.getD_some]
  have hscanner? : s.startUp.1.scanner? = some s.scanner := (frame_refresh _ none).scanner?
  have hcurrent := h.startUp
  refine ⟨⟨hcurrent.toWired, ?_, ?_, ?_, ?_, ?_⟩, hcurrent.upToDate⟩
  · rcases hcurrent.engine with hunset | ⟨-, hsome⟩
    · rw [hengine] at hunset
      cases hunset
    · obtain ⟨r, hr⟩ := Option.isSome_iff_exists.mp hsome
      exact (hcurrent.resolver r hr).2
  · rw [hengine, hengine?]
  · rw [hengine]
  · rw [hengine]
    exact List.mem_append_right _ (List.mem_singleton_self _)
  · rw [Session.scanner, hscanner?, Option.getD_some]

/-! ## Changing options -/

/-- A call of listeners calls each of them once, in order, and drops the scans if one of them does. -/
theorem callAll_eq (listeners : List Listener) (s : Session) :
    listeners.foldl call s =
      { s with
        calls := s.calls ++ listeners
        scanner? := if .dropScans ∈ listeners
          then s.scanner?.map fun scanner => { scanner with cache := .empty } else s.scanner? } := by
  induction listeners generalizing s with
  | nil => simp
  | cons l rest ih =>
    rw [List.foldl_cons, ih]
    cases l with
    | notify => simp [call]
    | dropOldScans => simp [call]
    | dropScans => cases hscanner : s.scanner? <;> simp [call, clearScans, hscanner]

/-- The session with the architecture resolved and every listener called once. -/
def renewed (s : Session) : Session :=
  { s with
    resolver? := some ⟨none, Architecture.resolve s.host s.settings⟩
    calls := s.calls ++ s.engine.listeners
    scanner? := some { s.scanner with cache := .empty } }

theorem Assembled.renewed {s : Session} (h : s.Assembled) : s.renewed.Ready where
  resolver := by
    rintro r ⟨⟩
    exact ⟨rfl, h.settings⟩
  engine := .inr ⟨h.link, rfl⟩
  scannerOwn := h.scannerOwn
  scannerQueries := h.scannerQueries
  upToDate := by
    rintro r ⟨⟩
    rfl
  settings := h.settings
  engine? := h.engine?
  link := h.link
  listening := h.listening
  scanner? := rfl

/-- Announced keys that show in the answers renew an assembled session. It has to be up to date
already if the architecture depends on none of them. -/
theorem Assembled.announce {s : Session} (h : s.Assembled) {keys : List Settings.Key}
    (hquiet : (∀ k ∈ keys, k ∉ Settings.Key.architectural) → s.Current)
    (hshows : ∃ k ∈ keys, k ∈ Settings.Key.architectural ∨ k ∈ Settings.Key.presentational) :
    s.announce keys = s.renewed := by
  have hresolved : (if keys.any Settings.Key.architectural.contains then s.refresh none else s) =
      { s with resolver? := some ⟨none, Architecture.resolve s.host s.settings⟩ } := by
    split
    · exact h.refresh
    · rename_i hany
      have hcurrent : s.Current := hquiet fun k hk hmem =>
        hany (List.any_eq_true.mpr ⟨k, hk, by simpa using hmem⟩)
      rw [← (Ready.mk h hcurrent.upToDate).resolver?]
  have hany : (keys.any Settings.Key.architectural.contains ||
      keys.any Settings.Key.presentational.contains) = true := by
    simpa [List.any_eq_true, ← exists_or, ← and_or_left] using hshows
  have hlistening : .dropScans ∈ s.engine.listeners := h.listening
  simp only [Session.announce, h.needEngine, hresolved, hany, if_true]
  rw [callAll_eq]
  show ({ s with
    resolver? := _
    calls := _
    scanner? := if .dropScans ∈ s.engine.listeners then s.scanner?.map _ else _ } : Session) = _
  rw [if_pos hlistening, h.scanner?]
  rfl

/-- A change of options that is not refused leaves a ready session as it is if all values are the same,
and else renews it under the new settings. -/
theorem Ready.configure_eq {s : Session} (h : s.Ready) {o : Options}
    (hmode : ∀ text ∈ o.mode, (Mode.read? text).isSome) :
    ∃ keys, (∀ k, k ∈ keys ↔ s.settings.differ (o.onto s.settings) k = true) ∧
      s.configure o =
        (if keys = [] then s else renewed { s with settings? := some (o.onto s.settings) },
          .ok (Settings.keyNames keys,
            ⟨(o.onto s.settings).mode, Architecture.resolve s.host (o.onto s.settings),
              s.host.machine⟩)) := by
  obtain ⟨keys, hupdate⟩ := Options.update_changes_ok hmode s.settings
  have hkeys := Settings.mem_update_iff o.nodup_changes hupdate
  have hsame : keys = [] → s.settings = o.onto s.settings := by
    rintro rfl
    apply Settings.eq_of_differ
    intro k
    rw [← Bool.not_eq_true, ← hkeys]
    exact List.not_mem_nil
  have hassembled := h.toAssembled.withSettings (o.onto s.settings)
  have hannounced : announce { s with settings? := some (o.onto s.settings) } keys =
      if keys = [] then s else renewed { s with settings? := some (o.onto s.settings) } := by
    split
    · rename_i hnil
      rw [← hsame hnil, ← h.settings, hnil]
      exact h.needEngine
    · rename_i hne
      obtain ⟨k, hk⟩ := List.exists_mem_of_ne_nil keys hne
      refine hassembled.announce ?_ ⟨k, hk, Options.shows_of_differ ((hkeys k).mp hk)⟩
      intro hquiet
      have hcurrent : (s.change o.changes).1.Current :=
        h.toCurrent.change (by rw [hupdate]) hquiet
      rwa [change_eq_ok hupdate] at hcurrent
  refine ⟨keys, hkeys, ?_⟩
  simp only [configure, change_eq_ok hupdate, hannounced]
  split
  · rename_i hnil
    rw [h.describeArchitecture_eq, ← hsame hnil]
  · rw [hassembled.renewed.describeArchitecture_eq]
    rfl

/-- Options that are in force already change nothing. -/
theorem Ready.configure_in_force {s : Session} (h : s.Ready) {o : Options}
    (hmode : ∀ text ∈ o.mode, (Mode.read? text).isSome) (hforce : o.onto s.settings = s.settings) :
    s.configure o =
      (s, .ok ([], ⟨s.settings.mode, Architecture.resolve s.host s.settings, s.host.machine⟩)) := by
  obtain ⟨keys, hkeys, heq⟩ := h.configure_eq hmode
  obtain rfl : keys = [] := by
    rw [List.eq_nil_iff_forall_not_mem]
    intro k
    rw [hkeys, hforce, Settings.differ_self]
    exact Bool.false_ne_true
  rw [heq, hforce, if_pos rfl, Settings.keyNames_eq_nil_iff.mpr rfl]

/-- A change of options that is refused leaves a ready session as it is. -/
theorem Ready.configure_refused {s : Session} (h : s.Ready) {o : Options} {text : Text}
    (hmode : o.mode = some text) (hnone : Mode.read? text = none) :
    s.configure o = (s, .error (.refused (.invalidMode (lower (trim text))))) := by
  simp only [configure, change_eq_refused (Options.update_changes_refused hmode hnone _)]
  rw [← h.settings]

theorem Options.readable_or_refused (o : Options) :
    (∀ text ∈ o.mode, (Mode.read? text).isSome) ∨
      ∃ text, o.mode = some text ∧ Mode.read? text = none := by
  cases hmode : o.mode with
  | none => exact .inl (by simp)
  | some text =>
    cases hread : Mode.read? text with
    | none => exact .inr ⟨text, rfl, hread⟩
    | some m => exact .inl (by simp [hread])

theorem Ready.configure {s : Session} (h : s.Ready) (o : Options) : (s.configure o).1.Ready := by
  rcases o.readable_or_refused with hmode | ⟨text, hmode, hnone⟩
  · obtain ⟨keys, -, heq⟩ := h.configure_eq hmode
    rw [heq]
    dsimp only
    split
    · exact h
    · exact (h.toAssembled.withSettings _).renewed
  · rw [h.configure_refused hmode hnone]
    exact h

/-! ## Servers -/

/-- Whether a request is one that a server gets, or that happens to it. -/
def Request.serves : Request → Bool
  | .startUp | .configure _ | .addListener | .clearScans | .write .. | .remove _ => true
  | request => request.asksOnly

/-- A session that was started up and has got requests since. -/
inductive Serving : Session → Prop
  | startUp {s : Session} (h : s.Untouched) : Serving s.startUp.1
  | request {s : Session} {request : Request} (h : s.Serving) (hserves : request.serves = true) :
    Serving (s.handle request).1

theorem Ready.handle {s : Session} (h : s.Ready) {request : Request}
    (hserves : request.serves = true) : (s.handle request).1.Ready := by
  have hask : request.asksOnly = true → (s.handle request).1.Ready := by
    intro hask
    obtain ⟨cache, heq⟩ := h.ask hask
    rw [heq]
    exact h.withScans cache
  cases request with
  | startUp => exact h.toCurrent.ready_startUp
  | configure options => exact h.configure options
  | addListener =>
    have hready := h.addListener .notify
    rwa [← h.needEngine] at hready
  | clearScans =>
    have heq : (s.handle .clearScans).1 =
        { s with scanner? := some { s.scanner with cache := .empty } } := by
      simp only [Session.handle, h.needScanner, clearScans, h.scanner?, Option.map_some]
    rw [heq]
    exact h.withScans .empty
  | write path file => exact h.withFiles _
  | remove path => exact h.withFiles _
  | _ => exact hask hserves

/-- All parts of a server exist and are in step. -/
theorem Serving.ready {s : Session} (h : s.Serving) : s.Ready := by
  induction h with
  | startUp h => exact h.current.ready_startUp
  | request _ hserves ih => exact ih.handle hserves

/-- The report on the architecture under given settings. -/
def reportUnder (s : Session) (settings : Settings) : ArchitectureReport :=
  ⟨settings.mode, Architecture.resolve s.host settings, s.host.machine⟩

/-- What comes of a change of options that is made: the next session and the names that are reported. -/
structure Configured (s : Session) (options : Options) (next : Session) (changed : List Text) :
    Prop where
  /-- The names are in order, each one once. -/
  ordered : changed.Pairwise TextLT
  /-- They are those of the keys for which the settings before and behind differ. -/
  names : ∀ name, name ∈ changed ↔
    ∃ key, s.settings.differ (options.onto s.settings) key = true ∧ key.name = name
  /-- The settings are those from before with the options laid over them. -/
  settings : next.settings? = some (options.onto s.settings)
  /-- The architecture is that of the new settings. -/
  architecture :
    next.engineArchitecture? = some (Architecture.resolve s.host (options.onto s.settings))
  /-- Without names, nothing is another one. -/
  kept : changed = [] → next = s
  /-- With names, each listener has been called once, in order, no scan is remembered, and beyond that
  only settings and resolver are other ones. -/
  renewed : changed ≠ [] → next = { s with
    settings? := some (options.onto s.settings)
    resolver? := some ⟨none, Architecture.resolve s.host (options.onto s.settings)⟩
    calls := s.calls ++ s.engine.listeners
    scanner? := some { s.scanner with cache := .empty } }
  /-- The same change made again reports no names and changes nothing. -/
  again : next.handle (.configure options) =
    (next, .ok (.configured [] (s.reportUnder (options.onto s.settings))))

theorem handle_configure_eq (s : Session) (options : Options) :
    s.handle (.configure options) =
      ((s.configure options).1, (s.configure options).2.map fun r => .configured r.1 r.2) := rfl

theorem Ready.configured {s : Session} (h : s.Ready) {options : Options}
    (hmode : ∀ text ∈ options.mode, (Mode.read? text).isSome) :
    ∃ changed, (s.handle (.configure options)).2 =
        .ok (.configured changed (s.reportUnder (options.onto s.settings))) ∧
      Configured s options (s.handle (.configure options)).1 changed := by
  obtain ⟨keys, hkeys, heq⟩ := h.configure_eq hmode
  have hready := h.configure options
  -- whether or not a value is another one, the next session is ready under the new settings
  have hunder : (s.configure options).1.settings = options.onto s.settings ∧
      (s.configure options).1.host = s.host := by
    rw [heq]
    dsimp only
    split
    · rename_i hnil
      refine ⟨Settings.eq_of_differ fun k => ?_, rfl⟩
      rw [← Bool.not_eq_true, ← hkeys, hnil]
      exact List.not_mem_nil
    · exact ⟨rfl, rfl⟩
  have hagain := hready.configure_in_force hmode (by rw [hunder.1, options.onto_onto])
  refine ⟨Settings.keyNames keys, by rw [handle_configure_eq, heq]; rfl, ?_⟩
  refine ⟨pairwise_sortedUnique _, ?_, ?_, ?_, ?_, ?_, ?_⟩
  · intro name
    simp only [Settings.mem_keyNames, hkeys]
  · rw [handle_configure_eq, hready.settings, hunder.1]
  · rw [handle_configure_eq, hready.engineArchitecture?_eq, hunder.1, hunder.2]
  · intro hnil
    rw [handle_configure_eq, heq, if_pos (Settings.keyNames_eq_nil_iff.mp hnil)]
  · intro hne
    rw [handle_configure_eq, heq, if_neg fun hnil => hne (Settings.keyNames_eq_nil_iff.mpr hnil)]
    rfl
  · rw [hunder.1, hunder.2] at hagain
    rw [handle_configure_eq s, handle_configure_eq, hagain]
    rfl

/-- **Options are changed together or not at all.** A server refuses a change of options exactly if a
mode is given that does not exist, and is the session from before then. Every other change is made and
answered with the names of the keys whose values are other ones now. -/
theorem configure_all_or_nothing (s : Session) (hs : s.Serving) (options : Options) :
    let next := s.handle (.configure options)
    (∀ fault, next.2 = .error fault ↔ ∃ text, options.mode = some text ∧
      lower (trim text) ∉ Mode.all.map Mode.name ∧
      fault = .refused (.invalidMode (lower (trim text)))) ∧
    (∀ fault, next.2 = .error fault → next.1 = s) ∧
    ((∀ fault, next.2 ≠ .error fault) → ∃ changed,
      next.2 = .ok (.configured changed (s.reportUnder (options.onto s.settings))) ∧
      Configured s options next.1 changed) := by
  intro next
  have hready := hs.ready
  rcases options.readable_or_refused with hmode | ⟨text, hmode, hnone⟩
  · obtain ⟨changed, hanswer, hconfigured⟩ := hready.configured hmode
    have hmade : ∀ fault, next.2 ≠ .error fault := by
      intro fault hfault
      cases hanswer.symm.trans hfault
    refine ⟨fun fault => iff_of_false (hmade fault) ?_, fun fault h => absurd h (hmade fault),
      fun _ => ⟨changed, hanswer, hconfigured⟩⟩
    rintro ⟨text, htext, hnone, -⟩
    rw [← Mode.read?_eq_none_iff] at hnone
    simpa [hnone] using hmode text htext
  · have hrefused : next = (s, .error (.refused (.invalidMode (lower (trim text))))) := by
      show s.handle _ = _
      rw [handle_configure_eq, hready.configure_refused hmode hnone]
      rfl
    rw [hrefused]
    refine ⟨fun fault => ?_, fun _ _ => rfl, fun h => absurd rfl (h _)⟩
    rw [Except.error.injEq]
    constructor
    · rintro rfl
      exact ⟨text, hmode, Mode.read?_eq_none_iff.mp hnone, rfl⟩
    · rintro ⟨text', hmode', -, rfl⟩
      rw [Option.some.inj (hmode.symm.trans hmode')]

/-- A started server that has scanned a header, with one more listener. -/
def scannedServer : Session :=
  plainStart.startUp.1.after [
    .request (.write "a.h".toList (asciiFile "struct A{};" 1)),
    .request .addListener,
    .request (.scanFile "a.h".toList)]

theorem scannedServer_serving : scannedServer.Serving :=
  .request (.request (.request (.startUp ⟨rfl, rfl, rfl, rfl⟩) rfl) rfl) rfl

/-- A mode that does not exist is refused together with the descriptor beside it. A mode that exists
is reported without the option beside it that is in force already; both listeners are called and the
header is forgotten. -/
theorem configure_scannedServer :
    let refused := scannedServer.handle (.configure ⟨some "x128".toList, some "gcc".toList, none⟩)
    let made := scannedServer.handle (.configure ⟨some " X32 ".toList, none, some true⟩)
    scannedServer.Serving ∧ scannedServer.scanner.cache.keys = [["a.h".toList]] ∧
      refused.2 = .error (.refused (.invalidMode "x128".toList)) ∧ refused.1 = scannedServer ∧
      made.2 = .ok (.configured ["architecture".toList]
        ⟨.x32, ⟨.bits32, "x32 (manual)".toList⟩, "x86_64".toList⟩) ∧
      made.1.calls = [.dropScans, .notify] ∧ made.1.scanner.cache.keys = [] := by
  intro refused made
  have hs := scannedServer_serving
  obtain ⟨hrefused, hkept, -⟩ :=
    configure_all_or_nothing scannedServer hs ⟨some "x128".toList, some "gcc".toList, none⟩
  have hfault := (hrefused (.refused (.invalidMode "x128".toList))).mpr
    ⟨_, rfl, by decide +kernel, rfl⟩
  obtain ⟨hrefusedX32, -, hmade⟩ :=
    configure_all_or_nothing scannedServer hs ⟨some " X32 ".toList, none, some true⟩
  obtain ⟨changed, hanswer, hconfigured⟩ := hmade fun fault hfault => by
    obtain ⟨text, ⟨⟩, hnone, -⟩ := (hrefusedX32 fault).mp hfault
    revert hnone
    decide +kernel
  have hanswer' : made.2 = .ok (.configured ["architecture".toList]
      ⟨.x32, ⟨.bits32, "x32 (manual)".toList⟩, "x86_64".toList⟩) := by decide +kernel
  obtain ⟨rfl, -⟩ := Reply.configured.inj (Except.ok.inj (hanswer.symm.trans hanswer'))
  have hrenewed : made.1 = _ := hconfigured.renewed (List.cons_ne_nil _ _)
  refine ⟨hs, by decide +kernel, hfault, hkept _ hfault, hanswer', ?_, ?_⟩
  · rw [hrenewed]
    rfl
  · rw [hrenewed]
    rfl

end Session

end TypeLens
