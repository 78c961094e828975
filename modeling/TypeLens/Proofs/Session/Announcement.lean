/-
# TypeLens.Proofs.Session.Announcement -- whether the engine learns of changed settings

Settings are changed in two moves: an update changes them, and the keys that it reports are announced
to the engine. An update that is refused reports nothing, although the changes before the refused one
stay. So a change can get lost: the engine goes on with the architecture of the settings before, and
the same change made again reports nothing either, because the setting has the value already.

This is the only way. A run of updates and questions is in step throughout exactly if no refused
update, at a time when there is a resolver, changes what the settings resolve to, and an announced
architectural key brings any session back in step.

The invariant along every run is that the session is wired. Questions are treated together: they do
nothing but bring parts into being, so what survives that survives every question (`keeps_ask`).
-/
import Mathlib.Tactic.ByContra
import TypeLens.Proofs.Session.Coherence

namespace TypeLens

namespace Session

/-! ## Runs of updates and questions -/

/-- Whether a request only asks. It may bring parts of a session into being. -/
def Request.asksOnly : Request → Bool
  | .readSettings | .extentOf _ | .scanFile _ | .layoutInLine .. | .layoutInFile .. | .lookUp ..
  | .describeArchitecture => true
  | _ => false

/-- What is done in a run: an update whose changed keys are announced unless it is refused, or a
question. -/
inductive Action where
  | update (changes : List Settings.Change)
  | ask (question : Request) (h : question.asksOnly = true)

/-- Updates the settings and announces the keys that changed; a refused update announces nothing. -/
def updateAndAnnounce (s : Session) (changes : List Settings.Change) : Session :=
  match s.change changes with
  | (s, .ok keys) => s.announce keys
  | (s, .error _) => s

/-- The session after an action. -/
def act (s : Session) : Action → Session
  | .update changes => s.updateAndAnnounce changes
  | .ask question _ => (s.handle question).1

/-- The session after a list of actions. -/
def afterActions (s : Session) (actions : List Action) : Session := actions.foldl act s

theorem afterActions_concat (s : Session) (actions : List Action) (action : Action) :
    s.afterActions (actions ++ [action]) = (s.afterActions actions).act action := by
  rw [afterActions, List.foldl_append]
  rfl

/-- The engine answers for the architecture that the settings in force resolve to. -/
def InStep (s : Session) : Prop := s.architecture = Architecture.resolve s.host s.settings

/-- The update is refused, but only behind changes that give the settings another architecture than
the one that is resolved already. -/
structure Loses (s : Session) (changes : List Settings.Change) : Prop where
  resolved : s.resolver?.isSome
  refused : ∃ refusal, (s.settings.update changes).2 = .error refusal
  changed : Architecture.resolve s.host (s.settings.update changes).1 ≠
    Architecture.resolve s.host s.settings

/-! ## Questions -/

section Questions

variable {P : Session → Prop} (halike : ∀ {s t}, P s → Alike s t → P t)
  (hresolver : ∀ {s}, P s → P s.needResolver) (hlink : ∀ {s}, P s → P s.needLink)

theorem alike_needSettingsUnless (s : Session) (own : Option Settings) :
    Alike s (s.needSettingsUnless own) := by
  unfold needSettingsUnless
  split
  · exact ⟨rfl, rfl, rfl, id, rfl, rfl, rfl, rfl⟩
  · exact s.alike_needSettings

include halike

theorem keeps_scanFile {s : Session} (h : P s) (path : Text) : P (s.scanFile path).1 := by
  have hscanner := halike h s.alike_needScanner
  unfold scanFile
  dsimp only
  split
  · exact hscanner
  · exact halike hscanner (alike_needSettingsUnless _ _)
  · split
    · exact halike hscanner (alike_scanFound _ _ _)
    · exact halike hscanner (alike_needSettingsUnless _ _)

include hlink

theorem keeps_report {s : Session} (h : P s) (layout : Option Layout) :
    P (s.report layout).1 := by
  cases layout with
  | none => exact hlink h
  | some l => exact halike (hlink h) (alike_needSettings _)

theorem keeps_layoutInFile {s : Session} (h : P s) (sizes : SizeMap) (path : Text)
    (line column : Int) : P (s.layoutInFile sizes path line column).1 := by
  unfold layoutInFile
  split
  · exact h
  · dsimp only
    split
    · exact h
    · exact keeps_report halike hlink (hlink (halike h (alike_scanFound _ _ _))) _

include hresolver

/-- What survives that parts come into being survives every question. -/
theorem keeps_ask {s : Session} (h : P s) {question : Request} (hask : question.asksOnly = true) :
    P (s.handle question).1 := by
  cases question with
  | readSettings => exact halike h s.alike_needSettings
  | extentOf name => exact hresolver h
  | scanFile path => exact keeps_scanFile halike h path
  | layoutInLine known sizes line cursor => exact keeps_report halike hlink (hlink h) _
  | layoutInFile sizes path line column => exact keeps_layoutInFile halike hlink h _ _ _ _
  | lookUp sizes text => exact keeps_report halike hlink (hlink h) _
  | describeArchitecture => exact halike (hlink h) (alike_needSettings _)
  | _ => exact absurd hask Bool.false_ne_true

end Questions

theorem Wired.ask {s : Session} (h : s.Wired) {question : Request}
    (hask : question.asksOnly = true) : (s.handle question).1.Wired :=
  keeps_ask (fun h halike => h.alike halike) (fun h => h.needResolver.1)
    (fun h => h.needLink.1) h hask

theorem Current.ask {s : Session} (h : s.Current) {question : Request}
    (hask : question.asksOnly = true) : (s.handle question).1.Current :=
  keeps_ask (fun h halike => h.alike halike) (fun h => h.needResolver) (fun h => h.needLink) h hask

/-! ## Updates -/

theorem updateAndAnnounce_of_ok {s : Session} {changes : List Settings.Change}
    {keys : List Settings.Key} (h : (s.settings.update changes).2 = .ok keys) :
    s.updateAndAnnounce changes = (s.change changes).1.announce keys := by
  simp only [updateAndAnnounce, change, h]

theorem updateAndAnnounce_of_refused {s : Session} {changes : List Settings.Change}
    {refusal : Settings.Refusal} (h : (s.settings.update changes).2 = .error refusal) :
    s.updateAndAnnounce changes = (s.change changes).1 := by
  simp only [updateAndAnnounce, change, h]

/-- Keys on which the architecture does not depend leave the resolver alone. -/
theorem alike_announce (s : Session) {keys : List Settings.Key}
    (hkeys : ∀ k ∈ keys, k ∉ Settings.Key.architectural) : Alike s (s.announce keys) := by
  have hany : keys.any Settings.Key.architectural.contains = false := by
    rw [List.any_eq_false]
    intro k hk hmem
    exact hkeys k hk (by simpa using hmem)
  unfold announce
  simp only [hany, Bool.false_eq_true, if_false]
  split
  · exact s.alike_needEngine.trans (alike_callAll _ _)
  · exact s.alike_needEngine

/-- An announced key on which the architecture depends makes any wired session current. -/
theorem Wired.current_announce {s : Session} (h : s.Wired) {keys : List Settings.Key}
    (hkeys : ∃ k ∈ keys, k ∈ Settings.Key.architectural) : (s.announce keys).Current := by
  obtain ⟨k, hk, hmem⟩ := hkeys
  exact Session.current_announce h fun hquiet => absurd hmem (hquiet k hk)

theorem Wired.updateAndAnnounce {s : Session} (h : s.Wired) (changes : List Settings.Change) :
    (s.updateAndAnnounce changes).Wired := by
  have hchange := h.change changes
  cases houtcome : (s.settings.update changes).2 with
  | error refusal => rwa [updateAndAnnounce_of_refused houtcome]
  | ok keys =>
    rw [updateAndAnnounce_of_ok houtcome]
    by_cases hkeys : ∃ k ∈ keys, k ∈ Settings.Key.architectural
    · exact (hchange.current_announce hkeys).toWired
    · exact hchange.alike (alike_announce _ fun k hk hmem => hkeys ⟨k, hk, hmem⟩)

/-- A current session stays current unless the update loses something. -/
theorem Current.updateAndAnnounce {s : Session} (h : s.Current) {changes : List Settings.Change}
    (hkept : ¬ s.Loses changes) : (s.updateAndAnnounce changes).Current := by
  have hchange := h.toWired.change changes
  cases houtcome : (s.settings.update changes).2 with
  | ok keys =>
    rw [updateAndAnnounce_of_ok houtcome]
    exact current_announce hchange fun hkeys => h.change houtcome hkeys
  | error refusal =>
    rw [updateAndAnnounce_of_refused houtcome]
    refine ⟨hchange, ?_⟩
    intro r hr
    -- there is a resolver, so what the settings resolve to has not changed
    have hr' : s.resolver? = some r := hr
    rw [h.upToDate r hr']
    by_contra hne
    exact hkept ⟨by rw [hr', Option.isSome_some], ⟨refusal, houtcome⟩, fun heq => hne heq.symm⟩

/-! ## Runs -/

theorem Wired.act {s : Session} (h : s.Wired) (action : Action) : (s.act action).Wired := by
  cases action with
  | update changes => exact h.updateAndAnnounce changes
  | ask question hask => exact h.ask hask

theorem Wired.afterActions {s : Session} (h : s.Wired) (actions : List Action) :
    (s.afterActions actions).Wired := by
  induction actions generalizing s with
  | nil => exact h
  | cons action rest ih => exact ih (h.act action)

/-- A run that loses nothing leaves a current session current. -/
theorem Current.afterActions {s : Session} (h : s.Current) {actions : List Action}
    (hkept : ∀ earlier changes, earlier ++ [.update changes] <+: actions →
      ¬ (s.afterActions earlier).Loses changes) : (s.afterActions actions).Current := by
  induction actions generalizing s with
  | nil => exact h
  | cons action rest ih =>
    have hact : (s.act action).Current := by
      cases action with
      | update changes =>
        exact h.updateAndAnnounce (hkept [] changes (by simp))
      | ask question hask => exact h.ask hask
    apply ih hact
    intro earlier changes hprefix
    exact hkept (action :: earlier) changes (List.cons_prefix_cons.mpr ⟨rfl, hprefix⟩)

/-- A wired session is current exactly if its engine is in step: before there is a resolver, both
hold. -/
theorem Wired.inStep_iff {s : Session} (h : s.Wired) : s.InStep ↔ s.Current := by
  refine ⟨fun hstep => ⟨h, ?_⟩, fun hcurrent => hcurrent.architecture_eq⟩
  intro r hr
  rw [InStep, architecture, h.engineResolver_eq, Session.resolver, hr] at hstep
  exact hstep

/-- An update that loses something cannot be in step before it and behind it. -/
theorem Loses.not_inStep {s : Session} (hs : s.Wired) {changes : List Settings.Change}
    (h : s.Loses changes) (hbefore : s.InStep) : ¬ (s.act (.update changes)).InStep := by
  obtain ⟨r, hr⟩ := Option.isSome_iff_exists.mp h.resolved
  obtain ⟨refusal, hrefused⟩ := h.refused
  have hwired := hs.change changes
  have hr' : (s.change changes).1.resolver? = some r := hr
  intro hbehind
  rw [act, updateAndAnnounce_of_refused hrefused, hwired.inStep_iff] at hbehind
  rw [hs.inStep_iff] at hbefore
  -- the resolver stays as it was, and both settings would have to resolve to its architecture
  exact h.changed ((hbehind.upToDate r hr').symm.trans (hbefore.upToDate r hr))

/-- **When the engine is in step with the settings.** From a session none of whose parts exists, a
run of updates and questions is in step throughout exactly if no update in it loses something. For a
session on the way in which the engine holds a resolver, to be in step says that the resolver's
architecture is the one of the settings. Whatever was lost before, an update that succeeds and
reports an architectural key leads back in step. -/
theorem inStep_throughout_iff (s : Session) (actions : List Action) (hs : s.Untouched) :
    ((∀ earlier, earlier <+: actions → (s.afterActions earlier).InStep) ↔
      ∀ earlier changes, earlier ++ [.update changes] <+: actions →
        ¬ (s.afterActions earlier).Loses changes) ∧
    (∀ a, (s.afterActions actions).engineArchitecture? = some a →
      ∃ settings, (s.afterActions actions).settings? = some settings ∧
        ((s.afterActions actions).InStep ↔
          a = Architecture.resolve (s.afterActions actions).host settings)) ∧
    ∀ changes keys, ((s.afterActions actions).settings.update changes).2 = .ok keys →
      (∃ k ∈ keys, k ∈ Settings.Key.architectural) →
        ((s.afterActions actions).act (.update changes)).InStep := by
  have hwired := hs.current.toWired.afterActions
  refine ⟨⟨?_, ?_⟩, ?_, ?_⟩
  · intro hstep earlier changes hprefix hloses
    have hbefore := hstep earlier ((List.prefix_append _ _).trans hprefix)
    have hbehind := hstep _ hprefix
    rw [afterActions_concat] at hbehind
    exact hloses.not_inStep (hwired earlier) hbefore hbehind
  · intro hkept earlier hprefix
    rw [(hwired earlier).inStep_iff]
    apply hs.current.afterActions
    intro first changes hfirst
    exact hkept first changes (hfirst.trans hprefix)
  · intro a ha
    obtain ⟨hsettings, harch⟩ := (hwired actions).engineArchitecture?_eq ha
    exact ⟨_, hsettings, by rw [InStep, harch]⟩
  · intro changes keys hok hkeys
    rw [act, updateAndAnnounce_of_ok hok]
    have hcurrent := ((hwired actions).change changes).current_announce hkeys
    exact hcurrent.toWired.inStep_iff.mpr hcurrent

/-- A session on a 64-bit host whose toolchain descriptor names a 32-bit target. -/
def armTarget : Session :=
  start ⟨"x86_64".toList, .bits64⟩
    { architecture := some "target".toList, intellisenseMode := some "linux-gcc-arm".toList } []

/-- A type is looked up; a descriptor is given behind an unknown mode, and then by itself. -/
def refusedAtOnce : List Action := [
  .ask (.lookUp [] "long".toList) rfl,
  .update [.mode "x128".toList, .descriptor (some "windows-msvc-x64".toList)],
  .update [.descriptor (some "windows-msvc-x64".toList)]]

/-- Nothing is lost when the first change is the refused one. -/
theorem inStep_refusedAtOnce :
    armTarget.Untouched ∧
      (∀ earlier, earlier <+: refusedAtOnce → (armTarget.afterActions earlier).InStep) ∧
      (armTarget.afterActions refusedAtOnce).engineArchitecture? =
        some ⟨.bits64, "x64 (target: windows-msvc-x64)".toList⟩ := by
  have hs : armTarget.Untouched := ⟨rfl, rfl, rfl, rfl⟩
  refine ⟨hs, (inStep_throughout_iff armTarget refusedAtOnce hs).1.mpr ?_, by decide +kernel⟩
  rintro earlier changes ⟨later, hsplit⟩ hloses
  match earlier with
  | [] => simp [refusedAtOnce] at hsplit
  | [_] =>
    -- refused before anything has changed
    obtain ⟨rfl, rfl, -⟩ := by simpa [refusedAtOnce] using hsplit
    exact hloses.changed rfl
  | [_, _] =>
    -- not refused
    obtain ⟨-, -, rfl, -⟩ := by simpa [refusedAtOnce] using hsplit
    obtain ⟨refusal, hrefused⟩ := hloses.refused
    simp [Settings.update, Settings.apply, Except.map] at hrefused
  | _ :: _ :: _ :: rest => simp [refusedAtOnce] at hsplit

/-- A type is looked up; a descriptor is given in front of an unknown mode. -/
def refusedTooLate : List Action := [
  .ask (.lookUp [] "long".toList) rfl,
  .update [.descriptor (some "windows-msvc-x64".toList), .mode "x128".toList]]

/-- **A change can be lost.** The descriptor in front of the refused mode is in force, but the engine
answers for the one before, and goes on to do so when the descriptor is given again. -/
theorem refused_update_loses_change :
    armTarget.Untouched ∧
      ∀ again ∈ [[], [.update [.descriptor (some "windows-msvc-x64".toList)]]], ∃ settings,
        (armTarget.afterActions (refusedTooLate ++ again)).settings? = some settings ∧
        Architecture.resolve armTarget.host settings =
          ⟨.bits64, "x64 (target: windows-msvc-x64)".toList⟩ ∧
        (armTarget.afterActions (refusedTooLate ++ again)).engineArchitecture? =
          some ⟨.bits32, "x32 (target: linux-gcc-arm)".toList⟩ := by
  refine ⟨⟨rfl, rfl, rfl, rfl⟩, ?_⟩
  intro again hagain
  simp only [List.mem_cons, List.not_mem_nil, or_false] at hagain
  rcases hagain with rfl | rfl
  · exact ⟨_, rfl, by decide +kernel, by decide +kernel⟩
  · exact ⟨_, rfl, by decide +kernel, by decide +kernel⟩

end Session

end TypeLens
