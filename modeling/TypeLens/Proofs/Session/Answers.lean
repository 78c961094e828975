/-
# TypeLens.Proofs.Session.Answers -- what answers about types depend on

Answering a question about a type may bring parts of a session into being: the link of the engine to
its resolver, the resolver, the settings. None of this shows. The answer is read off two things, the
architecture that the engine answers for and the settings in force (`Session.reportOn`), and neither
is changed by answering, so that asking twice or in another order makes no difference
(`Session.lookUp_after_layoutInLine`).

No session is left out here. In particular the architecture need not be the one that the settings
resolve to; sessions in which it is are the matter of `TypeLens.Proofs.Session.Stateless`.
-/
import TypeLens.Proofs.Session.Coherence

namespace TypeLens

namespace Session

/-! ## The architecture that is answered for -/

theorem resolver_needResolver (s : Session) : s.needResolver.resolver = s.resolver := by
  unfold needResolver
  split
  · rfl
  · rename_i hnone
    have hresolver : s.resolver? = none := by simpa using hnone
    simp only [resolver, hresolver, Option.getD_some, Option.getD_none]
    rfl

/-- Looking up the resolver does not change the architecture that the engine answers for. -/
@[simp] theorem architecture_needLink (s : Session) :
    s.needLink.architecture = s.architecture := by
  have hresolver := s.resolver_needResolver
  unfold needLink
  split
  · rename_i hlink
    simp only [architecture, engineResolver, hlink]
    exact congrArg Resolver.architecture hresolver
  · rfl

/-! ## Reports -/

/-- What a session reports, read off its architecture and its settings. -/
def reportOn (s : Session) (layout : Option Layout) : Except Fault Report :=
  Report.on s.architecture.label s.settings.showArchitecture layout

theorem reportOn_congr {s t : Session} (harch : t.architecture = s.architecture)
    (hsettings : t.settings = s.settings) (layout : Option Layout) :
    t.reportOn layout = s.reportOn layout := by
  rw [reportOn, harch, hsettings, reportOn]

theorem report_eq_reportOn (s : Session) (layout : Option Layout) :
    (s.report layout).2 = s.reportOn layout := by
  rw [reportOn, ← architecture_needLink, ← settings_needLink]
  cases layout with
  | none => rfl
  | some l => rfl

/-- A layout is reported with its hover, where that can be printed. -/
theorem reportOn_some {s : Session} {layout : Layout} {hover : Text}
    (h : Hover.render? (.ofShape layout.shape) s.architecture.label s.settings.showArchitecture =
      some hover) :
    s.reportOn (some layout) = .ok ⟨s.architecture.label, some (layout, hover)⟩ := by
  simp only [reportOn, Report.on, h]

/-- Only a layout is reported, and only with its hover. -/
theorem eq_some_of_reportOn {s : Session} {layout? : Option Layout} {answer : Report}
    {layout : Layout} {hover : Text} (h : s.reportOn layout? = .ok answer)
    (hfound : answer.found = some (layout, hover)) :
    layout? = some layout ∧ answer.architecture = s.architecture.label ∧
      Hover.render? (.ofShape layout.shape) s.architecture.label s.settings.showArchitecture =
        some hover := by
  unfold reportOn Report.on at h
  split at h
  · obtain rfl := Except.ok.inj h
    cases hfound
  · split at h
    · rename_i hrender
      obtain rfl := Except.ok.inj h
      obtain ⟨rfl, rfl⟩ := Prod.mk.inj (Option.some.inj hfound)
      exact ⟨rfl, rfl, hrender⟩
    · cases h

theorem layoutInLine_eq_reportOn (s : Session) (known : List Text) (sizes : SizeMap) (line : Text)
    (cursor : Int) :
    (s.layoutInLine known sizes line cursor).2 =
      s.reportOn (Layout.atCursor? s.architecture.width (known ++ sizes.names) sizes line
        cursor) := by
  rw [layoutInLine, report_eq_reportOn, architecture_needLink]
  exact reportOn_congr s.architecture_needLink s.settings_needLink _

theorem lookUp_eq_reportOn (s : Session) (sizes : SizeMap) (text : Text) :
    (s.lookUp sizes text).2 =
      s.reportOn (Layout.ofText? s.architecture.width sizes text) := by
  rw [lookUp, report_eq_reportOn, architecture_needLink]
  exact reportOn_congr s.architecture_needLink s.settings_needLink _

/-! ## Reporting leaves no trace -/

/-- Reporting may bring parts of a session into being, but none that answers would show. -/
theorem report_keeps (s : Session) (layout : Option Layout) :
    (s.report layout).1.architecture = s.architecture ∧
      (s.report layout).1.settings = s.settings := by
  cases layout with
  | none => exact ⟨s.architecture_needLink, s.settings_needLink⟩
  | some l => exact ⟨s.architecture_needLink, s.settings_needLink⟩

theorem layoutInLine_keeps (s : Session) (known : List Text) (sizes : SizeMap) (line : Text)
    (cursor : Int) :
    (s.layoutInLine known sizes line cursor).1.architecture = s.architecture ∧
      (s.layoutInLine known sizes line cursor).1.settings = s.settings := by
  obtain ⟨harch, hsettings⟩ := s.needLink.report_keeps
    (Layout.atCursor? s.needLink.architecture.width (known ++ sizes.names) sizes line cursor)
  exact ⟨harch.trans s.architecture_needLink, hsettings.trans s.settings_needLink⟩

/-- A question about a text is answered after a question about a line as it was before. -/
theorem lookUp_after_layoutInLine (s : Session) (known : List Text) (sizes : SizeMap)
    (line : Text) (cursor : Int) (text : Text) :
    ((s.layoutInLine known sizes line cursor).1.lookUp sizes text).2 =
      (s.lookUp sizes text).2 := by
  obtain ⟨harch, hsettings⟩ := s.layoutInLine_keeps known sizes line cursor
  rw [lookUp_eq_reportOn, lookUp_eq_reportOn, reportOn_congr harch hsettings, harch]

end Session

end TypeLens
