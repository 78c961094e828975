/-
# TypeLens.Proofs.Declaration.SharedSizes -- which names get which size

Sizes are given for some names and go from there to the other names of the declared types. A name
with a size of its own keeps it. Any other name gets the size of the first type that has the name and
a size to lend (`get?_spreadSizes`), where the size of a type is that of the first of its names that
has one; and no name gets a size in any other way (`spreadSizes_exact`).

Where types share a name, their order decides. Where none do, only one type can lend to a name, and
so neither the order of the types matters, nor which of its names a type is known under
(`NamesApart.lent_eq`).
-/
import Mathlib.Logic.Basic
import TypeLens.Declaration

namespace TypeLens

/-- A size at the end counts for a name that has none before. -/
theorem SizeMap.get?_concat (sizes : SizeMap) (name : Text) (size : Int) (asked : Text) :
    SizeMap.get? (sizes ++ [(name, size)]) asked =
      (sizes.get? asked).or (if asked = name then some size else none) := by
  rw [get?, List.find?_append, Option.map_or, ← get?]
  by_cases h : name = asked
  · simp [h]
  · simp [h, Ne.symm h]

namespace Declaration

/-! ## One type -/

/-- The size of a type is that of the first of its names that has one. -/
def Sized (sizes : SizeMap) (d : Declaration) (size : Int) : Prop :=
  ∃ before name behind, d.names = before ++ name :: behind ∧ sizes.get? name = some size ∧
    ∀ n ∈ before, n ∉ sizes.names

theorem size?_eq_some_iff {sizes : SizeMap} {d : Declaration} {size : Int} :
    d.size? sizes = some size ↔ d.Sized sizes size := by
  simp only [size?, List.findSome?_eq_some_iff, SizeMap.get?_eq_none_iff, Sized]

theorem size?_eq_none_iff {sizes : SizeMap} {d : Declaration} :
    d.size? sizes = none ↔ ∀ n ∈ d.names, n ∉ sizes.names := by
  simp only [size?, List.findSome?_eq_none_iff, SizeMap.get?_eq_none_iff]

/-- The size that a type lends to a name: its own one, if the name is one of its names. -/
def lent? (sizes : SizeMap) (name : Text) (d : Declaration) : Option Int :=
  if d.names.contains name then d.size? sizes else none

theorem lent?_of_mem (sizes : SizeMap) {name : Text} {d : Declaration} (h : name ∈ d.names) :
    lent? sizes name d = d.size? sizes :=
  if_pos (List.contains_iff_mem.mpr h)

theorem lent?_of_not_mem (sizes : SizeMap) {name : Text} {d : Declaration} (h : name ∉ d.names) :
    lent? sizes name d = none :=
  if_neg fun hmem => h (List.contains_iff_mem.mp hmem)

theorem lent?_eq_some_iff {sizes : SizeMap} {name : Text} {d : Declaration} {size : Int} :
    lent? sizes name d = some size ↔ name ∈ d.names ∧ d.Sized sizes size := by
  rw [lent?, Option.ite_none_right_eq_some, List.contains_iff_mem, size?_eq_some_iff]

theorem lent?_eq_none_iff {sizes : SizeMap} {name : Text} {d : Declaration} :
    lent? sizes name d = none ↔ (name ∈ d.names → ∀ n ∈ d.names, n ∉ sizes.names) := by
  rw [lent?, ite_eq_right_iff, List.contains_iff_mem, size?_eq_none_iff]

theorem get?_shareSize (size : Int) (sizes : SizeMap) (names : List Text) (asked : Text) :
    (shareSize size sizes names).get? asked =
      (sizes.get? asked).or (if asked ∈ names then some size else none) := by
  induction names generalizing sizes with
  | nil => simp [shareSize]
  | cons name rest ih =>
    have hrest := ih (if (sizes.get? name).isSome then sizes else sizes ++ [(name, size)])
    rw [shareSize] at hrest ⊢
    rw [List.foldl_cons, hrest]
    split
    · rename_i hsome
      by_cases hasked : asked = name
      · -- the name has a size, and so nothing is lent to it
        obtain ⟨own, hown⟩ := Option.isSome_iff_exists.mp hsome
        rw [hasked, hown, Option.some_or, Option.some_or]
      · simp [hasked]
    · rw [SizeMap.get?_concat, Option.or_assoc]
      by_cases hasked : asked = name <;> simp [hasked]

/-! ## All types -/

theorem spreadSizes_eq_foldl (ds : List Declaration) (sizes : SizeMap) :
    spreadSizes ds sizes =
      ds.foldl (fun m d => (d.size? sizes).elim m fun size => shareSize size m d.names) sizes := by
  rw [spreadSizes]
  congr
  funext m d
  cases d.size? sizes <;> rfl

/-- **A name gets the first size that is lent to it**, unless it has one of its own. -/
theorem get?_spreadSizes (ds : List Declaration) (sizes : SizeMap) (name : Text) :
    (spreadSizes ds sizes).get? name =
      (sizes.get? name).or (ds.findSome? (lent? sizes name)) := by
  -- the types lend what the sizes say at the start, whatever has been added since
  suffices h : ∀ m : SizeMap, (ds.foldl (fun m d =>
      (d.size? sizes).elim m fun size => shareSize size m d.names) m).get? name =
        (m.get? name).or (ds.findSome? (lent? sizes name)) by
    rw [spreadSizes_eq_foldl, h]
  induction ds with
  | nil => simp
  | cons d rest ih =>
    intro m
    rw [List.foldl_cons, ih, List.findSome?_cons]
    by_cases hname : name ∈ d.names
    · rw [lent?_of_mem sizes hname]
      cases d.size? sizes with
      | none => rfl
      | some size =>
        rw [Option.elim_some, get?_shareSize, if_pos hname, Option.or_assoc, Option.some_or]
    · rw [lent?_of_not_mem sizes hname]
      cases d.size? sizes with
      | none => rfl
      | some size => rw [Option.elim_some, get?_shareSize, if_neg hname, Option.or_none]

/-- The name gets the size from the first of the types that have it among their names and have a
size. -/
def Receives (ds : List Declaration) (sizes : SizeMap) (name : Text) (size : Int) : Prop :=
  ∃ before d behind, ds = before ++ d :: behind ∧ (name ∈ d.names ∧ d.Sized sizes size) ∧
    ∀ e ∈ before, name ∈ e.names → ∀ n ∈ e.names, n ∉ sizes.names

theorem findSome?_lent_eq_some_iff {ds : List Declaration} {sizes : SizeMap} {name : Text}
    {size : Int} : ds.findSome? (lent? sizes name) = some size ↔ Receives ds sizes name size := by
  simp only [List.findSome?_eq_some_iff, lent?_eq_some_iff, lent?_eq_none_iff, Receives]

theorem findSome?_lent_eq_none_iff {ds : List Declaration} {sizes : SizeMap} {name : Text} :
    ds.findSome? (lent? sizes name) = none ↔
      ∀ d ∈ ds, name ∈ d.names → ∀ n ∈ d.names, n ∉ sizes.names := by
  simp only [List.findSome?_eq_none_iff, lent?_eq_none_iff]

/-! ## Types without common names -/

/-- No name is one of two types. -/
def NamesApart (ds : List Declaration) : Prop :=
  ds.Pairwise fun d e => ∀ name ∈ d.names, name ∉ e.names

instance (ds : List Declaration) : Decidable (NamesApart ds) :=
  decidable_of_iff (ds.Pairwise fun d e => (d.names.all fun name => !e.names.contains name) = true)
    (by simp [NamesApart])

namespace NamesApart

variable {ds : List Declaration}

theorem perm (h : NamesApart ds) {ds' : List Declaration} (hperm : ds.Perm ds') :
    NamesApart ds' := by
  refine (hperm.pairwise_iff ?_).mp h
  intro d e hde name he hd
  exact hde name hd he

/-- Only one type can lend to a name. -/
theorem lent_eq (h : NamesApart ds) (sizes : SizeMap) {d : Declaration} (hd : d ∈ ds) {name : Text}
    (hname : name ∈ d.names) : ds.findSome? (lent? sizes name) = d.size? sizes := by
  induction ds with
  | nil => exact absurd hd List.not_mem_nil
  | cons e rest ih =>
    obtain ⟨hfirst, hrest⟩ := List.pairwise_cons.mp h
    rw [List.findSome?_cons]
    rcases List.mem_cons.mp hd with rfl | hd
    · have hnone : rest.findSome? (lent? sizes name) = none := by
        rw [findSome?_lent_eq_none_iff]
        intro e he hlater
        exact absurd hlater (hfirst e he name hname)
      rw [lent?_of_mem sizes hname, hnone]
      cases d.size? sizes <;> rfl
    · have hother : name ∉ e.names := fun he => hfirst d hd name he hname
      rw [lent?_of_not_mem sizes hother]
      exact ih hrest hd

theorem lent_perm (h : NamesApart ds) (sizes : SizeMap) {ds' : List Declaration}
    (hperm : ds.Perm ds') (name : Text) :
    ds'.findSome? (lent? sizes name) = ds.findSome? (lent? sizes name) := by
  by_cases hname : ∃ d ∈ ds, name ∈ d.names
  · obtain ⟨d, hd, hname⟩ := hname
    rw [h.lent_eq sizes hd hname, (h.perm hperm).lent_eq sizes (hperm.mem_iff.mp hd) hname]
  · have hnone : ∀ d ∈ ds, lent? sizes name d = none := by
      intro d hd
      rw [lent?_eq_none_iff]
      exact fun hmem => absurd ⟨d, hd, hmem⟩ hname
    rw [List.findSome?_eq_none_iff.mpr hnone, List.findSome?_eq_none_iff]
    exact fun d hd => hnone d (hperm.mem_iff.mpr hd)

end NamesApart

/-- **Which names get which size.** A name with a size keeps it. Another name gets one exactly if it
is a name of a type of which some name has a size; it is that of the first such type, which is the
size of the first of its names that has one. If no name is one of two types, the order of the types
does not matter, and all names without a size of their own get the size of their type. -/
theorem spreadSizes_exact (ds : List Declaration) (sizes : SizeMap) :
    (∀ name ∈ sizes.names, (spreadSizes ds sizes).get? name = sizes.get? name) ∧
    (∀ name, name ∉ sizes.names →
      (name ∈ (spreadSizes ds sizes).names ↔
        ∃ d ∈ ds, name ∈ d.names ∧ ∃ n ∈ d.names, n ∈ sizes.names) ∧
      ∀ size, (spreadSizes ds sizes).get? name = some size ↔ Receives ds sizes name size) ∧
    (NamesApart ds →
      (∀ ds', ds.Perm ds' → ∀ name,
        (spreadSizes ds' sizes).get? name = (spreadSizes ds sizes).get? name) ∧
      ∀ d ∈ ds, ∀ name ∈ d.names, name ∉ sizes.names →
        (spreadSizes ds sizes).get? name = d.size? sizes) := by
  refine ⟨?_, ?_, ?_⟩
  · intro name hname
    have hne : sizes.get? name ≠ none := fun hnone => SizeMap.get?_eq_none_iff.mp hnone hname
    obtain ⟨size, hsize⟩ := Option.ne_none_iff_exists'.mp hne
    rw [get?_spreadSizes, hsize, Option.some_or]
  · intro name hname
    have hget : (spreadSizes ds sizes).get? name = ds.findSome? (lent? sizes name) := by
      rw [get?_spreadSizes, SizeMap.get?_eq_none_iff.mpr hname, Option.none_or]
    constructor
    · rw [← not_iff_not, ← SizeMap.get?_eq_none_iff, hget, findSome?_lent_eq_none_iff]
      simp only [not_exists, not_and]
    · intro size
      rw [hget, findSome?_lent_eq_some_iff]
  · intro hapart
    constructor
    · intro ds' hperm name
      rw [get?_spreadSizes, get?_spreadSizes, hapart.lent_perm sizes hperm]
    · intro d hd name hmem hname
      rw [get?_spreadSizes, SizeMap.get?_eq_none_iff.mpr hname, Option.none_or,
        hapart.lent_eq sizes hd hmem]

/-- A further name of two types gets the size of the first one; and where no name is shared, a tag
gets the size of its further name, in either order. -/
theorem spreadSizes_shared_and_apart :
    let item : Declaration := ⟨"Item".toList, .structType, 1, ["Entry".toList]⟩
    let row : Declaration := ⟨"Row".toList, .unionType, 2, ["Entry".toList]⟩
    let node : Declaration := ⟨"Node".toList, .structType, 3, ["Node_t".toList]⟩
    let sizes : SizeMap := [("Row".toList, 8), ("Item".toList, 4), ("Node_t".toList, 16)]
    (spreadSizes [item, row] sizes).get? "Entry".toList = some 4 ∧
      (spreadSizes [node, row] sizes).get? "Node".toList = some 16 ∧
      (spreadSizes [row, node] sizes).get? "Node".toList = some 16 := by
  intro item row node sizes
  obtain ⟨-, hshared, -⟩ := spreadSizes_exact [item, row] sizes
  obtain ⟨-, -, hapart⟩ := spreadSizes_exact [node, row] sizes
  obtain ⟨hperm, hsize⟩ := hapart (by decide)
  have hnode : (spreadSizes [node, row] sizes).get? "Node".toList = some 16 := by
    rw [hsize node (by simp) "Node".toList (by decide) (by decide)]
    decide
  refine ⟨?_, hnode, ?_⟩
  · refine ((hshared "Entry".toList (by decide)).2 4).mpr ?_
    exact ⟨[], item, [row], rfl, ⟨by decide, [], _, _, rfl, by decide, by decide⟩, by simp⟩
  · rw [hperm [row, node] (.swap _ _ _), hnode]

end Declaration

end TypeLens
