/-
# TypeLens.Proofs.Declaration.KnownNames -- which names a text declares

A query makes names known: those of the aggregates with a body, or those that typedefs give, with the
tags that they give them to (`Query.Gives`). Whether a name is declared already, or is a further name
of something else, decides how it comes to be known, and never whether. So the known names are those
that the queries give (`mem_knownNames_scanWith`). Their order does not matter, and a missing query
takes names away and adds none.

A typedef gives a tag to none but plain names. Without one of them, the tag is not made known either.
-/
import TypeLens.Proofs.Declaration.Collecting

namespace TypeLens.Declaration

/-- A query makes a name known. -/
inductive Query.Gives (specifiers : List Source.Specifier) (typedefs : List Source.Typedef) :
    Query → Text → Prop
  /-- The name of an aggregate with a body. -/
  | aggregate {s : Source.Specifier} (hs : s ∈ specifiers) :
    Gives specifiers typedefs (.aggregates s.kind) s.name
  /-- The tag of a typedef with a plain name. -/
  | tag {t : Source.Typedef} {tag : Text} (ht : t ∈ typedefs) (htag : t.tag = some tag)
    (hplain : t.aliases ≠ []) : Gives specifiers typedefs .typedefs tag
  /-- A plain name that a typedef gives to a tag, or to an aggregate with a body. -/
  | plain {t : Source.Typedef} {a : Source.Alias} (ht : t ∈ typedefs) (ha : a ∈ t.aliases)
    (hnamed : t.tag.isSome = true ∨ t.hasBody = true) : Gives specifiers typedefs .typedefs a.name

/-! ## One step -/

theorem mem_names_addAlias {d : Declaration} {extra name : Text} :
    name ∈ (d.addAlias extra).names ↔ name ∈ d.names ∨ name = extra := by
  rw [addAlias]
  split
  · rename_i hold
    simp only [Bool.or_eq_true, decide_eq_true_eq, List.contains_iff_mem] at hold
    refine ⟨.inl, ?_⟩
    rintro (hname | rfl)
    · exact hname
    · exact List.mem_cons.mpr hold
  · show name ∈ d.names ++ [extra] ↔ _
    rw [List.mem_append, List.mem_singleton]

theorem mem_knownNames_declare (ds : List Declaration) (o : Origin) {name : Text} :
    name ∈ knownNames (declare ds o) ↔ name ∈ knownNames ds ∨ name = o.name := by
  rw [declare]
  split
  · rename_i hold
    obtain ⟨d, hd, hname⟩ := List.mem_map.mp (declares_iff.mp hold)
    refine ⟨.inl, ?_⟩
    rintro (hname' | rfl)
    · exact hname'
    · exact mem_knownNames.mpr ⟨d, hd, hname ▸ List.mem_cons_self⟩
  · simp [knownNames, names]

/-- What is to be declared is declared then. -/
theorem exists_mem_declare (ds : List Declaration) (o : Origin) :
    ∃ d ∈ declare ds o, d.name = o.name := by
  rw [declare]
  split
  · rename_i hold
    exact List.mem_map.mp (declares_iff.mp hold)
  · exact ⟨_, List.mem_append_right _ (List.mem_singleton_self _), rfl⟩

theorem Naming.mem_names_attach {n : Naming} {d : Declaration} {name : Text} :
    name ∈ (n.attach d).names ↔ name ∈ d.names ∨ n.tag = some d.name ∧ name = n.given.name := by
  rw [attach]
  split
  · rename_i htag
    rw [mem_names_addAlias]
    simp [htag]
  · rename_i htag
    simp [htag]

theorem mem_knownNames_attach {ds : List Declaration} {n : Naming} {name : Text} :
    name ∈ knownNames (ds.map n.attach) ↔
      name ∈ knownNames ds ∨ (∃ d ∈ ds, n.tag = some d.name) ∧ name = n.given.name := by
  simp only [mem_knownNames, List.mem_map, exists_exists_and_eq_and, Naming.mem_names_attach,
    and_or_left, exists_or, ← and_assoc, exists_and_right]

/-- The names that one naming makes known. -/
theorem mem_knownNames_addNaming (ds : List Declaration) (n : Naming) {name : Text} :
    name ∈ knownNames (addNaming ds n) ↔ name ∈ knownNames ds ∨ n.tag = some name ∨
      (n.tag.isSome = true ∨ n.hasBody = true) ∧ name = n.given.name := by
  rw [addNaming_eq, mem_knownNames_attach]
  cases htag : n.tag with
  | none =>
    cases hbody : n.hasBody <;>
      simp [Naming.origin?, htag, hbody, mem_knownNames_declare]
  | some tag =>
    obtain ⟨d, hd, hname⟩ := exists_mem_declare ds ⟨tag, n.kind, n.line⟩
    have hdeclared : ∃ d ∈ declare ds ⟨tag, n.kind, n.line⟩, d.name = tag := ⟨d, hd, hname⟩
    simp only [Naming.origin?, htag, Option.toList_some, List.foldl_cons, List.foldl_nil,
      mem_knownNames_declare, hdeclared, true_and, or_assoc, Option.some.injEq, Option.isSome_some,
      true_or, eq_comm (a := tag)]

/-! ## Whole queries -/

/-- What each step makes known is known in the end, and nothing else. -/
theorem mem_knownNames_foldl {α : Type} {add : List Declaration → α → List Declaration}
    {gives : α → Prop} {name : Text}
    (hadd : ∀ ds a, name ∈ knownNames (add ds a) ↔ name ∈ knownNames ds ∨ gives a)
    (ds : List Declaration) (l : List α) :
    name ∈ knownNames (l.foldl add ds) ↔ name ∈ knownNames ds ∨ ∃ a ∈ l, gives a := by
  induction l generalizing ds with
  | nil => simp
  | cons a rest ih => rw [List.foldl_cons, ih, hadd, or_assoc, List.exists_mem_cons_iff]

variable {specifiers : List Source.Specifier} {typedefs : List Source.Typedef}

theorem Query.gives_aggregates_iff {kind : AggregateKind} {name : Text} :
    Gives specifiers typedefs (.aggregates kind) name ↔
      ∃ s ∈ specifiers.filter fun s => s.kind = kind, name = s.name := by
  constructor
  · rintro ⟨hs⟩
    exact ⟨_, List.mem_filter.mpr ⟨hs, decide_eq_true rfl⟩, rfl⟩
  · rintro ⟨s, hs, rfl⟩
    obtain ⟨hs, hkind⟩ := List.mem_filter.mp hs
    rw [← of_decide_eq_true hkind]
    exact .aggregate hs

theorem Query.gives_typedefs_iff {name : Text} :
    Gives specifiers typedefs .typedefs name ↔ ∃ n ∈ namings typedefs, n.tag = some name ∨
      (n.tag.isSome = true ∨ n.hasBody = true) ∧ name = n.given.name := by
  constructor
  · intro h
    cases h with
    | tag ht htag hplain =>
      obtain ⟨a, ha⟩ := List.exists_mem_of_ne_nil _ hplain
      exact ⟨_, mem_namings.mpr ⟨_, ht, a, ha, rfl⟩, .inl htag⟩
    | plain ht ha hnamed =>
      exact ⟨_, mem_namings.mpr ⟨_, ht, _, ha, rfl⟩, .inr ⟨hnamed, rfl⟩⟩
  · rintro ⟨n, hn, h⟩
    obtain ⟨t, ht, a, ha, rfl⟩ := mem_namings.mp hn
    rcases h with htag | ⟨hnamed, rfl⟩
    · exact .tag ht htag (List.ne_nil_of_mem ha)
    · exact .plain ht ha hnamed

theorem mem_knownNames_runQuery (ds : List Declaration) (q : Query) {name : Text} :
    name ∈ knownNames (runQuery specifiers typedefs ds q) ↔
      name ∈ knownNames ds ∨ q.Gives specifiers typedefs name := by
  cases q with
  | aggregates kind =>
    rw [runQuery, Query.gives_aggregates_iff]
    exact mem_knownNames_foldl (fun ds s => mem_knownNames_declare ds (.ofSpecifier s)) ds _
  | typedefs =>
    rw [runQuery, Query.gives_typedefs_iff]
    exact mem_knownNames_foldl (fun ds n => mem_knownNames_addNaming ds n) ds _

/-- However queries follow each other, the known names are those that one of them gives. -/
theorem mem_knownNames_passes {passes : List Query} {name : Text} :
    name ∈ knownNames (passes.foldl (runQuery specifiers typedefs) []) ↔
      ∃ q ∈ passes, q.Gives specifiers typedefs name := by
  rw [mem_knownNames_foldl fun ds q => mem_knownNames_runQuery ds q]
  simp [knownNames]

theorem Query.mem_all (q : Query) : q ∈ all := by
  cases q with
  | aggregates kind => cases kind <;> decide
  | typedefs => decide

/-- The order of the declarations makes no name known. -/
theorem mem_knownNames_gather {queries : List Query} {name : Text} :
    name ∈ knownNames (gather queries specifiers typedefs) ↔
      ∃ q ∈ queries, q.Gives specifiers typedefs name := by
  have hcollected : name ∈ knownNames (gather queries specifiers typedefs) ↔
      name ∈ knownNames (collect queries specifiers typedefs) := by
    simp only [mem_knownNames, gather, List.mem_mergeSort]
  rw [hcollected, collect, mem_knownNames_passes]
  simp only [List.mem_filter, List.contains_iff_mem, Query.mem_all, true_and]

/-! ## Known names of a text -/

/-- The names that declarations make known are those that some queries give. `found` is what any
queries find. -/
structure KnownByGiving (specifiers : List Source.Specifier) (typedefs : List Source.Typedef)
    (queries : List Query) (found : List Query → List Declaration) : Prop where
  exact : ∀ name, name ∈ knownNames (found queries) ↔
    ∃ q ∈ queries, q.Gives specifiers typedefs name
  /-- Whichever way the queries follow each other, the same names are known. -/
  anyOrder : ∀ passes : List Query, (∀ q, q ∈ passes ↔ q ∈ queries) → ∀ name,
    name ∈ knownNames (passes.foldl (runQuery specifiers typedefs) []) ↔
      name ∈ knownNames (found queries)
  fewer : ∀ fewer : List Query, fewer ⊆ queries →
    knownNames (found fewer) ⊆ knownNames (found queries)

theorem knownByGiving_gather (specifiers : List Source.Specifier) (typedefs : List Source.Typedef)
    (queries : List Query) :
    KnownByGiving specifiers typedefs queries fun qs => gather qs specifiers typedefs where
  exact := fun _ => mem_knownNames_gather
  anyOrder := by
    intro passes hpasses name
    simp only [mem_knownNames_passes, mem_knownNames_gather, hpasses]
  fewer := by
    intro fewer hfewer name hname
    obtain ⟨q, hq, hgives⟩ := mem_knownNames_gather.mp hname
    exact mem_knownNames_gather.mpr ⟨q, hfewer hq, hgives⟩

/-- **The known names are those that the text declares.** Those that a scan finds are the names of
aggregates with a body, of the kinds searched for, and with typedefs the plain names that they give to
a tag or to a body, and the tags given such names. The order of the queries does not matter for this,
and with fewer queries no other names are known. The same holds of what is made of any aggregates and
typedefs. -/
theorem mem_knownNames_scanWith (queries : List Query) (content : Text) :
    KnownByGiving (Source.specifiers (Source.tokens content))
      (Source.typedefs (Source.tokens content)) queries (scanWith · content) ∧
    ∀ specifiers typedefs,
      KnownByGiving specifiers typedefs queries fun qs => gather qs specifiers typedefs :=
  ⟨knownByGiving_gather .., fun _ _ => knownByGiving_gather ..⟩

/-- A tag with a body that is given a name, and a tag that only a pointer is declared with. -/
def namedAndPointed : Text := "typedef struct A { int x; } B; typedef struct S *P;".toList

/-- Of the first typedef both names are known, whichever query comes first; without the typedefs the
tag is. -/
theorem knownNames_namedAndPointed :
    let specifiers := Source.specifiers (Source.tokens namedAndPointed)
    let typedefs := Source.typedefs (Source.tokens namedAndPointed)
    let structs := Query.aggregates .structType
    let typedefsFirst := [Query.typedefs, structs].foldl (runQuery specifiers typedefs) []
    knownNames (scanWith [structs, .typedefs] namedAndPointed) = ["A".toList, "B".toList] ∧
      (∀ name, name ∈ knownNames typedefsFirst ↔ name ∈ ["A".toList, "B".toList]) ∧
      knownNames (scanWith [structs] namedAndPointed) ⊆ ["A".toList, "B".toList] := by
  intro specifiers typedefs structs typedefsFirst
  have hknown : knownNames (scanWith [structs, .typedefs] namedAndPointed) =
      ["A".toList, "B".toList] := by decide +kernel
  obtain ⟨hgiving, -⟩ := mem_knownNames_scanWith [structs, .typedefs] namedAndPointed
  refine ⟨hknown, ?_, ?_⟩
  · rw [← hknown]
    exact hgiving.anyOrder [.typedefs, structs] fun q => by simp [or_comm]
  · rw [← hknown]
    exact hgiving.fewer [structs] (List.cons_subset_cons structs (List.nil_subset _))

/-- **A tag can stay unknown.** The second typedef names a tag and gives a name that is not a plain
one; the tag is not among the known names. -/
theorem tag_of_pointer_unknown :
    ¬ ∀ name, name ∈ knownNames (scan namedAndPointed) ↔
      (∃ s ∈ Source.specifiers (Source.tokens namedAndPointed), s.name = name) ∨
      ∃ t ∈ Source.typedefs (Source.tokens namedAndPointed), t.tag = some name ∨
        (t.tag.isSome = true ∨ t.hasBody = true) ∧ ∃ a ∈ t.aliases, a.name = name := by
  intro h
  have htypedefs : (Source.typedefs (Source.tokens namedAndPointed)).map Source.Typedef.tag =
      [some "A".toList, some "S".toList] := by decide +kernel
  have hknown : "S".toList ∉ knownNames (scan namedAndPointed) := by decide +kernel
  obtain ⟨t, ht, htag⟩ := List.mem_map.mp
    (htypedefs ▸ List.mem_cons_of_mem _ (List.mem_singleton_self _) :
      some "S".toList ∈ (Source.typedefs (Source.tokens namedAndPointed)).map Source.Typedef.tag)
  exact hknown ((h "S".toList).mpr (.inr ⟨t, ht, .inl htag⟩))

end TypeLens.Declaration
