/-
# TypeLens.Proofs.Declaration.NamesOfType -- which names belong to one type

A declared type has its own name and the names that typedefs give to it as a tag, and no others
(`mem_names_gather_iff`). The invariant of the collecting is that the tags of all typedefs so far are
declared, and that each type has exactly the names that they have given to it (`Tracks`); hence it
does not matter what was declared when a typedef came up.

So the plain names that a typedef gives to a tag are all names of that tag, and a size for one of them
goes to the others. The names that it gives to an aggregate without a tag have nothing in common but
what other typedefs make of them: each is declared on its own (`typedef_names_share_iff`).
-/
import TypeLens.Proofs.Declaration.KnownNames
import TypeLens.Proofs.Declaration.SharedSizes

namespace TypeLens.Declaration

/-! ## The names of a type -/

/-- Some names have been given by typedefs: their tags are declared, and a type has its own name and
those that were given to it. -/
structure Tracks (given : List Naming) (ds : List Declaration) : Prop where
  declared : ∀ n ∈ given, ∀ tag, n.tag = some tag → ∃ d ∈ ds, d.name = tag
  mem_names : ∀ d ∈ ds, ∀ name, name ∈ d.names ↔
    name = d.name ∨ ∃ n ∈ given, n.tag = some d.name ∧ n.given.name = name

@[simp] theorem Naming.name_attach (n : Naming) (d : Declaration) : (n.attach d).name = d.name :=
  congrArg Origin.name (n.origin_attach d)

namespace Tracks

variable {given : List Naming} {ds : List Declaration}

theorem nil : Tracks [] [] := ⟨nofun, nofun⟩

theorem declare (h : Tracks given ds) (o : Origin) : Tracks given (declare ds o) := by
  rw [Declaration.declare]
  split
  · exact h
  · rename_i hnew
    constructor
    · intro n hn tag htag
      obtain ⟨d, hd, hname⟩ := h.declared n hn tag htag
      exact ⟨d, List.mem_append_left _ hd, hname⟩
    · intro d hd name
      rcases List.mem_append.mp hd with hd | hd
      · exact h.mem_names d hd name
      · obtain rfl := List.mem_singleton.mp hd
        -- nothing has been given to the new name, since it would be declared then
        have hnone : ¬ ∃ n ∈ given, n.tag = some o.name ∧ n.given.name = name := by
          rintro ⟨n, hn, htag, -⟩
          obtain ⟨d, hd, hname⟩ := h.declared n hn o.name htag
          exact hnew (declares_iff.mpr (List.mem_map.mpr ⟨d, hd, hname⟩))
        rw [or_iff_left hnone]
        exact List.mem_singleton

theorem foldl_declare (h : Tracks given ds) (os : List Origin) :
    Tracks given (os.foldl Declaration.declare ds) :=
  List.foldlRecOn os _ (motive := Tracks given) h fun _ h o _ => h.declare o

/-- A typedef gives one more name. -/
theorem addNaming (h : Tracks given ds) (n : Naming) :
    Tracks (given ++ [n]) (addNaming ds n) := by
  have hbase := h.foldl_declare n.origin?.toList
  rw [addNaming_eq]
  constructor
  · intro m hm tag htag
    obtain ⟨d, hd, hname⟩ : ∃ d ∈ n.origin?.toList.foldl Declaration.declare ds, d.name = tag := by
      rcases List.mem_append.mp hm with hm | hm
      · exact hbase.declared m hm tag htag
      · obtain rfl := List.mem_singleton.mp hm
        have horigin : m.origin?.toList = [⟨tag, m.kind, m.line⟩] := by
          rw [Naming.origin?, htag, Option.toList_some]
        rw [horigin]
        exact exists_mem_declare ds ⟨tag, m.kind, m.line⟩
    exact ⟨n.attach d, List.mem_map_of_mem hd, by rw [n.name_attach, hname]⟩
  · intro d hd name
    obtain ⟨e, he, rfl⟩ := List.mem_map.mp hd
    rw [Naming.mem_names_attach, hbase.mem_names e he, n.name_attach, or_assoc,
      eq_comm (a := name) (b := n.given.name)]
    simp only [List.mem_append, List.mem_singleton, or_and_right, exists_or, exists_eq_left]

theorem foldl_addNaming (h : Tracks given ds) (ns : List Naming) :
    Tracks (given ++ ns) (ns.foldl Declaration.addNaming ds) := by
  induction ns generalizing given ds with
  | nil => rwa [List.append_nil]
  | cons n rest ih =>
    rw [List.foldl_cons, List.append_cons]
    exact ih (h.addNaming n)

end Tracks

theorem tracks_collect (specifiers : List Source.Specifier) (typedefs : List Source.Typedef) :
    Tracks (namings typedefs) (collect Query.all specifiers typedefs) := by
  have hall : (Query.all.filter fun q => Query.all.contains q) =
      AggregateKind.all.map Query.aggregates ++ [.typedefs] := by decide
  rw [collect, hall, List.foldl_append, List.foldl_map]
  -- the queries for aggregates only declare
  have haggregates : Tracks [] (AggregateKind.all.foldl
      (fun ds kind => runQuery specifiers typedefs ds (.aggregates kind)) []) := by
    refine List.foldlRecOn _ _ (motive := Tracks []) .nil fun ds h kind _ => ?_
    exact List.foldlRecOn _ _ (motive := Tracks []) h fun ds h s _ => h.declare (.ofSpecifier s)
  exact haggregates.foldl_addNaming (namings typedefs)

/-- The name is the tag itself, or a typedef gives it to the tag. -/
def NamedBy (typedefs : List Source.Typedef) (tag name : Text) : Prop :=
  name = tag ∨ ∃ t ∈ typedefs, t.tag = some tag ∧ ∃ a ∈ t.aliases, a.name = name

section

variable {specifiers : List Source.Specifier} {typedefs : List Source.Typedef}

theorem tracks_gather :
    Tracks (namings typedefs) (gather Query.all specifiers typedefs) := by
  have h := tracks_collect specifiers typedefs
  constructor
  · intro n hn tag htag
    obtain ⟨d, hd, hname⟩ := h.declared n hn tag htag
    exact ⟨d, List.mem_mergeSort.mpr hd, hname⟩
  · intro d hd
    exact h.mem_names d (List.mem_mergeSort.mp hd)

/-- **The names of a declared type.** -/
theorem mem_names_gather_iff {d : Declaration} (hd : d ∈ gather Query.all specifiers typedefs)
    {name : Text} : name ∈ d.names ↔ NamedBy typedefs d.name name := by
  rw [tracks_gather.mem_names d hd, NamedBy]
  refine or_congr_right ⟨?_, ?_⟩
  · rintro ⟨n, hn, htag, rfl⟩
    obtain ⟨t, ht, a, ha, rfl⟩ := mem_namings.mp hn
    exact ⟨t, ht, htag, a, ha, rfl⟩
  · rintro ⟨t, ht, htag, a, ha, rfl⟩
    exact ⟨_, mem_namings.mpr ⟨t, ht, a, ha, rfl⟩, htag, rfl⟩

/-- A tag that a typedef gives a name to is declared. -/
theorem exists_mem_gather {t : Source.Typedef} (ht : t ∈ typedefs) {a : Source.Alias}
    (ha : a ∈ t.aliases) {tag : Text} (htag : t.tag = some tag) :
    ∃ d ∈ gather Query.all specifiers typedefs, d.name = tag :=
  tracks_gather.declared _ (mem_namings.mpr ⟨t, ht, a, ha, rfl⟩) tag htag

end

/-! ## Names of one type -/

/-- The names are names of one type. -/
def OneType (ds : List Declaration) (x y : Text) : Prop := ∃ d ∈ ds, x ∈ d.names ∧ y ∈ d.names

instance (ds : List Declaration) (x y : Text) : Decidable (OneType ds x y) :=
  decidable_of_iff ((ds.any fun d => d.names.contains x && d.names.contains y) = true)
    (by simp [OneType])

section

variable {specifiers : List Source.Specifier} {typedefs : List Source.Typedef}

theorem oneType_iff_of_ne {x y : Text} (hne : x ≠ y) :
    OneType (gather Query.all specifiers typedefs) x y ↔
      ∃ tag, NamedBy typedefs tag x ∧ NamedBy typedefs tag y := by
  constructor
  · rintro ⟨d, hd, hx, hy⟩
    exact ⟨d.name, (mem_names_gather_iff hd).mp hx, (mem_names_gather_iff hd).mp hy⟩
  · rintro ⟨tag, hx, hy⟩
    -- one of the two names is not the tag, and is given to it
    obtain ⟨d, hd, rfl⟩ : ∃ d ∈ gather Query.all specifiers typedefs, d.name = tag := by
      rcases hx with rfl | ⟨t, ht, htag, a, ha, -⟩
      · rcases hy with rfl | ⟨t, ht, htag, a, ha, -⟩
        · exact absurd rfl hne
        · exact exists_mem_gather ht ha htag
      · exact exists_mem_gather ht ha htag
    exact ⟨d, hd, (mem_names_gather_iff hd).mpr hx, (mem_names_gather_iff hd).mpr hy⟩

variable {t : Source.Typedef} (ht : t ∈ typedefs)
  (hnamed : t.tag.isSome = true ∨ t.hasBody = true) {a : Source.Alias} (ha : a ∈ t.aliases)

include ht hnamed ha

/-- Every plain name that a typedef gives is the name of some type. -/
theorem oneType_self : OneType (gather Query.all specifiers typedefs) a.name a.name := by
  have hknown : a.name ∈ knownNames (gather Query.all specifiers typedefs) :=
    mem_knownNames_gather.mpr ⟨.typedefs, by decide, .plain ht ha hnamed⟩
  obtain ⟨d, hd, hname⟩ := mem_knownNames.mp hknown
  exact ⟨d, hd, hname, hname⟩

theorem oneType_iff {name : Text} :
    OneType (gather Query.all specifiers typedefs) a.name name ↔ a.name = name ∨
      ∃ tag, NamedBy typedefs tag a.name ∧ NamedBy typedefs tag name := by
  by_cases heq : a.name = name
  · subst heq
    exact iff_of_true (oneType_self ht hnamed ha) (.inl rfl)
  · rw [oneType_iff_of_ne heq, or_iff_right heq]

end

/-- Where a single name has a size, a type with a size has that name and that size. -/
theorem Sized.of_single {sizes : SizeMap} {x : Text} {size : Int} (hsize : sizes.get? x = some size)
    (hsingle : ∀ name, name ∈ sizes.names ↔ name = x) {d : Declaration} {other : Int}
    (h : d.Sized sizes other) : x ∈ d.names ∧ other = size := by
  obtain ⟨before, name, behind, hnames, hname, -⟩ := h
  have hmem : name ∈ sizes.names := by
    by_contra hnot
    rw [SizeMap.get?_eq_none_iff.mpr hnot] at hname
    exact Option.some_ne_none other hname.symm
  obtain rfl := (hsingle name).mp hmem
  refine ⟨?_, Option.some.inj (hname.symm.trans hsize)⟩
  rw [hnames]
  exact List.mem_append_right _ List.mem_cons_self

/-- If a single name has a size, that goes to all names of its types, and to no others. -/
theorem get?_spreadSizes_single {ds : List Declaration} {sizes : SizeMap} {x : Text} {size : Int}
    (hsize : sizes.get? x = some size) (hsingle : ∀ name, name ∈ sizes.names ↔ name = x) {y : Text}
    (hne : x ≠ y) : (spreadSizes ds sizes).get? y = some size ↔ OneType ds x y := by
  have hnone : y ∉ sizes.names := fun hy => hne ((hsingle y).mp hy).symm
  rw [get?_spreadSizes, SizeMap.get?_eq_none_iff.mpr hnone, Option.none_or]
  constructor
  · intro hlent
    obtain ⟨before, d, behind, rfl, ⟨hy, hsized⟩, -⟩ := findSome?_lent_eq_some_iff.mp hlent
    exact ⟨d, by simp, (hsized.of_single hsize hsingle).1, hy⟩
  · rintro ⟨d, hd, hx, hy⟩
    have hsome : ds.findSome? (lent? sizes y) ≠ none := fun hnone =>
      findSome?_lent_eq_none_iff.mp hnone d hd hy x hx ((hsingle x).mpr rfl)
    obtain ⟨lent, hlent⟩ := Option.ne_none_iff_exists'.mp hsome
    obtain ⟨_, e, _, -, ⟨-, hsized⟩, -⟩ := findSome?_lent_eq_some_iff.mp hlent
    rw [hlent, (hsized.of_single hsize hsingle).2]

/-- What two plain names of a typedef have in common, by what is declared. -/
structure SharesNames (typedefs : List Source.Typedef) (ds : List Declaration) (t : Source.Typedef)
    (x y : Text) : Prop where
  ofTag : t.tag.isSome = true → OneType ds x y
  /-- They are names of one type exactly if they are equal or belong to one tag, in this typedef or by
  others. -/
  oneType_iff : OneType ds x y ↔ x = y ∨ ∃ tag, NamedBy typedefs tag x ∧ NamedBy typedefs tag y
  /-- Exactly then a size that is given for one of them only goes to the other. -/
  sizes : ∀ sizes size, sizes.get? x = some size → (∀ name, name ∈ sizes.names ↔ name = x) →
    (spreadSizes ds sizes).get? x = some size ∧
    ((spreadSizes ds sizes).get? y = some size ↔ OneType ds x y)

theorem sharesNames_gather (specifiers : List Source.Specifier) {typedefs : List Source.Typedef}
    {t : Source.Typedef} (ht : t ∈ typedefs) (hnamed : t.tag.isSome = true ∨ t.hasBody = true)
    {a b : Source.Alias} (ha : a ∈ t.aliases) (hb : b ∈ t.aliases) :
    SharesNames typedefs (gather Query.all specifiers typedefs) t a.name b.name where
  ofTag := by
    intro htag
    obtain ⟨tag, htag⟩ := Option.isSome_iff_exists.mp htag
    exact (oneType_iff ht hnamed ha).mpr
      (.inr ⟨tag, .inr ⟨t, ht, htag, a, ha, rfl⟩, .inr ⟨t, ht, htag, b, hb, rfl⟩⟩)
  oneType_iff := oneType_iff ht hnamed ha
  sizes := by
    intro sizes size hsize hsingle
    have hown :
        (spreadSizes (gather Query.all specifiers typedefs) sizes).get? a.name = some size := by
      rw [get?_spreadSizes, hsize, Option.some_or]
    refine ⟨hown, ?_⟩
    by_cases heq : a.name = b.name
    · rw [← heq]
      exact iff_of_true hown (oneType_self ht hnamed ha)
    · exact get?_spreadSizes_single hsize hsingle heq

/-- **When the names of a typedef share a size.** Two plain names that a typedef gives to a tag are
names of one type. In general two plain names of a typedef are so exactly if they are equal or belong
to one tag, in this typedef or by others; and exactly then a size that is given for one of them only
goes to the other. The same holds of what is made of any aggregates and typedefs, for a typedef with a
tag or a body. -/
theorem typedef_names_share_iff (content : Text) :
    (∀ t ∈ Source.typedefs (Source.tokens content), ∀ a ∈ t.aliases, ∀ b ∈ t.aliases,
      SharesNames (Source.typedefs (Source.tokens content)) (scan content) t a.name b.name) ∧
    ∀ specifiers typedefs, ∀ t ∈ typedefs, t.tag.isSome = true ∨ t.hasBody = true →
      ∀ a ∈ t.aliases, ∀ b ∈ t.aliases,
        SharesNames typedefs (gather Query.all specifiers typedefs) t a.name b.name := by
  refine ⟨fun t ht a ha b hb => ?_, fun specifiers _ t ht hnamed a ha b hb => ?_⟩
  · exact sharesNames_gather _ ht (Source.Typedef.named ht) ha hb
  · exact sharesNames_gather specifiers ht hnamed ha hb

/-- A tag with two further names, around a pointer to it. -/
def taggedPair : Text := "typedef struct T { int x; } A, *P, B;".toList

/-- A size for one of the names of a tag is one for the other. -/
theorem share_taggedPair :
    OneType (scan taggedPair) "A".toList "B".toList ∧
      (spreadSizes (scan taggedPair) [("B".toList, 4)]).get? "A".toList = some 4 := by
  let a : Source.Alias := ⟨"A".toList, 28⟩
  let b : Source.Alias := ⟨"B".toList, 35⟩
  let t : Source.Typedef := ⟨.structType, some "T".toList, true, 1, 0, [a, b]⟩
  have ht : t ∈ Source.typedefs (Source.tokens taggedPair) := by decide +kernel
  have hsingle : ∀ name, name ∈ SizeMap.names [("B".toList, 4)] ↔ name = b.name :=
    fun _ => List.mem_singleton
  obtain ⟨hshares, -⟩ := typedef_names_share_iff taggedPair
  have hab := hshares t ht a (by decide) b (by decide)
  have hba := hshares t ht b (by decide) a (by decide)
  exact ⟨hab.ofTag rfl, (hba.sizes _ 4 (by decide) hsingle).2.mpr (hba.ofTag rfl)⟩

/-- An aggregate without a tag and with two names. -/
def untaggedPair : Text := "typedef struct { int x; } A, B;".toList

theorem typedefs_untaggedPair :
    Source.typedefs (Source.tokens untaggedPair) =
      [⟨.structType, none, true, 1, 0, [⟨"A".toList, 26⟩, ⟨"B".toList, 29⟩]⟩] := by
  decide +kernel

theorem scan_untaggedPair :
    scan untaggedPair =
      [⟨"A".toList, .structType, 1, []⟩, ⟨"B".toList, .structType, 1, []⟩] := by
  have hspecifiers : Source.specifiers (Source.tokens untaggedPair) = [] := by decide +kernel
  have hall : (Query.all.filter fun q => Query.all.contains q) =
      [.aggregates .structType, .aggregates .unionType, .aggregates .classType, .typedefs] := by
    decide
  have hnamings : namings (Source.typedefs (Source.tokens untaggedPair)) =
      [⟨.structType, none, true, 1, ⟨"A".toList, 26⟩⟩,
        ⟨.structType, none, true, 1, ⟨"B".toList, 29⟩⟩] := by
    rw [typedefs_untaggedPair, namings, List.mergeSort_of_pairwise (by decide)]
    rfl
  have hcollect : collect Query.all (Source.specifiers (Source.tokens untaggedPair))
      (Source.typedefs (Source.tokens untaggedPair)) =
        [⟨"A".toList, .structType, 1, []⟩, ⟨"B".toList, .structType, 1, []⟩] := by
    simp only [collect, hall, List.foldl_cons, List.foldl_nil, runQuery, hspecifiers, hnamings]
    decide
  rw [scan, scanWith, gather, hcollect, List.mergeSort_of_pairwise (by decide)]

/-- **Without a tag, the names of one typedef fall apart.** They are declared as two types, and the
size of the one is not that of the other. -/
theorem untaggedPair_apart :
    ¬ (∀ t ∈ Source.typedefs (Source.tokens untaggedPair), ∀ a ∈ t.aliases, ∀ b ∈ t.aliases,
      OneType (scan untaggedPair) a.name b.name) ∧
    (spreadSizes (scan untaggedPair) [("A".toList, 4)]).get? "B".toList = none := by
  rw [typedefs_untaggedPair, scan_untaggedPair]
  constructor
  · intro h
    have hshare := h _ (List.mem_singleton_self _) ⟨"A".toList, 26⟩ (by decide) ⟨"B".toList, 29⟩
      (by decide)
    exact absurd hshare (by decide)
  · decide

end TypeLens.Declaration
