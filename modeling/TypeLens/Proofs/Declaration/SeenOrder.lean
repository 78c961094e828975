/-
# TypeLens.Proofs.Declaration.SeenOrder -- in which order declarations are reported

A name is declared at some sites of a text: where an aggregate with its body stands, and where a
typedef gives it. It is first declared at the earliest of them (`Site.Earliest`), those of typedefs
counting only for names without a body.

Declarations are meant to be reported in that order, with the kind and the line of the earliest body
(`FirstSeen`). What a scan reports is something else: the sites are visited query by query, the first
visited one of a name counts, and then the lines are sorted. `scan_firstSeen_iff` says when this makes
a difference. A struct is visited before a union or class of the same name, wherever they stand; and
of names that are first declared on one line, it is the visits that decide which one is reported
first. Where no tag has two bodies and no other name two typedefs, only the second can go wrong
(`onTime_of_unique`).
-/
import TypeLens.Proofs.Declaration.Collecting

namespace TypeLens.Declaration

/-! ## Sites -/

/-- A site at which a name is declared. -/
structure Site where
  origin : Origin
  offset : Nat
  /-- Whether it is that of an aggregate with a body, and not that of a typedef. -/
  bodied : Bool
deriving DecidableEq, Repr

namespace Site

def name (s : Site) : Text := s.origin.name

def line (s : Site) : Nat := s.origin.line

/-- Where an aggregate with a body stands. -/
def ofSpecifier (s : Source.Specifier) : Site := ⟨.ofSpecifier s, s.offset, true⟩

/-- Where a typedef stands that gives a name, if something is declared by that. -/
def ofGiving? (g : Source.Typedef × Source.Alias) : Option Site :=
  (Naming.mk g.1.kind g.1.tag g.1.hasBody g.1.line g.2).origin?.map (⟨·, g.1.offset, false⟩)

/-- The site at which its name is declared first: of those with a body the earliest one, and of
others only if there are none with a body. -/
structure Earliest (sites : List Site) (s : Site) : Prop where
  mem : s ∈ sites
  bodied : ∀ t ∈ sites, t.name = s.name → t.bodied = true → s.bodied = true
  offset_le : ∀ t ∈ sites, t.name = s.name → t.bodied = s.bodied → s.offset ≤ t.offset

instance (sites : List Site) (s : Site) : Decidable (Earliest sites s) :=
  decidable_of_iff
    (s ∈ sites ∧ (∀ t ∈ sites, t.name = s.name → t.bodied = true → s.bodied = true) ∧
      ∀ t ∈ sites, t.name = s.name → t.bodied = s.bodied → s.offset ≤ t.offset)
    ⟨fun h => ⟨h.1, h.2.1, h.2.2⟩, fun h => ⟨h.mem, h.bodied, h.offset_le⟩⟩

end Site

/-- The typedefs with each of the names that they give, in the order in which the names stand in the
text. -/
def givings (typedefs : List Source.Typedef) : List (Source.Typedef × Source.Alias) :=
  (typedefs.flatMap fun t => t.aliases.map (t, ·)).mergeSort fun g h => g.2.offset ≤ h.2.offset

theorem namings_eq_map (typedefs : List Source.Typedef) :
    namings typedefs =
      (givings typedefs).map fun g => ⟨g.1.kind, g.1.tag, g.1.hasBody, g.1.line, g.2⟩ := by
  rw [givings, List.map_mergeSort (s := fun a b : Naming => decide (a.given.offset ≤ b.given.offset))
    (fun _ _ _ _ => rfl), List.map_flatMap]
  simp only [List.map_map]
  rfl

/-- The sites that a query visits. -/
def sitesOf (specifiers : List Source.Specifier) (typedefs : List Source.Typedef) :
    Query → List Site
  | .aggregates kind => (specifiers.filter fun s => s.kind = kind).map .ofSpecifier
  | .typedefs => (givings typedefs).filterMap Site.ofGiving?

/-- The sites at which names are declared, in the order in which they are visited. -/
def sites (specifiers : List Source.Specifier) (typedefs : List Source.Typedef) : List Site :=
  Query.all.flatMap (sitesOf specifiers typedefs)

theorem map_origin_sitesOf (specifiers : List Source.Specifier) (typedefs : List Source.Typedef)
    (q : Query) :
    (sitesOf specifiers typedefs q).map Site.origin = originsOf specifiers typedefs q := by
  cases q with
  | aggregates kind =>
    rw [sitesOf, originsOf, List.map_map]
    rfl
  | typedefs =>
    rw [sitesOf, originsOf, namings_eq_map, List.map_filterMap, List.filterMap_map]
    congr 1
    funext g
    simp [Site.ofGiving?, Function.comp_def]

theorem map_origin_sites (specifiers : List Source.Specifier) (typedefs : List Source.Typedef) :
    (sites specifiers typedefs).map Site.origin = origins Query.all specifiers typedefs := by
  have hall : (Query.all.filter fun q => Query.all.contains q) = Query.all := by decide
  rw [sites, origins, hall, List.map_flatMap]
  simp only [map_origin_sitesOf]

theorem map_mergeSort_line {α : Type} (f : α → Origin) (l : List α) :
    (l.mergeSort fun a b => (f a).line ≤ (f b).line).map f =
      (l.map f).mergeSort fun a b => a.line ≤ b.line :=
  List.map_mergeSort fun _ _ _ _ => rfl

/-- What is reported are the first visited sites of each name, by line. -/
theorem map_origin_gather (specifiers : List Source.Specifier) (typedefs : List Source.Typedef) :
    (gather Query.all specifiers typedefs).map origin =
      ((firstsBy Site.name (sites specifiers typedefs)).mergeSort fun s t => s.line ≤ t.line).map
        Site.origin := by
  have hfirsts : (firstsBy Site.name (sites specifiers typedefs)).map Site.origin =
      firstsBy Origin.name ((sites specifiers typedefs).map Site.origin) :=
    (firstsFrom_map Origin.name Site.origin [] (sites specifiers typedefs)).symm
  have hgather := map_mergeSort_line origin (collect Query.all specifiers typedefs)
  rw [map_origin_collect, ← map_origin_sites, ← hfirsts, ← map_mergeSort_line] at hgather
  exact hgather

section Places

variable {content : Text} {specifiers : List Source.Specifier} {typedefs : List Source.Typedef}
  (hspecifiers : ∀ s ∈ specifiers, Source.PlaceIn content s.line s.offset)
  (htypedefs : ∀ t ∈ typedefs, Source.PlaceIn content t.line t.offset)

include hspecifiers htypedefs

/-- Sites stand in the text, on their lines. -/
theorem placeIn_of_mem_sites {s : Site} (h : s ∈ sites specifiers typedefs) :
    Source.PlaceIn content s.line s.offset := by
  obtain ⟨q, -, h⟩ := List.mem_flatMap.mp h
  cases q with
  | aggregates kind =>
    obtain ⟨d, hd, rfl⟩ := List.mem_map.mp h
    exact hspecifiers d (List.mem_filter.mp hd).1
  | typedefs =>
    obtain ⟨g, hg, hs⟩ := List.mem_filterMap.mp h
    obtain ⟨o, ho, rfl⟩ := Option.map_eq_some_iff.mp hs
    obtain ⟨t, ht, hg⟩ := List.mem_flatMap.mp (List.mem_mergeSort.mp hg)
    obtain ⟨a, -, rfl⟩ := List.mem_map.mp hg
    have hline : o.line = t.line := Naming.line_of_origin? ho
    show Source.PlaceIn content o.line t.offset
    rw [hline]
    exact htypedefs t ht

end Places

/-! ## First-seen order -/

/-- A name is not declared behind another one. -/
def Before (sites : List Site) (x y : Text) : Prop :=
  ∀ s t, Site.Earliest sites s → Site.Earliest sites t → s.name = x → t.name = y →
    s.offset ≤ t.offset

instance (sites : List Site) (x y : Text) : Decidable (Before sites x y) :=
  decidable_of_iff
    (∀ s ∈ sites, ∀ t ∈ sites, Site.Earliest sites s → Site.Earliest sites t → s.name = x →
      t.name = y → s.offset ≤ t.offset)
    ⟨fun h s t hs ht => h s hs.mem t ht.mem hs ht, fun h s _ t _ => h s t⟩

/-- Declarations are in the order in which their names are first declared, and each name with a body
has the kind and the line of the earliest body. -/
structure FirstSeen (sites : List Site) (ds : List Declaration) : Prop where
  order : ds.Pairwise fun d e => Before sites d.name e.name
  earliest : ∀ s, Site.Earliest sites s → s.bodied = true → s.origin ∈ ds.map origin

/-- What is visited first of a name is on the line where the name is first declared, and of the kind
of its earliest body. -/
def OnTime (sites : List Site) : Prop :=
  ∀ s ∈ firstsBy Site.name sites, ∀ t, Site.Earliest sites t → t.name = s.name →
    s.line = t.line ∧ (t.bodied = true → s.origin = t.origin)

instance (sites : List Site) : Decidable (OnTime sites) :=
  decidable_of_iff
    (∀ s ∈ firstsBy Site.name sites, ∀ t ∈ sites, Site.Earliest sites t → t.name = s.name →
      s.line = t.line ∧ (t.bodied = true → s.origin = t.origin))
    ⟨fun h s hs t ht => h s hs t ht.mem ht, fun h s hs t _ => h s hs t⟩

section

variable {specifiers : List Source.Specifier} {typedefs : List Source.Typedef}

/-- Whatever is declared at a site is visited at some site first. -/
theorem exists_mem_firstsBy {found : List Site} {s : Site} (h : s ∈ found) :
    ∃ f ∈ firstsBy Site.name found, f.name = s.name := by
  obtain ⟨f, hf⟩ := Option.isSome_iff_exists.mp
    (List.find?_isSome.mpr ⟨s, h, decide_eq_true (Eq.refl s.name)⟩ :
      (found.find? (·.name = s.name)).isSome = true)
  have hname : f.name = s.name := by simpa using List.find?_some hf
  refine ⟨f, (mem_firstsFrom Site.name).mpr ⟨List.not_mem_nil, ?_⟩, hname⟩
  rw [hname]
  exact hf

/-- Sites of aggregates are visited before those of typedefs. -/
theorem exists_sites_append (specifiers : List Source.Specifier) (typedefs : List Source.Typedef) :
    ∃ aggregates namings, sites specifiers typedefs = aggregates ++ namings ∧
      (∀ s ∈ aggregates, s.bodied = true) ∧ ∀ s ∈ namings, s.bodied = false := by
  let visited := sitesOf specifiers typedefs
  refine ⟨(AggregateKind.all.map Query.aggregates).flatMap visited, visited .typedefs, ?_, ?_, ?_⟩
  · rw [sites, Query.all, List.flatMap_append, List.flatMap_singleton]
  · intro s hs
    obtain ⟨q, hq, hs⟩ := List.mem_flatMap.mp hs
    obtain ⟨kind, -, rfl⟩ := List.mem_map.mp hq
    obtain ⟨d, -, rfl⟩ := List.mem_map.mp hs
    rfl
  · intro s hs
    obtain ⟨g, -, hs⟩ := List.mem_filterMap.mp hs
    obtain ⟨o, -, rfl⟩ := Option.map_eq_some_iff.mp hs
    rfl

/-- A name with a body is visited at one first. -/
theorem bodied_of_mem_firstsBy {s t : Site}
    (hs : s ∈ firstsBy Site.name (sites specifiers typedefs))
    (ht : t ∈ sites specifiers typedefs) (hname : t.name = s.name) (hbodied : t.bodied = true) :
    s.bodied = true := by
  obtain ⟨aggregates, namings, hsplit, haggregates, hnamings⟩ :=
    exists_sites_append specifiers typedefs
  have hmem : t ∈ aggregates := by
    rw [hsplit, List.mem_append] at ht
    refine ht.resolve_right fun ht => ?_
    rw [hnamings t ht] at hbodied
    cases hbodied
  have hfound := ((mem_firstsFrom Site.name).mp hs).2
  rw [hsplit, List.find?_append] at hfound
  obtain ⟨u, hu⟩ := Option.isSome_iff_exists.mp
    (List.find?_isSome.mpr ⟨t, hmem, decide_eq_true hname⟩ :
      (aggregates.find? (·.name = s.name)).isSome = true)
  rw [hu, Option.some_or, Option.some.injEq] at hfound
  rw [← hfound]
  exact haggregates u (List.mem_of_find?_eq_some hu)

/-- Names are visited on time if the site at which each one is first declared is the only one of its
sort: no tag has two bodies, and no name without a body is given by two typedefs. -/
theorem onTime_of_unique
    (h : ∀ t ∈ sites specifiers typedefs, Site.Earliest (sites specifiers typedefs) t →
      ∀ s ∈ sites specifiers typedefs, s.name = t.name → s.bodied = t.bodied → s = t) :
    OnTime (sites specifiers typedefs) := by
  intro s hs t ht hname
  have hmem : s ∈ sites specifiers typedefs := (firstsFrom_sublist Site.name [] _).subset hs
  have hbodied : s.bodied = t.bodied := by
    rw [Bool.eq_iff_iff]
    exact ⟨ht.bodied s hmem hname.symm, bodied_of_mem_firstsBy hs ht.mem hname⟩
  obtain rfl := h t ht.mem ht s hmem hname.symm hbodied
  exact ⟨rfl, fun _ => rfl⟩

/-- The names with a body are as in first-seen order if the first visited sites are so. -/
theorem earliest_reported_iff :
    (∀ t, Site.Earliest (sites specifiers typedefs) t → t.bodied = true →
      t.origin ∈ (gather Query.all specifiers typedefs).map origin) ↔
    ∀ s ∈ firstsBy Site.name (sites specifiers typedefs),
      ∀ t, Site.Earliest (sites specifiers typedefs) t → t.name = s.name → t.bodied = true →
        s.origin = t.origin := by
  have hreported : ∀ o, o ∈ (gather Query.all specifiers typedefs).map origin ↔
      ∃ s ∈ firstsBy Site.name (sites specifiers typedefs), s.origin = o := by
    intro o
    rw [map_origin_gather]
    simp only [List.mem_map, List.mem_mergeSort]
  have hnodup : ((firstsBy Site.name (sites specifiers typedefs)).map Site.name).Nodup :=
    nodup_firstsFrom _ _ _
  simp only [hreported]
  constructor
  · intro h s hs t ht hname hbodied
    obtain ⟨f, hf, hforigin⟩ := h t ht hbodied
    have hfname : f.name = s.name := (congrArg Origin.name hforigin).trans hname
    rw [← List.inj_on_of_nodup_map hnodup hf hs hfname]
    exact hforigin
  · intro h t ht hbodied
    obtain ⟨f, hf, hname⟩ := exists_mem_firstsBy ht.mem
    exact ⟨f, hf, h f hf t ht hname.symm hbodied⟩

/-- The order of the names is the first-seen one if each two first visited sites are reported so. -/
theorem order_reported_iff :
    ((gather Query.all specifiers typedefs).Pairwise fun d e =>
      Before (sites specifiers typedefs) d.name e.name) ↔
    (firstsBy Site.name (sites specifiers typedefs)).Pairwise fun s t =>
      if s.line ≤ t.line then Before (sites specifiers typedefs) s.name t.name
      else Before (sites specifiers typedefs) t.name s.name := by
  have horigins : ((gather Query.all specifiers typedefs).Pairwise fun d e =>
        Before (sites specifiers typedefs) d.name e.name) ↔
      ((gather Query.all specifiers typedefs).map origin).Pairwise fun o p =>
        Before (sites specifiers typedefs) o.name p.name := by
    rw [List.pairwise_map]
    rfl
  rw [horigins, map_origin_gather, List.pairwise_map]
  exact pairwise_mergeSort_iff Site.line _

end

/-- If every site is visited on time, lines never mislead. -/
theorem OnTime.before_of_line_lt {content : Text} {found : List Site} (h : OnTime found)
    (hplaces : ∀ s ∈ found, Source.PlaceIn content s.line s.offset) {s t : Site}
    (hs : s ∈ firstsBy Site.name found) (ht : t ∈ firstsBy Site.name found)
    (hlt : s.line < t.line) : Before found s.name t.name := by
  intro s' t' hs' ht' hsname htname
  by_contra hoffset
  have hmono : t'.line ≤ s'.line :=
    (hplaces t' ht'.mem).line_mono (hplaces s' hs'.mem) (by omega)
  have hsline := (h s hs s' hs' hsname).1
  have htline := (h t ht t' ht' htname).1
  omega

/-- How declarations are reported of names that are declared at the given sites. -/
structure ReportedByVisits (found : List Site) (reported : List Declaration) : Prop where
  /-- The first visited site of each name is reported, stably sorted by line. -/
  visits : reported.map origin =
    ((firstsBy Site.name found).mergeSort fun s t => s.line ≤ t.line).map Site.origin
  /-- This is the first-seen order exactly if the first visited site of a name with a body agrees with
  the earliest one, and no two names come in the wrong order by sorting, or by not being sorted. -/
  firstSeen_iff : FirstSeen found reported ↔
    (∀ s ∈ firstsBy Site.name found, ∀ t, Site.Earliest found t → t.name = s.name →
      t.bodied = true → s.origin = t.origin) ∧
    (firstsBy Site.name found).Pairwise fun s t =>
      if s.line ≤ t.line then Before found s.name t.name else Before found t.name s.name
  /-- If every name is visited on time, that leaves the names on one line: they must be visited in the
  order in which they are first declared. -/
  onTime : OnTime found → (FirstSeen found reported ↔
    (firstsBy Site.name found).Pairwise fun s t => s.line = t.line → Before found s.name t.name)

section Places

variable {content : Text} {specifiers : List Source.Specifier} {typedefs : List Source.Typedef}
  (hspecifiers : ∀ s ∈ specifiers, Source.PlaceIn content s.line s.offset)
  (htypedefs : ∀ t ∈ typedefs, Source.PlaceIn content t.line t.offset)

include hspecifiers htypedefs

theorem reportedByVisits_gather :
    ReportedByVisits (sites specifiers typedefs) (gather Query.all specifiers typedefs) := by
  let found := sites specifiers typedefs
  let firsts := firstsBy Site.name found
  have hiff : FirstSeen found (gather Query.all specifiers typedefs) ↔
      (∀ s ∈ firsts, ∀ t, Site.Earliest found t → t.name = s.name → t.bodied = true →
        s.origin = t.origin) ∧
      firsts.Pairwise fun s t =>
        if s.line ≤ t.line then Before found s.name t.name else Before found t.name s.name := by
    rw [← earliest_reported_iff, ← order_reported_iff]
    exact ⟨fun h => ⟨h.earliest, h.order⟩, fun h => ⟨h.2, h.1⟩⟩
  refine ⟨map_origin_gather specifiers typedefs, hiff, fun htime => ?_⟩
  have hplaces : ∀ s ∈ found, Source.PlaceIn content s.line s.offset :=
    fun s hs => placeIn_of_mem_sites hspecifiers htypedefs hs
  have hearliest : ∀ s ∈ firsts, ∀ t, Site.Earliest found t → t.name = s.name → t.bodied = true →
      s.origin = t.origin := fun s hs t ht hname => (htime s hs t ht hname).2
  rw [hiff, and_iff_right hearliest]
  refine List.Pairwise.iff_of_mem fun {s t} hs ht => ?_
  rcases Nat.lt_trichotomy s.line t.line with hlt | heq | hgt
  · rw [if_pos (Nat.le_of_lt hlt)]
    exact iff_of_true (htime.before_of_line_lt hplaces hs ht hlt)
      fun heq => absurd heq (Nat.ne_of_lt hlt)
  · rw [if_pos (Nat.le_of_eq heq)]
    exact ⟨fun hbefore _ => hbefore, fun h => h heq⟩
  · rw [if_neg (Nat.not_le_of_lt hgt)]
    exact iff_of_true (htime.before_of_line_lt hplaces ht hs hgt)
      fun heq => absurd heq (Nat.ne_of_gt hgt)

end Places

/-- The sites of a text. -/
def sitesIn (content : Text) : List Site :=
  sites (Source.specifiers (Source.tokens content)) (Source.typedefs (Source.tokens content))

theorem reportedByVisits_scan (content : Text) :
    ReportedByVisits (sitesIn content) (scan content) :=
  reportedByVisits_gather (fun _ => Source.Specifier.placeIn) (fun _ => Source.Typedef.placeIn)

/-- **When declarations are reported in first-seen order.** A scan reports what is visited first, and
this is what is seen first under the conditions of `ReportedByVisits`. The same holds of what is made
of any aggregates and typedefs that stand in the text. -/
theorem scan_firstSeen_iff (content : Text) :
    ReportedByVisits (sitesIn content) (scan content) ∧
    ∀ specifiers typedefs,
      (∀ s ∈ specifiers, Source.PlaceIn content s.line s.offset) →
      (∀ t ∈ typedefs, Source.PlaceIn content t.line t.offset) →
      ReportedByVisits (sites specifiers typedefs) (gather Query.all specifiers typedefs) :=
  ⟨reportedByVisits_scan content, fun _ _ => reportedByVisits_gather⟩

/-- Two names on one line, with a typedef between them, and one on the line before. -/
def inTurn : Text :=
  "union U { int x; };\nstruct S { int y; }; typedef struct S T; class C { int z; };".toList

theorem sites_inTurn :
    sitesIn inTurn = [⟨⟨"S".toList, .structType, 2⟩, 20, true⟩, ⟨⟨"U".toList, .unionType, 1⟩, 0, true⟩,
      ⟨⟨"C".toList, .classType, 2⟩, 61, true⟩, ⟨⟨"S".toList, .structType, 2⟩, 41, false⟩] := by
  rw [sitesIn, sites, Source.specifiers, List.mergeSort_of_pairwise (by decide +kernel)]
  decide +kernel

/-- Each name is visited on time, and what is on one line is visited in turn. -/
theorem firstSeen_inTurn :
    OnTime (sitesIn inTurn) ∧ FirstSeen (sitesIn inTurn) (scan inTurn) := by
  have htime : OnTime (sitesIn inTurn) := by
    apply onTime_of_unique
    show ∀ t ∈ sitesIn inTurn, Site.Earliest (sitesIn inTurn) t → ∀ s ∈ sitesIn inTurn,
      s.name = t.name → s.bodied = t.bodied → s = t
    rw [sites_inTurn]
    decide +kernel
  obtain ⟨hreported, -⟩ := scan_firstSeen_iff inTurn
  refine ⟨htime, (hreported.onTime htime).mpr ?_⟩
  rw [sites_inTurn]
  decide +kernel

/-- A tag that is used twice, for a class and in a namespace for a struct, and a union between. -/
def usedTwice : Text :=
  "class S { int y; }; union U { int x; };\nnamespace n { struct S { int z; }; }".toList

/-- **What is seen first can be reported last.** The tag is reported behind the union, as the struct
and not as the class. -/
theorem usedTwice_not_firstSeen :
    (scan usedTwice).map origin =
      [⟨"U".toList, .unionType, 1⟩, ⟨"S".toList, .structType, 2⟩] ∧
    (¬ (scan usedTwice).Pairwise fun d e => Before (sitesIn usedTwice) d.name e.name) ∧
    ¬ ∀ s, Site.Earliest (sitesIn usedTwice) s → s.bodied = true →
      s.origin ∈ (scan usedTwice).map origin := by
  have hsites : sitesIn usedTwice = [⟨⟨"S".toList, .structType, 2⟩, 54, true⟩,
      ⟨⟨"U".toList, .unionType, 1⟩, 20, true⟩, ⟨⟨"S".toList, .classType, 1⟩, 0, true⟩] := by
    rw [sitesIn, sites, Source.specifiers, List.mergeSort_of_pairwise (by decide +kernel)]
    decide +kernel
  have hfirsts : firstsBy Site.name (sitesIn usedTwice) = [⟨⟨"S".toList, .structType, 2⟩, 54, true⟩,
      ⟨⟨"U".toList, .unionType, 1⟩, 20, true⟩] := by
    rw [hsites]
    decide +kernel
  have hscan : (scan usedTwice).map origin =
      [⟨"U".toList, .unionType, 1⟩, ⟨"S".toList, .structType, 2⟩] := by
    rw [(reportedByVisits_scan usedTwice).visits, hfirsts]
    simp [List.mergeSort, Site.line]
  refine ⟨hscan, ?_, ?_⟩
  · have horder : ((scan usedTwice).Pairwise fun d e => Before (sitesIn usedTwice) d.name e.name) ↔
        (firstsBy Site.name (sitesIn usedTwice)).Pairwise fun s t =>
          if s.line ≤ t.line then Before (sitesIn usedTwice) s.name t.name
          else Before (sitesIn usedTwice) t.name s.name := order_reported_iff
    rw [horder, hfirsts, hsites]
    decide +kernel
  · rw [hscan, hsites]
    intro h
    have hclass := h ⟨⟨"S".toList, .classType, 1⟩, 0, true⟩ (by decide +kernel) rfl
    revert hclass
    decide +kernel

end TypeLens.Declaration
