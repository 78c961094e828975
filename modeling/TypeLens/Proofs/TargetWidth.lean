/-
# TypeLens.Proofs.TargetWidth -- the widths that descriptors name and the targets they resolve to

A descriptor is read by its markers alone: which width it names, if any, depends on nothing but the
markers that occur in it when each of its characters is lowered on its own (`width?_congr`). Blanks
hold no part of a marker, and no marker has a sigma, the one letter whose small form looks at its
neighbours. So the exact form that a descriptor is shown in does not matter for its width, and
reading that form again gives the same (`width?_canonical`).

More text before or behind a descriptor can complete a marker across the seam, but it takes none
away. Hence readings only grow, with nothing below 32 bits and 32 bits below 64 bits
(`rank_width?_append`).

Letter case is what lower-casing removes. Two letters that only capitals equate, such as the plain i
and the dotless one, are different letters here, and no descriptor is compared in capitals.
-/
import TypeLens.Architecture
import TypeLens.Proofs.Text.Pieces

namespace TypeLens

namespace Target

variable {d d' : Text}

/-! ## Markers -/

/-- No marker has a blank or a sigma. -/
theorem marker_chars {m : Text} (hm : m ∈ markers64 ++ markers32) :
    ∀ c ∈ m, isBlank c = false ∧ c ≠ 'σ' ∧ c ≠ 'ς' := by
  have hall : (markers64 ++ markers32).all (fun m =>
      m.all fun c => !isBlank c && (c != 'σ' && c != 'ς')) = true := by
    decide +kernel
  intro c hc
  have hchar := List.all_eq_true.mp (List.all_eq_true.mp hall m hm) c hc
  simpa using hchar

/-- One of the markers occurs in the descriptor, in whatever letter case. -/
def Marked (markers : List Text) (d : Text) : Prop :=
  ∃ m ∈ markers, m <:+: d.flatMap lowerChar

theorem Marked.mono {ms : List Text} (hd : Marked ms d)
    (h : ∀ m ∈ ms, m <:+: d.flatMap lowerChar → m <:+: d'.flatMap lowerChar) : Marked ms d' := by
  obtain ⟨m, hm, hin⟩ := hd
  exact ⟨m, hm, h m hm hin⟩

theorem infix_canonical_iff {m : Text} (hm : m ∈ markers64 ++ markers32) (d : Text) :
    m <:+: canonical d ↔ m <:+: d.flatMap lowerChar := by
  have hchars := marker_chars hm
  rw [canonical, infix_lower_iff fun c hc => (hchars c hc).2,
    infix_lowered_trim_iff fun c hc => (hchars c hc).1]

theorem any_occursIn_iff {ms : List Text} (hms : ∀ m ∈ ms, m ∈ markers64 ++ markers32) (d : Text) :
    ms.any (occursIn · (canonical d)) = true ↔ Marked ms d := by
  rw [List.any_eq_true]
  refine exists_congr fun m => and_congr_right fun hm => ?_
  rw [occursIn_iff, infix_canonical_iff (hms m hm)]

theorem any_markers64_iff (d : Text) :
    markers64.any (occursIn · (canonical d)) = true ↔ Marked markers64 d :=
  any_occursIn_iff (fun _ hm => List.mem_append_left _ hm) d

theorem any_markers32_iff (d : Text) :
    markers32.any (occursIn · (canonical d)) = true ↔ Marked markers32 d :=
  any_occursIn_iff (fun _ hm => List.mem_append_right _ hm) d

/-! ## The width that a descriptor names -/

/-- No marker is empty, so an empty descriptor is no case of its own. -/
theorem width?_eq (d : Text) : width? d =
    if markers64.any (occursIn · (canonical d)) then some .bits64
    else if markers32.any (occursIn · (canonical d)) then some .bits32
    else none := by
  rw [width?]
  by_cases hnil : canonical d = []
  · rw [hnil]
    decide +kernel
  · exact if_neg (by simpa using hnil)

/-- The ways in which a descriptor can be read. -/
theorem width?_cases (d : Text) :
    (Marked markers64 d ∧ width? d = some .bits64) ∨
      (¬ Marked markers64 d ∧ Marked markers32 d ∧ width? d = some .bits32) ∨
      (¬ Marked markers64 d ∧ ¬ Marked markers32 d ∧ width? d = none) := by
  rw [width?_eq, ← any_markers64_iff, ← any_markers32_iff]
  cases markers64.any (occursIn · (canonical d)) <;>
    cases markers32.any (occursIn · (canonical d)) <;> decide

/-! ## More text -/

/-- How much a reading says: nothing, that the target has 32 bits, or that it has 64. -/
def rank : Option Width → Nat
  | none => 0
  | some .bits32 => 1
  | some .bits64 => 2

theorem rank_injective : Function.Injective rank := by
  rintro (_ | _ | _) (_ | _ | _) h <;> simp_all [rank]

/-- A descriptor that has the markers of another one says as much. -/
theorem rank_width?_le (h : ∀ m ∈ markers64 ++ markers32,
    m <:+: d.flatMap lowerChar → m <:+: d'.flatMap lowerChar) :
    rank (width? d) ≤ rank (width? d') := by
  rcases width?_cases d with ⟨hd, hw⟩ | ⟨-, hd, hw⟩ | ⟨-, -, hw⟩
  · have hd' : Marked markers64 d' := hd.mono fun m hm => h m (List.mem_append_left _ hm)
    rcases width?_cases d' with ⟨-, hw'⟩ | ⟨hnot, -⟩ | ⟨hnot, -⟩
    · rw [hw, hw']
    · exact absurd hd' hnot
    · exact absurd hd' hnot
  · -- a 64-bit marker may have come in
    have hd' : Marked markers32 d' := hd.mono fun m hm => h m (List.mem_append_right _ hm)
    rcases width?_cases d' with ⟨-, hw'⟩ | ⟨-, -, hw'⟩ | ⟨-, hnot, -⟩
    · rw [hw, hw']
      decide
    · rw [hw, hw']
    · exact absurd hd' hnot
  · rw [hw]
    exact Nat.zero_le _

/-- **More text never says less.** -/
theorem rank_width?_append (before d behind : Text) :
    rank (width? d) ≤ rank (width? (before ++ d ++ behind)) := by
  refine rank_width?_le fun m _ hin => hin.trans ?_
  rw [List.flatMap_append, List.flatMap_append]
  exact List.infix_append _ _ _

/-- A marker may be completed across the seam, and by one of the other width. -/
example : width? "ar".toList = none ∧ width? "arm".toList = some .bits32 ∧
    width? "arm64".toList = some .bits64 := by
  decide +kernel

/-! ## Letter case and blanks -/

/-- Only the markers of a descriptor count. -/
theorem width?_congr (h : ∀ m ∈ markers64 ++ markers32,
    m <:+: d.flatMap lowerChar ↔ m <:+: d'.flatMap lowerChar) : width? d = width? d' :=
  rank_injective (Nat.le_antisymm (rank_width?_le fun m hm => (h m hm).mp)
    (rank_width?_le fun m hm => (h m hm).mpr))

theorem width?_blanks {lead trail : Text} (hlead : ∀ c ∈ lead, isBlank c = true)
    (htrail : ∀ c ∈ trail, isBlank c = true) (d : Text) :
    width? (lead ++ d ++ trail) = width? d :=
  width?_congr fun _ hm =>
    infix_lowered_blanks_iff (fun c hc => (marker_chars hm c hc).1) hlead htrail d

theorem width?_lowered (h : d.flatMap lowerChar = d'.flatMap lowerChar ∨ lower d = lower d') :
    width? d = width? d' := by
  refine width?_congr fun m hm => ?_
  rcases h with hchars | htext
  · rw [hchars]
  · have hm : ∀ c ∈ m, c ≠ 'σ' ∧ c ≠ 'ς' := fun c hc => (marker_chars hm c hc).2
    rw [← infix_lower_iff hm, htext, infix_lower_iff hm]

/-- The form that a descriptor is shown in names the same width. -/
theorem width?_canonical (d : Text) : width? (canonical d) = width? d := by
  refine width?_congr fun m hm => ?_
  rw [← infix_canonical_iff hm d, canonical, flatMap_lowerChar_lower]

end Target

/-! ## Targets -/

namespace Architecture

open Target

variable {host : Host} {d : Text} {w : Width}

/-- How the label of a target begins. -/
def targetLead (w : Width) : Text := widthName w ++ " (target: ".toList

/-- How the label of a host ends that stands in for a target. -/
def standInNote : Text := " (target unavailable, host fallback)".toList

/-- A target of known width, under the descriptor that it is shown with. -/
def named (w : Width) (shown : Text) : Architecture := ⟨w, targetLead w ++ shown ++ ")".toList⟩

/-- The host in place of a target whose width is not known. -/
def standIn (host : Host) : Architecture := ⟨host.width, host.machine ++ standInNote⟩

theorem ofDescriptor_eq_named (hd : width? d = some w) :
    ofDescriptor host d = named w (canonical d) := by
  simp only [ofDescriptor, width?_canonical, hd, named, targetLead]

theorem ofDescriptor_eq_standIn (hd : width? d = none) : ofDescriptor host d = standIn host := by
  have hnote : standInNote =
      " (".toList ++ "target unavailable, host fallback".toList ++ ")".toList := by
    decide +kernel
  simp only [ofDescriptor, width?_canonical, hd, ofHost, standIn, hnote, List.append_assoc]

/-! ## Labels that read alike -/

/-- What ends the beginning of a target's label and begins the note on a host is at most a space. -/
theorem overlap_of_labels {c : Text} (hlead : c <:+ targetLead w) (hnote : c <+: standInNote) :
    c = [] ∨ c = [' '] := by
  have hall : ∀ w, ∀ c ∈ (targetLead w).tails, c <+: standInNote → c = [] ∨ c = [' '] := by
    rintro (_ | _) <;> decide +kernel
  exact hall w c ((List.mem_tails c (targetLead w)).mpr hlead) hnote

/-- A host has the label of a target only if the name of the machine begins like one. -/
theorem targetLead_isPrefix_machine (hd : width? d = some w)
    (hlabel : (named w (canonical d)).label = (standIn host).label) :
    targetLead w <+: host.machine := by
  simp only [named, standIn, List.append_assoc] at hlabel
  rcases List.append_eq_append_iff.mp hlabel with ⟨name, hmachine, -⟩ | ⟨c, hlead, hrest⟩
  · exact ⟨name, hmachine.symm⟩
  · -- the name of the machine ends within the beginning of the label
    rcases overlap_of_labels ⟨host.machine, hlead.symm⟩ ⟨_, hrest.symm⟩ with rfl | rfl
    · rw [hlead, List.append_nil]
    · -- then the descriptor is the note, which has no marker
      have hshown : canonical d = "(target unavailable, host fallback".toList := by
        have htail : canonical d ++ ")".toList =
            "(target unavailable, host fallback".toList ++ ")".toList :=
          (List.cons.inj hrest).2.symm
        exact List.append_cancel_right htail
      have hnone : width? "(target unavailable, host fallback".toList = none := by
        decide +kernel
      rw [← width?_canonical, hshown, hnone] at hd
      exact absurd hd.symm (Option.some_ne_none w)

theorem ofDescriptor_eq_standIn_iff (hname : ¬ targetLead host.width <+: host.machine) :
    ofDescriptor host d = standIn host ↔ width? d = none := by
  constructor
  · intro heq
    cases hd : width? d with
    | none => rfl
    | some w =>
      rw [ofDescriptor_eq_named hd] at heq
      have hwidth : w = host.width := congrArg Architecture.width heq
      have hlead := targetLead_isPrefix_machine hd (congrArg Architecture.label heq)
      rw [hwidth] at hlead
      exact absurd hlead hname
  · exact ofDescriptor_eq_standIn

/-- The name of the machine has to be looked at: with this one the host looks like a target whose
descriptor does name a width. -/
example : standIn ⟨"x64 (target: x64".toList, .bits64⟩ =
      named .bits64 "x64 (target unavailable, host fallback".toList ∧
    width? "x64 (target unavailable, host fallback".toList = some .bits64 := by
  decide +kernel

/-- The host stands in on every machine exactly where no width is named. -/
theorem forall_ofDescriptor_eq_standIn_iff :
    (∀ host, ofDescriptor host d = standIn host) ↔ width? d = none := by
  constructor
  · intro hall
    -- one machine without a name is enough
    let nameless : Host := ⟨[], .bits32⟩
    have hname : ¬ targetLead nameless.width <+: nameless.machine := by decide +kernel
    exact (ofDescriptor_eq_standIn_iff hname).mp (hall nameless)
  · exact fun hd host => ofDescriptor_eq_standIn hd

/-- **Widths grow with descriptors, and targets resolve to them.** Text before or behind a
descriptor takes nothing away from what it says, and neither the case of its letters, compared as a
text or character by character, nor the blanks around it change that. In target mode a descriptor
that names a width gives a target of this width, labelled with the descriptor trimmed and in lower
case, whatever the host; a missing descriptor counts as an empty one. The host stands in exactly
where no width is named, and every host shows whether it does, unless the name of its machine begins
like the label of a target. -/
theorem target_width_grows_and_resolves :
    (∀ before d behind, rank (width? d) ≤ rank (width? (before ++ d ++ behind))) ∧
    (∀ lead d d' trail, (∀ c ∈ lead, isBlank c = true) → (∀ c ∈ trail, isBlank c = true) →
      d.flatMap lowerChar = d'.flatMap lowerChar ∨ lower d = lower d' →
        width? (lead ++ d ++ trail) = width? d') ∧
    (∀ (s : Settings) d, s.mode = .target → s.descriptor.getD [] = d →
      (∀ w, width? d = some w → ∀ host, resolve host s = named w (lower (trim d))) ∧
      ((∀ host, resolve host s = standIn host) ↔ width? d = none) ∧
      ∀ host, ¬ targetLead host.width <+: host.machine →
        (resolve host s = standIn host ↔ width? d = none)) := by
  refine ⟨rank_width?_append, ?_, ?_⟩
  · intro lead d d' trail hlead htrail hcase
    rw [width?_blanks hlead htrail, width?_lowered hcase]
  · rintro s d hmode rfl
    have hresolve : ∀ host, resolve host s = ofDescriptor host (s.descriptor.getD []) := by
      intro host
      rw [resolve, hmode]
    simp only [hresolve]
    exact ⟨fun w hd host => ofDescriptor_eq_named hd, forall_ofDescriptor_eq_standIn_iff,
      fun host hname => ofDescriptor_eq_standIn_iff hname⟩

/-- Settings in target mode. -/
def targetSettings (descriptor : Option Text) : Settings where
  mode := .target
  descriptor := descriptor
  showArchitecture := true
  cacheEnabled := true
  cacheCapacity := 1000

/-- A 32-bit descriptor that becomes a 64-bit one, two spellings of a third, and a 32-bit target, a
missing and an unknown descriptor on a 64-bit host. -/
theorem arm_grows_and_resolves :
    let host : Host := ⟨"x86_64".toList, .bits64⟩
    rank (width? "gcc-arm".toList) ≤
      rank (width? ("x86-".toList ++ "gcc-arm".toList ++ "64".toList)) ∧
    width? (" ".toList ++ "AARCH64-elf".toList ++ "\t\n".toList) = width? "aarch64-ELF".toList ∧
    resolve host (targetSettings (some " Linux-GCC-ARM\t".toList)) =
      ⟨.bits32, "x32 (target: linux-gcc-arm)".toList⟩ ∧
    resolve host (targetSettings none) =
      ⟨.bits64, "x86_64 (target unavailable, host fallback)".toList⟩ ∧
    (resolve host (targetSettings (some "macos-clang".toList)) = standIn host ↔
      width? "macos-clang".toList = none) := by
  intro host
  obtain ⟨hgrow, hcase, htarget⟩ := target_width_grows_and_resolves
  refine ⟨hgrow _ _ _, ?_, ?_, ?_, ?_⟩
  · exact hcase _ _ _ _ (List.all_eq_true.mp (by decide +kernel))
      (List.all_eq_true.mp (by decide +kernel)) (.inl (by decide +kernel))
  · have hnamed := (htarget (targetSettings (some " Linux-GCC-ARM\t".toList)) _ rfl rfl).1 .bits32
      (by decide +kernel) host
    rw [hnamed]
    decide +kernel
  · have hall := (htarget (targetSettings none) _ rfl rfl).2.1.mpr (by decide +kernel) host
    rw [hall]
    decide +kernel
  · exact (htarget (targetSettings (some "macos-clang".toList)) _ rfl rfl).2.2 host
      (by decide +kernel)

end Architecture

end TypeLens
