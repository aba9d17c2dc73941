import DecisionTables.Proofs.Expression.Extents
import DecisionTables.Proofs.Text.Trimming
import DecisionTables.Text.Case

/-!
# Lower case

The lower form of a text consists of characters that have no other lower form, so that taking it
again changes nothing. It has blanks and colons where the text has them, and no others: a text
begins or ends with a blank exactly if its lower form does.
-/

namespace DecisionTables.Text

/-! ## Runs -/

/-- Whether no code point from `first` to `last` lies in a range. -/
def outside (first last : Nat) (range : Nat × Nat) : Bool :=
  Nat.blt last range.1 || Nat.blt range.2 first

namespace CaseRun

variable {run other : CaseRun} {code image : Nat}

def lastImage (run : CaseRun) : Nat :=
  run.image + (run.last - run.first)

/-- Whether no image of a run belongs to another run, because the images lie before or behind it, or
because they are even where its code points are odd or the other way round. -/
def clearOf (run other : CaseRun) : Bool :=
  outside run.image run.lastImage (other.first, other.last) ||
    ((Nat.beq run.step 2 || Nat.beq run.first run.last) && Nat.beq other.step 2 &&
      Nat.beq ((run.image + other.first) % 2) 1)

theorem maps_iff : run.apply? code = some image ↔
    (run.first ≤ code ∧ code ≤ run.last ∧ (code - run.first) % run.step = 0) ∧
      run.image + (code - run.first) = image := by
  unfold CaseRun.apply?
  rw [Option.ite_none_right_eq_some, Option.some.injEq]

theorem unmapped_of_clearOf (clear : run.clearOf other = true)
    (mapped : run.apply? code = some image) : other.apply? image = none := by
  obtain ⟨⟨above, below, multiple⟩, rfl⟩ := maps_iff.mp mapped
  unfold CaseRun.apply?
  rw [if_neg]
  rintro ⟨first, last, among⟩
  simp only [clearOf, outside, lastImage, Bool.or_eq_true, Bool.and_eq_true, Nat.blt_eq,
    Nat.beq_eq] at clear
  rcases clear with (before | behind) | ⟨⟨paired | single, step⟩, parity⟩
  · omega
  · omega
  · rw [paired] at multiple
    rw [step] at among
    omega
  · rw [step] at among
    omega

end CaseRun

/-- The code points that lower forms are kept from: the colon, the one with a long lower form, those
of no character, and the blanks. -/
def reservedRanges : List (Nat × Nat) :=
  (0x3A, 0x3A) :: (0x130, 0x130) :: (0xD800, 0xDFFF) :: blankRanges

/-- The lower forms of the runs belong to no run. -/
theorem clearOf_of_mem_lowerRuns {run other : CaseRun} (member : run ∈ lowerRuns)
    (among : other ∈ lowerRuns) : run.clearOf other = true := by
  have clear : (lowerRuns.all fun run => lowerRuns.all run.clearOf) = true := by decide +kernel
  exact List.all_eq_true.mp (List.all_eq_true.mp clear run member) other among

theorem reserved_of_mem_lowerRuns {run : CaseRun} (member : run ∈ lowerRuns) :
    run.lastImage < 0x110000 ∧
      ∀ range ∈ reservedRanges, outside run.image run.lastImage range = true := by
  have kept : (lowerRuns.all fun run => Nat.blt run.lastImage 0x110000 &&
      reservedRanges.all (outside run.image run.lastImage)) = true := by decide +kernel
  have each := List.all_eq_true.mp kept run member
  rwa [Bool.and_eq_true, Nat.blt_eq, List.all_eq_true] at each

/-- Blanks and the colon belong to no run. -/
theorem blank_of_mem_lowerRuns {run : CaseRun} (member : run ∈ lowerRuns) :
    ∀ range ∈ (0x3A, 0x3A) :: blankRanges, outside run.first run.last range = true := by
  have kept : (lowerRuns.all fun run =>
      ((0x3A, 0x3A) :: blankRanges).all (outside run.first run.last)) = true := by decide +kernel
  exact List.all_eq_true.mp (List.all_eq_true.mp kept run member)

/-! ## Characters -/

variable {character : Char}

/-- Whether a character is its own lower form. -/
def IsLower (character : Char) : Prop :=
  character.toNat ≠ 0x3A3 ∧ mapCase lowerRuns longLower character = [character]

/-- A character that may stand in a lower form where the text has another. -/
structure Settled (character : Char) : Prop where
  lower : IsLower character
  blank : isBlank character = false
  colon : character ≠ ':'

theorem find?_longLower (short : character.toNat ≠ 0x130) :
    (longLower.find? fun entry => entry.1 == character.toNat) = none := by
  rw [List.find?_eq_none]
  intro entry member same
  obtain rfl := List.mem_singleton.mp member
  exact short (beq_iff_eq.mp same).symm

theorem isLower_of_unmapped (runs : ∀ run ∈ lowerRuns, run.apply? character.toNat = none)
    (long : character.toNat ≠ 0x130) : IsLower character := by
  have unmapped : (lowerRuns.findSome? fun run => run.apply? character.toNat) = none :=
    List.findSome?_eq_none_iff.mpr runs
  constructor
  · intro sigma
    have capital : (lowerRuns.findSome? fun run => run.apply? 0x3A3) ≠ none := by decide +kernel
    exact capital (sigma ▸ unmapped)
  · rw [mapCase, find?_longLower long, unmapped]

theorem exists_range_of_inRanges {ranges : List (Nat × Nat)} {code : Nat}
    (within : inRanges ranges code = true) : ∃ range ∈ ranges, range.1 ≤ code ∧ code ≤ range.2 := by
  obtain ⟨range, member, among⟩ := List.mem_flatMap.mp (mem_codes_of_inRanges within)
  have bounds := List.mem_range'_1.mp among
  exact ⟨range, member, by omega, by omega⟩

theorem not_mem_of_outside {first last code : Nat} {range : Nat × Nat}
    (apart : outside first last range = true) (above : first ≤ code) (below : code ≤ last) :
    ¬(range.1 ≤ code ∧ code ≤ range.2) := by
  rw [outside, Bool.or_eq_true, Nat.blt_eq, Nat.blt_eq] at apart
  omega

/-- The lower forms of the runs are settled. -/
theorem settled_of_maps {run : CaseRun} (member : run ∈ lowerRuns) {code image : Nat}
    (mapped : run.apply? code = some image) : Settled (Char.ofNat image) := by
  obtain ⟨⟨above, below, _⟩, shifted⟩ := CaseRun.maps_iff.mp mapped
  obtain ⟨bounded, apart⟩ := reserved_of_mem_lowerRuns member
  have unreserved : ∀ range ∈ reservedRanges, ¬(range.1 ≤ image ∧ image ≤ range.2) := by
    intro range among
    have last : image ≤ run.lastImage := by
      rw [CaseRun.lastImage]
      omega
    exact not_mem_of_outside (apart range among) (by omega) last
  have surrogate := unreserved (0xD800, 0xDFFF) (by decide)
  have long := unreserved (0x130, 0x130) (by decide)
  have colon := unreserved (0x3A, 0x3A) (by decide)
  have valid : image.isValidChar := by
    rw [CaseRun.lastImage] at bounded
    rw [Nat.isValidChar]
    omega
  have code_eq : (Char.ofNat image).toNat = image := by
    rw [Char.ofNat, dif_pos valid]
    rfl
  refine ⟨isLower_of_unmapped ?_ ?_, ?_, ?_⟩
  · intro other among
    rw [code_eq]
    exact CaseRun.unmapped_of_clearOf (clearOf_of_mem_lowerRuns member among) mapped
  · rw [code_eq]
    omega
  · rw [isBlank, code_eq]
    by_contra blank
    obtain ⟨range, among, within⟩ := exists_range_of_inRanges (eq_true_of_ne_false blank)
    refine unreserved range ?_ within
    simp [reservedRanges, among]
  · intro same
    have code : image = 0x3A := code_eq.symm.trans (congrArg Char.toNat same)
    omega

/-- The lower form of a character among others. -/
def lowered (before : List Char) (character : Char) (rest : List Char) : List Char :=
  if character.toNat == 0x3A3 then
    [if startsCased before && !startsCased rest then Char.ofNat 0x3C2 else Char.ofNat 0x3C3]
  else mapCase lowerRuns longLower character

variable {before rest characters : List Char}

theorem lowerFrom_cons :
    lowerFrom before (character :: rest) =
      lowered before character rest ++ lowerFrom (character :: before) rest := rfl

/-- The two lower forms of the capital sigma and the parts of the long lower form are settled. -/
theorem settled_of_mem {code : Nat} (member : code ∈ [0x3C2, 0x3C3, 0x69, 0x307]) :
    Settled (Char.ofNat code) := by
  have unmapped : ([0x3C2, 0x3C3, 0x69, 0x307].all fun code =>
      lowerRuns.all fun run => Option.isNone <| run.apply? code) = true := by decide +kernel
  have plain : ∀ code ∈ [0x3C2, 0x3C3, 0x69, 0x307], (Char.ofNat code).toNat = code ∧
      code ≠ 0x130 ∧ inRanges blankRanges code = false ∧ code ≠ 0x3A := by decide
  obtain ⟨code_eq, long, blank, colon⟩ := plain code member
  refine ⟨isLower_of_unmapped ?_ ?_, ?_, ?_⟩
  · intro run among
    rw [code_eq]
    have none := List.all_eq_true.mp (List.all_eq_true.mp unmapped code member) run among
    exact Option.isNone_iff_eq_none.mp none
  · rwa [code_eq]
  · rwa [isBlank, code_eq]
  · intro same
    exact colon (code_eq.symm.trans (congrArg Char.toNat same))

/-- Neither blanks nor the colon have another lower form. -/
theorem solid_of_mem_lowerRuns {run : CaseRun} (member : run ∈ lowerRuns) {image : Nat}
    (mapped : run.apply? character.toNat = some image) :
    isBlank character = false ∧ character ≠ ':' := by
  obtain ⟨⟨above, below, _⟩, _⟩ := CaseRun.maps_iff.mp mapped
  have other : ∀ range ∈ (0x3A, 0x3A) :: blankRanges,
      ¬(range.1 ≤ character.toNat ∧ character.toNat ≤ range.2) := fun range among =>
    not_mem_of_outside (blank_of_mem_lowerRuns member range among) above below
  constructor
  · by_contra blank
    obtain ⟨range, among, within⟩ := exists_range_of_inRanges (eq_true_of_ne_false blank)
    exact other range (List.mem_cons_of_mem _ among) within
  · rintro rfl
    exact other (0x3A, 0x3A) List.mem_cons_self ⟨Nat.le_refl _, Nat.le_refl _⟩

/-- A character is its own lower form, or it has another one, which is settled. -/
theorem lowered_cases (before : List Char) (character : Char) (rest : List Char) :
    (lowered before character rest = [character] ∧ IsLower character) ∨
      lowered before character rest ≠ [] ∧
        (∀ image ∈ lowered before character rest, Settled image) ∧
        isBlank character = false ∧ character ≠ ':' := by
  by_cases sigma : character.toNat = 0x3A3
  · obtain rfl : character = 'Σ' := Char.toNat_inj.mp sigma
    have form : lowered before 'Σ' rest =
        [if startsCased before && !startsCased rest then Char.ofNat 0x3C2
          else Char.ofNat 0x3C3] := rfl
    rw [form]
    refine .inr ⟨List.cons_ne_nil _ _, ?_, by decide, by decide⟩
    · intro image member
      rw [List.mem_singleton] at member
      split at member
      · exact member ▸ settled_of_mem (by decide)
      · exact member ▸ settled_of_mem (by decide)
  · have plain : lowered before character rest = mapCase lowerRuns longLower character := by
      rw [lowered, if_neg (by simpa using sigma)]
    rw [plain]
    by_cases long : character.toNat = 0x130
    · obtain rfl : character = 'İ' := Char.toNat_inj.mp long
      have parts : mapCase lowerRuns longLower 'İ' = [0x69, 0x307].map Char.ofNat := rfl
      rw [parts]
      refine .inr ⟨by decide, ?_, by decide, by decide⟩
      intro image member
      obtain ⟨code, among, rfl⟩ := List.mem_map.mp member
      exact settled_of_mem (List.mem_cons_of_mem _ (List.mem_cons_of_mem _ among))
    · cases mapped : lowerRuns.findSome? fun run => run.apply? character.toNat with
      | none =>
          have lower := isLower_of_unmapped (List.findSome?_eq_none_iff.mp mapped) long
          exact .inl ⟨lower.2, lower⟩
      | some image =>
          obtain ⟨run, member, applied⟩ := List.exists_of_findSome?_eq_some mapped
          have form : mapCase lowerRuns longLower character = [Char.ofNat image] := by
            rw [mapCase, find?_longLower long, mapped]
          rw [form]
          refine .inr ⟨List.cons_ne_nil _ _, ?_, solid_of_mem_lowerRuns member applied⟩
          rw [List.forall_mem_singleton]
          exact settled_of_maps member applied

/-! ## Texts -/

theorem lowered_ne_nil : lowered before character rest ≠ [] := by
  rcases lowered_cases before character rest with ⟨same, _⟩ | ⟨some, _⟩
  · exact same ▸ List.cons_ne_nil _ _
  · exact some

/-- Every character of a lower form is its own lower form. -/
theorem isLower_of_mem_lowerFrom :
    ∀ image ∈ lowerFrom before characters, IsLower image := by
  induction characters generalizing before with
  | nil => exact nofun
  | cons character rest ih =>
      rw [lowerFrom_cons, List.forall_mem_append]
      refine ⟨?_, ih⟩
      rcases lowered_cases before character rest with ⟨same, lower⟩ | ⟨_, settled, _⟩
      · rw [same, List.forall_mem_singleton]
        exact lower
      · exact fun image member => (settled image member).lower

theorem lowerFrom_of_isLower (lower : ∀ character ∈ characters, IsLower character) :
    lowerFrom before characters = characters := by
  induction characters generalizing before with
  | nil => rfl
  | cons character rest ih =>
      obtain ⟨⟨sigma, same⟩, lower⟩ := List.forall_mem_cons.mp lower
      rw [lowerFrom_cons, lowered, if_neg (by simpa using sigma), same, ih lower]
      rfl

/-- Taking the lower form again changes nothing. -/
theorem lowerFrom_lowerFrom (before other characters : List Char) :
    lowerFrom other (lowerFrom before characters) = lowerFrom before characters :=
  lowerFrom_of_isLower isLower_of_mem_lowerFrom

theorem lowerFrom_eq_nil_iff : lowerFrom before characters = [] ↔ characters = [] := by
  cases characters with
  | nil => exact iff_of_true rfl rfl
  | cons character rest =>
      refine iff_of_false ?_ (List.cons_ne_nil _ _)
      rw [lowerFrom_cons]
      exact List.append_ne_nil_of_left_ne_nil lowered_ne_nil _

theorem colon_notMem_lowerFrom (plain : ':' ∉ characters) : ':' ∉ lowerFrom before characters := by
  induction characters generalizing before with
  | nil => exact plain
  | cons character rest ih =>
      rw [List.mem_cons, not_or] at plain
      obtain ⟨other, plain⟩ := plain
      rw [lowerFrom_cons, List.mem_append, not_or]
      refine ⟨?_, ih plain⟩
      rcases lowered_cases before character rest with ⟨same, _⟩ | ⟨_, settled, _⟩
      · rwa [same, List.mem_singleton]
      · exact fun member => (settled ':' member).colon rfl

/-- The lower form of a character is blank where the character is. -/
theorem isBlank_of_mem_lowered {image : Char} (member : image ∈ lowered before character rest) :
    isBlank image = isBlank character := by
  rcases lowered_cases before character rest with ⟨same, _⟩ | ⟨_, settled, solid, _⟩
  · rw [same, List.mem_singleton] at member
    rw [member]
  · rw [(settled image member).blank, solid]

theorem head?_lowerFrom :
    (lowerFrom before characters).head?.map isBlank = characters.head?.map isBlank := by
  cases characters with
  | nil => rfl
  | cons character rest =>
      have first := List.head?_eq_some_head (@lowered_ne_nil character before rest)
      rw [lowerFrom_cons, List.head?_append_of_ne_nil _ lowered_ne_nil, first, Option.map_some,
        isBlank_of_mem_lowered (List.head_mem _)]
      rfl

theorem getLast?_lowerFrom :
    (lowerFrom before characters).getLast?.map isBlank = characters.getLast?.map isBlank := by
  induction characters generalizing before with
  | nil => rfl
  | cons character rest ih =>
      cases rest with
      | nil =>
          have last := List.getLast?_eq_some_getLast (@lowered_ne_nil character before [])
          rw [lowerFrom_cons, lowerFrom, List.append_nil, last, Option.map_some,
            isBlank_of_mem_lowered (List.getLast_mem _)]
          rfl
      | cons next rest =>
          have later : lowerFrom (character :: before) (next :: rest) ≠ [] :=
            mt lowerFrom_eq_nil_iff.mp (List.cons_ne_nil _ _)
          rw [lowerFrom_cons, List.getLast?_append_of_ne_nil _ later, ih, List.getLast?_cons_cons]

/-- A lower form begins and ends with blanks where the text does. -/
theorem trimmed_lowerFrom_iff :
    trimmed (lowerFrom before characters) = lowerFrom before characters ↔
      trimmed characters = characters := by
  have solid (found : Option Char) : (∀ character ∈ found, isBlank character = false) ↔
      ∀ blank ∈ found.map isBlank, blank = false := by simp
  rw [trimmed_eq_self_iff, trimmed_eq_self_iff]
  simp only [solid, head?_lowerFrom, getLast?_lowerFrom]

end DecisionTables.Text
