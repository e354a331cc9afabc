import Diplomacy.Proofs.Text.Character

namespace Diplomacy

def NoName (text : Text) : Prop :=
  ∀ character ∈ text, isNameCharacter character = false

instance (text : Text) : Decidable (NoName text) :=
  List.decidableBAll _ text

/-- A single character ends a name exactly if it is a name character. -/
theorem endsInName_singleton_iff (character : Char) :
    EndsInName [character] ↔ isNameCharacter character = true := by
  constructor
  · intro given
    obtain ⟨before, last, equal, named⟩ := given
    have same : [character].getLast? = (before ++ [last]).getLast? := by rw [← equal]
    rw [List.getLast?_append] at same
    cases same
    exact named
  · intro named
    exact ⟨[], character, rfl, named⟩

theorem endsInName_cons_iff (character : Char) {rest : Text} (nonempty : rest ≠ []) :
    EndsInName (character :: rest) ↔ EndsInName rest := by
  constructor
  · intro ends
    rw [← List.singleton_append] at ends
    exact ends.of_append nonempty
  · exact EndsInName.append [character]

/-- A name grows by one character at its start. -/
def extendName (character : Char) (ending : Text × Text) : Text × Text :=
  (character :: ending.1, ending.2)

/-- A name ends at a character if that is a name character and none follows it. -/
theorem nameEndings_cons (character : Char) (rest : Text) :
    nameEndings (character :: rest) =
      if isNameCharacter character && !startsInName rest then
        ([character], rest) :: (nameEndings rest).map (extendName character)
      else (nameEndings rest).map (extendName character) := rfl

/-- A name ends at the first character or is one character longer than a name of the rest. -/
theorem mem_nameEndings_cons_iff {character : Char} {rest name remainder : Text} :
    (name, remainder) ∈ nameEndings (character :: rest) ↔
      ((isNameCharacter character && !startsInName rest) = true ∧
        name = [character] ∧ remainder = rest) ∨
      ∃ shorter, (shorter, remainder) ∈ nameEndings rest ∧ name = character :: shorter := by
  have longer : (name, remainder) ∈ (nameEndings rest).map (extendName character) ↔
      ∃ shorter, (shorter, remainder) ∈ nameEndings rest ∧ name = character :: shorter := by
    simp [extendName, eq_comm]
  rw [nameEndings_cons]
  split
  · rename_i boundary
    rw [List.mem_cons, longer, Prod.mk.injEq]
    simp only [boundary, true_and]
  · rename_i inside
    rw [longer]
    simp only [inside, Bool.false_eq_true, false_and, false_or]

/-- The names are the parts before the ends of words. -/
theorem mem_nameEndings_iff {text name remainder : Text} :
    (name, remainder) ∈ nameEndings text ↔
      name ++ remainder = text ∧ EndsInName name ∧ startsInName remainder = false := by
  induction text generalizing name with
  | nil =>
      simp only [nameEndings, List.not_mem_nil, false_iff]
      intro given
      obtain ⟨equal, ends, -⟩ := given
      exact ends.ne_nil (List.append_eq_nil_iff.1 equal).1
  | cons character rest ih =>
      rw [mem_nameEndings_cons_iff]
      constructor
      · intro given
        rcases given with ⟨boundary, rfl, rfl⟩ | ⟨shorter, member, rfl⟩
        · simp only [Bool.and_eq_true, Bool.not_eq_true'] at boundary
          exact ⟨rfl, (endsInName_singleton_iff character).2 boundary.1, boundary.2⟩
        · obtain ⟨equal, ends, stops⟩ := ih.1 member
          exact ⟨by rw [List.cons_append, equal], ends.append [character], stops⟩
      · intro given
        obtain ⟨equal, ends, stops⟩ := given
        cases name with
        | nil => exact absurd rfl ends.ne_nil
        | cons first shorter =>
            rw [List.cons_append] at equal
            obtain ⟨rfl, later⟩ := List.cons.inj equal
            by_cases empty : shorter = []
            · subst empty
              have named := (endsInName_singleton_iff first).1 ends
              obtain rfl : remainder = rest := later
              exact Or.inl ⟨by simp [named, stops], rfl, rfl⟩
            · have ends := (endsInName_cons_iff first empty).1 ends
              exact Or.inr ⟨shorter, ih.2 ⟨later, ends, stops⟩, rfl⟩

/-- Blanks before a text stay in front of every name. -/
theorem nameEndings_blanks_append {blanks : Text} (blank : AllBlank blanks) (rest : Text) :
    nameEndings (blanks ++ rest) =
      (nameEndings rest).map fun ending => (blanks ++ ending.1, ending.2) := by
  induction blanks with
  | nil => simp
  | cons first others ih =>
      have unnamed := isNameCharacter_of_isBlank (blank first List.mem_cons_self)
      have later : AllBlank others :=
        fun other member => blank other (List.mem_cons_of_mem _ member)
      rw [List.cons_append, nameEndings_cons, unnamed, ih later, Bool.false_and, List.map_map]
      rfl

/-- A longer name comes after a shorter one. -/
theorem nameEndings_pairwise (text : Text) :
    (nameEndings text).Pairwise fun first second => first.1.length < second.1.length := by
  induction text with
  | nil => exact .nil
  | cons character rest ih =>
      have longer : ((nameEndings rest).map (extendName character)).Pairwise
          fun first second => first.1.length < second.1.length := by
        rw [List.pairwise_map]
        exact ih.imp fun less => Nat.succ_lt_succ less
      rw [nameEndings_cons]
      split
      · refine List.pairwise_cons.2 ⟨fun other member => ?_, longer⟩
        obtain ⟨⟨name, remainder⟩, found, rfl⟩ := List.mem_map.1 member
        have nonempty := (mem_nameEndings_iff.1 found).2.1.ne_nil
        simpa [extendName] using List.length_pos_iff.2 nonempty
      · exact longer

/-- A name begins at the first name character of a text. -/
theorem NoName.dropWhile_append {unnamed text : Text} (skips : NoName unnamed)
    (starts : startsInName text = true) :
    ((unnamed ++ text).dropWhile fun character => !isNameCharacter character) = text := by
  rw [List.dropWhile_append_of_pos fun character member => by simp [skips character member]]
  cases text with
  | nil => cases starts
  | cons character rest =>
      have named : isNameCharacter character = true := starts
      rw [List.dropWhile_cons_of_neg (by simp [named])]

/-- A listed name is what remains between a part that belongs to no name and the rest of the text.
-/
theorem mem_placeNames_iff {text name remainder : Text} :
    (name, remainder) ∈ placeNames text ↔
      ∃ skipped, text = skipped ++ (name ++ remainder) ∧ NoName skipped ∧
        startsInName name = true ∧ EndsInName name ∧ startsInName remainder = false := by
  rw [placeNames, mem_nameEndings_iff]
  constructor
  · intro given
    obtain ⟨equal, ends, stops⟩ := given
    refine ⟨text.takeWhile fun character => !isNameCharacter character, ?_, ?_, ?_, ends, stops⟩
    · rw [equal, List.takeWhile_append_dropWhile]
    · intro character member
      simpa using List.mem_takeWhile_imp member
    · have starts : startsInName (name ++ remainder) = startsInName name :=
        startsInName_append ends.ne_nil
      rw [← starts, equal]
      cases rest : text.dropWhile fun character => !isNameCharacter character with
      | nil =>
          rw [rest] at equal
          exact absurd (List.append_eq_nil_iff.1 equal).1 ends.ne_nil
      | cons character later =>
          have kept := List.head_dropWhile_not (l := text)
            (p := fun character => !isNameCharacter character) (by rw [rest]; simp)
          simpa [rest, startsInName] using kept
  · intro given
    obtain ⟨skipped, rfl, unnamed, starts, ends, stops⟩ := given
    refine ⟨?_, ends, stops⟩
    rw [unnamed.dropWhile_append]
    rw [startsInName_append ends.ne_nil]
    exact starts

/-- Nothing is skipped in front of a name. -/
theorem placeNames_of_startsInName {text : Text} (starts : startsInName text = true) :
    placeNames text = nameEndings text := by
  have unnamed : NoName [] := by simp [NoName]
  rw [placeNames, ← List.nil_append text, unnamed.dropWhile_append starts]
  rfl

/-- The listed names become longer. -/
theorem placeNames_pairwise (text : Text) :
    (placeNames text).Pairwise fun first second => first.1.length < second.1.length :=
  nameEndings_pairwise _

/-- The names before a given one include every shorter name. -/
theorem mem_of_shorter_name {text : Text} {earlier later : List (Text × Text)}
    {name other : Text × Text} (split : placeNames text = earlier ++ name :: later)
    (member : other ∈ placeNames text) (shorter : other.1.length < name.1.length) :
    other ∈ earlier := by
  have sorted := placeNames_pairwise text
  rw [split] at member sorted
  have longer := (List.pairwise_cons.1 (List.pairwise_append.1 sorted).2.1).1
  rcases List.mem_append.1 member with early | late
  · exact early
  · rcases List.mem_cons.1 late with rfl | behind
    · omega
    · have := longer other behind
      omega

/-- A name that comes earlier is a proper beginning of every later one. -/
theorem placeNames_pairwise_beginning (text : Text) :
    (placeNames text).Pairwise fun first second => first.1 <+: second.1 ∧ first.1 ≠ second.1 := by
  refine (placeNames_pairwise text).imp_of_mem ?_
  intro first second firstMember secondMember shorter
  have firstEqual := append_of_mem_nameEndings firstMember
  have secondEqual := append_of_mem_nameEndings secondMember
  refine ⟨List.prefix_of_prefix_length_le ⟨_, firstEqual⟩ ⟨_, secondEqual⟩ (by omega), ?_⟩
  intro same
  rw [same] at shorter
  omega

/-- What ends in a name has a first name character. -/
theorem EndsInName.exists_start {text : Text} (ends : EndsInName text) :
    ∃ skipped name, text = skipped ++ name ∧ NoName skipped ∧ startsInName name = true ∧
      EndsInName name := by
  induction text with
  | nil => exact absurd rfl ends.ne_nil
  | cons character rest ih =>
      by_cases named : isNameCharacter character = true
      · exact ⟨[], character :: rest, rfl, by simp [NoName], named, ends⟩
      · have nonempty : rest ≠ [] := by
          intro same
          subst same
          exact named ((endsInName_singleton_iff character).1 ends)
        obtain ⟨skipped, name, rfl, unnamed, starts, later⟩ :=
          ih ((endsInName_cons_iff character nonempty).1 ends)
        have unnamed : NoName (character :: skipped) := by simpa [NoName, named] using unnamed
        exact ⟨character :: skipped, name, rfl, unnamed, starts, later⟩

theorem NoName.of_allBlank {text : Text} (blank : AllBlank text) : NoName text :=
  fun character member => isNameCharacter_of_isBlank (blank character member)

/-- A text that ends with a name holds a name character. -/
theorem EndsInName.not_noName {text : Text} (ends : EndsInName text) : ¬ NoName text := by
  obtain ⟨before, last, rfl, named⟩ := ends
  intro unnamed
  rw [unnamed last (by simp)] at named
  cases named

theorem EndsInName.not_allBlank {text : Text} (ends : EndsInName text) : ¬ AllBlank text :=
  fun blank => ends.not_noName (NoName.of_allBlank blank)

/-- A part that ends in a name does not end within characters that belong to none. -/
theorem EndsInName.exists_behind {first second middle rest : Text} (ends : EndsInName first)
    (unnamed : NoName middle) (equal : first ++ second = middle ++ rest) :
    ∃ own, first = middle ++ own ∧ EndsInName own ∧ rest = own ++ second := by
  rcases List.append_eq_append_iff.1 equal with ⟨excess, rfl, -⟩ | ⟨own, rfl, same⟩
  · exact absurd (fun character member => unnamed character (List.mem_append_left _ member))
      ends.not_noName
  · have nonempty : own ≠ [] := by
      rintro rfl
      rw [List.append_nil] at ends
      exact ends.not_noName unnamed
    exact ⟨own, rfl, ends.of_append nonempty, same⟩

/-- A text of the given kind stands behind a name. -/
def BehindName (tail : Text → Prop) (text : Text) : Prop :=
  ∃ before after, text = before ++ after ∧ EndsInName before ∧ tail after

section BehindName

variable {tail other : Text → Prop}

theorem not_behindName_nil : ¬ BehindName tail [] := by
  intro given
  obtain ⟨before, after, equal, ends, -⟩ := given
  exact ends.ne_nil (List.append_eq_nil_iff.1 equal.symm).1

/-- What stands in front of a text does not change what stands behind its names. -/
theorem BehindName.append {text : Text} (behind : BehindName tail text) (opening : Text) :
    BehindName tail (opening ++ text) := by
  obtain ⟨before, after, rfl, ends, fits⟩ := behind
  exact ⟨opening ++ before, after, (List.append_assoc ..).symm, ends.append opening, fits⟩

/-- The name ends with the first character or later. -/
theorem behindName_cons_iff {character : Char} {rest : Text} :
    BehindName tail (character :: rest) ↔
      (isNameCharacter character = true ∧ tail rest) ∨ BehindName tail rest := by
  constructor
  · intro given
    obtain ⟨before, after, equal, ends, fits⟩ := given
    cases before with
    | nil => exact absurd rfl ends.ne_nil
    | cons first others =>
        obtain ⟨rfl, rfl⟩ := List.cons.inj equal
        by_cases empty : others = []
        · subst empty
          exact Or.inl ⟨(endsInName_singleton_iff character).1 ends, fits⟩
        · exact Or.inr ⟨others, after, rfl, (endsInName_cons_iff character empty).1 ends, fits⟩
  · intro given
    rcases given with ⟨named, fits⟩ | behind
    · exact ⟨[character], rest, rfl, (endsInName_singleton_iff character).2 named, fits⟩
    · exact behind.append [character]

/-- The name ends within the first text or within the second one. -/
theorem behindName_append_iff {first second : Text} :
    BehindName tail (first ++ second) ↔
      BehindName (fun later => tail (later ++ second)) first ∨ BehindName tail second := by
  induction first with
  | nil => simp [not_behindName_nil]
  | cons character rest ih => rw [List.cons_append, behindName_cons_iff, behindName_cons_iff, ih,
      or_assoc]

/-- A part without names at the start has nothing behind it. -/
theorem behindName_unnamed_iff {unnamed text : Text} (skips : NoName unnamed) :
    BehindName tail (unnamed ++ text) ↔ BehindName tail text := by
  rw [behindName_append_iff]
  refine or_iff_right fun given => ?_
  obtain ⟨before, after, rfl, ends, -⟩ := given
  exact ends.not_noName fun character member => skips character (List.mem_append_left _ member)

theorem BehindName.imp {text : Text} (ends : EndsInName text)
    (weaker : ∀ later, later = [] ∨ EndsInName later → tail later → other later)
    (behind : BehindName tail text) : BehindName other text := by
  obtain ⟨before, after, rfl, beforeEnds, fits⟩ := behind
  refine ⟨before, after, rfl, beforeEnds, weaker after ?_ fits⟩
  by_cases empty : after = []
  · exact Or.inl empty
  · exact Or.inr (ends.of_append empty)

end BehindName

/-- Some name stands before a remainder exactly if the text before it ends in a name. -/
theorem exists_mem_placeNames_iff {text remainder : Text} :
    (∃ name, (name, remainder) ∈ placeNames text) ↔
      ∃ before, text = before ++ remainder ∧ EndsInName before ∧
        startsInName remainder = false := by
  constructor
  · intro given
    obtain ⟨name, member⟩ := given
    obtain ⟨skipped, rfl, unnamed, starts, ends, stops⟩ := mem_placeNames_iff.1 member
    exact ⟨skipped ++ name, by simp, ends.append skipped, stops⟩
  · intro given
    obtain ⟨before, rfl, ends, stops⟩ := given
    obtain ⟨skipped, name, rfl, unnamed, starts, later⟩ := ends.exists_start
    exact ⟨name, mem_placeNames_iff.2 ⟨skipped, by simp, unnamed, starts, later, stops⟩⟩

/-- In a list that is ordered by length, a search finds the shortest name that will do. -/
theorem findSome?_placeNames_of_shortest {B : Type} {find : Text × Text → Option B}
    {place after : Text} {found : B} (starts : startsInName place = true)
    (ends : EndsInName place) (stops : startsInName after = false)
    (accepted : find (place, after) = some found)
    (refused : ∀ shorter later, place = shorter ++ later → later ≠ [] → EndsInName shorter →
      startsInName later = false → find (shorter, later ++ after) = none) :
    (placeNames (place ++ after)).findSome? find = some found := by
  have member : (place, after) ∈ placeNames (place ++ after) :=
    mem_placeNames_iff.2 ⟨[], rfl, by simp [NoName], starts, ends, stops⟩
  obtain ⟨before, behind, split⟩ := List.append_of_mem member
  refine List.findSome?_eq_some_iff.2 ⟨before, (place, after), behind, split, accepted, ?_⟩
  intro candidate early
  obtain ⟨shorter, remainder⟩ := candidate
  have sorted := placeNames_pairwise (place ++ after)
  rw [split] at sorted
  have less : shorter.length < place.length :=
    (List.pairwise_append.1 sorted).2.2 _ early _ List.mem_cons_self
  have earlyMember : (shorter, remainder) ∈ nameEndings (place ++ after) := by
    rw [← placeNames_of_startsInName ((startsInName_append ends.ne_nil).trans starts), split]
    exact List.mem_append_left _ early
  obtain ⟨equal, shorterEnds, remainderStops⟩ := mem_nameEndings_iff.1 earlyMember
  obtain ⟨later, rfl⟩ : shorter <+: place :=
    List.prefix_of_prefix_length_le ⟨remainder, equal⟩ (List.prefix_append place after)
      (Nat.le_of_lt less)
  have nonempty : later ≠ [] := by
    intro same
    subst same
    simp at less
  obtain rfl : remainder = later ++ after := by
    rw [List.append_assoc] at equal
    exact List.append_cancel_left equal
  rw [startsInName_append nonempty] at remainderStops
  exact refused shorter later rfl nonempty shorterEnds remainderStops

/-- This function finds the name that reaches to the end of a text. -/
def wholeName? (text : Text) : Option Text :=
  (placeNames text).findSome? fun (name, remainder) =>
    if remainder.isEmpty then some name else none

/-- The whole name of a text is all of it behind what belongs to no name. -/
theorem wholeName?_eq_some_iff {text name : Text} :
    wholeName? text = some name ↔
      ∃ skipped, text = skipped ++ name ∧ NoName skipped ∧ startsInName name = true ∧
        EndsInName name := by
  have member_iff (found : Text) : (found, []) ∈ placeNames text ↔
      ∃ skipped, text = skipped ++ found ∧ NoName skipped ∧ startsInName found = true ∧
        EndsInName found := by
    rw [mem_placeNames_iff]
    simp [startsInName]
  rw [← member_iff]
  have sound (found : Text) (equal : wholeName? text = some found) :
      (found, []) ∈ placeNames text := by
    obtain ⟨⟨candidate, remainder⟩, member, kept⟩ := List.exists_of_findSome?_eq_some equal
    cases remainder with
    | nil =>
        cases kept
        exact member
    | cons character rest => cases kept
  constructor
  · exact sound name
  · intro member
    cases search : wholeName? text with
    | none =>
        have missed := List.findSome?_eq_none_iff.1 search _ member
        simp at missed
    | some found =>
        -- Two names that reach to the end begin at the same character.
        have first := (mem_nameEndings_iff.1 (sound found search)).1
        have second := (mem_nameEndings_iff.1 member).1
        rw [List.append_nil] at first second
        rw [first, second]

/-- If a search finds at most one thing in a list, then listing it is the same as finding it. -/
theorem filterMap_eq_toList_findSome? {A B : Type} {items : List A} {find : A → Option B}
    (once : items.Pairwise fun first second => find first = none ∨ find second = none) :
    items.filterMap find = (items.findSome? find).toList := by
  induction items with
  | nil => rfl
  | cons item rest ih =>
      obtain ⟨apart, later⟩ := List.pairwise_cons.1 once
      cases found : find item with
      | none => rw [List.filterMap_cons_none found, ih later, List.findSome?_cons, found]
      | some value =>
          have missing : rest.filterMap find = [] := by
            rw [List.filterMap_eq_nil_iff]
            intro other member
            rcases apart other member with none | none
            · rw [found] at none
              cases none
            · exact none
          rw [List.filterMap_cons_some found, missing, List.findSome?_cons, found]
          rfl

/-- Only one name reaches to the end of a text. -/
theorem placeNames_once (text : Text) :
    (placeNames text).Pairwise fun first second => first.2 ≠ [] ∨ second.2 ≠ [] := by
  apply (placeNames_pairwise text).imp_of_mem
  intro first second firstMember secondMember shorter
  by_contra both
  rw [not_or, not_not, not_not] at both
  have firstWhole := append_of_mem_nameEndings firstMember
  have secondWhole := append_of_mem_nameEndings secondMember
  rw [both.1, List.append_nil] at firstWhole
  rw [both.2, List.append_nil] at secondWhole
  rw [firstWhole, secondWhole] at shorter
  exact Nat.lt_irrefl _ shorter

/-- Among the listed names only the whole name leaves nothing. -/
theorem filterMap_whole_placeNames {A : Type} (text : Text) (make : Text → A) :
    ((placeNames text).filterMap fun (name, remainder) =>
        if remainder.isEmpty then some (make name) else none) =
      ((wholeName? text).map make).toList := by
  rw [filterMap_eq_toList_findSome?, wholeName?, List.map_findSome?]
  · congr
    funext item
    dsimp only [Function.comp_apply]
    split <;> rfl
  · apply (placeNames_once text).imp
    intro first second apart
    simpa using apart

end Diplomacy
