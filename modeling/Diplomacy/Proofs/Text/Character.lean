import Diplomacy.Place
import Diplomacy.Text.Basic
import Diplomacy.Text.Lowercase
import Mathlib.Data.List.TakeWhile

namespace Diplomacy

def AllBlank (text : Text) : Prop :=
  ∀ character ∈ text, isBlank character = true

instance (text : Text) : Decidable (AllBlank text) :=
  List.decidableBAll _ text

def startsBlank : Text → Bool
  | [] => false
  | character :: _ => isBlank character

/-- The last character of a text can belong to a name. -/
def EndsInName (text : Text) : Prop :=
  ∃ before last, text = before ++ [last] ∧ isNameCharacter last = true

/-- A range of letters and a range of blanks have no point in common. -/
theorem letterRanges_disjoint_blankRanges :
    ∀ letters ∈ letterRanges, ∀ blanks ∈ blankRanges,
      letters.2 < blanks.1 ∨ blanks.2 < letters.1 := by
  decide +kernel

/-- A blank belongs to no name. -/
theorem isNameCharacter_of_isBlank {character : Char} (blank : isBlank character = true) :
    isNameCharacter character = false := by
  have noLetter : isLetter character = false := by
    rw [Bool.eq_false_iff]
    intro letter
    obtain ⟨letters, letterMember, fromLetter, toLetter⟩ := exists_range_of_covers letter
    obtain ⟨blanks, blankMember, fromBlank, toBlank⟩ := exists_range_of_covers blank
    have apart := letterRanges_disjoint_blankRanges letters letterMember blanks blankMember
    omega
  have noPunctuation : namePunctuation.contains character = false := by
    rw [Bool.eq_false_iff]
    intro punctuation
    have plain : namePunctuation.all (fun mark => !isBlank mark) = true := by decide
    have stops := List.all_eq_true.1 plain character (by simpa using punctuation)
    rw [blank] at stops
    cases stops
  rw [isNameCharacter, noLetter, noPunctuation]
  rfl

theorem isBlank_of_isNameCharacter {character : Char} (named : isNameCharacter character = true) :
    isBlank character = false := by
  rw [Bool.eq_false_iff]
  intro blank
  rw [isNameCharacter_of_isBlank blank] at named
  cases named

/-- A blank is no capital letter. -/
theorem toLower_of_isBlank {character : Char} (blank : isBlank character = true) :
    character.toLower = character := by
  have notCapital : ¬ (0x41 ≤ character.toNat ∧ character.toNat ≤ 0x5a) := by
    intro given
    obtain ⟨above, below⟩ := given
    obtain ⟨blanks, member, fromBlank, toBlank⟩ := exists_range_of_covers blank
    have apart : ∀ range ∈ blankRanges, range.2 < 0x41 ∨ 0x5a < range.1 := by decide
    have := apart blanks member
    omega
  exact dif_neg notCapital

/-- What is added behind a text does not change its first character. -/
theorem startsBlank_append {first second : Text} (nonempty : first ≠ []) :
    startsBlank (first ++ second) = startsBlank first := by
  cases first with
  | nil => exact absurd rfl nonempty
  | cons character rest => rfl

theorem startsInName_append {first second : Text} (nonempty : first ≠ []) :
    startsInName (first ++ second) = startsInName first := by
  cases first with
  | nil => exact absurd rfl nonempty
  | cons character rest => rfl

theorem startsBlank_of_allBlank {text : Text} (blank : AllBlank text) (nonempty : text ≠ []) :
    startsBlank text = true := by
  cases text with
  | nil => exact absurd rfl nonempty
  | cons character rest => exact blank character List.mem_cons_self

theorem AllBlank.startsBlank_append {gap : Text} (blank : AllBlank gap) (nonempty : gap ≠ [])
    (rest : Text) : startsBlank (gap ++ rest) = true := by
  rw [Diplomacy.startsBlank_append nonempty]
  exact startsBlank_of_allBlank blank nonempty

/-- No name begins with a blank. -/
theorem startsInName_of_startsBlank {text : Text} (blank : startsBlank text = true) :
    startsInName text = false := by
  cases text with
  | nil => rfl
  | cons character rest => exact isNameCharacter_of_isBlank blank

theorem startsBlank_of_startsInName {text : Text} (named : startsInName text = true) :
    startsBlank text = false := by
  cases text with
  | nil => rfl
  | cons character rest => exact isBlank_of_isNameCharacter named

theorem EndsInName.ne_nil {text : Text} (ends : EndsInName text) : text ≠ [] := by
  obtain ⟨before, last, rfl, named⟩ := ends
  simp

/-- What stands in front of a text does not change its end. -/
theorem EndsInName.append {text : Text} (before : Text) (ends : EndsInName text) :
    EndsInName (before ++ text) := by
  obtain ⟨earlier, last, rfl, named⟩ := ends
  exact ⟨before ++ earlier, last, by simp, named⟩

/-- A part at the end of a text ends as the text does. -/
theorem EndsInName.of_append {first second : Text} (ends : EndsInName (first ++ second))
    (nonempty : second ≠ []) : EndsInName second := by
  obtain ⟨before, last, equal, named⟩ := ends
  have split := List.dropLast_concat_getLast nonempty
  have same : second.getLast nonempty = last := by
    have whole : (first ++ second).getLast (by simp [nonempty]) = last := by simp [equal]
    rwa [List.getLast_append_of_ne_nil _ nonempty] at whole
  exact ⟨second.dropLast, last, by rw [← same, split], named⟩

/-- The blanks at the start of a text are found by their class. -/
theorem Text.trimStart_append {blanks rest : Text} (blank : AllBlank blanks)
    (stops : startsBlank rest = false) : Text.trimStart (blanks ++ rest) = rest := by
  rw [Text.trimStart, List.dropWhile_append_of_pos blank]
  cases rest with
  | nil => rfl
  | cons character rest =>
      have plain : ¬ isBlank character = true := by simpa [startsBlank] using stops
      rw [List.dropWhile_cons_of_neg plain]

/-- Nothing is trimmed from a text that does not begin with a blank. -/
theorem Text.trimStart_of_not_startsBlank {text : Text} (stops : startsBlank text = false) :
    Text.trimStart text = text := by
  have none : AllBlank [] := by
    intro character member
    cases member
  exact Text.trimStart_append none stops

/-- No blank is left at the start of a trimmed text. -/
theorem startsBlank_trimStart (text : Text) : startsBlank (Text.trimStart text) = false := by
  induction text with
  | nil => rfl
  | cons character rest ih =>
      by_cases blank : isBlank character = true
      · rw [Text.trimStart, List.dropWhile_cons_of_pos blank]
        exact ih
      · rw [Text.trimStart, List.dropWhile_cons_of_neg blank]
        simpa [startsBlank] using blank

/-- A part without blanks at the start of a text ends before the first blank. -/
theorem exists_of_solid_append {word first second rest : Text}
    (solid : ∀ character ∈ word, isBlank character = false) (starts : startsBlank second = true)
    (equal : first ++ second = word ++ rest) :
    ∃ own, first = word ++ own ∧ rest = own ++ second := by
  rcases List.append_eq_append_iff.1 equal with ⟨excess, rfl, same⟩ | ⟨own, split, same⟩
  · cases excess with
    | nil => exact ⟨[], by simp, same.symm⟩
    | cons character others =>
        rw [same, List.cons_append] at starts
        have blank : isBlank character = true := starts
        rw [solid character (by simp)] at blank
        cases blank
  · exact ⟨own, split, same⟩

/-- Every text is a run of blanks before a text that starts otherwise. -/
theorem Text.exists_blanks_append_trimStart (text : Text) :
    ∃ blanks, text = blanks ++ Text.trimStart text ∧ AllBlank blanks ∧
      (startsBlank text = true → blanks ≠ []) := by
  refine ⟨text.takeWhile isBlank, (List.takeWhile_append_dropWhile ..).symm, ?_, ?_⟩
  · intro character member
    exact List.mem_takeWhile_imp member
  · intro starts
    cases text with
    | nil => cases starts
    | cons character rest =>
        have blank : isBlank character = true := starts
        simp [blank]

/-- Every text is a run of blanks behind a text that ends otherwise. -/
theorem Text.exists_trimEnd_append_blanks (text : Text) :
    ∃ blanks, text = Text.trimEnd text ++ blanks ∧ AllBlank blanks ∧
      (Text.trimEnd text = [] ∨
        ∃ before last, Text.trimEnd text = before ++ [last] ∧ isBlank last = false) := by
  obtain ⟨blanks, equal, blank, -⟩ := Text.exists_blanks_append_trimStart text.reverse
  have stops := startsBlank_trimStart text.reverse
  have kept : Text.trimEnd text = (Text.trimStart text.reverse).reverse := rfl
  refine ⟨blanks.reverse, ?_, ?_, ?_⟩
  · rw [kept, ← List.reverse_append, ← equal, List.reverse_reverse]
  · intro character member
    exact blank character (List.mem_reverse.1 member)
  · rw [kept]
    cases rest : Text.trimStart text.reverse with
    | nil => exact Or.inl rfl
    | cons last before =>
        rw [rest] at stops
        exact Or.inr ⟨before.reverse, last, List.reverse_cons, stops⟩

/-- All blanks at the end are trimmed, and nothing in front of them is. -/
theorem Text.trimEnd_append {kept blanks : Text}
    (ends : kept = [] ∨ ∃ before last, kept = before ++ [last] ∧ isBlank last = false)
    (blank : AllBlank blanks) : Text.trimEnd (kept ++ blanks) = kept := by
  have reversed : AllBlank blanks.reverse :=
    fun character member => blank character (List.mem_reverse.1 member)
  have stops : startsBlank kept.reverse = false := by
    rcases ends with rfl | ⟨before, last, rfl, plain⟩
    · rfl
    · rw [List.reverse_append]
      exact plain
  have trimmed : Text.trimStart (kept ++ blanks).reverse = kept.reverse := by
    rw [List.reverse_append, Text.trimStart_append reversed stops]
  show (Text.trimStart (kept ++ blanks).reverse).reverse = kept
  rw [trimmed, List.reverse_reverse]

/-- Trimming at the end keeps the start of a text. -/
theorem Text.trimEnd_prefix (text : Text) : Text.trimEnd text <+: text := by
  have suffix := List.dropWhile_suffix isBlank (l := text.reverse)
  rwa [← List.reverse_prefix, List.reverse_reverse] at suffix

/-- Trimming at the end brings no blank to the start. -/
theorem startsBlank_trim (text : Text) : startsBlank (Text.trim text) = false := by
  have stops := startsBlank_trimStart text
  obtain ⟨removed, equal⟩ := Text.trimEnd_prefix (Text.trimStart text)
  rw [Text.trim]
  cases kept : Text.trimEnd (Text.trimStart text) with
  | nil => rfl
  | cons character rest =>
      rw [kept, List.cons_append] at equal
      rwa [← equal] at stops

/-- Nothing is trimmed behind a name. -/
theorem Text.trimEnd_of_endsInName {text : Text} (ends : EndsInName text) :
    Text.trimEnd text = text := by
  obtain ⟨before, last, rfl, named⟩ := ends
  have plain : ¬ isBlank last = true := by rw [isBlank_of_isNameCharacter named]; simp
  rw [Text.trimEnd, List.reverse_append, List.reverse_singleton, List.singleton_append,
    List.dropWhile_cons_of_neg plain, List.reverse_cons, List.reverse_reverse]

/-- Nothing is trimmed from a text without blanks around it. -/
theorem Text.trim_of_endsInName {text : Text} (stops : startsBlank text = false)
    (ends : EndsInName text) : Text.trim text = text := by
  rw [Text.trim, Text.trimStart_of_not_startsBlank stops, Text.trimEnd_of_endsInName ends]

end Diplomacy
