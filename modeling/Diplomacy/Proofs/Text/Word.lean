import Diplomacy.Proofs.Text.Character

namespace Diplomacy

def Text.words (text : Text) : List Text :=
  (text.splitOnP isBlank).filter fun word => !word.isEmpty

/-- A word of a name is not empty and has nothing but name characters. -/
def IsWord (word : Text) : Prop :=
  word ≠ [] ∧ ∀ character ∈ word, isNameCharacter character = true

instance (word : Text) : Decidable (IsWord word) :=
  @instDecidableAnd _ _ inferInstance (List.decidableBAll _ word)

/-- A place is spelled by words with runs of blanks between them. -/
inductive SpelledBy : List Text → Text → Prop where
  | last {word : Text} (isWord : IsWord word) : SpelledBy [word] word
  | more {word blanks place : Text} {words : List Text} (isWord : IsWord word)
      (nonempty : blanks ≠ []) (blank : AllBlank blanks) (rest : SpelledBy words place) :
      SpelledBy (word :: words) (word ++ (blanks ++ place))

@[simp] theorem Text.words_nil : Text.words [] = [] := rfl

/-- Every blank separates the words before it from those after it. -/
theorem Text.words_append_cons (before after : Text) {blank : Char}
    (isBlank : isBlank blank = true) :
    Text.words (before ++ blank :: after) = Text.words before ++ Text.words after := by
  rw [Text.words, List.splitOnP_append_cons before after isBlank, List.filter_append]
  rfl

theorem Text.words_blanks_append {blanks : Text} (blank : AllBlank blanks) (after : Text) :
    Text.words (blanks ++ after) = Text.words after := by
  induction blanks with
  | nil => rfl
  | cons first rest ih =>
      have step := Text.words_append_cons [] (rest ++ after) (blank first List.mem_cons_self)
      rw [List.cons_append]
      exact step.trans (ih fun other member => blank other (List.mem_cons_of_mem _ member))

/-- Blanks between two texts keep their words apart. -/
theorem Text.words_append_blanks_append (before after : Text) {blanks : Text}
    (blank : AllBlank blanks) (nonempty : blanks ≠ []) :
    Text.words (before ++ (blanks ++ after)) = Text.words before ++ Text.words after := by
  cases blanks with
  | nil => exact absurd rfl nonempty
  | cons first rest =>
      have later : AllBlank rest := fun other member => blank other (List.mem_cons_of_mem _ member)
      rw [List.cons_append, Text.words_append_cons _ _ (blank first List.mem_cons_self),
        Text.words_blanks_append later]

/-- A text that starts with a blank has its words after those of the text before it. -/
theorem Text.words_append_of_startsBlank (before : Text) {after : Text}
    (starts : startsBlank after = true) :
    Text.words (before ++ after) = Text.words before ++ Text.words after := by
  obtain ⟨blanks, equal, blank, nonempty⟩ := Text.exists_blanks_append_trimStart after
  rw [equal, Text.words_append_blanks_append _ _ blank (nonempty starts),
    Text.words_blanks_append blank]

/-- A text without blanks is its own only word. -/
theorem Text.words_of_solid {word : Text} (nonempty : word ≠ [])
    (solid : ∀ character ∈ word, isBlank character = false) : Text.words word = [word] := by
  rw [Text.words, List.splitOnP_eq_singleton solid]
  simp [nonempty]

/-- A part without blanks is the first word if a blank or nothing follows it. -/
theorem Text.words_solid_append {word rest : Text} (nonempty : word ≠ [])
    (solid : ∀ character ∈ word, isBlank character = false)
    (stops : rest = [] ∨ startsBlank rest = true) :
    Text.words (word ++ rest) = word :: Text.words rest := by
  rcases stops with rfl | starts
  · rw [List.append_nil, Text.words_of_solid nonempty solid, Text.words_nil]
  · rw [Text.words_append_of_startsBlank word starts, Text.words_of_solid nonempty solid]
    rfl

/-- Behind the first word stands a blank or nothing. -/
theorem Text.dropWord_stops (text : Text) :
    (text.dropWhile fun character => !isBlank character) = [] ∨
      startsBlank (text.dropWhile fun character => !isBlank character) = true := by
  induction text with
  | nil => exact Or.inl rfl
  | cons character rest ih =>
      by_cases blank : isBlank character = true
      · right
        rw [List.dropWhile_cons_of_neg (by simp [blank])]
        exact blank
      · rw [List.dropWhile_cons_of_pos (by simp [blank])]
        exact ih

/-- What stands at the start of a text without blanks before it begins the first word. -/
theorem Text.exists_words_eq_cons {opening : Text} (nonempty : opening ≠ [])
    (solid : ∀ character ∈ opening, isBlank character = false) (rest : Text) :
    ∃ word words, Text.words (opening ++ rest) = word :: words ∧ opening <+: word := by
  let tail := rest.takeWhile fun character => !isBlank character
  let after := rest.dropWhile fun character => !isBlank character
  have whole : opening ++ rest = (opening ++ tail) ++ after := by
    rw [List.append_assoc, List.takeWhile_append_dropWhile]
  have solidWord : ∀ character ∈ opening ++ tail, isBlank character = false := by
    intro character member
    rcases List.mem_append.1 member with early | late
    · exact solid character early
    · simpa using List.mem_takeWhile_imp late
  refine ⟨opening ++ tail, Text.words after, ?_, List.prefix_append _ _⟩
  rw [whole]
  exact Text.words_solid_append (by simp [nonempty]) solidWord (Text.dropWord_stops rest)

/-- A text that ends in a name has a word. -/
theorem EndsInName.words_ne_nil {text : Text} (ends : EndsInName text) : Text.words text ≠ [] := by
  obtain ⟨blanks, equal, blank, -⟩ := Text.exists_blanks_append_trimStart text
  have stops := startsBlank_trimStart text
  cases rest : Text.trimStart text with
  | nil =>
      exfalso
      obtain ⟨before, last, whole, named⟩ := ends
      rw [rest, List.append_nil] at equal
      have isBlank : isBlank last = true := by
        apply blank last
        rw [← equal, whole]
        simp
      rw [isNameCharacter_of_isBlank isBlank] at named
      cases named
  | cons character later =>
      rw [rest] at equal stops
      have solid : ∀ other ∈ [character], isBlank other = false := by
        simpa [startsBlank] using stops
      obtain ⟨word, words, found, -⟩ :=
        Text.exists_words_eq_cons (List.cons_ne_nil character []) solid later
      rw [equal, Text.words_blanks_append blank]
      rw [List.singleton_append] at found
      simp [found]

/-- A word has no blank in it. -/
theorem IsWord.solid {word : Text} (isWord : IsWord word) :
    ∀ character ∈ word, isBlank character = false :=
  fun character member => isBlank_of_isNameCharacter (isWord.2 character member)

theorem IsWord.startsInName {word : Text} (isWord : IsWord word) : startsInName word = true := by
  cases word with
  | nil => exact absurd rfl isWord.1
  | cons character rest => exact isWord.2 character List.mem_cons_self

theorem IsWord.endsInName {word : Text} (isWord : IsWord word) : EndsInName word := by
  have split := List.dropLast_concat_getLast isWord.1
  exact ⟨_, _, split.symm, isWord.2 _ (List.getLast_mem isWord.1)⟩

section SpelledBy

variable {words : List Text} {place : Text}

/-- One space is enough between two words. -/
theorem SpelledBy.space {word : Text} (isWord : IsWord word) (rest : SpelledBy words place) :
    SpelledBy (word :: words) (word ++ ' ' :: place) := by
  have blank : AllBlank [' '] := by decide
  exact .more isWord (List.cons_ne_nil _ _) blank rest

/-- The words of a place are the words that spell it. -/
theorem SpelledBy.words_eq (spelled : SpelledBy words place) : Text.words place = words := by
  induction spelled with
  | last isWord => exact Text.words_of_solid isWord.1 isWord.solid
  | more isWord nonempty blank rest ih =>
      rw [Text.words_append_blanks_append _ _ blank nonempty,
        Text.words_of_solid isWord.1 isWord.solid, ih]
      rfl

/-- A place is spelled by words only. -/
theorem SpelledBy.isWord (spelled : SpelledBy words place) : ∀ word ∈ words, IsWord word := by
  induction spelled with
  | last isWord => simpa using isWord
  | more isWord nonempty blank rest ih => simpa using ⟨isWord, ih⟩

theorem SpelledBy.startsInName (spelled : SpelledBy words place) : startsInName place = true := by
  cases spelled with
  | last isWord => exact isWord.startsInName
  | more isWord nonempty blank rest =>
      rw [startsInName_append isWord.1]
      exact isWord.startsInName

theorem SpelledBy.endsInName (spelled : SpelledBy words place) : EndsInName place := by
  induction spelled with
  | last isWord => exact isWord.endsInName
  | more isWord nonempty blank rest ih => exact (ih.append _).append _

/-- A place that is spelled by words holds name characters and blanks only. -/
theorem SpelledBy.named_or_blank (spelled : SpelledBy words place) :
    ∀ character ∈ place, isNameCharacter character = true ∨ isBlank character = true := by
  induction spelled with
  | last isWord => exact fun character member => Or.inl (isWord.2 character member)
  | more isWord nonempty blank rest ih =>
      intro character member
      rcases List.mem_append.1 member with early | late
      · exact Or.inl (isWord.2 character early)
      · rcases List.mem_append.1 late with gap | later
        · exact Or.inr (blank character gap)
        · exact ih character later

end SpelledBy

example : Text.words " spain (sc)\t- ".toList = ["spain".toList, "(sc)".toList, "-".toList] := by
  decide

end Diplomacy
