import Diplomacy.Proofs.Place.Boundary
import Diplomacy.Proofs.Text.Spelling

namespace Diplomacy

/-- This function passes over the blanks at the start of a text, which must not be missing. -/
def afterGap? (text : Text) : Option Text :=
  if startsBlank text then some (Text.trimStart text) else none

def afterKeyword? (words : List Text) (text : Text) : Option Text :=
  (keywordAt? words text).map fun word => text.drop word.length

/-- Blanks and a hold keyword make up the whole text. -/
def endsHold (text : Text) : Bool :=
  (afterGap? text).bind (afterKeyword? holdKeywords) == some []

/-- This function finds the destination behind the separator of a move. -/
def destination? (text : Text) : Option Text :=
  (afterKeyword? moveSeparators (Text.trimStart text)).bind fun rest =>
    wholeName? (Text.trimStart rest)

/-- This function finds the text of the order that is helped along. -/
def aidedText? (words : List Text) (text : Text) : Option Text :=
  ((afterGap? text).bind (afterKeyword? words)).bind afterGap?

/-- Blanks and a keyword make up the whole text. -/
def Announces (words : List Text) (text : Text) : Prop :=
  ∃ gap written, text = gap ++ written ∧ gap ≠ [] ∧ AllBlank gap ∧ Spells written words

/-- The hold keywords satisfy the condition on keywords. -/
theorem isKeyword_of_mem_holdKeywords : ∀ word ∈ holdKeywords, IsKeyword word := by
  decide

theorem isKeyword_of_mem_moveSeparators : ∀ word ∈ moveSeparators, IsKeyword word := by
  decide

theorem isKeyword_of_mem_supportKeywords : ∀ word ∈ supportKeywords, IsKeyword word := by
  decide

theorem isKeyword_of_mem_convoyKeywords : ∀ word ∈ convoyKeywords, IsKeyword word := by
  decide

/-- A gap is a nonempty run of blanks before a character that is not blank. -/
theorem afterGap?_eq_some_iff {text rest : Text} :
    afterGap? text = some rest ↔
      ∃ gap, text = gap ++ rest ∧ gap ≠ [] ∧ AllBlank gap ∧ startsBlank rest = false := by
  constructor
  · intro found
    unfold afterGap? at found
    split at found
    · rename_i starts
      cases found
      obtain ⟨gap, equal, blank, nonempty⟩ := Text.exists_blanks_append_trimStart text
      exact ⟨gap, equal, nonempty starts, blank, startsBlank_trimStart text⟩
    · cases found
  · intro given
    obtain ⟨gap, rfl, nonempty, blank, stops⟩ := given
    have starts := blank.startsBlank_append nonempty rest
    rw [afterGap?, if_pos starts, Text.trimStart_append blank stops]

/-- No move separator is a proper prefix of another one. -/
theorem moveSeparators_prefixFree : ∀ first ∈ moveSeparators, ∀ second ∈ moveSeparators,
    first <+: second → first = second := by
  decide

section Keywords

variable {words : List Text}

/-- What stands before the rest is a spelling of one of the keywords. -/
theorem exists_written_of_afterKeyword? (keywords : ∀ word ∈ words, IsKeyword word)
    {text rest : Text} (found : afterKeyword? words text = some rest) :
    ∃ written, text = written ++ rest ∧ Spells written words := by
  obtain ⟨word, search, rfl⟩ := Option.map_eq_some_iff.1 found
  obtain ⟨written, rest, equal, spelled, -, rfl⟩ := exists_written_of_keywordAt? keywords search
  exact ⟨written, equal, spelled⟩

/-- A keyword is read whole when a blank or the end of the text follows it. -/
theorem afterKeyword?_append (keywords : ∀ word ∈ words, IsKeyword word) {written rest : Text}
    (spelled : Spells written words) (stops : rest = [] ∨ startsBlank rest = true) :
    afterKeyword? words (written ++ rest) = some rest := by
  rw [afterKeyword?, keywordAt?_append keywords spelled stops, Option.map_some,
    Text.length_lowered, List.drop_left]

/-- A keyword is read whole before any text when no keyword extends another one. -/
theorem afterKeyword?_append_of_prefixFree (keywords : ∀ word ∈ words, IsKeyword word)
    (apart : ∀ first ∈ words, ∀ second ∈ words, first <+: second → first = second)
    {written : Text} (spelled : Spells written words) (rest : Text) :
    afterKeyword? words (written ++ rest) = some rest := by
  rw [afterKeyword?, keywordAt?_append_of_prefixFree keywords apart spelled, Option.map_some,
    Text.length_lowered, List.drop_left]

/-- The aided text stands behind a keyword that has gaps on both sides. -/
theorem aidedText?_eq_some_iff (keywords : ∀ word ∈ words, IsKeyword word) {text inner : Text} :
    aidedText? words text = some inner ↔
      ∃ gap written space, text = gap ++ (written ++ (space ++ inner)) ∧ gap ≠ [] ∧
        AllBlank gap ∧ Spells written words ∧ space ≠ [] ∧ AllBlank space ∧
        startsBlank inner = false := by
  constructor
  · intro found
    obtain ⟨behind, early, late⟩ := Option.bind_eq_some_iff.1 found
    obtain ⟨start, opened, spoken⟩ := Option.bind_eq_some_iff.1 early
    obtain ⟨gap, rfl, nonempty, blank, -⟩ := afterGap?_eq_some_iff.1 opened
    obtain ⟨written, rfl, spelled⟩ := exists_written_of_afterKeyword? keywords spoken
    obtain ⟨space, rfl, present, spaceBlank, stops⟩ := afterGap?_eq_some_iff.1 late
    exact ⟨gap, written, space, rfl, nonempty, blank, spelled, present, spaceBlank, stops⟩
  · intro given
    obtain ⟨gap, written, space, rfl, nonempty, blank, spelled, present, spaceBlank, stops⟩ := given
    have opened : afterGap? (gap ++ (written ++ (space ++ inner))) =
        some (written ++ (space ++ inner)) :=
      afterGap?_eq_some_iff.2 ⟨gap, rfl, nonempty, blank, spelled.startsBlank_append keywords _⟩
    have starts := spaceBlank.startsBlank_append present inner
    rw [aidedText?, opened, Option.bind_some,
      afterKeyword?_append keywords spelled (Or.inr starts), Option.bind_some]
    exact afterGap?_eq_some_iff.2 ⟨space, rfl, present, spaceBlank, stops⟩

/-- A keyword behind blanks ends before the next blank. -/
theorem exists_behind_keyword (keywords : ∀ word ∈ words, IsKeyword word)
    {text after gap written rest : Text} (ends : EndsInName text)
    (starts : startsBlank after = true) (blank : AllBlank gap) (spelled : Spells written words)
    (equal : text ++ after = gap ++ (written ++ rest)) :
    ∃ own, text = gap ++ (written ++ own) ∧ (own = [] ∨ EndsInName own) ∧ rest = own ++ after := by
  obtain ⟨spoken, rfl, spokenEnds, same⟩ := ends.exists_behind (NoName.of_allBlank blank) equal
  obtain ⟨own, rfl, split⟩ :=
    exists_of_solid_append (spelled.isBlank_eq_false keywords) starts same.symm
  refine ⟨own, rfl, ?_, split⟩
  by_cases empty : own = []
  · exact Or.inl empty
  · exact Or.inr (spokenEnds.of_append empty)

/-- What leads to an aided text starts with a blank. -/
theorem startsBlank_of_aidedText? {text inner : Text} (found : aidedText? words text = some inner) :
    startsBlank text = true := by
  obtain ⟨behind, early, -⟩ := Option.bind_eq_some_iff.1 found
  obtain ⟨start, opened, -⟩ := Option.bind_eq_some_iff.1 early
  obtain ⟨gap, rfl, nonempty, blank, -⟩ := afterGap?_eq_some_iff.1 opened
  exact blank.startsBlank_append nonempty start

/-- A keyword behind a blank begins with the first letter behind it. -/
theorem exists_head_of_keyword (keywords : ∀ word ∈ words, IsKeyword word) {character : Char}
    (solid : isBlank character = false) {gap written rest more : Text} (blank : AllBlank gap)
    (spelled : Spells written words) (equal : ' ' :: character :: more = gap ++ (written ++ rest)) :
    ∃ word ∈ words, word.head? = some character.toLower := by
  have lone : AllBlank [' '] := by decide
  have stops : startsBlank (character :: more) = false := solid
  have trimmed := congrArg Text.trimStart equal
  rw [Text.trimStart_append blank (spelled.startsBlank_append keywords _),
    ← List.singleton_append, Text.trimStart_append lone stops] at trimmed
  refine ⟨Text.lowered written, spelled, ?_⟩
  cases written with
  | nil => exact absurd rfl (spelled.ne_nil keywords)
  | cons first others =>
      obtain ⟨rfl, -⟩ := List.cons.inj trimmed
      rfl

/-- A space and a character that starts no keyword lead to no aided text. -/
theorem aidedText?_eq_none (keywords : ∀ word ∈ words, IsKeyword word) {character : Char}
    (solid : isBlank character = false)
    (quiet : ∀ word ∈ words, word.head? ≠ some character.toLower) (rest : Text) :
    aidedText? words (' ' :: character :: rest) = none := by
  rw [Option.eq_none_iff_forall_ne_some]
  intro inner found
  obtain ⟨gap, written, space, equal, -, blank, spelled, -⟩ :=
    (aidedText?_eq_some_iff keywords).1 found
  obtain ⟨word, member, head⟩ := exists_head_of_keyword keywords solid blank spelled equal
  exact quiet word member head

/-- A space and a character that starts no keyword announce none of the keywords. -/
theorem not_announces_space (keywords : ∀ word ∈ words, IsKeyword word) {character : Char}
    (solid : isBlank character = false)
    (quiet : ∀ word ∈ words, word.head? ≠ some character.toLower) (rest : Text) :
    ¬ Announces words (' ' :: character :: rest) := by
  intro announced
  obtain ⟨gap, written, equal, -, blank, spelled⟩ := announced
  rw [← List.append_nil written] at equal
  obtain ⟨word, member, head⟩ := exists_head_of_keyword keywords solid blank spelled equal
  exact quiet word member head

/-- What follows a text stays behind the order that is helped along. -/
theorem aidedText?_append (keywords : ∀ word ∈ words, IsKeyword word) {text own : Text}
    (ends : EndsInName text) (found : aidedText? words text = some own) (after : Text) :
    EndsInName own ∧ aidedText? words (text ++ after) = some (own ++ after) := by
  obtain ⟨gap, written, space, rfl, nonempty, blank, spelled, present, spaceBlank, stops⟩ :=
    (aidedText?_eq_some_iff keywords).1 found
  have split : gap ++ (written ++ (space ++ own)) = (gap ++ written) ++ (space ++ own) := by simp
  rw [split] at ends
  have whole : EndsInName (space ++ own) := ends.of_append (by simp [present])
  have nonblank : own ≠ [] := by
    rintro rfl
    rw [List.append_nil] at whole
    exact whole.not_allBlank spaceBlank
  refine ⟨whole.of_append nonblank, (aidedText?_eq_some_iff keywords).2
    ⟨gap, written, space, by simp, nonempty, blank, spelled, present, spaceBlank, ?_⟩⟩
  rw [Diplomacy.startsBlank_append nonblank]
  exact stops

/-- Behind a text that ends in a name, the order that is helped along begins either at once or
within that text. -/
theorem aidedText?_append_iff (keywords : ∀ word ∈ words, IsKeyword word) {text after inner : Text}
    (ends : EndsInName text) (starts : startsBlank after = true) :
    aidedText? words (text ++ after) = some inner ↔
      (Announces words text ∧ inner = Text.trimStart after) ∨
        ∃ own, aidedText? words text = some own ∧ inner = own ++ after := by
  constructor
  · intro found
    obtain ⟨gap, written, space, equal, nonempty, blank, spelled, present, spaceBlank, stops⟩ :=
      (aidedText?_eq_some_iff keywords).1 found
    obtain ⟨later, rfl, laterEnds, rest⟩ :=
      exists_behind_keyword keywords ends starts blank spelled equal
    rcases laterEnds with rfl | laterEnds
    · refine Or.inl ⟨⟨gap, written, by simp, nonempty, blank, spelled⟩, ?_⟩
      rw [List.nil_append] at rest
      rw [← rest, Text.trimStart_append spaceBlank stops]
    · obtain ⟨own, rfl, ownEnds, rfl⟩ :=
        laterEnds.exists_behind (NoName.of_allBlank spaceBlank) rest.symm
      rw [Diplomacy.startsBlank_append ownEnds.ne_nil] at stops
      refine Or.inr ⟨own, ?_, rfl⟩
      exact (aidedText?_eq_some_iff keywords).2
        ⟨gap, written, space, rfl, nonempty, blank, spelled, present, spaceBlank, stops⟩
  · intro given
    rcases given with ⟨⟨gap, written, rfl, nonempty, blank, spelled⟩, rfl⟩ | ⟨own, found, rfl⟩
    · obtain ⟨space, equal, spaceBlank, present⟩ := Text.exists_blanks_append_trimStart after
      refine (aidedText?_eq_some_iff keywords).2 ⟨gap, written, space, ?_, nonempty, blank, spelled,
        present starts, spaceBlank, startsBlank_trimStart after⟩
      rw [← equal, List.append_assoc]
    · exact (aidedText?_append keywords ends found after).2

end Keywords

/-- A text ends a hold when it is a gap and a spelling of a hold keyword. -/
theorem endsHold_iff {text : Text} :
    endsHold text = true ↔
      ∃ gap written, text = gap ++ written ∧ gap ≠ [] ∧ AllBlank gap ∧
        Spells written holdKeywords := by
  rw [endsHold, beq_iff_eq]
  constructor
  · intro found
    obtain ⟨start, opened, spoken⟩ := Option.bind_eq_some_iff.1 found
    obtain ⟨gap, rfl, nonempty, blank, -⟩ := afterGap?_eq_some_iff.1 opened
    obtain ⟨written, rfl, spelled⟩ :=
      exists_written_of_afterKeyword? isKeyword_of_mem_holdKeywords spoken
    exact ⟨gap, written, by rw [List.append_nil], nonempty, blank, spelled⟩
  · intro given
    obtain ⟨gap, written, rfl, nonempty, blank, spelled⟩ := given
    have stops := spelled.startsBlank_append isKeyword_of_mem_holdKeywords []
    rw [List.append_nil] at stops
    have opened : afterGap? (gap ++ written) = some written :=
      afterGap?_eq_some_iff.2 ⟨gap, rfl, nonempty, blank, stops⟩
    have spoken := afterKeyword?_append isKeyword_of_mem_holdKeywords spelled (Or.inl rfl)
    rw [List.append_nil] at spoken
    rw [opened, Option.bind_some, spoken]

/-- A text that ends in a name and goes on with a blank announces no keyword. -/
theorem not_announces_append {words : List Text} (keywords : ∀ word ∈ words, IsKeyword word)
    {text after : Text} (ends : EndsInName text) (starts : startsBlank after = true) :
    ¬ Announces words (text ++ after) := by
  intro announced
  obtain ⟨gap, written, equal, -, blank, spelled⟩ := announced
  rw [← List.append_nil written] at equal
  obtain ⟨own, -, -, missing⟩ := exists_behind_keyword keywords ends starts blank spelled equal
  obtain ⟨-, rfl⟩ := List.append_eq_nil_iff.1 missing.symm
  cases starts

/-- Blanks before a name do not change the name. -/
theorem wholeName?_blanks_append {blanks : Text} (blank : AllBlank blanks) (text : Text) :
    wholeName? (blanks ++ text) = wholeName? text := by
  have passed : ∀ character ∈ blanks, (!isNameCharacter character) = true := by
    intro character member
    rw [isNameCharacter_of_isBlank (blank character member)]
    rfl
  rw [wholeName?, wholeName?, placeNames, placeNames, List.dropWhile_append_of_pos passed]

theorem wholeName?_trimStart (text : Text) :
    wholeName? (Text.trimStart text) = wholeName? text := by
  obtain ⟨blanks, equal, blank, -⟩ := Text.exists_blanks_append_trimStart text
  rw [← wholeName?_blanks_append blank, ← equal]

/-- The destination is the whole name behind a separator, with blanks allowed before the separator.
-/
theorem destination?_eq_some_iff {text destination : Text} :
    destination? text = some destination ↔
      ∃ gap separator rest, text = gap ++ (separator ++ rest) ∧ AllBlank gap ∧
        Spells separator moveSeparators ∧ wholeName? rest = some destination := by
  constructor
  · intro found
    obtain ⟨rest, spoken, whole⟩ := Option.bind_eq_some_iff.1 found
    rw [wholeName?_trimStart] at whole
    obtain ⟨gap, equal, blank, -⟩ := Text.exists_blanks_append_trimStart text
    obtain ⟨separator, split, spelled⟩ :=
      exists_written_of_afterKeyword? isKeyword_of_mem_moveSeparators spoken
    exact ⟨gap, separator, rest, by rw [← split, ← equal], blank, spelled, whole⟩
  · intro given
    obtain ⟨gap, separator, rest, rfl, blank, spelled, whole⟩ := given
    have stops := spelled.startsBlank_append isKeyword_of_mem_moveSeparators rest
    rw [destination?, Text.trimStart_append blank stops,
      afterKeyword?_append_of_prefixFree isKeyword_of_mem_moveSeparators moveSeparators_prefixFree
        spelled,
      Option.bind_some, wholeName?_trimStart, whole]

/-- The dash has no other case. -/
theorem toLower_eq_dash_iff (character : Char) : character.toLower = '-' ↔ character = '-' := by
  constructor
  · intro small
    have table : ∀ point < 0x80,
        (Char.ofNat point).toLower = '-' → Char.ofNat point = '-' := by decide +kernel
    have native := native_of_isPlain_toLower (small ▸ (by decide : isPlain '-' = true))
    have found := table character.toNat native
    rw [Char.ofNat_toNat] at found
    exact found small
  · intro same
    subst same
    rfl

/-- A character that becomes a plain name character in lower case is itself a name character. -/
theorem isNameCharacter_of_toLower {character : Char} (plain : isPlain character.toLower = true)
    (named : isNameCharacter character.toLower = true) : isNameCharacter character = true := by
  have table : ∀ point < 0x80,
      isNameCharacter (Char.ofNat point).toLower = true →
        isNameCharacter (Char.ofNat point) = true := by
    decide +kernel
  have found := table character.toNat (native_of_isPlain_toLower plain)
  rw [Char.ofNat_toNat] at found
  exact found named

/-- A spelling of a keyword ends with a name character when the keyword does. -/
theorem Spells.endsInName {words : List Text} (keywords : ∀ word ∈ words, IsKeyword word)
    (named : ∀ word ∈ words, word.getLast?.all isNameCharacter = true) {written : Text}
    (spelled : Spells written words) : EndsInName written := by
  have split := List.dropLast_concat_getLast (spelled.ne_nil keywords)
  have member : written.getLast (spelled.ne_nil keywords) ∈ written := List.getLast_mem _
  have plain := (keywords _ spelled).2 _ (List.mem_map_of_mem member)
  have last := List.getLast?_eq_some_getLast (spelled.ne_nil keywords)
  have small := named _ spelled
  rw [Text.lowered, List.getLast?_map, last] at small
  exact ⟨_, _, split.symm, isNameCharacter_of_toLower plain small⟩

/-- The separators are the dash and every spelling of the second separator. -/
theorem spells_moveSeparators_iff (separator : Text) :
    Spells separator moveSeparators ↔
      separator = "-".toList ∨ Text.lowered separator = "to".toList := by
  have dash : Text.lowered separator = "-".toList ↔ separator = "-".toList := by
    cases separator with
    | nil => decide
    | cons character rest =>
        have tail : Text.lowered rest = [] ↔ rest = [] := List.map_eq_nil_iff
        show character.toLower :: Text.lowered rest = ['-'] ↔ character :: rest = ['-']
        rw [List.cons.injEq, List.cons.injEq, toLower_eq_dash_iff, tail]
  rw [Spells, moveSeparators, List.mem_cons, List.mem_singleton, dash]

/-- A separator that does not continue a name is a dash or stands behind blanks. -/
theorem startsInName_separator_iff {gap separator rest : Text} (blank : AllBlank gap)
    (spelled : Spells separator moveSeparators) :
    startsInName (gap ++ (separator ++ rest)) = false ↔
      separator = "-".toList ∨ gap ≠ [] ∧ Text.lowered separator = "to".toList := by
  rw [spells_moveSeparators_iff] at spelled
  cases gap with
  | nil =>
      rcases spelled with rfl | word
      · simp only [true_or, iff_true]
        exact (by decide : isNameCharacter '-' = false)
      · cases separator with
        | nil => cases word
        | cons character later =>
            have small : character.toLower = 't' := (List.cons.inj word).1
            have named : isNameCharacter character = true :=
              isNameCharacter_of_toLower (small ▸ by decide) (small ▸ by decide)
            constructor
            · intro stops
              exact absurd named (Bool.eq_false_iff.1 stops)
            · intro given
              rcases given with equal | ⟨nonempty, -⟩
              · rw [equal] at word
                cases word
              · exact absurd rfl nonempty
  | cons character later =>
      have stops : startsInName (character :: later ++ (separator ++ rest)) = false :=
        isNameCharacter_of_isBlank (blank character List.mem_cons_self)
      constructor
      · intro _
        exact spelled.imp_right fun word => ⟨List.cons_ne_nil character later, word⟩
      · intro _
        exact stops

/-- A text reaches to its end with a name exactly if it ends in a name character. -/
theorem exists_wholeName?_iff {text : Text} :
    (∃ name, wholeName? text = some name) ↔ EndsInName text := by
  constructor
  · intro given
    obtain ⟨name, whole⟩ := given
    obtain ⟨skipped, rfl, -, -, ends⟩ := wholeName?_eq_some_iff.1 whole
    exact ends.append skipped
  · intro ends
    obtain ⟨skipped, name, rfl, unnamed, starts, later⟩ := ends.exists_start
    exact ⟨name, wholeName?_eq_some_iff.2 ⟨skipped, rfl, unnamed, starts, later⟩⟩

/-- A destination is found when a separator and a text that ends in a name follow. -/
theorem exists_destination?_iff {text : Text} :
    (∃ destination, destination? text = some destination) ↔
      ∃ gap separator rest, text = gap ++ (separator ++ rest) ∧ AllBlank gap ∧
        Spells separator moveSeparators ∧ EndsInName rest := by
  constructor
  · intro given
    obtain ⟨destination, found⟩ := given
    obtain ⟨gap, separator, rest, equal, blank, spelled, whole⟩ :=
      destination?_eq_some_iff.1 found
    exact ⟨gap, separator, rest, equal, blank, spelled, exists_wholeName?_iff.1 ⟨_, whole⟩⟩
  · intro given
    obtain ⟨gap, separator, rest, equal, blank, spelled, ends⟩ := given
    obtain ⟨destination, whole⟩ := exists_wholeName?_iff.2 ends
    exact ⟨destination, destination?_eq_some_iff.2
      ⟨gap, separator, rest, equal, blank, spelled, whole⟩⟩

/-- A separator leads to a destination. -/
def GoesTo (text : Text) : Prop :=
  ∃ gap separator after, text = gap ++ (separator ++ after) ∧ AllBlank gap ∧
    (separator = "-".toList ∨ gap ≠ [] ∧ Text.lowered separator = "to".toList) ∧ EndsInName after

/-- Behind the end of a name a destination is found exactly if the text goes to a place. -/
theorem exists_destination?_iff_goesTo {text : Text} (stops : startsInName text = false) :
    (∃ destination, destination? text = some destination) ↔ GoesTo text := by
  rw [exists_destination?_iff]
  constructor
  · intro given
    obtain ⟨gap, separator, after, rfl, blank, spelled, ends⟩ := given
    exact ⟨gap, separator, after, rfl, blank,
      (startsInName_separator_iff blank spelled).1 stops, ends⟩
  · intro given
    obtain ⟨gap, separator, after, rfl, blank, apart, ends⟩ := given
    exact ⟨gap, separator, after, rfl, blank,
      (spells_moveSeparators_iff separator).2 (apart.imp_right And.right), ends⟩

theorem not_goesTo_of_destination? {text : Text} (stops : startsInName text = false)
    (missing : destination? text = none) : ¬ GoesTo text := by
  rw [← exists_destination?_iff_goesTo stops, missing]
  simp

/-- A text that announces a hold ends with a name character. -/
theorem Announces.endsInName {text : Text} (announced : Announces holdKeywords text) :
    EndsInName text := by
  obtain ⟨gap, written, rfl, -, -, spelled⟩ := announced
  exact (spelled.endsInName isKeyword_of_mem_holdKeywords (by decide)).append gap

/-- A separator that stands before a blank leads to whatever follows instead. -/
theorem GoesTo.change {text after other : Text} (ends : EndsInName text)
    (starts : startsBlank after = true) (otherEnds : EndsInName other)
    (goes : GoesTo (text ++ after)) : GoesTo (text ++ other) := by
  obtain ⟨gap, separator, behind, equal, blank, apart, -⟩ := goes
  have spelled : Spells separator moveSeparators :=
    (spells_moveSeparators_iff separator).2 (apart.imp_right And.right)
  obtain ⟨own, rfl, -, -⟩ := exists_behind_keyword isKeyword_of_mem_moveSeparators ends starts
    blank spelled equal
  exact ⟨gap, separator, own ++ other, by simp, blank, apart, otherEnds.append own⟩

/-- A dash before a text that ends in a name goes to a place. -/
theorem goesTo_dash {place : Text} (ends : EndsInName place) : GoesTo (" - ".toList ++ place) :=
  ⟨[' '], "-".toList, ' ' :: place, rfl, by decide, Or.inl rfl, ends.append [' ']⟩

/-- A dash before a name gives exactly this name as the destination. -/
theorem destination?_dash {place : Text} (starts : startsInName place = true)
    (ends : EndsInName place) : destination? (" - ".toList ++ place) = some place := by
  have blank : AllBlank [' '] := by decide
  have whole : wholeName? ([' '] ++ place) = some place := by
    rw [wholeName?_blanks_append blank, wholeName?_eq_some_iff]
    exact ⟨[], rfl, by simp [NoName], starts, ends⟩
  exact destination?_eq_some_iff.2 ⟨[' '], "-".toList, [' '] ++ place, rfl, blank, by decide, whole⟩

end Diplomacy
