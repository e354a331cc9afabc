import Diplomacy.Grammar.Keyword
import Diplomacy.Proofs.Text.Character
import Diplomacy.Proofs.Text.Tag

namespace Diplomacy

/-- The capitals from A to Z become small and every other character stays. -/
def Text.lowered (text : Text) : Text :=
  text.map Char.toLower

/-- Case does not matter when a word is compared with the given words. -/
def Spells (written : Text) (words : List Text) : Prop :=
  Text.lowered written ∈ words

instance (written : Text) (words : List Text) : Decidable (Spells written words) :=
  inferInstanceAs (Decidable (_ ∈ _))

/-- A plain character is small, and only it and its own capital become it in lower case. The
letter k is left out, because the Kelvin sign becomes it too. -/
def isPlain (character : Char) : Bool :=
  0x20 < character.toNat && character.toNat < 0x80 && character.toLower == character &&
    character != 'k'

def IsKeyword (word : Text) : Prop :=
  word ≠ [] ∧ ∀ character ∈ word, isPlain character = true

instance (word : Text) : Decidable (IsKeyword word) :=
  @instDecidableAnd _ _ inferInstance (List.decidableBAll _ word)

@[simp] theorem Text.lowered_nil : Text.lowered [] = [] := rfl

@[simp] theorem Text.lowered_cons (character : Char) (rest : Text) :
    Text.lowered (character :: rest) = character.toLower :: Text.lowered rest := rfl

@[simp] theorem Text.lowered_append (first second : Text) :
    Text.lowered (first ++ second) = Text.lowered first ++ Text.lowered second := by
  simp [Text.lowered]

@[simp] theorem Text.length_lowered (text : Text) : (Text.lowered text).length = text.length := by
  simp [Text.lowered]

theorem isPlain_iff (character : Char) :
    isPlain character = true ↔
      0x20 < character.toNat ∧ character.toNat < 0x80 ∧ character.toLower = character ∧
        character ≠ 'k' := by
  simp [isPlain, and_assoc]

/-- A plain character is no blank. -/
theorem isBlank_of_isPlain {character : Char} (plain : isPlain character = true) :
    isBlank character = false := by
  obtain ⟨above, below, same, other⟩ := (isPlain_iff character).1 plain
  rw [Bool.eq_false_iff]
  intro blank
  obtain ⟨blanks, member, fromBlank, toBlank⟩ := exists_range_of_covers blank
  have apart : ∀ range ∈ blankRanges, range.2 ≤ 0x20 ∨ 0x80 ≤ range.1 := by decide
  have := apart blanks member
  omega

/-- No keyword begins a text that begins with a blank. -/
theorem not_prefix_lowered_of_startsBlank {first : Char} {later text : Text}
    (plain : isPlain first = true) (starts : startsBlank text = true) :
    ¬ first :: later <+: Text.lowered text := by
  cases text with
  | nil => cases starts
  | cons character rest =>
      have blank : isBlank character = true := starts
      intro begins
      have same : first = character.toLower := (List.cons_prefix_cons.1 begins).1
      rw [same, toLower_of_isBlank blank] at plain
      rw [isBlank_of_isPlain plain] at blank
      cases blank

/-- A character beyond the first 128 is no capital from A to Z. -/
theorem toLower_of_foreign {character : Char} (foreign : 0x80 ≤ character.toNat) :
    character.toLower = character := by
  have notCapital : ¬ (0x41 ≤ character.toNat ∧ character.toNat ≤ 0x5a) := by omega
  exact dif_neg notCapital

/-- Only characters of the first block become plain in lower case. -/
theorem native_of_isPlain_toLower {character : Char} (plain : isPlain character.toLower = true) :
    character.toNat < 0x80 := by
  by_contra foreign
  rw [toLower_of_foreign (Nat.le_of_not_lt foreign)] at plain
  exact foreign ((isPlain_iff character).1 plain).2.1

/-- In the first block there is one small letter, and it is the simple one. -/
theorem smallLetters_of_native {character : Char} (native : character.toNat < 0x80) :
    smallLetters character = [character.toLower] := by
  have table : ∀ point < 0x80,
      smallLetters (Char.ofNat point) = [(Char.ofNat point).toLower] := by decide +kernel
  have found := table character.toNat native
  rwa [Char.ofNat_toNat] at found

/-- The runs of foreign capitals lead to foreign small letters, apart from the Kelvin sign. -/
theorem smallPoint_of_foreign {runs : List CaseRun} {point : Nat} (foreign : 0x80 ≤ point)
    (apart : ∀ run ∈ runs, 0x80 ≤ run.image ∨ run.last < 0x80 ∨
      (run.first = run.last ∧ run.image = 0x6b)) :
    0x80 ≤ smallPoint runs point ∨ smallPoint runs point = 0x6b := by
  induction runs with
  | nil => exact Or.inl foreign
  | cons run rest ih =>
      have here := apart run List.mem_cons_self
      have later := ih fun other member => apart other (List.mem_cons_of_mem _ member)
      simp only [smallPoint]
      split
      · exact Or.inl foreign
      · split
        · split
          · omega
          · exact Or.inl foreign
        · exact later

/-- Characters beyond the first block, and the letter k, are not plain. -/
theorem not_isPlain_ofNat {point : Nat} (foreign : 0x80 ≤ point ∨ point = 0x6b) :
    isPlain (Char.ofNat point) = false := by
  rcases foreign with foreign | rfl
  · -- A point that is no character is replaced by zero, which is no plain character either.
    have value : (Char.ofNat point).toNat = point ∨ (Char.ofNat point).toNat = 0 := by
      by_cases valid : point.isValidChar
      · have same : Char.ofNat point = Char.ofNatAux point valid := dif_pos valid
        rw [same]
        exact Or.inl rfl
      · have same : Char.ofNat point = ⟨0, Or.inl (by decide)⟩ := dif_neg valid
        rw [same]
        exact Or.inr rfl
    rw [Bool.eq_false_iff]
    intro plain
    obtain ⟨above, below, -, -⟩ := (isPlain_iff _).1 plain
    omega
  · decide

/-- No foreign character becomes a text of plain characters only. -/
theorem exists_not_isPlain_smallLetters {character : Char} (foreign : 0x80 ≤ character.toNat) :
    ∃ small ∈ smallLetters character, isPlain small = false := by
  by_cases dotted : character = '\u0130'
  · subst dotted
    exact ⟨'\u0307', by decide, by decide⟩
  · have runs : ∀ run ∈ caseRuns, 0x80 ≤ run.image ∨ run.last < 0x80 ∨
        (run.first = run.last ∧ run.image = 0x6b) := by decide +kernel
    refine ⟨Char.ofNat (smallPoint caseRuns character.toNat), ?_, ?_⟩
    · simp [smallLetters, dotted]
    · exact not_isPlain_ofNat (smallPoint_of_foreign foreign runs)

/-- A foreign character leaves something behind that no plain word contains. -/
theorem exists_not_isPlain_lowerAfter {character : Char} (foreign : 0x80 ≤ character.toNat)
    (casedBefore : Bool) (rest : Text) :
    ∃ odd ∈ Text.lowerAfter casedBefore (character :: rest), isPlain odd = false := by
  by_cases sigma : character = 'Σ'
  · subst sigma
    rw [Text.lowerAfter, if_pos rfl]
    split
    · exact ⟨'ς', by simp, by decide⟩
    · exact ⟨'σ', by simp, by decide⟩
  · obtain ⟨small, member, strange⟩ := exists_not_isPlain_smallLetters foreign
    refine ⟨small, ?_, strange⟩
    rw [Text.lowerAfter, if_neg sigma]
    exact List.mem_append_left _ member

/-- A text becomes a plain word in full lower case exactly if it does letter by letter. -/
theorem Text.lowerAfter_eq_iff {word : Text} (plain : ∀ character ∈ word, isPlain character = true)
    (casedBefore : Bool) (text : Text) :
    Text.lowerAfter casedBefore text = word ↔ Text.lowered text = word := by
  induction text generalizing casedBefore word with
  | nil => rfl
  | cons character rest ih =>
      by_cases native : character.toNat < 0x80
      · have notSigma : character ≠ 'Σ' := by
          intro same
          subst same
          revert native
          decide
        simp only [Text.lowerAfter, if_neg notSigma, smallLetters_of_native native,
          Text.lowered_cons, List.cons_append, List.nil_append]
        cases word with
        | nil => simp
        | cons first later =>
            simp only [List.cons.injEq]
            rw [ih fun other member => plain other (List.mem_cons_of_mem _ member)]
      · have foreign : 0x80 ≤ character.toNat := Nat.le_of_not_lt native
        constructor
        · intro equal
          obtain ⟨odd, member, strange⟩ :=
            exists_not_isPlain_lowerAfter foreign casedBefore rest
          rw [equal] at member
          rw [plain odd member] at strange
          cases strange
        · intro same
          subst same
          have kept := plain character.toLower List.mem_cons_self
          rw [toLower_of_foreign foreign] at kept
          have := ((isPlain_iff character).1 kept).2.1
          omega

/-- Full lower case gives a plain word exactly if the change of A to Z alone does. -/
theorem Text.lower_eq_iff {word : Text} (plain : ∀ character ∈ word, isPlain character = true)
    (text : Text) : Text.lower text = word ↔ Text.lowered text = word :=
  Text.lowerAfter_eq_iff plain false text

/-- A keyword is in lower case, letter by letter. -/
theorem IsKeyword.lowered_eq {word : Text} (keyword : IsKeyword word) :
    Text.lowered word = word := by
  have small : ∀ character ∈ word, character.toLower = character :=
    fun character member => ((isPlain_iff character).1 (keyword.2 character member)).2.2.1
  rw [Text.lowered, List.map_congr_left small, List.map_id']

theorem IsKeyword.lower_eq {word : Text} (keyword : IsKeyword word) : Text.lower word = word :=
  (Text.lower_eq_iff keyword.2 word).2 keyword.lowered_eq

/-- A keyword fits where the lowered text begins with it. -/
theorem tagFits_iff {word : Text} (keyword : IsKeyword word) (text : Text) :
    TagFits true text word ↔ word <+: Text.lowered text := by
  have head : Text.lowered (text.take word.length) = (Text.lowered text).take word.length := by
    simp [Text.lowered, List.map_take]
  have heads : (text.take word.length = word ∨ Text.lower (text.take word.length) = word) ↔
      Text.lowered (text.take word.length) = word := by
    rw [Text.lower_eq_iff keyword.2]
    refine or_iff_right_of_imp fun equal => ?_
    rw [equal, keyword.lowered_eq]
  simp only [TagFits, true_and]
  rw [heads, head, List.prefix_iff_eq_take, eq_comm]

/-- Keywords are stored as they are written. -/
theorem storedTags_of_keywords {words : List Text} (keywords : ∀ word ∈ words, IsKeyword word) :
    storedTags true words = words := by
  have lower : ∀ word ∈ words, Text.lower word = word :=
    fun word member => (keywords word member).lower_eq
  rw [storedTags, if_pos rfl, List.map_congr_left lower, List.map_id']

/-- This function finds the longest keyword at the start of a text. -/
def keywordAt? (words : List Text) (text : Text) : Option Text :=
  firstTag? true (arrangeTags true words) text

section Keywords

variable {words : List Text}

/-- No keyword is found exactly if none begins the text in lower case. -/
theorem keywordAt?_eq_none_iff (keywords : ∀ word ∈ words, IsKeyword word) (text : Text) :
    keywordAt? words text = none ↔ ∀ word ∈ words, ¬ word <+: Text.lowered text := by
  rw [keywordAt?, firstTag?_eq_none_iff, storedTags_of_keywords keywords]
  refine forall₂_congr fun word member => not_congr ?_
  exact tagFits_iff (keywords word member) text

/-- The longest keyword that matches is found, and only one has its length. -/
theorem keywordAt?_eq_some_iff (keywords : ∀ word ∈ words, IsKeyword word) (text word : Text) :
    keywordAt? words text = some word ↔
      word ∈ words ∧ word <+: Text.lowered text ∧
        ∀ other ∈ words, other <+: Text.lowered text → other.length ≤ word.length := by
  have stored := storedTags_of_keywords keywords
  rw [keywordAt?, firstTag?_eq_some_iff]
  constructor
  · rintro ⟨member, fits, longest⟩
    rw [stored] at member longest
    refine ⟨member, (tagFits_iff (keywords word member) text).1 fits, ?_⟩
    intro other otherMember begins
    exact longest other otherMember ((tagFits_iff (keywords other otherMember) text).2 begins)
  · rintro ⟨member, begins, longest⟩
    refine ⟨stored.symm ▸ member, (tagFits_iff (keywords word member) text).2 begins, ?_⟩
    rw [stored]
    intro other otherMember fits
    exact longest other otherMember ((tagFits_iff (keywords other otherMember) text).1 fits)

/-- Two texts that begin with the same keywords start with the same longest one. -/
theorem keywordAt?_congr (keywords : ∀ word ∈ words, IsKeyword word) {first second : Text}
    (same : ∀ word ∈ words, word <+: Text.lowered first ↔ word <+: Text.lowered second) :
    keywordAt? words first = keywordAt? words second := by
  cases found : keywordAt? words second with
  | none =>
      have missing := (keywordAt?_eq_none_iff keywords second).1 found
      rw [keywordAt?_eq_none_iff keywords]
      intro word member begins
      exact missing word member ((same word member).1 begins)
  | some word =>
      obtain ⟨member, begins, longest⟩ := (keywordAt?_eq_some_iff keywords second word).1 found
      rw [keywordAt?_eq_some_iff keywords]
      refine ⟨member, (same word member).2 begins, ?_⟩
      intro other otherMember otherBegins
      exact longest other otherMember ((same other otherMember).1 otherBegins)

/-- The keyword that is found stands at the start of the text, in any case. -/
theorem lowered_take_of_keywordAt? (keywords : ∀ word ∈ words, IsKeyword word) {text word : Text}
    (found : keywordAt? words text = some word) :
    Text.lowered (text.take word.length) = word := by
  obtain ⟨member, begins, longest⟩ := (keywordAt?_eq_some_iff keywords text word).1 found
  rw [Text.lowered, List.map_take]
  exact (List.prefix_iff_eq_take.1 begins).symm

/-- What is found is the first part of the text in lower case. -/
theorem exists_written_of_keywordAt? (keywords : ∀ word ∈ words, IsKeyword word) {text word : Text}
    (found : keywordAt? words text = some word) :
    ∃ written rest, text = written ++ rest ∧ Spells written words ∧ Text.lowered written = word ∧
      text.drop word.length = rest := by
  have same := lowered_take_of_keywordAt? keywords found
  refine ⟨text.take word.length, _, (List.take_append_drop _ _).symm, ?_, same, rfl⟩
  rw [Spells, same]
  exact ((keywordAt?_eq_some_iff keywords text word).1 found).1

/-- Before a blank or the end of the text, the longest keyword is the only one that fits. -/
theorem keywordAt?_append (keywords : ∀ word ∈ words, IsKeyword word) {written rest : Text}
    (spelled : Spells written words) (stops : rest = [] ∨ startsBlank rest = true) :
    keywordAt? words (written ++ rest) = some (Text.lowered written) := by
  rw [keywordAt?_eq_some_iff keywords]
  refine ⟨spelled, by simp, ?_⟩
  intro other member begins
  rw [Text.lowered_append] at begins
  apply Nat.le_of_not_lt
  intro longer
  cases rest with
  | nil =>
      have := begins.length_le
      simp at this longer
      omega
  | cons blank rest =>
      have isBlank : isBlank blank = true := by simpa [startsBlank] using stops
      have within : Text.lowered written ++ [blank] <+: other := by
        refine List.prefix_of_prefix_length_le ?_ begins ?_
        · rw [Text.lowered_cons, toLower_of_isBlank isBlank]
          exact ⟨Text.lowered rest, by simp⟩
        · simpa [Nat.succ_le_iff] using longer
      have plain := (keywords other member).2 blank (within.subset (by simp))
      rw [isBlank_of_isPlain plain] at isBlank
      cases isBlank

/-- If no word begins another one, then it does not matter what follows a word. -/
theorem keywordAt?_append_of_prefixFree (keywords : ∀ word ∈ words, IsKeyword word)
    (apart : ∀ first ∈ words, ∀ second ∈ words, first <+: second → first = second)
    {written : Text} (spelled : Spells written words) (rest : Text) :
    keywordAt? words (written ++ rest) = some (Text.lowered written) := by
  have begins : Text.lowered written <+: Text.lowered (written ++ rest) := by
    rw [Text.lowered_append]
    exact List.prefix_append _ _
  rw [keywordAt?_eq_some_iff keywords]
  refine ⟨spelled, begins, ?_⟩
  intro other member otherBegins
  rcases List.prefix_or_prefix_of_prefix otherBegins begins with shorter | longer
  · exact shorter.length_le
  · rw [apart _ spelled _ member longer]

theorem Spells.ne_nil (keywords : ∀ word ∈ words, IsKeyword word) {written : Text}
    (spelled : Spells written words) : written ≠ [] := by
  intro same
  subst same
  exact (keywords _ spelled).1 rfl

/-- A word that spells a keyword has no blank in it. -/
theorem Spells.isBlank_eq_false (keywords : ∀ word ∈ words, IsKeyword word) {written : Text}
    (spelled : Spells written words) : ∀ character ∈ written, isBlank character = false := by
  intro character member
  rw [Bool.eq_false_iff]
  intro blank
  have plain := (keywords _ spelled).2 character.toLower (List.mem_map_of_mem member)
  rw [toLower_of_isBlank blank] at plain
  rw [isBlank_of_isPlain plain] at blank
  cases blank

/-- A text that begins with a keyword does not begin with a blank. -/
theorem Spells.startsBlank_append (keywords : ∀ word ∈ words, IsKeyword word) {written : Text}
    (spelled : Spells written words) (rest : Text) : startsBlank (written ++ rest) = false := by
  rw [Diplomacy.startsBlank_append (spelled.ne_nil keywords)]
  cases written with
  | nil => rfl
  | cons character later => exact spelled.isBlank_eq_false keywords character List.mem_cons_self

end Keywords

end Diplomacy
