import Diplomacy.Proofs.Place.Boundary
import Diplomacy.Proofs.Text.Spelling

namespace Diplomacy

/-- A respelling changes every character outside the gaps by itself, into one with the same small
letter that belongs to a name as before, and it puts a gap in the place of every gap. -/
structure IsRespelling (letter : Char → Char) (change : Text → Text) : Prop where
  nil : change [] = []
  solid {character : Char} (rest : Text) (plain : isBlank character = false) :
    change (character :: rest) = letter character :: change rest
  gap {blanks rest : Text} (nonempty : blanks ≠ []) (blank : AllBlank blanks)
    (stops : startsBlank rest = false) : change (blanks ++ rest) = change blanks ++ change rest
  ne_nil {blanks : Text} (nonempty : blanks ≠ []) (blank : AllBlank blanks) : change blanks ≠ []
  allBlank {blanks : Text} (blank : AllBlank blanks) : AllBlank (change blanks)
  isBlank (character : Char) : isBlank (letter character) = Diplomacy.isBlank character
  named (character : Char) : isNameCharacter (letter character) = isNameCharacter character
  small (character : Char) : (letter character).toLower = character.toLower

/-- Every text is built from characters and from gaps that are as long as they can be. -/
theorem Text.gapInduction {motive : Text → Prop} (nil : motive [])
    (solid : ∀ character rest, isBlank character = false → motive rest →
      motive (character :: rest))
    (gap : ∀ blanks rest, blanks ≠ [] → AllBlank blanks → startsBlank rest = false →
      motive rest → motive (blanks ++ rest)) (text : Text) : motive text := by
  induction size : text.length using Nat.strongRecOn generalizing text with
  | ind size ih =>
      subst size
      cases text with
      | nil => exact nil
      | cons character rest =>
          by_cases blank : isBlank character = true
          · obtain ⟨blanks, equal, allBlank, nonempty⟩ :=
              Text.exists_blanks_append_trimStart (character :: rest)
            have shorter :
                (Text.trimStart (character :: rest)).length < (character :: rest).length := by
              rw [Text.trimStart, List.dropWhile_cons_of_pos blank]
              exact Nat.lt_succ_of_le (Text.length_trimStart_le rest)
            rw [equal]
            exact gap blanks _ (nonempty blank) allBlank (startsBlank_trimStart _)
              (ih _ shorter _ rfl)
          · exact solid character rest (Bool.eq_false_iff.2 blank)
              (ih _ (Nat.lt_succ_self _) rest rfl)

namespace IsRespelling

variable {letter : Char → Char} {change : Text → Text} (laws : IsRespelling letter change)

include laws

/-- A respelled text begins with a blank exactly if the text does. -/
theorem startsBlank (text : Text) : startsBlank (change text) = Diplomacy.startsBlank text := by
  induction text using Text.gapInduction with
  | nil => rw [laws.nil]
  | solid character rest plain ih =>
      rw [laws.solid rest plain]
      exact laws.isBlank character
  | gap blanks rest nonempty blank stops ih =>
      rw [laws.gap nonempty blank stops, blank.startsBlank_append nonempty,
        (laws.allBlank blank).startsBlank_append (laws.ne_nil nonempty blank)]

theorem startsInName (text : Text) :
    startsInName (change text) = Diplomacy.startsInName text := by
  induction text using Text.gapInduction with
  | nil => rw [laws.nil]
  | solid character rest plain ih =>
      rw [laws.solid rest plain]
      exact laws.named character
  | gap blanks rest nonempty blank stops ih =>
      rw [startsInName_of_startsBlank (blank.startsBlank_append nonempty rest),
        startsInName_of_startsBlank]
      rw [laws.startsBlank, blank.startsBlank_append nonempty]

/-- Only the empty text is respelled as nothing. -/
theorem eq_nil_iff (text : Text) : change text = [] ↔ text = [] := by
  constructor
  · intro empty
    induction text using Text.gapInduction with
    | nil => rfl
    | solid character rest plain ih =>
        rw [laws.solid rest plain] at empty
        cases empty
    | gap blanks rest nonempty blank stops ih =>
        rw [laws.gap nonempty blank stops] at empty
        exact absurd (List.append_eq_nil_iff.1 empty).1 (laws.ne_nil nonempty blank)
  · intro empty
    rw [empty, laws.nil]

/-- No gap reaches over the border if the second part does not start with a blank. -/
theorem append_of_stops (first : Text) {second : Text}
    (stops : Diplomacy.startsBlank second = false) :
    change (first ++ second) = change first ++ change second := by
  induction first using Text.gapInduction with
  | nil => rw [laws.nil, List.nil_append, List.nil_append]
  | solid character rest plain ih =>
      rw [List.cons_append, laws.solid _ plain, laws.solid _ plain, ih, List.cons_append]
  | gap blanks rest nonempty blank outside ih =>
      have later : Diplomacy.startsBlank (rest ++ second) = false := by
        cases rest with
        | nil => exact stops
        | cons character others => exact outside
      rw [List.append_assoc, laws.gap nonempty blank later, ih, laws.gap nonempty blank outside,
        List.append_assoc]

/-- A last character that is no blank is respelled on its own. -/
theorem concat (before : Text) {last : Char} (plain : Diplomacy.isBlank last = false) :
    change (before ++ [last]) = change before ++ [letter last] := by
  have stops : Diplomacy.startsBlank [last] = false := plain
  rw [laws.append_of_stops before stops, laws.solid [] plain, laws.nil]

theorem concat_append (before second : Text) {last : Char}
    (plain : Diplomacy.isBlank last = false) :
    change (before ++ [last] ++ second) = change (before ++ [last]) ++ change second := by
  have stops : Diplomacy.startsBlank (last :: second) = false := plain
  rw [laws.concat before plain, List.append_assoc, List.singleton_append,
    laws.append_of_stops before stops, laws.solid second plain, List.append_assoc,
    List.singleton_append]

/-- A part without blanks is respelled letter by letter. -/
theorem append_of_solid {first : Text}
    (plain : ∀ character ∈ first, Diplomacy.isBlank character = false) (second : Text) :
    change (first ++ second) = first.map letter ++ change second := by
  induction first with
  | nil => rfl
  | cons character rest ih =>
      rw [List.cons_append, laws.solid _ (plain character List.mem_cons_self),
        ih fun other member => plain other (List.mem_cons_of_mem _ member)]
      rfl

/-- Blanks at the start are trimmed before or after the change alike. -/
theorem trimStart (text : Text) : Text.trimStart (change text) = change (Text.trimStart text) := by
  obtain ⟨blanks, equal, blank, -⟩ := Text.exists_blanks_append_trimStart text
  have stops := startsBlank_trimStart text
  have split := laws.append_of_stops blanks stops
  rw [← equal] at split
  have outside : Diplomacy.startsBlank (change (Text.trimStart text)) = false := by
    rw [laws.startsBlank, stops]
  rw [split, Text.trimStart_append (laws.allBlank blank) outside]

theorem trimEnd (text : Text) : Text.trimEnd (change text) = change (Text.trimEnd text) := by
  obtain ⟨blanks, equal, blank, ends⟩ := Text.exists_trimEnd_append_blanks text
  rcases ends with empty | ⟨before, last, kept, plain⟩
  · rw [empty, List.nil_append] at equal
    rw [empty, laws.nil, equal]
    exact Text.trimEnd_append (Or.inl rfl) (laws.allBlank blank)
  · have whole : change (Text.trimEnd text) = change before ++ [letter last] := by
      rw [kept, laws.concat before plain]
    have split := laws.concat_append before blanks plain
    rw [← kept, ← equal, whole] at split
    have other : Diplomacy.isBlank (letter last) = false := by rw [laws.isBlank, plain]
    rw [split, whole]
    exact Text.trimEnd_append (Or.inr ⟨_, _, rfl, other⟩) (laws.allBlank blank)

/-- Trimming and respelling can be done in either order. -/
theorem trim (text : Text) : Text.trim (change text) = change (Text.trim text) := by
  rw [Text.trim, Text.trim, laws.trimStart, laws.trimEnd]

/-- A plain word begins the text before the change exactly if it does so after it. -/
theorem prefix_lowered_iff {word : Text} (plain : ∀ character ∈ word, isPlain character = true)
    (text : Text) : word <+: Text.lowered (change text) ↔ word <+: Text.lowered text := by
  induction word generalizing text with
  | nil => simp
  | cons first later ih =>
      have plainLater : ∀ character ∈ later, isPlain character = true :=
        fun character member => plain character (List.mem_cons_of_mem _ member)
      have outside (other : Text) (starts : Diplomacy.startsBlank other = true) :
          ¬ first :: later <+: Text.lowered other := by
        exact not_prefix_lowered_of_startsBlank (plain first List.mem_cons_self) starts
      induction text using Text.gapInduction with
      | nil => rw [laws.nil]
      | solid character rest solid _ =>
          rw [laws.solid rest solid, Text.lowered_cons, Text.lowered_cons, List.cons_prefix_cons,
            List.cons_prefix_cons, laws.small, ih plainLater]
      | gap blanks rest nonempty blank stops _ =>
          have starts := blank.startsBlank_append nonempty rest
          have changed := laws.startsBlank (blanks ++ rest)
          rw [starts] at changed
          exact iff_of_false (outside _ changed) (outside _ starts)

section Keywords

variable {words : List Text} (keywords : ∀ word ∈ words, IsKeyword word)

include keywords

/-- A respelled text begins with the same keyword. -/
theorem keywordAt? (text : Text) :
    keywordAt? words (change text) = Diplomacy.keywordAt? words text :=
  keywordAt?_congr keywords fun word member => laws.prefix_lowered_iff (keywords word member).2 text

/-- What follows a keyword is respelled on its own. -/
theorem drop_of_keywordAt? {text word : Text}
    (found : Diplomacy.keywordAt? words text = some word) :
    (change text).drop word.length = change (text.drop word.length) := by
  have small := lowered_take_of_keywordAt? keywords found
  have spelled : Spells (text.take word.length) words := by
    rw [Spells, small]
    exact ((keywordAt?_eq_some_iff keywords text word).1 found).1
  have length : (text.take word.length).length = word.length := by
    rw [← Text.length_lowered, small]
  have split := laws.append_of_solid (spelled.isBlank_eq_false keywords) (text.drop word.length)
  rw [List.take_append_drop] at split
  rw [split, List.drop_left' (by rw [List.length_map, length])]

end Keywords

/-- The names of a respelled text are the respelled names of the text. -/
theorem nameEndings (text : Text) :
    nameEndings (change text) = (Diplomacy.nameEndings text).map (Prod.map change change) := by
  induction text using Text.gapInduction with
  | nil => rw [laws.nil]; rfl
  | solid character rest plain ih =>
      have single : change [character] = [letter character] := by
        rw [laws.solid [] plain, laws.nil]
      have longer : (extendName (letter character) ∘ Prod.map change change) =
          Prod.map change change ∘ extendName character := by
        funext ending
        show (letter character :: change ending.1, change ending.2) = _
        rw [← laws.solid ending.1 plain]
        rfl
      rw [laws.solid rest plain, nameEndings_cons, nameEndings_cons, laws.named,
        laws.startsInName, ih, List.map_map, longer]
      split
      · rw [List.map_cons, List.map_map, Prod.map_apply, single]
      · rw [List.map_map]
  | gap blanks rest nonempty blank stops ih =>
      rw [laws.gap nonempty blank stops, nameEndings_blanks_append (laws.allBlank blank),
        nameEndings_blanks_append blank, ih, List.map_map, List.map_map]
      refine List.map_congr_left fun ending member => ?_
      obtain ⟨equal, ends, -⟩ := mem_nameEndings_iff.1 member
      have inside : Diplomacy.startsBlank ending.1 = false := by
        rw [← equal, Diplomacy.startsBlank_append ends.ne_nil] at stops
        exact stops
      show (change blanks ++ change ending.1, change ending.2) = _
      rw [← laws.gap nonempty blank inside]
      rfl

/-- A respelled text leads in with the respelling of what leads in. -/
theorem dropWhile_unnamed (text : Text) :
    ((change text).dropWhile fun character => !isNameCharacter character) =
      change (text.dropWhile fun character => !isNameCharacter character) := by
  induction text using Text.gapInduction with
  | nil => rw [laws.nil, List.dropWhile_nil, laws.nil]
  | solid character rest plain ih =>
      rw [laws.solid rest plain, List.dropWhile_cons, List.dropWhile_cons, laws.named]
      split
      · exact ih
      · rw [laws.solid rest plain]
  | gap blanks rest nonempty blank stops ih =>
      have unnamed {gap : Text} (blank : AllBlank gap) :
          ∀ character ∈ gap, (!isNameCharacter character) = true := by
        intro character member
        rw [isNameCharacter_of_isBlank (blank character member)]
        rfl
      rw [laws.gap nonempty blank stops,
        List.dropWhile_append_of_pos (unnamed (laws.allBlank blank)),
        List.dropWhile_append_of_pos (unnamed blank), ih]

/-- The names at the start of the changed text are the changed names. -/
theorem placeNames (text : Text) :
    placeNames (change text) = (Diplomacy.placeNames text).map (Prod.map change change) := by
  rw [Diplomacy.placeNames, Diplomacy.placeNames, laws.dropWhile_unnamed, laws.nameEndings]

end IsRespelling

/-- Every run of blanks becomes a single space, which stands where the run ends. -/
def Text.squeeze : Text → Text
  | [] => []
  | character :: rest =>
      if isBlank character then
        if startsBlank rest then Text.squeeze rest else ' ' :: Text.squeeze rest
      else character :: Text.squeeze rest

/-- A run of blanks in front of something else is squeezed into one space. -/
theorem Text.squeeze_blanks_append {blanks rest : Text} (nonempty : blanks ≠ [])
    (blank : AllBlank blanks) (stops : startsBlank rest = false) :
    Text.squeeze (blanks ++ rest) = ' ' :: Text.squeeze rest := by
  induction blanks with
  | nil => exact absurd rfl nonempty
  | cons first others ih =>
      have firstBlank := blank first List.mem_cons_self
      have later : AllBlank others :=
        fun other member => blank other (List.mem_cons_of_mem _ member)
      rw [List.cons_append, Text.squeeze, if_pos firstBlank]
      cases others with
      | nil => rw [List.nil_append, if_neg (by simp [stops])]
      | cons second more =>
          have starts := later.startsBlank_append (List.cons_ne_nil second more) rest
          rw [if_pos starts, ih (List.cons_ne_nil second more) later]

theorem Text.squeeze_blanks {blanks : Text} (nonempty : blanks ≠ []) (blank : AllBlank blanks) :
    Text.squeeze blanks = [' '] := by
  have stops : startsBlank [] = false := rfl
  have squeezed := Text.squeeze_blanks_append nonempty blank stops
  rwa [List.append_nil] at squeezed

/-- Squeezing keeps every character that is no blank. -/
theorem isRespelling_squeeze : IsRespelling id Text.squeeze where
  nil := rfl
  solid rest plain := by rw [Text.squeeze, if_neg (by simp [plain])]; rfl
  gap nonempty blank stops := by
    rw [Text.squeeze_blanks_append nonempty blank stops, Text.squeeze_blanks nonempty blank]
    rfl
  ne_nil nonempty blank := by
    rw [Text.squeeze_blanks nonempty blank]
    exact List.cons_ne_nil _ _
  allBlank {blanks} blank := by
    cases blanks with
    | nil => exact blank
    | cons first others =>
        have space : AllBlank [' '] := by decide
        rwa [Text.squeeze_blanks (List.cons_ne_nil first others) blank]
  isBlank _ := rfl
  named _ := rfl
  small _ := rfl

/-- A capital becomes a letter of the same class, and nothing else changes. -/
theorem classes_toLower (character : Char) :
    isBlank character.toLower = isBlank character ∧
      isNameCharacter character.toLower = isNameCharacter character ∧
      character.toLower.toLower = character.toLower := by
  by_cases native : character.toNat < 0x80
  · have table : ∀ point < 0x80,
        isBlank (Char.ofNat point).toLower = isBlank (Char.ofNat point) ∧
          isNameCharacter (Char.ofNat point).toLower = isNameCharacter (Char.ofNat point) ∧
          (Char.ofNat point).toLower.toLower = (Char.ofNat point).toLower := by decide +kernel
    have found := table character.toNat native
    rwa [Char.ofNat_toNat] at found
  · rw [toLower_of_foreign (Nat.le_of_not_lt native)]
    exact ⟨rfl, rfl, toLower_of_foreign (Nat.le_of_not_lt native)⟩

/-- Lower case changes letters only, and keeps names, blanks and keywords. -/
theorem isRespelling_lowered : IsRespelling Char.toLower Text.lowered where
  nil := rfl
  solid _ _ := rfl
  gap _ _ _ := Text.lowered_append _ _
  ne_nil nonempty _ := by simpa [Text.lowered] using nonempty
  allBlank {blanks} blank := by
    intro small member
    obtain ⟨character, inside, rfl⟩ := List.mem_map.1 member
    rw [(classes_toLower character).1]
    exact blank character inside
  isBlank character := (classes_toLower character).1
  named character := (classes_toLower character).2.1
  small character := (classes_toLower character).2.2

example : Text.squeeze " A\t\u3000 Brest  H".toList = " A Brest H".toList := by decide

end Diplomacy
