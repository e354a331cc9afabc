import Diplomacy.Grammar.Rule
import Diplomacy.Proofs.Place.Boundary
import Diplomacy.Proofs.Run.Search
import Diplomacy.Proofs.Text.Spelling
import Mathlib.Data.List.Basic

namespace Diplomacy

def unitWords : List Text := unitTokens.map Prod.fst

/-- Every token begins with one of these letters, and each of them is a token. -/
def unitLetters : Text := "aAfF".toList

/-- A token in any case names the piece, and blanks stand between it and the body. -/
def NamesUnit (piece : Piece) (text body : Text) : Prop :=
  ∃ token gap, text = token ++ (gap ++ body) ∧
    unitTokens.lookup (Text.lowered token) = some piece ∧
    gap ≠ [] ∧ AllBlank gap ∧ startsBlank body = false

/-- A text without a unit that a strict reader accepts does not look as if it had one. -/
def NamesNoUnit (strict : Bool) (text : Text) : Prop :=
  (∀ piece body, ¬ NamesUnit piece text body) ∧
    (strict = true → ∀ character ∈ text.head?, character ∉ unitLetters)

/-- This function reads the designation without the machinery of parsers. -/
def designation (strict : Bool) (text : Text) : Designation :=
  match keywordAt? unitWords text with
  | none => .read none (Text.trimStart text)
  | some token =>
      if startsBlank (text.drop token.length) then
        .read (unitTokens.lookup token) (Text.trimStart (text.drop token.length))
      else if strict then .refused
      else .read none (Text.trimStart text)

theorem isKeyword_of_mem_unitWords : ∀ word ∈ unitWords, IsKeyword word := by
  decide

/-- Every token that is found names a piece. -/
theorem exists_piece_of_keywordAt? {text token : Text}
    (found : keywordAt? unitWords text = some token) :
    ∃ piece, unitTokens.lookup token = some piece := by
  have known : ∀ word ∈ unitWords, (unitTokens.lookup word).isSome = true := by decide
  obtain ⟨member, -⟩ := (keywordAt?_eq_some_iff isKeyword_of_mem_unitWords text token).1 found
  exact Option.isSome_iff_exists.1 (known token member)

/-- A token that stands for a piece is a unit token. -/
theorem mem_unitWords_of_lookup {token : Text} {piece : Piece}
    (known : unitTokens.lookup token = some piece) : token ∈ unitWords := by
  by_contra missing
  have absent : ∀ entry ∈ unitTokens, (token != entry.1) = true := by
    intro entry member
    rw [bne_iff_ne]
    intro same
    subst same
    exact missing (List.mem_map_of_mem member)
  rw [List.lookup_eq_none_iff.2 absent] at known
  cases known

/-- A single character spells a unit token exactly if it is a unit letter. -/
theorem toLower_mem_iff (character : Char) :
    [character.toLower] ∈ unitWords ↔ character ∈ unitLetters := by
  by_cases native : character.toNat < 0x80
  · have table : ∀ point < 0x80,
        [(Char.ofNat point).toLower] ∈ unitWords ↔ Char.ofNat point ∈ unitLetters := by
      decide +kernel
    have found := table character.toNat native
    rwa [Char.ofNat_toNat] at found
  · have foreign : 0x80 ≤ character.toNat := Nat.le_of_not_lt native
    rw [toLower_of_foreign foreign]
    constructor
    · intro member
      have plain := (isKeyword_of_mem_unitWords _ member).2 character List.mem_cons_self
      have := ((isPlain_iff character).1 plain).2.1
      omega
    · intro member
      have small : unitLetters.all (fun letter => letter.toNat < 0x80) = true := by decide
      exact absurd (of_decide_eq_true (List.all_eq_true.1 small character member)) native

/-- A text begins with a token exactly if its first letter is one. -/
theorem keywordAt?_unitWords_eq_none_iff (text : Text) :
    keywordAt? unitWords text = none ↔ ∀ character ∈ text.head?, character ∉ unitLetters := by
  rw [keywordAt?_eq_none_iff isKeyword_of_mem_unitWords]
  cases text with
  | nil =>
      have nonempty : ∀ word ∈ unitWords, ¬ word <+: [] := by
        intro word member begins
        exact (isKeyword_of_mem_unitWords word member).1 (List.prefix_nil.1 begins)
      simpa using nonempty
  | cons character rest =>
      simp only [List.head?_cons, Option.mem_some_iff, forall_eq', ← toLower_mem_iff,
        Text.lowered_cons]
      constructor
      · intro unmatched member
        exact unmatched _ member ⟨Text.lowered rest, rfl⟩
      · intro strange word member begins
        have heads : ∀ token ∈ unitWords, token.take 1 ∈ unitWords := by decide
        cases word with
        | nil => exact (isKeyword_of_mem_unitWords [] member).1 rfl
        | cons first later =>
            have same : first = character.toLower := (List.cons_prefix_cons.1 begins).1
            exact strange (same ▸ heads _ member)

/-- Removing the leading blanks shortens a text exactly if it starts with a blank. -/
theorem Text.length_trimStart_lt_iff (text : Text) :
    (Text.trimStart text).length < text.length ↔ startsBlank text = true := by
  constructor
  · intro shorter
    by_contra stops
    rw [Text.trimStart_of_not_startsBlank (Bool.eq_false_iff.2 stops)] at shorter
    omega
  · intro starts
    obtain ⟨blanks, equal, -, nonempty⟩ := Text.exists_blanks_append_trimStart text
    have length := congrArg List.length equal
    rw [List.length_append] at length
    have := List.length_pos_iff.2 (nonempty starts)
    omega

/-- The first reading of a unit is the piece that the longest unit token stands for. -/
theorem unitParser_first? (text : Text) :
    (unitParser.run text).first? = pure ((keywordAt? unitWords text).bind fun token =>
      (unitTokens.lookup token).map fun piece =>
        (Value.text piece.name, text.drop token.length)) := by
  rw [unitParser, Parser.run, Parser.keyword, Parser.oneOf, Parser.run]
  show ((Run.ofOption ((keywordAt? unitWords text).map fun token =>
    (Value.text token, text.drop token.length))).bind Transform.unitName.read).first? = _
  cases found : keywordAt? unitWords text with
  | none => rfl
  | some token =>
      obtain ⟨piece, known⟩ := exists_piece_of_keywordAt? found
      simp [Run.ofOption, Transform.read, Transform.unitName, known, Run.ofAnswer, Run.ofExcept,
        Run.after, Run.one, Run.map, Run.bind]

/-- Reading a designation leaves no trace and never fails. -/
theorem readDesignation_eq (strict : Bool) (text : Text) :
    readDesignation strict text = pure (designation strict text) := by
  rw [readDesignation, unitParser_first?, pure_bind, designation]
  cases found : keywordAt? unitWords text with
  | none => rfl
  | some token =>
      obtain ⟨piece, known⟩ := exists_piece_of_keywordAt? found
      simp only [Option.bind_some, known, Option.map_some, readUnit, Piece.ofName?_name,
        Answer.ofExcept_ok, pure_bind, Text.length_trimStart_lt_iff]
      split
      · rfl
      · split <;> rfl

/-- A unit is read exactly if the text names it before the body. -/
theorem designation_eq_read_some_iff {strict : Bool} {piece : Piece} {text body : Text} :
    designation strict text = .read (some piece) body ↔ NamesUnit piece text body := by
  constructor
  · intro read
    unfold designation at read
    split at read
    · cases read
    · rename_i token found
      split at read
      · rename_i starts
        obtain ⟨known, rfl⟩ := Designation.read.inj read
        obtain ⟨gap, equal, blank, nonempty⟩ :=
          Text.exists_blanks_append_trimStart (text.drop token.length)
        refine ⟨text.take token.length, gap, ?_, ?_, nonempty starts, blank, ?_⟩
        · rw [← equal, List.take_append_drop]
        · rwa [lowered_take_of_keywordAt? isKeyword_of_mem_unitWords found]
        · exact startsBlank_trimStart _
      · split at read <;> cases read
  · intro given
    obtain ⟨token, gap, rfl, known, nonempty, blank, stops⟩ := given
    have starts := blank.startsBlank_append nonempty body
    have found := keywordAt?_append isKeyword_of_mem_unitWords
      (mem_unitWords_of_lookup known : Spells token unitWords) (Or.inr starts)
    have behind : (token ++ (gap ++ body)).drop (Text.lowered token).length = gap ++ body := by
      rw [Text.length_lowered, List.drop_left]
    rw [designation, found]
    simp only [behind, starts, if_true, known, Text.trimStart_append blank stops]

/-- A text that is read without a unit names none. -/
theorem namesNoUnit_of_designation {strict : Bool} {text body : Text}
    (read : designation strict text = .read none body) :
    NamesNoUnit strict text ∧ body = Text.trimStart text := by
  have unnamed : ∀ piece other, ¬ NamesUnit piece text other := by
    intro piece other names
    have named : designation strict text = .read (some piece) other :=
      designation_eq_read_some_iff.2 names
    rw [named] at read
    cases read
  unfold designation at read
  split at read
  · rename_i missing
    obtain ⟨-, rfl⟩ := Designation.read.inj read
    exact ⟨⟨unnamed, fun _ => (keywordAt?_unitWords_eq_none_iff text).1 missing⟩, rfl⟩
  · rename_i token found
    obtain ⟨piece, known⟩ := exists_piece_of_keywordAt? found
    rw [known] at read
    split at read
    · cases read
    · split at read
      · cases read
      · rename_i lenient
        obtain ⟨-, rfl⟩ := Designation.read.inj read
        exact ⟨⟨unnamed, fun strictly => absurd strictly lenient⟩, rfl⟩

/-- A text that names no unit is read without one. -/
theorem designation_of_namesNoUnit {strict : Bool} {text : Text}
    (namesNone : NamesNoUnit strict text) :
    designation strict text = .read none (Text.trimStart text) := by
  obtain ⟨unnamed, plain⟩ := namesNone
  cases found : keywordAt? unitWords text with
  | none => rw [designation, found]
  | some token =>
      obtain ⟨piece, known⟩ := exists_piece_of_keywordAt? found
      have apart : startsBlank (text.drop token.length) = false := by
        rw [Bool.eq_false_iff]
        intro starts
        have read : designation strict text =
            .read (some piece) (Text.trimStart (text.drop token.length)) := by
          rw [designation, found]
          simp only [starts, if_true, known]
        exact unnamed _ _ (designation_eq_read_some_iff.1 read)
      have lenient : strict = false := by
        rw [Bool.eq_false_iff]
        intro strictly
        rw [(keywordAt?_unitWords_eq_none_iff text).2 (plain strictly)] at found
        cases found
      rw [designation, found]
      simp [apart, lenient]

/-- A text is read without a unit exactly if it names none. -/
theorem designation_eq_read_none_iff {strict : Bool} {text body : Text} :
    designation strict text = .read none body ↔
      NamesNoUnit strict text ∧ body = Text.trimStart text := by
  constructor
  · exact namesNoUnit_of_designation
  · intro given
    obtain ⟨namesNone, rfl⟩ := given
    exact designation_of_namesNoUnit namesNone

/-- A text that starts with no unit letter is read without a unit. -/
theorem designation_of_head {strict : Bool} {text : Text}
    (plain : ∀ character ∈ text.head?, character ∉ unitLetters) :
    designation strict text = .read none (Text.trimStart text) := by
  rw [designation, (keywordAt?_unitWords_eq_none_iff text).2 plain]

/-- A unit token before a blank is read as a unit. -/
theorem designation_of_token (strict : Bool) {token after : Text}
    (spelled : Spells token unitWords) (starts : startsBlank after = true) :
    ∃ unit, designation strict (token ++ after) = .read unit (Text.trimStart after) := by
  have behind : (token ++ after).drop (Text.lowered token).length = after := by
    rw [Text.length_lowered, List.drop_left]
  refine ⟨unitTokens.lookup (Text.lowered token), ?_⟩
  rw [designation, keywordAt?_append isKeyword_of_mem_unitWords spelled (Or.inr starts)]
  dsimp only
  rw [behind, if_pos starts]

/-- The unit that is written before a place is read as such. -/
theorem designation_renderStation_of_named {strict : Bool} {unit : Option Piece}
    {place rest : Text} (named : unit ≠ none) (stops : startsBlank (place ++ rest) = false) :
    designation strict (renderStation unit place ++ rest) = .read unit (place ++ rest) := by
  obtain ⟨piece, rfl⟩ := Option.ne_none_iff_exists'.1 named
  have known : unitTokens.lookup (Text.lowered piece.abbreviation) = some piece := by
    cases piece <;> decide
  rw [designation_eq_read_some_iff]
  refine ⟨piece.abbreviation, [' '], ?_, known, by decide, by decide, stops⟩
  rw [renderStation, List.append_assoc]
  rfl

/-- A strict reader takes no unit from the start of a place that does not begin with the letter of
one. -/
theorem designation_renderStation_of_plain {unit : Option Piece} {place : Text}
    (starts : startsInName place = true)
    (plain : unit ≠ none ∨ ∀ character ∈ place.head?, character ∉ unitLetters) (rest : Text) :
    designation true (renderStation unit place ++ rest) = .read unit (place ++ rest) := by
  have present : place ≠ [] := by
    rintro rfl
    cases starts
  have stops : startsBlank (place ++ rest) = false := by
    apply startsBlank_of_startsInName
    rw [startsInName_append present]
    exact starts
  by_cases named : unit = none
  · subst named
    have head : (place ++ rest).head? = place.head? := List.head?_append_of_ne_nil _ present
    have alone := plain.resolve_left (not_not.2 rfl)
    rw [renderStation, designation_of_head (head ▸ alone),
      Text.trimStart_of_not_startsBlank stops]
  · exact designation_renderStation_of_named named stops

/-- The station of an order is read back exactly if its unit is named or its place does not begin
with the letter of one. -/
theorem exists_designation_renderStation_iff {unit : Option Piece} {place : Text}
    (starts : startsInName place = true) (rest : Text) :
    (∃ body, designation true (renderStation unit place ++ rest) = .read unit body) ↔
      unit ≠ none ∨ ∀ character ∈ place.head?, character ∉ unitLetters := by
  constructor
  · intro given
    obtain ⟨body, read⟩ := given
    cases unit with
    | some piece => exact Or.inl (by simp)
    | none =>
        have present : place ≠ [] := by
          rintro rfl
          cases starts
        obtain ⟨⟨-, plain⟩, -⟩ := namesNoUnit_of_designation read
        have head : (place ++ rest).head? = place.head? := List.head?_append_of_ne_nil _ present
        exact Or.inr (head ▸ plain rfl)
  · intro plain
    exact ⟨_, designation_renderStation_of_plain starts plain rest⟩

/-- What a strict reader makes of a text that ends in a name does not depend on what follows. -/
theorem designation_append {text body : Text} {unit : Option Piece} (ends : EndsInName text)
    (read : designation true text = .read unit body) (after : Text) :
    EndsInName body ∧ designation true (text ++ after) = .read unit (body ++ after) := by
  cases unit with
  | some piece =>
      obtain ⟨token, gap, rfl, known, nonempty, blank, stops⟩ := designation_eq_read_some_iff.1 read
      have whole : EndsInName (gap ++ body) := ends.of_append (by simp [nonempty])
      have present : body ≠ [] := by
        rintro rfl
        rw [List.append_nil] at whole
        exact whole.not_allBlank blank
      refine ⟨whole.of_append present, designation_eq_read_some_iff.2
        ⟨token, gap, by simp, known, nonempty, blank, ?_⟩⟩
      rw [startsBlank_append present]
      exact stops
  | none =>
      obtain ⟨⟨-, plain⟩, rfl⟩ := designation_eq_read_none_iff.1 read
      obtain ⟨blanks, equal, blank, -⟩ := Text.exists_blanks_append_trimStart text
      have present : Text.trimStart text ≠ [] := by
        intro missing
        rw [missing, List.append_nil] at equal
        exact ends.not_allBlank (equal ▸ blank)
      have stops : startsBlank (Text.trimStart text ++ after) = false := by
        rw [startsBlank_append present]
        exact startsBlank_trimStart text
      have trimmed : Text.trimStart (text ++ after) = Text.trimStart text ++ after := by
        rw [← Text.trimStart_append blank stops, ← List.append_assoc, ← equal]
      have head : (text ++ after).head? = text.head? := List.head?_append_of_ne_nil _ ends.ne_nil
      refine ⟨(equal ▸ ends).of_append present, ?_⟩
      rw [designation_of_head (head ▸ plain rfl), trimmed]

/-- Before a blank, a text is a token, or it is read as if it stood alone. -/
theorem cases_of_designation_append {text after body : Text} {unit : Option Piece}
    (ends : EndsInName text) (starts : startsBlank after = true)
    (read : designation true (text ++ after) = .read unit body) :
    (Spells text unitWords ∧ body = Text.trimStart after) ∨
      ∃ own, designation true text = .read unit own ∧ body = own ++ after := by
  cases unit with
  | some piece =>
      obtain ⟨token, gap, equal, known, nonempty, blank, stops⟩ :=
        designation_eq_read_some_iff.1 read
      have spelled : Spells token unitWords := mem_unitWords_of_lookup known
      obtain ⟨later, rfl, rest⟩ := exists_of_solid_append
        (spelled.isBlank_eq_false isKeyword_of_mem_unitWords) starts equal
      by_cases empty : later = []
      · subst empty
        rw [List.nil_append] at rest
        rw [List.append_nil, ← rest, Text.trimStart_append blank stops]
        exact Or.inl ⟨spelled, rfl⟩
      · obtain ⟨own, rfl, ownEnds, rfl⟩ :=
          (ends.of_append empty).exists_behind (NoName.of_allBlank blank) rest.symm
        rw [startsBlank_append ownEnds.ne_nil] at stops
        exact Or.inr ⟨own,
          designation_eq_read_some_iff.2 ⟨token, gap, rfl, known, nonempty, blank, stops⟩, rfl⟩
  | none =>
      obtain ⟨⟨-, plain⟩, rfl⟩ := designation_eq_read_none_iff.1 read
      have head : (text ++ after).head? = text.head? := List.head?_append_of_ne_nil _ ends.ne_nil
      have alone : designation true text = .read none (Text.trimStart text) :=
        designation_of_head (head ▸ plain rfl)
      obtain ⟨-, together⟩ := designation_append ends alone after
      rw [read] at together
      exact Or.inr ⟨Text.trimStart text, alone, (Designation.read.inj together).2⟩

/-- What is left after the designation is the end of the text. -/
theorem exists_append_of_designation {strict : Bool} {text body : Text} {unit : Option Piece}
    (read : designation strict text = .read unit body) : ∃ opening, text = opening ++ body := by
  cases unit with
  | some piece =>
      obtain ⟨token, gap, equal, -⟩ := designation_eq_read_some_iff.1 read
      exact ⟨token ++ gap, by rw [equal, List.append_assoc]⟩
  | none =>
      obtain ⟨-, rfl⟩ := designation_eq_read_none_iff.1 read
      obtain ⟨blanks, equal, -⟩ := Text.exists_blanks_append_trimStart text
      exact ⟨blanks, equal⟩

end Diplomacy
