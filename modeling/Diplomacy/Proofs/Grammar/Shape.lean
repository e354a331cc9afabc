import Diplomacy.Proofs.Grammar.Language

namespace Diplomacy

/-- What is helped along is a move or a hold. -/
def IsAidedBody (body : Text) : Prop :=
  IsMoveBody body ∨ IsHoldBody body

/-- A body of the given shape is read, behind a unit or without one. -/
def Opens (shape : Text → Prop) (text : Text) : Prop :=
  ∃ unit body, designation true text = .read unit body ∧ shape body

/-- A keyword between blanks leads to a body of the given shape. -/
def LeadsTo (words : List Text) (shape : Text → Prop) (text : Text) : Prop :=
  ∃ inner, aidedText? words text = some inner ∧ Opens shape inner

/-- A name and what it leads to make an aid. -/
def IsAidBody (words : List Text) (shape : Text → Prop) : Text → Prop :=
  BehindName (LeadsTo words shape)

/-- Each rule finds orders in bodies of one shape. -/
def Rule.Shape : Rule → Text → Prop
  | .hold => IsHoldBody
  | .move => IsMoveBody
  | .support => IsAidBody supportKeywords IsAidedBody
  | .convoy => IsAidBody convoyKeywords IsMoveBody

/-- A text that calls for an order is a keyword behind blanks, with or without a unit behind it. -/
def Calls (words : List Text) (text : Text) : Prop :=
  Announces words text ∨ ∃ token, aidedText? words text = some token ∧ Spells token unitWords

/-- A text interrupts a name if it begins with blanks and no unit stands behind them. -/
def Interrupts (text : Text) : Prop :=
  startsBlank text = true ∧ ∀ character ∈ (Text.trimStart text).head?, character ∉ unitLetters

/-- A text carries a shape if everything that ends with it has the shape. -/
structure Carries (shape : Text → Prop) (text : Text) : Prop where
  interrupts : Interrupts text
  alone : shape (Text.trimStart text)
  behind : ∀ before, shape (before ++ text)

/-- A hold body is a name and a text that announces a hold. -/
theorem isHoldBody_iff {body : Text} :
    IsHoldBody body ↔ BehindName (Announces holdKeywords) body := by
  constructor
  · intro given
    obtain ⟨before, gap, keyword, rfl, ends, nonempty, blank, spelled⟩ := given
    exact ⟨before, gap ++ keyword, rfl, ends, gap, keyword, rfl, nonempty, blank, spelled⟩
  · intro given
    obtain ⟨before, after, rfl, ends, gap, keyword, rfl, nonempty, blank, spelled⟩ := given
    exact ⟨before, gap, keyword, rfl, ends, nonempty, blank, spelled⟩

/-- A move body is a name and a text that goes to a place. -/
theorem isMoveBody_iff {body : Text} : IsMoveBody body ↔ BehindName GoesTo body := by
  constructor
  · intro given
    obtain ⟨before, gap, separator, after, rfl, ends, blank, apart, later⟩ := given
    exact ⟨before, _, rfl, ends, gap, separator, after, rfl, blank, apart, later⟩
  · intro given
    obtain ⟨before, rest, rfl, ends, gap, separator, after, rfl, blank, apart, later⟩ := given
    exact ⟨before, gap, separator, after, rfl, ends, blank, apart, later⟩

/-- A text that ends in a name, followed by one that goes to a place, is a move body. -/
theorem isMoveBody_of_goesTo {before after : Text} (ends : EndsInName before)
    (goes : GoesTo after) : IsMoveBody (before ++ after) :=
  isMoveBody_iff.2 ⟨before, after, rfl, ends, goes⟩

theorem isHoldBody_of_announces {before after : Text} (ends : EndsInName before)
    (announced : Announces holdKeywords after) : IsHoldBody (before ++ after) :=
  isHoldBody_iff.2 ⟨before, after, rfl, ends, announced⟩

/-- Every move body is an aided body. -/
theorem IsMoveBody.isAidedBody {body : Text} (isMove : IsMoveBody body) : IsAidedBody body :=
  Or.inl isMove

theorem IsHoldBody.isAidedBody {body : Text} (isHold : IsHoldBody body) : IsAidedBody body :=
  Or.inr isHold

/-- An aided body stays one behind any opening. -/
theorem IsAidedBody.append {body : Text} (isAided : IsAidedBody body) (opening : Text) :
    IsAidedBody (opening ++ body) :=
  isAided.imp (fun isMove => isMove.append opening) fun isHold => isHold.append opening

/-- A longer opening does not change the shape. -/
theorem Rule.shape_append {rule : Rule} {body : Text} (shape : rule.Shape body) (opening : Text) :
    rule.Shape (opening ++ body) := by
  cases rule with
  | hold => exact IsHoldBody.append shape opening
  | move => exact IsMoveBody.append shape opening
  | support => exact BehindName.append shape opening
  | convoy => exact BehindName.append shape opening

section Search

variable {A : Type} {words : List Text} {find : Text → Option A} {shape : Text → Prop}
variable {text : Text}

/-- A text that leads to a body starts with a blank. -/
theorem LeadsTo.startsBlank (leads : LeadsTo words shape text) : startsBlank text = true := by
  obtain ⟨inner, opened, -⟩ := leads
  exact startsBlank_of_aidedText? opened

theorem LeadsTo.ne_nil (leads : LeadsTo words shape text) : text ≠ [] := by
  rintro rfl
  exact absurd leads.startsBlank (by decide)

theorem Calls.ne_nil (calls : Calls words text) : text ≠ [] := by
  rintro rfl
  rcases calls with ⟨gap, written, equal, nonempty, -⟩ | ⟨token, found, -⟩
  · exact nonempty (List.append_eq_nil_iff.1 equal.symm).1
  · exact absurd (startsBlank_of_aidedText? found) (by decide)

/-- An aided order is found exactly if the text opens an aided body. -/
theorem Aided.exists_find?_iff :
    (∃ aided, Aided.find? true text = some aided) ↔ Opens IsAidedBody text := by
  constructor
  · intro given
    obtain ⟨aided, found⟩ := given
    rcases Aided.find?_cases found with ⟨order, moves, -⟩ | ⟨order, holds, -⟩
    · obtain ⟨unit, body, read, isMove⟩ := Move.exists_find?_iff.1 ⟨order, moves⟩
      exact ⟨unit, body, read, Or.inl isMove⟩
    · obtain ⟨unit, body, read, isHold⟩ := Hold.exists_find?_iff.1 ⟨order, holds⟩
      exact ⟨unit, body, read, Or.inr isHold⟩
  · intro given
    obtain ⟨unit, body, read, isMove | isHold⟩ := given
    · obtain ⟨order, moves⟩ := Move.exists_find?_iff.2 ⟨unit, body, read, isMove⟩
      exact ⟨.move order, by rw [Aided.find?, moves]; rfl⟩
    · obtain ⟨order, holds⟩ := Hold.exists_find?_iff.2 ⟨unit, body, read, isHold⟩
      rw [Aided.find?, holds]
      cases Move.find? true text with
      | none => exact ⟨.hold order, rfl⟩
      | some move => exact ⟨.move move, rfl⟩

/-- An aid stands behind a place exactly if the text leads to a body of the aided shape. -/
theorem Aid.exists_behind?_iff
    (finds : ∀ inner, (∃ aided, find inner = some aided) ↔ Opens shape inner)
    (unit : Option Piece) (place : Text) :
    (∃ aid, Aid.behind? words find unit place text = some aid) ↔ LeadsTo words shape text := by
  constructor
  · intro given
    obtain ⟨aid, made⟩ := given
    obtain ⟨-, -, opened, helped⟩ := Aid.behind?_eq_some_iff.1 made
    exact ⟨aid.inner, opened, (finds aid.inner).1 ⟨aid.aided, helped⟩⟩
  · intro given
    obtain ⟨inner, opened, opens⟩ := given
    obtain ⟨aided, helped⟩ := (finds inner).2 opens
    exact ⟨⟨unit, place, inner, aided⟩, Aid.behind?_eq_some_iff.2 ⟨rfl, rfl, opened, helped⟩⟩

/-- An aid is found exactly if the text opens the body of an aid. -/
theorem Aid.exists_find?_iff
    (finds : ∀ inner, (∃ aided, find inner = some aided) ↔ Opens shape inner) :
    (∃ aid, Aid.find? words find true text = some aid) ↔ Opens (IsAidBody words shape) text := by
  constructor
  · intro given
    obtain ⟨aid, search⟩ := given
    obtain ⟨unit, body, place, after, read, member, follows⟩ := exists_of_findByPlace search
    obtain ⟨before, rfl, ends, -⟩ := exists_mem_placeNames_iff.1 ⟨place, member⟩
    have leads := (Aid.exists_behind?_iff finds unit place).1 ⟨aid, follows⟩
    exact ⟨unit, _, read, before, after, rfl, ends, leads⟩
  · intro given
    obtain ⟨unit, body, read, before, after, rfl, ends, leads⟩ := given
    obtain ⟨place, member⟩ := exists_mem_placeNames_iff.2
      ⟨before, rfl, ends, startsInName_of_startsBlank leads.startsBlank⟩
    obtain ⟨aid, made⟩ := (Aid.exists_behind?_iff finds unit place).2 leads
    exact exists_findByPlace read member made

/-- A rule finds an order exactly if the text opens a body of its shape. -/
theorem Rule.exists_order?_iff {rule : Rule} :
    (∃ order, rule.order? true text = some order) ↔ Opens rule.Shape text := by
  have mapped {B : Type} (found : Option B) (make : B → Order) :
      (∃ order, found.map make = some order) ↔ ∃ value, found = some value := by
    cases found <;> simp
  cases rule with
  | hold => rw [Rule.order?_hold, mapped, Hold.exists_find?_iff]; rfl
  | move => rw [Rule.order?_move, mapped, Move.exists_find?_iff]; rfl
  | support =>
      rw [Rule.order?_support, mapped, Aid.exists_find?_iff fun _ => Aided.exists_find?_iff]
      rfl
  | convoy =>
      rw [Rule.order?_convoy, mapped, Aid.exists_find?_iff fun _ => Move.exists_find?_iff]
      rfl

/-- A rule refuses a designated text exactly if the body does not have its shape. -/
theorem Rule.order?_eq_none_iff {rule : Rule} {unit : Option Piece} {body : Text}
    (read : designation true text = .read unit body) :
    rule.order? true text = none ↔ ¬ rule.Shape body := by
  rw [Option.eq_none_iff_forall_ne_some, ← not_exists, Rule.exists_order?_iff, Opens, read]
  simp

end Search

section Append

variable {words : List Text} {shape other : Text → Prop} {text after : Text}

/-- Before a blank, a text is a token, or it is read as if it stood alone. -/
theorem opens_append_iff (ends : EndsInName text) (starts : startsBlank after = true) :
    Opens shape (text ++ after) ↔
      (Spells text unitWords ∧ shape (Text.trimStart after)) ∨
        Opens (fun own => shape (own ++ after)) text := by
  constructor
  · intro given
    obtain ⟨unit, body, read, fits⟩ := given
    rcases cases_of_designation_append ends starts read with ⟨spelled, rfl⟩ | ⟨own, alone, rfl⟩
    · exact Or.inl ⟨spelled, fits⟩
    · exact Or.inr ⟨unit, own, alone, fits⟩
  · intro given
    rcases given with ⟨spelled, fits⟩ | ⟨unit, own, alone, fits⟩
    · obtain ⟨unit, read⟩ := designation_of_token true spelled starts
      exact ⟨unit, _, read, fits⟩
    · exact ⟨unit, _, (designation_append ends alone after).2, fits⟩

/-- Behind an interruption no unit is read, and the whole remaining text is the body. -/
theorem Interrupts.opens_iff (interrupts : Interrupts after) :
    Opens shape (Text.trimStart after) ↔ shape (Text.trimStart after) := by
  have whole := Text.trimStart_of_not_startsBlank (startsBlank_trimStart after)
  rw [Opens, designation_of_head interrupts.2, whole]
  simp

/-- A keyword in the text leads to what follows it, or to more of the text. -/
theorem leadsTo_append_iff (keywords : ∀ word ∈ words, IsKeyword word) (ends : EndsInName text)
    (interrupts : Interrupts after) :
    LeadsTo words shape (text ++ after) ↔
      (Calls words text ∧ shape (Text.trimStart after)) ∨
        LeadsTo words (fun own => shape (own ++ after)) text := by
  have starts := interrupts.1
  constructor
  · intro given
    obtain ⟨inner, opened, opens⟩ := given
    rcases (aidedText?_append_iff keywords ends starts).1 opened with
      ⟨announced, rfl⟩ | ⟨own, found, rfl⟩
    · exact Or.inl ⟨Or.inl announced, interrupts.opens_iff.1 opens⟩
    · have ownEnds := (aidedText?_append keywords ends found after).1
      rcases (opens_append_iff ownEnds starts).1 opens with ⟨spelled, fits⟩ | opens
      · exact Or.inl ⟨Or.inr ⟨own, found, spelled⟩, fits⟩
      · exact Or.inr ⟨own, found, opens⟩
  · intro given
    rcases given with ⟨announced | ⟨token, found, spelled⟩, fits⟩ | ⟨own, found, opens⟩
    · exact ⟨_, (aidedText?_append_iff keywords ends starts).2 (Or.inl ⟨announced, rfl⟩),
        interrupts.opens_iff.2 fits⟩
    · obtain ⟨tokenEnds, opened⟩ := aidedText?_append keywords ends found after
      exact ⟨_, opened, (opens_append_iff tokenEnds starts).2 (Or.inl ⟨spelled, fits⟩)⟩
    · obtain ⟨ownEnds, opened⟩ := aidedText?_append keywords ends found after
      exact ⟨_, opened, (opens_append_iff ownEnds starts).2 (Or.inr opens)⟩

/-- A text that leads to a body goes on leading to one when the body grows. -/
theorem LeadsTo.append (keywords : ∀ word ∈ words, IsKeyword word) (ends : EndsInName text)
    (grows : ∀ own, EndsInName own → shape own → other (own ++ after))
    (leads : LeadsTo words shape text) : LeadsTo words other (text ++ after) := by
  obtain ⟨inner, found, unit, body, read, fits⟩ := leads
  obtain ⟨innerEnds, opened⟩ := aidedText?_append keywords ends found after
  obtain ⟨bodyEnds, together⟩ := designation_append innerEnds read after
  exact ⟨_, opened, unit, _, together, grows body bodyEnds fits⟩

/-- A text that leads to a body of one shape leads to a body of every weaker shape. -/
theorem LeadsTo.imp (keywords : ∀ word ∈ words, IsKeyword word) (ends : EndsInName text)
    (weaker : ∀ own, EndsInName own → shape own → other own) (leads : LeadsTo words shape text) :
    LeadsTo words other text := by
  rw [← List.append_nil text]
  refine leads.append keywords ends fun own ownEnds fits => ?_
  rw [List.append_nil]
  exact weaker own ownEnds fits

/-- The body of an aid grows with the body it helps. -/
theorem IsAidBody.append_right (keywords : ∀ word ∈ words, IsKeyword word) (ends : EndsInName text)
    (grows : ∀ own, EndsInName own → shape own → other (own ++ after))
    (isAid : IsAidBody words shape text) : IsAidBody words other (text ++ after) := by
  refine behindName_append_iff.2 (Or.inl (BehindName.imp ends ?_ isAid))
  rintro later (rfl | laterEnds) leads
  · exact absurd rfl leads.ne_nil
  · exact leads.append keywords laterEnds grows

/-- The body of an aid stays one for a weaker shape of the aided body. -/
theorem IsAidBody.imp (keywords : ∀ word ∈ words, IsKeyword word) (ends : EndsInName text)
    (weaker : ∀ own, EndsInName own → shape own → other own)
    (isAid : IsAidBody words shape text) : IsAidBody words other text := by
  rw [← List.append_nil text]
  refine isAid.append_right keywords ends fun own ownEnds fits => ?_
  rw [List.append_nil]
  exact weaker own ownEnds fits

/-- The keyword of an aid stands at the end of the place, within it or behind it. -/
theorem isAidBody_append_iff (keywords : ∀ word ∈ words, IsKeyword word) (ends : EndsInName text)
    (interrupts : Interrupts after) :
    IsAidBody words shape (text ++ after) ↔
      (BehindName (Calls words) text ∧ shape (Text.trimStart after)) ∨
        IsAidBody words (fun own => shape (own ++ after)) text ∨
        LeadsTo words shape after ∨ IsAidBody words shape after := by
  rw [IsAidBody, behindName_append_iff]
  constructor
  · rintro (⟨before, later, rfl, beforeEnds, leads⟩ | behind)
    · by_cases empty : later = []
      · subst empty
        exact Or.inr (Or.inr (Or.inl leads))
      · rcases (leadsTo_append_iff keywords (ends.of_append empty) interrupts).1 leads with
          ⟨calls, fits⟩ | leads
        · exact Or.inl ⟨⟨before, later, rfl, beforeEnds, calls⟩, fits⟩
        · exact Or.inr (Or.inl ⟨before, later, rfl, beforeEnds, leads⟩)
    · exact Or.inr (Or.inr (Or.inr behind))
  · rintro (⟨⟨before, later, rfl, beforeEnds, calls⟩, fits⟩ |
      ⟨before, later, rfl, beforeEnds, leads⟩ | leads | behind)
    · have laterEnds := ends.of_append calls.ne_nil
      exact Or.inl ⟨before, later, rfl, beforeEnds,
        (leadsTo_append_iff keywords laterEnds interrupts).2 (Or.inl ⟨calls, fits⟩)⟩
    · have laterEnds := ends.of_append leads.ne_nil
      exact Or.inl ⟨before, later, rfl, beforeEnds,
        (leadsTo_append_iff keywords laterEnds interrupts).2 (Or.inr leads)⟩
    · exact Or.inl ⟨text, [], by simp, ends, leads⟩
    · exact Or.inr behind

/-- A space and a character that starts no keyword lead to no body. -/
theorem not_leadsTo_space (keywords : ∀ word ∈ words, IsKeyword word) {character : Char}
    (solid : isBlank character = false)
    (quiet : ∀ word ∈ words, word.head? ≠ some character.toLower) (rest : Text) :
    ¬ LeadsTo words shape (' ' :: character :: rest) := by
  intro leads
  obtain ⟨inner, opened, -⟩ := leads
  rw [aidedText?_eq_none keywords solid quiet] at opened
  cases opened

/-- A letter that begins neither a keyword nor a unit is passed over. -/
theorem isAidBody_append_space_iff (keywords : ∀ word ∈ words, IsKeyword word)
    (ends : EndsInName text) (character : Char) (rest : Text) (solid : isBlank character = false)
    (apart : character ∉ unitLetters)
    (quiet : ∀ word ∈ words, word.head? ≠ some character.toLower) :
    IsAidBody words shape (text ++ ' ' :: character :: rest) ↔
      (BehindName (Calls words) text ∧ shape (character :: rest)) ∨
        IsAidBody words (fun own => shape (own ++ ' ' :: character :: rest)) text ∨
        IsAidBody words shape (character :: rest) := by
  have lone : AllBlank [' '] := by decide
  have trimmed : Text.trimStart (' ' :: character :: rest) = character :: rest :=
    Text.trimStart_append lone solid
  have interrupts : Interrupts (' ' :: character :: rest) := by
    refine ⟨rfl, ?_⟩
    rw [trimmed]
    rintro first ⟨⟩
    exact apart
  have passed : IsAidBody words shape (' ' :: character :: rest) ↔
      IsAidBody words shape (character :: rest) :=
    behindName_unnamed_iff (NoName.of_allBlank lone)
  rw [isAidBody_append_iff keywords ends interrupts, trimmed, passed,
    or_iff_right (not_leadsTo_space keywords solid quiet rest)]

/-- In front of what carries the shape, only the text itself decides. -/
theorem Carries.leadsTo_append_iff (keywords : ∀ word ∈ words, IsKeyword word)
    (carries : Carries shape after) (ends : EndsInName text) :
    LeadsTo words shape (text ++ after) ↔ Calls words text ∨ LeadsTo words EndsInName text := by
  rw [Diplomacy.leadsTo_append_iff keywords ends carries.interrupts]
  refine or_congr (and_iff_left carries.alone) ?_
  constructor
  · exact LeadsTo.imp keywords ends fun own ownEnds _ => ownEnds
  · exact LeadsTo.imp keywords ends fun own _ _ => carries.behind own

/-- Before a text that carries the aided shape, the body of an aid begins on either side of the cut
or runs across it. -/
theorem Carries.isAidBody_append_iff (keywords : ∀ word ∈ words, IsKeyword word)
    (carries : Carries shape after) (ends : EndsInName text) :
    IsAidBody words shape (text ++ after) ↔
      BehindName (Calls words) text ∨ IsAidBody words EndsInName text ∨
        LeadsTo words shape after ∨ IsAidBody words shape after := by
  rw [Diplomacy.isAidBody_append_iff keywords ends carries.interrupts]
  refine or_congr (and_iff_left carries.alone) (or_congr_left ?_)
  constructor
  · exact IsAidBody.imp keywords ends fun own ownEnds _ => ownEnds
  · exact IsAidBody.imp keywords ends fun own _ _ => carries.behind own

/-- A text that carries a shape carries every weaker shape. -/
theorem Carries.imp (weaker : ∀ body, shape body → other body) (carries : Carries shape after) :
    Carries other after :=
  ⟨carries.interrupts, weaker _ carries.alone, fun before => weaker _ (carries.behind before)⟩

/-- An aid ends with the order that is helped along. -/
theorem LeadsTo.carries (keywords : ∀ word ∈ words, IsKeyword word)
    (apart : ∀ word ∈ words, word.take 1 ∉ unitWords)
    (closed : ∀ body, shape body → ∀ opening, shape (opening ++ body))
    (leads : LeadsTo words shape after) : Carries shape after := by
  obtain ⟨inner, opened, unit, body, read, fits⟩ := leads
  obtain ⟨gap, written, space, rfl, nonempty, blank, spelled, -⟩ :=
    (aidedText?_eq_some_iff keywords).1 opened
  obtain ⟨opening, rfl⟩ := exists_append_of_designation read
  have stops := spelled.startsBlank_append keywords (space ++ (opening ++ body))
  have trimmed := Text.trimStart_append blank stops
  refine ⟨⟨blank.startsBlank_append nonempty _, ?_⟩, ?_, ?_⟩
  · rw [trimmed]
    cases written with
    | nil => exact absurd rfl (spelled.ne_nil keywords)
    | cons first others =>
        rintro character ⟨⟩
        rw [← toLower_mem_iff]
        exact apart _ spelled
  · rw [trimmed]
    have split : written ++ (space ++ (opening ++ body)) =
        (written ++ (space ++ opening)) ++ body := by simp
    rw [split]
    exact closed body fits _
  · intro before
    have split : before ++ (gap ++ (written ++ (space ++ (opening ++ body)))) =
        (before ++ (gap ++ (written ++ (space ++ opening)))) ++ body := by simp
    rw [split]
    exact closed body fits _

end Append

end Diplomacy
