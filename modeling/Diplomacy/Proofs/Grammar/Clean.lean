import Diplomacy.Order.Printer
import Diplomacy.Proofs.Grammar.Language
import Diplomacy.Proofs.Text.Word

namespace Diplomacy

/-- These words announce an order that is helped along. -/
def aidWords : List Text := supportKeywords ++ convoyKeywords

/-- A clean word announces nothing and does not begin like a separator, in any case. -/
def IsCleanWord (word : Text) : Prop :=
  ¬ Spells word aidWords ∧ ¬ "to".toList <+: Text.lowered word

instance (word : Text) : Decidable (IsCleanWord word) :=
  inferInstanceAs (Decidable (_ ∧ _))

def CleanPlace (place : Text) : Prop :=
  ∃ words, SpelledBy words place ∧ ∀ word ∈ words, IsCleanWord word

/-- A strict reader takes the first letter of a place for a unit, and a lenient one the first
word. -/
def StandsAlone (strict : Bool) (place : Text) : Prop :=
  if strict then ∀ character ∈ place.head?, character ∉ unitLetters
  else ∀ word ∈ (Text.words place).head?, ¬ Spells word unitWords

instance (strict : Bool) (place : Text) : Decidable (StandsAlone strict place) :=
  match strict with
  | true => Option.decidableForallMem place.head?
  | false => Option.decidableForallMem (Text.words place).head?

/-- Without a unit before it, a place must not look as if it began with one. -/
structure CleanStation (strict : Bool) (unit : Option Piece) (place : Text) : Prop where
  clean : CleanPlace place
  alone : unit = none → StandsAlone strict place

def Hold.Clean (strict : Bool) (order : Hold) : Prop :=
  CleanStation strict order.unit order.place

def Move.Clean (strict : Bool) (order : Move) : Prop :=
  CleanStation strict order.unit order.source ∧ CleanPlace order.destination

def Aided.Clean (strict : Bool) : Aided → Prop
  | .hold order => order.Clean strict
  | .move order => order.Clean strict

/-- A move that stands by itself must not end like a hold. -/
def Order.Clean (strict : Bool) : Order → Prop
  | .hold order => order.Clean strict
  | .move order =>
      order.Clean strict ∧ ∀ word ∈ Text.words order.destination, ¬ Spells word holdKeywords
  | .support unit place aided => CleanStation strict unit place ∧ aided.Clean strict
  | .convoy unit place carried => CleanStation strict unit place ∧ carried.Clean strict

section Place

variable {place : Text}

/-- Every word of a clean place is a clean word. -/
theorem CleanPlace.isCleanWord (clean : CleanPlace place) :
    ∀ word ∈ Text.words place, IsCleanWord word := by
  obtain ⟨words, spelled, plain⟩ := clean
  rwa [spelled.words_eq]

theorem CleanPlace.isWord (clean : CleanPlace place) :
    ∀ word ∈ Text.words place, IsWord word := by
  obtain ⟨words, spelled, -⟩ := clean
  rw [spelled.words_eq]
  exact spelled.isWord

/-- A clean place starts with a name character. -/
theorem CleanPlace.startsInName (clean : CleanPlace place) : startsInName place = true := by
  obtain ⟨words, spelled, -⟩ := clean
  exact spelled.startsInName

/-- A clean place ends with a name character. -/
theorem CleanPlace.endsInName (clean : CleanPlace place) : EndsInName place := by
  obtain ⟨words, spelled, -⟩ := clean
  exact spelled.endsInName

/-- A clean place holds name characters and blanks only. -/
theorem CleanPlace.named_or_blank (clean : CleanPlace place) :
    ∀ character ∈ place, isNameCharacter character = true ∨ isBlank character = true := by
  obtain ⟨words, spelled, -⟩ := clean
  exact spelled.named_or_blank

/-- Behind a name that ends within a place stands a blank. -/
theorem startsBlank_within_place (clean : CleanPlace place) {shorter later : Text}
    (equal : place = shorter ++ later) (nonempty : later ≠ [])
    (outside : startsInName later = false) : startsBlank later = true := by
  cases later with
  | nil => exact absurd rfl nonempty
  | cons character others =>
      have member : character ∈ place := by rw [equal]; simp
      rcases clean.named_or_blank character member with named | blank
      · exact absurd named (Bool.eq_false_iff.1 outside)
      · exact blank

/-- A clean place holds no dash. -/
theorem CleanPlace.no_dash (clean : CleanPlace place) : '-' ∉ place := by
  intro member
  rcases clean.named_or_blank '-' member with named | blank
  · exact absurd named (by decide)
  · exact absurd blank (by decide)

end Place

section Words

/-- A single blank is enough to separate the words on both sides. -/
theorem Text.words_append_space (before after : Text) :
    Text.words (before ++ ' ' :: after) = Text.words before ++ Text.words after :=
  Text.words_append_cons before after (by decide)

/-- The words of a rendered station are the abbreviation of its unit and the words of its place. -/
theorem Text.words_renderStation (unit : Option Piece) (place : Text) :
    Text.words (renderStation unit place) =
      (unit.map Piece.abbreviation).toList ++ Text.words place := by
  cases unit with
  | none => rfl
  | some piece =>
      rw [renderStation, Text.words_append_space]
      cases piece <;> rfl

/-- A rendered hold has one word more than its station, the letter of the hold. -/
theorem Hold.words_render (order : Hold) :
    Text.words order.render =
      Text.words (renderStation order.unit order.place) ++ ["H".toList] :=
  Text.words_append_space _ _

/-- A rendered move has the words of its station, a dash and the words of its destination. -/
theorem Move.words_render (order : Move) :
    Text.words order.render =
      Text.words (renderStation order.unit order.source) ++
        "-".toList :: Text.words order.destination := by
  have split : order.render = renderStation order.unit order.source ++
      ' ' :: ("-".toList ++ ' ' :: order.destination) := by
    rw [Move.render, List.append_assoc]
    rfl
  rw [split, Text.words_append_space, Text.words_append_space]
  rfl

/-- The words of an aid are those of its station, its letter and those of the other order. -/
theorem Text.words_aid (station letter inner : Text) (isWord : Text.words letter = [letter]) :
    Text.words (station ++ ' ' :: letter ++ ' ' :: inner) =
      Text.words station ++ letter :: Text.words inner := by
  have split : station ++ ' ' :: letter ++ ' ' :: inner =
      station ++ ' ' :: (letter ++ ' ' :: inner) := by
    rw [List.append_assoc, List.cons_append]
  rw [split, Text.words_append_space, Text.words_append_space, isWord]
  rfl

end Words

section Avoidance

variable {strict : Bool} {unit : Option Piece} {place : Text}

/-- The abbreviation of a unit is a clean word. -/
theorem isCleanWord_abbreviation (piece : Piece) : IsCleanWord piece.abbreviation := by
  cases piece <;> decide

/-- Every word of a rendered clean station is a clean word. -/
theorem CleanStation.isCleanWord (station : CleanStation strict unit place) :
    ∀ word ∈ Text.words (renderStation unit place), IsCleanWord word := by
  intro word member
  rw [Text.words_renderStation] at member
  rcases List.mem_append.1 member with mark | inside
  · obtain ⟨piece, -, rfl⟩ := Option.map_eq_some_iff.1 (Option.mem_toList.1 mark)
    exact isCleanWord_abbreviation piece
  · exact station.clean.isCleanWord word inside

/-- A clean hold is rendered in clean words. -/
theorem Hold.isCleanWord {order : Hold} (clean : order.Clean strict) :
    ∀ word ∈ Text.words order.render, IsCleanWord word := by
  intro word member
  rw [Hold.words_render] at member
  rcases List.mem_append.1 member with early | late
  · exact CleanStation.isCleanWord clean word early
  · have letter : IsCleanWord "H".toList := by decide
    obtain rfl := List.mem_singleton.1 late
    exact letter

theorem Move.isCleanWord {order : Move} (clean : order.Clean strict) :
    ∀ word ∈ Text.words order.render, IsCleanWord word := by
  intro word member
  rw [Move.words_render] at member
  rcases List.mem_append.1 member with early | late
  · exact clean.1.isCleanWord word early
  · have dash : IsCleanWord "-".toList := by decide
    rcases List.mem_cons.1 late with rfl | inside
    · exact dash
    · exact clean.2.isCleanWord word inside

/-- A rendered clean station holds no dash. -/
theorem CleanStation.no_dash (station : CleanStation strict unit place) :
    '-' ∉ renderStation unit place := by
  cases unit with
  | none => exact station.clean.no_dash
  | some piece =>
      have plain : '-' ∉ piece.abbreviation := by cases piece <;> decide
      simp [renderStation, plain, station.clean.no_dash]

theorem Hold.no_dash {order : Hold} (clean : order.Clean strict) : '-' ∉ order.render := by
  have plain : '-' ∉ " H".toList := by decide
  rw [Hold.render, List.mem_append]
  intro given
  rcases given with early | late
  · exact CleanStation.no_dash clean early
  · exact plain late

end Avoidance

end Diplomacy
