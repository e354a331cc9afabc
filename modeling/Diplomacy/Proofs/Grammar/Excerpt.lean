import Diplomacy.Order.Property
import Diplomacy.Proofs.Grammar.Language
import Diplomacy.Proofs.Grammar.Log

namespace Diplomacy

/-- A name is not empty, because a name character begins it and another one ends it. -/
def IsName (place : Text) : Prop :=
  startsInName place = true ∧ EndsInName place

/-- The names stand in the text from left to right, and at least one character separates each of
them from the next. -/
inductive NamesIn : List Text → Text → Prop where
  | last {before name after : Text} (isName : IsName name) :
      NamesIn [name] (before ++ (name ++ after))
  | more {before name after : Text} {between : Char} {names : List Text} (isName : IsName name)
      (rest : NamesIn names after) : NamesIn (name :: names) (before ++ (name ++ between :: after))

def Hold.places (order : Hold) : List Text := [order.place]

def Move.places (order : Move) : List Text := [order.source, order.destination]

def Aided.places : Aided → List Text
  | .hold order => order.places
  | .move order => order.places

/-- The places are listed as they are written, the place of the order itself first. -/
def Order.places : Order → List Text
  | .hold order => order.places
  | .move order => order.places
  | .support _ place aided => place :: aided.places
  | .convoy _ place carried => place :: carried.places

/-- These kinds of order may be helped along by an order of the given kind. -/
def OrderKind.allowed : OrderKind → List OrderKind
  | .hold => []
  | .move => []
  | .support => AidKind.support.allowed
  | .convoy => AidKind.convoy.allowed

/-- The unit is missing or names a piece, and the order that is helped along is of an allowed kind.
Every order is so by its type. The content lies in the readers that build orders from values of any
kind, because they check the unit and what is helped along and would fail on any other. -/
structure Order.Admitted (order : Order) : Prop where
  unit : Value.ofUnit order.unit ∈ [.none, .text "Army".toList, .text "Fleet".toList]
  aided : ∀ aided ∈ order.aided?, aided.kind ∈ order.kind.allowed

/-- A refused text is handed back as it was given. An accepted text is used up, and the order takes
its places from the text. -/
def Verdict.Faithful (text : Text) (verdict : Verdict) : Prop :=
  (verdict = .refused text ∧ verdict.remainder = text) ∨
    ∃ order, verdict = .accepted order ∧ verdict.remainder = [] ∧ order.Admitted ∧
      NamesIn order.places text

section NamesIn

variable {names : List Text} {text : Text}

/-- Names that stand in a text stand in every longer text that ends with it. -/
theorem NamesIn.append (stand : NamesIn names text) (opening : Text) :
    NamesIn names (opening ++ text) := by
  cases stand with
  | last isName =>
      rw [← List.append_assoc]
      exact .last isName
  | more isName rest =>
      rw [← List.append_assoc]
      exact .more isName rest

/-- Names that stand in a text stand in every longer text that starts with it. -/
theorem NamesIn.append_right (stand : NamesIn names text) (ending : Text) :
    NamesIn names (text ++ ending) := by
  induction stand with
  | last isName =>
      rw [List.append_assoc, List.append_assoc]
      exact .last isName
  | more isName rest ih =>
      rw [List.append_assoc, List.append_assoc]
      exact .more isName ih

/-- Whatever stands between two names is not empty. -/
theorem NamesIn.cons {before name between : Text} (isName : IsName name) (apart : between ≠ [])
    (stand : NamesIn names text) :
    NamesIn (name :: names) (before ++ (name ++ (between ++ text))) := by
  cases between with
  | nil => exact absurd rfl apart
  | cons character others => exact .more isName (stand.append others)

/-- Names that stand in the trimmed text stand in the text. -/
theorem NamesIn.of_trim (stand : NamesIn names (Text.trim text)) : NamesIn names text := by
  obtain ⟨opening, equal⟩ := Text.trimStart_suffix text
  obtain ⟨ending, kept⟩ := Text.trimEnd_prefix (Text.trimStart text)
  have inner : Text.trim text ++ ending = Text.trimStart text := kept
  rw [← equal, ← inner]
  exact (stand.append_right ending).append opening

end NamesIn

section Search

variable {strict : Bool} {text : Text}

/-- Names that stand behind the designation of the unit stand in the text. -/
theorem NamesIn.of_designation {names : List Text} {body : Text} {unit : Option Piece}
    (read : designation strict text = .read unit body) (stand : NamesIn names body) :
    NamesIn names text := by
  obtain ⟨opening, rfl⟩ := exists_append_of_designation read
  exact stand.append opening

/-- The place of a hold that is found stands in the text. -/
theorem Hold.namesIn {order : Hold} (found : Hold.find? strict text = some order) :
    NamesIn order.places text := by
  obtain ⟨skipped, after, read, fit⟩ := Hold.exists_fit found
  exact .of_designation read (.last ⟨fit.starts, fit.ends⟩)

/-- The separator of a move keeps its two places apart. -/
theorem Move.namesIn {order : Move} (found : Move.find? strict text = some order) :
    NamesIn order.places text := by
  obtain ⟨skipped, after, read, fit⟩ := Move.exists_fit found
  obtain ⟨-, -, reached⟩ := Move.behind?_eq_some_iff.1 fit.fits
  obtain ⟨gap, separator, rest, rfl, -, spelled, whole⟩ := destination?_eq_some_iff.1 reached
  obtain ⟨passed, rfl, -, starts, ends⟩ := wholeName?_eq_some_iff.1 whole
  have present : gap ++ separator ≠ [] :=
    List.append_ne_nil_of_right_ne_nil _ (spelled.ne_nil isKeyword_of_mem_moveSeparators)
  have destination : NamesIn [order.destination] (passed ++ (order.destination ++ [])) :=
    .last ⟨starts, ends⟩
  rw [List.append_nil] at destination
  rw [← List.append_assoc gap] at read
  exact .of_designation read (.cons ⟨fit.starts, fit.ends⟩ present destination)

/-- The places of an aided order that is found stand in the text. -/
theorem Aided.namesIn {aided : Aided} (found : Aided.find? strict text = some aided) :
    NamesIn aided.places text := by
  rcases Aided.find?_cases found with ⟨order, moves, rfl⟩ | ⟨order, holds, rfl⟩
  · exact Move.namesIn moves
  · exact Hold.namesIn holds

/-- The keyword of an aid stands between its own place and the places of what is helped along. -/
theorem Aid.namesIn {A : Type} {words : List Text} {find : Text → Option A} {aid : Aid A}
    {places : A → List Text} (keywords : ∀ word ∈ words, IsKeyword word)
    (helped : ∀ inner aided, find inner = some aided → NamesIn (places aided) inner)
    (found : Aid.find? words find strict text = some aid) :
    NamesIn (aid.place :: places aid.aided) text := by
  obtain ⟨skipped, after, read, fit⟩ := Aid.exists_fit found
  obtain ⟨-, -, opened, search⟩ := Aid.behind?_eq_some_iff.1 fit.fits
  obtain ⟨gap, written, space, rfl, nonempty, -⟩ := (aidedText?_eq_some_iff keywords).1 opened
  have later : NamesIn (places aid.aided) (written ++ (space ++ aid.inner)) :=
    ((helped _ _ search).append space).append written
  exact .of_designation read (.cons ⟨fit.starts, fit.ends⟩ nonempty later)

/-- The places of an order that a rule finds stand in the text, from left to right. -/
theorem Rule.namesIn {rule : Rule} {order : Order} (found : rule.order? strict text = some order) :
    NamesIn order.places text := by
  cases rule with
  | hold =>
      rw [Rule.order?_hold] at found
      obtain ⟨hold, search, rfl⟩ := Option.map_eq_some_iff.1 found
      exact Hold.namesIn search
  | move =>
      rw [Rule.order?_move] at found
      obtain ⟨move, search, rfl⟩ := Option.map_eq_some_iff.1 found
      exact Move.namesIn search
  | support =>
      rw [Rule.order?_support] at found
      obtain ⟨aid, search, rfl⟩ := Option.map_eq_some_iff.1 found
      exact Aid.namesIn isKeyword_of_mem_supportKeywords (fun _ _ => Aided.namesIn) search
  | convoy =>
      rw [Rule.order?_convoy] at found
      obtain ⟨aid, search, rfl⟩ := Option.map_eq_some_iff.1 found
      exact Aid.namesIn isKeyword_of_mem_convoyKeywords (fun _ _ => Move.namesIn) search

end Search

/-- The types of the parts of an order leave nothing else. -/
theorem Order.admitted (order : Order) : order.Admitted := by
  refine ⟨?_, ?_⟩
  · cases order.unit with
    | none => simp [Value.ofUnit]
    | some piece => cases piece <;> simp [Value.ofUnit, Piece.name]
  · intro aided helps
    cases order with
    | hold order => cases helps
    | move order => cases helps
    | support unit place helped =>
        obtain rfl := Option.some_inj.1 helps
        cases helped with
        | hold order => exact List.mem_cons_self
        | move order => exact List.mem_cons_of_mem _ List.mem_cons_self
    | convoy unit place carried =>
        obtain rfl := Option.some_inj.1 helps
        exact List.mem_cons_self

/-- An accepted order is faithful to the text its places stand in. -/
theorem Verdict.faithful_accepted {text : Text} {order : Order}
    (stand : NamesIn order.places text) : (Verdict.accepted order).Faithful text :=
  Or.inr ⟨order, rfl, rfl, order.admitted, stand⟩

theorem Verdict.faithful_refused (text : Text) : (Verdict.refused text).Faithful text :=
  Or.inl ⟨rfl, rfl⟩

/-- A rule never fails, and it refuses the text itself. -/
theorem Rule.read_result (rule : Rule) (strict : Bool) (text : Text) :
    (rule.read strict text).result =
      .ok ((rule.order? strict text).elim (.refused text) .accepted) := by
  rw [Rule.read_eq, Rule.report?, Rule.order?]
  cases rule.find? strict text with
  | none => rfl
  | some find => rfl

/-- Every rule, and the reader that tries them in turn, answers every text without a failure, so no
check of a unit or of an order that is helped along ever fails. The answer hands the text back, or
it is an order of admitted parts whose places stand in the text. -/
theorem readers_quote_text (strict : Bool) (text : Text) :
    (∀ rule : Rule, ∃ verdict, (rule.read strict text).result = .ok verdict ∧
      verdict.Faithful text) ∧
    ∃ verdict, (readLine strict text).result = .ok verdict ∧ verdict.Faithful text := by
  constructor
  · intro rule
    refine ⟨_, rule.read_result strict text, ?_⟩
    cases found : rule.order? strict text with
    | none => exact Verdict.faithful_refused text
    | some order => exact Verdict.faithful_accepted (Rule.namesIn found)
  · obtain ⟨verdict, answered, log⟩ := readLine_lineLog strict text
    refine ⟨verdict, answered, ?_⟩
    cases verdict with
    | refused given =>
        obtain ⟨rfl, -⟩ := log
        exact Verdict.faithful_refused given
    | accepted order =>
        obtain ⟨found, -⟩ := readLine_accepts_iff_first.1 answered
        exact Verdict.faithful_accepted (Rule.namesIn found).of_trim

end Diplomacy
