import Diplomacy.Proofs.Parser.Chain
import Diplomacy.Proofs.Run.Search

namespace Diplomacy

/-- The parsers are chained from the right. A single parser stays as it is. -/
def Parser.chained : List Parser → Parser
  | [] => .empty
  | [parser] => parser
  | parser :: next :: rest => .chain parser (Parser.chained (next :: rest))

/-- The values are paired from the right. A single value stays as it is. -/
def Value.paired : List Value → Value
  | [] => .tuple []
  | [value] => value
  | value :: next :: rest => .tuple [value, Value.paired (next :: rest)]

/-- The first value is a flat tuple of so many values, and the second one holds the same values in
nested pairs. A value that is a tuple itself stays whole in both. -/
def Value.Flattens (count : Nat) (flat pairs : Value) : Prop :=
  ∃ values : List Value, values.length = count ∧ flat = .tuple values ∧ pairs = Value.paired values

/-- Two tuples become one. -/
def Transform.concat : Transform :=
  ⟨.inPlace, fun
    | .tuple [.tuple firsts, .tuple seconds] => pure (.tuple (firsts ++ seconds))
    | value => Answer.fail (.misread value)⟩

section Flat

/-- The value of a single part stands alone in its tuple. -/
theorem Parser.run_map_single (parser : Parser) (text : Text) :
    (parser.map Transform.single).run text =
      (parser.run text).bind fun reading => .one (.tuple [reading.1], reading.2) := rfl

/-- The first value of a pair goes in front of the tuple in the second place. -/
theorem Parser.run_map_prepend (parser later : Parser) (text : Text) :
    ((parser.chain later).map Transform.prepend).run text =
      (parser.run text).bind fun reading =>
        (later.run reading.2).bind fun rest =>
          Transform.prepend.read (.tuple [reading.1, rest.1], rest.2) := by
  simp only [Parser.run, Run.map_eq_bind, Run.bind_assoc, Run.one_bind]

/-- A longer sequence puts one more value in front of the flat tuple and around the pairs. -/
theorem Value.Flattens.cons {count : Nat} {flat pairs : Value}
    (flattens : Value.Flattens (count + 1) flat pairs) (value : Value) (rest : Text) :
    Run.Alike (Reading.Alike (Value.Flattens (count + 2)))
      (Transform.prepend.read (.tuple [value, flat], rest))
      (.one (.tuple [value, pairs], rest)) := by
  obtain ⟨values, amount, rfl, rfl⟩ := flattens
  cases values with
  | nil => cases amount
  | cons next values =>
      refine .one ⟨⟨value :: next :: values, ?_, rfl, rfl⟩, rfl⟩
      rw [List.length_cons, amount]

/-- Where the chain finds nested pairs, the sequence finds a flat tuple. -/
theorem Parser.alike_chained (parts : List Parser) (text : Text) :
    Run.Alike (Reading.Alike (Value.Flattens parts.length)) ((Parser.sequence parts).run text)
      ((Parser.chained parts).run text) := by
  induction parts generalizing text with
  | nil => exact .one ⟨⟨[], rfl, rfl, rfl⟩, rfl⟩
  | cons parser rest ih =>
      cases rest with
      | nil =>
          rw [Parser.sequence, Parser.chained, Parser.run_map_single,
            ← Run.bind_one (parser.run text), Run.bind_assoc]
          apply Run.Alike.bind_self
          intro reading
          exact .one ⟨⟨[reading.1], rfl, rfl, rfl⟩, rfl⟩
      | cons next rest =>
          rw [Parser.sequence, Parser.chained, Parser.run_map_prepend, Parser.run_chain]
          apply Run.Alike.bind_self
          intro reading
          apply (ih reading.2).bind
          rintro ⟨flat, remainder⟩ ⟨pairs, left⟩ ⟨flattens, same⟩
          obtain rfl : remainder = left := same
          exact flattens.cons reading.1 remainder

end Flat

section Joined

/-- Two lists of parsers that run one after the other run like one list. -/
theorem Parser.runAll_append (parts others : List Parser) (text : Text) :
    Parser.runAll (parts ++ others) text =
      (Parser.runAll parts text).bind fun first =>
        (Parser.runAll others first.2).bind fun second => .one (first.1 ++ second.1, second.2) := by
  induction parts generalizing text with
  | nil =>
      simp only [List.nil_append, Parser.runAll_nil, Run.one_bind]
      exact (Run.bind_one _).symm
  | cons parser rest ih =>
      simp only [List.cons_append, Parser.runAll, ih, Run.bind_assoc, Run.one_bind]

/-- Two sequences in a chain give the readings of their concatenation. -/
theorem Parser.run_concat (parts others : List Parser) (text : Text) :
    (((Parser.sequence parts).chain (Parser.sequence others)).map Transform.concat).run text =
      (Parser.sequence (parts ++ others)).run text := by
  show (((Parser.sequence parts).chain (Parser.sequence others)).run text).bind
    Transform.concat.read = _
  simp only [Parser.run_chain, Parser.run_sequence, Parser.runAll_append, Run.bind_assoc,
    Run.one_bind]
  rfl

end Joined

/-- A sequence has a rule, even if its parts have none. -/
theorem Parser.start_sequence (parts : List Parser) (text : Text) :
    (Parser.sequence parts).start text = .ok fun _ => (Parser.sequence parts).run text := by
  match parts with
  | [] => rfl
  | [parser] => rfl
  | parser :: next :: rest => rfl

/-- A sequence can be started on every text and gives what the chain of its parsers gives when it
is started at the first pull. The readings come in the same order and at the same pulls, and the
values of each are in one flat tuple, as many as there are parsers. A sequence of two lists of
parsers cannot be told from the chain of the two sequences whose tuples are put together. -/
theorem sequences_flatten_and_join :
    (∀ (parts : List Parser) (text : Text),
      (Parser.sequence parts).start text = .ok (fun _ => (Parser.sequence parts).run text) ∧
        Suspended.Alike (Reading.Alike (Value.Flattens parts.length))
          (fun _ => (Parser.sequence parts).run text) (fun _ => (Parser.chained parts).run text)) ∧
    ∀ parts others : List Parser,
      Parser.Alike Eq (Parser.sequence (parts ++ others))
        (((Parser.sequence parts).chain (Parser.sequence others)).map Transform.concat) := by
  constructor
  · intro parts text
    exact ⟨Parser.start_sequence parts text, (Parser.alike_chained parts text).suspended⟩
  · intro parts others text
    refine ⟨_, _, Parser.start_sequence _ text, rfl, Run.Alike.suspended ?_⟩
    show Run.Alike _ _ ((((Parser.sequence parts).chain (Parser.sequence others)).map
      Transform.concat).run text)
    rw [Parser.run_concat]
    exact .refl (fun _ => ⟨rfl, rfl⟩) _

end Diplomacy
