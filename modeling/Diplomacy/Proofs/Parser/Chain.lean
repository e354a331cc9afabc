import Diplomacy.Proofs.Run.Alike

namespace Diplomacy

/-- Two readings leave the same text, and their values correspond. -/
def Reading.Alike (related : Value → Value → Prop) (first second : Reading) : Prop :=
  related first.1 second.1 ∧ first.2 = second.2

/-- Both parsers can be started on every text, and a consumer of what they find sees no difference
but that of the values. -/
def Parser.Alike (related : Value → Value → Prop) (first second : Parser) : Prop :=
  ∀ text, ∃ one other, first.start text = .ok one ∧ second.start text = .ok other ∧
    Suspended.Alike (Reading.Alike related) one other

/-- A pair whose first part is a pair corresponds to a pair whose second part is one. -/
inductive Value.Regrouped : Value → Value → Prop where
  | triple (first second third : Value) :
      Value.Regrouped (.tuple [.tuple [first, second], third])
        (.tuple [first, .tuple [second, third]])

/-- The tag on the first part of a pair moves to the pair. -/
inductive Value.Retagged : Value → Value → Prop where
  | left (first second : Value) :
      Value.Retagged (.tuple [.tagged .left first, second])
        (.tagged .left (.tuple [first, second]))
  | right (first second : Value) :
      Value.Retagged (.tuple [.tagged .right first, second])
        (.tagged .right (.tuple [first, second]))

section Laws

variable (first second third : Parser) (text : Text)

/-- A chain runs the second parser on what each reading of the first one leaves. -/
theorem Parser.run_chain :
    (first.chain second).run text =
      (first.run text).bind fun reading =>
        (second.run reading.2).bind fun later => .one (.tuple [reading.1, later.1], later.2) := by
  simp only [Parser.run, Run.map_eq_bind]

theorem Parser.run_either :
    (first.either second).run text =
      ((first.run text).bind fun reading => .one (reading.tagged .left)).append fun _ =>
        (second.run text).bind fun reading => .one (reading.tagged .right) := by
  simp only [Parser.run, Run.map_eq_bind]

/-- Either way, a reading of the first parser is followed by one of the second and then by all of
the third. -/
theorem Parser.alike_regrouped :
    Run.Alike (Reading.Alike Value.Regrouped) (((first.chain second).chain third).run text)
      ((first.chain (second.chain third)).run text) := by
  simp only [Parser.run_chain, Run.bind_assoc, Run.one_bind]
  apply Run.Alike.bind_self
  intro reading
  apply Run.Alike.bind_self
  intro later
  apply Run.Alike.bind_self
  intro last
  exact .one ⟨.triple reading.1 later.1 last.1, rfl⟩

/-- A tag may be put on the readings of the first parser or on the pairs. -/
theorem Parser.alike_tagged {tag : Tag}
    (moves : ∀ value other : Value, Value.Retagged (.tuple [.tagged tag value, other])
      (.tagged tag (.tuple [value, other]))) :
    Run.Alike (Reading.Alike Value.Retagged)
      ((first.run text).bind fun reading =>
        (second.run (reading.tagged tag).2).bind fun later =>
          .one (.tuple [(reading.tagged tag).1, later.1], later.2))
      ((first.run text).bind fun reading =>
        (second.run reading.2).bind fun later =>
          .one (Reading.tagged tag (.tuple [reading.1, later.1], later.2))) := by
  apply Run.Alike.bind_self
  intro reading
  apply Run.Alike.bind_self
  intro later
  exact .one ⟨moves reading.1 later.1, rfl⟩

/-- The third parser runs after every reading of the first and then after every reading of the
second, whether it stands behind the choice or behind both parts of it. -/
theorem Parser.alike_retagged :
    Run.Alike (Reading.Alike Value.Retagged) (((first.either second).chain third).run text)
      (((first.chain third).either (second.chain third)).run text) := by
  simp only [Parser.run_chain, Parser.run_either, Run.append_bind, Run.bind_assoc, Run.one_bind]
  apply Run.Alike.append
  · exact first.alike_tagged third text Value.Retagged.left
  · exact second.alike_tagged third text Value.Retagged.right

end Laws

/-- Chaining is associative, and it distributes over a choice in front of it. Pull by pull, both
forms give the same readings up to the grouping of their values, fail for the same cause, leave
every counter with the same value and log the same records. -/
theorem chains_regroup_and_distribute (first second third : Parser) :
    Parser.Alike Value.Regrouped ((first.chain second).chain third)
        (first.chain (second.chain third)) ∧
      Parser.Alike Value.Retagged ((first.either second).chain third)
        ((first.chain third).either (second.chain third)) := by
  constructor
  · intro text
    have alike := Parser.alike_regrouped first second third text
    exact ⟨_, _, rfl, rfl, Run.Alike.suspended alike⟩
  · intro text
    have alike := Parser.alike_retagged first second third text
    exact ⟨_, _, rfl, rfl, Run.Alike.suspended alike⟩

end Diplomacy
