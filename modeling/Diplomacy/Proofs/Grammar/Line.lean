import Diplomacy.Proofs.Grammar.Rule

namespace Diplomacy

/-- This function turns a find in a line into the answer to the line. -/
def concludeLine (line : Text) : Option Find → Answer Verdict
  | none => ⟨[.logged (.unmatched line)], .ok (.refused line)⟩
  | some find => ⟨find.1, .ok (.accepted find.2)⟩

/-- The rules that refuse the text leave no trace. -/
theorem readByFirst_eq (strict : Bool) (text : Text) (rules : List Rule) :
    readByFirst strict text rules =
      Answer.announce (rules.findSome? fun rule => rule.report? strict text) := by
  induction rules with
  | nil => rfl
  | cons rule rest ih =>
      rw [readByFirst, Rule.read_eq, List.findSome?_cons]
      cases rule.report? strict text with
      | none =>
          simp only [conclude, pure_bind]
          exact ih
      | some find =>
          have reached : (conclude text (some find)).result = .ok (.accepted find.2) := rfl
          rw [Answer.bind_of_ok _ reached]
          simp [conclude, Answer.announce]

/-- A line is answered by what the first successful rule finds in the trimmed line. -/
theorem readLine_eq (strict : Bool) (line : Text) :
    readLine strict line = concludeLine line (findLine? strict line) := by
  rw [readLine, readByFirst_eq, findLine?]
  cases ruleOrder.findSome? fun rule => rule.report? strict (Text.trim line) with
  | none => rfl
  | some find =>
      rw [Answer.announce_some_bind]
      simp [concludeLine]

/-- A line is accepted with an order exactly if the search of the line finds this order. -/
theorem readLine_accepts_iff (strict : Bool) (line : Text) (order : Order) :
    (readLine strict line).result = .ok (.accepted order) ↔
      ∃ events, findLine? strict line = some (events, order) := by
  rw [readLine_eq]
  cases findLine? strict line with
  | none => simp [concludeLine]
  | some find => simp [concludeLine, Prod.ext_iff]

/-- This is the order that a rule finds, without the events that lead to it. -/
def Rule.order? (rule : Rule) (strict : Bool) (text : Text) : Option Order :=
  (rule.find? strict text).map Prod.snd

/-- Every rule makes orders of one kind. -/
def Order.rule : Order → Rule
  | .hold _ => .hold
  | .move _ => .move
  | .support _ _ _ => .support
  | .convoy _ _ _ => .convoy

/-- These rules are tried before the given one. -/
def Rule.before (rule : Rule) : List Rule :=
  ruleOrder.takeWhile fun other => other != rule

/-- The rule for holds gives the hold of its search. -/
theorem Rule.order?_hold (strict : Bool) (text : Text) :
    Rule.order? .hold strict text = (Hold.find? strict text).map .hold := by
  rw [Rule.order?, Rule.find?, Option.map_map]
  rfl

/-- The rule for moves gives the move of its search. -/
theorem Rule.order?_move (strict : Bool) (text : Text) :
    Rule.order? .move strict text = (Move.find? strict text).map .move := by
  rw [Rule.order?, Rule.find?, Option.map_map]
  rfl

/-- The rule for supports gives the support of its search. -/
theorem Rule.order?_support (strict : Bool) (text : Text) :
    Rule.order? .support strict text =
      (Aid.find? supportKeywords (Aided.find? strict) strict text).map Aid.support := by
  rw [Rule.order?, Rule.find?, Option.map_map]
  rfl

/-- The rule for convoys gives the convoy of its search. -/
theorem Rule.order?_convoy (strict : Bool) (text : Text) :
    Rule.order? .convoy strict text =
      (Aid.find? convoyKeywords (Move.find? strict) strict text).map Aid.convoy := by
  rw [Rule.order?, Rule.find?, Option.map_map]
  rfl

theorem Rule.order?_hold_iff {strict : Bool} {text : Text} {order : Hold} :
    Rule.order? .hold strict text = some (.hold order) ↔ Hold.find? strict text = some order := by
  rw [Rule.order?_hold, Option.map_eq_some_iff]
  simp

theorem Rule.order?_move_iff {strict : Bool} {text : Text} {order : Move} :
    Rule.order? .move strict text = some (.move order) ↔ Move.find? strict text = some order := by
  rw [Rule.order?_move, Option.map_eq_some_iff]
  simp

/-- An order that makes use of an aid keeps everything but the text of what is helped along. -/
theorem Aid.map_eq_some_iff {A : Type} {search : Option (Aid A)} {make : Aid A → Order}
    {order : Order} {unit : Option Piece} {place : Text} {aided : A}
    (made : ∀ aid, make aid = order ↔ aid.unit = unit ∧ aid.place = place ∧ aid.aided = aided) :
    search.map make = some order ↔ ∃ inner, search = some ⟨unit, place, inner, aided⟩ := by
  rw [Option.map_eq_some_iff]
  constructor
  · intro given
    obtain ⟨aid, found, same⟩ := given
    obtain ⟨rfl, rfl, rfl⟩ := (made aid).1 same
    exact ⟨aid.inner, found⟩
  · intro given
    obtain ⟨inner, found⟩ := given
    exact ⟨_, found, (made _).2 ⟨rfl, rfl, rfl⟩⟩

theorem Rule.order?_support_iff {strict : Bool} {text place : Text} {unit : Option Piece}
    {aided : Aided} :
    Rule.order? .support strict text = some (.support unit place aided) ↔
      ∃ inner, Aid.find? supportKeywords (Aided.find? strict) strict text =
        some ⟨unit, place, inner, aided⟩ := by
  rw [Rule.order?_support]
  exact Aid.map_eq_some_iff fun aid => by simp [Aid.support]

theorem Rule.order?_convoy_iff {strict : Bool} {text place : Text} {unit : Option Piece}
    {carried : Move} :
    Rule.order? .convoy strict text = some (.convoy unit place carried) ↔
      ∃ inner, Aid.find? convoyKeywords (Move.find? strict) strict text =
        some ⟨unit, place, inner, carried⟩ := by
  rw [Rule.order?_convoy]
  exact Aid.map_eq_some_iff fun aid => by simp [Aid.convoy]

/-- An order that a rule finds is of the kind of this rule. -/
theorem Order.rule_of_order? {rule : Rule} {strict : Bool} {text : Text} {order : Order}
    (found : rule.order? strict text = some order) : order.rule = rule := by
  cases rule with
  | hold =>
      rw [Rule.order?_hold] at found
      obtain ⟨hold, -, rfl⟩ := Option.map_eq_some_iff.1 found
      rfl
  | move =>
      rw [Rule.order?_move] at found
      obtain ⟨move, -, rfl⟩ := Option.map_eq_some_iff.1 found
      rfl
  | support =>
      rw [Rule.order?_support] at found
      obtain ⟨aid, -, rfl⟩ := Option.map_eq_some_iff.1 found
      rfl
  | convoy =>
      rw [Rule.order?_convoy] at found
      obtain ⟨aid, -, rfl⟩ := Option.map_eq_some_iff.1 found
      rfl

/-- A rule accepts an order exactly if its search reports this order. -/
theorem Rule.read_accepts_iff (rule : Rule) (strict : Bool) (text : Text) (order : Order) :
    (rule.read strict text).result = .ok (.accepted order) ↔
      ∃ events, rule.find? strict text = some (events, order) := by
  rw [Rule.read_eq, Rule.report?]
  cases rule.find? strict text with
  | none => simp [conclude]
  | some find => simp [conclude, Find.report, Prod.ext_iff]

/-- A rule accepts an order exactly if its search finds this order. -/
theorem Rule.read_accepts_iff_order? (rule : Rule) (strict : Bool) (text : Text) (order : Order) :
    (rule.read strict text).result = .ok (.accepted order) ↔
      rule.order? strict text = some order := by
  rw [Rule.read_accepts_iff, Rule.order?, Option.map_eq_some_iff]
  simp [Prod.exists]

/-- A line is accepted with the order of the first rule that finds one. -/
theorem readLine_accepts_iff_order? (strict : Bool) (line : Text) (order : Order) :
    (readLine strict line).result = .ok (.accepted order) ↔
      (ruleOrder.findSome? fun rule => rule.order? strict (Text.trim line)) = some order := by
  have orders : (ruleOrder.findSome? fun rule => rule.order? strict (Text.trim line)) =
      (findLine? strict line).map Prod.snd := by
    rw [findLine?, List.map_findSome?]
    congr
    funext rule
    rw [Function.comp_apply, Rule.report?, Option.map_map]
    rfl
  rw [readLine_accepts_iff, orders, Option.map_eq_some_iff]
  simp [Prod.exists]

/-- An order is read if its own rule finds it and no earlier rule finds anything. -/
theorem readLine_accepts_iff_first {strict : Bool} {line : Text} {order : Order} :
    (readLine strict line).result = .ok (.accepted order) ↔
      order.rule.order? strict (Text.trim line) = some order ∧
        ∀ other ∈ order.rule.before, other.order? strict (Text.trim line) = none := by
  rw [readLine_accepts_iff_order?, List.findSome?_eq_some_iff]
  constructor
  · intro given
    obtain ⟨earlier, rule, later, split, found, refused⟩ := given
    obtain rfl := Order.rule_of_order? found
    have apart : ∀ other ∈ earlier, (other != order.rule) = true := by
      intro other member
      rw [bne_iff_ne]
      rintro rfl
      rw [refused _ member] at found
      cases found
    have before : order.rule.before = earlier := by
      rw [Rule.before, split, List.takeWhile_append_of_pos apart,
        List.takeWhile_cons_of_neg (by simp), List.append_nil]
    exact ⟨found, before ▸ refused⟩
  · intro given
    obtain ⟨found, refused⟩ := given
    have split : ∃ later, ruleOrder = order.rule.before ++ order.rule :: later := by
      cases order.rule with
      | hold => exact ⟨[.move], rfl⟩
      | move => exact ⟨[], rfl⟩
      | support => exact ⟨[.convoy, .hold, .move], rfl⟩
      | convoy => exact ⟨[.hold, .move], rfl⟩
    obtain ⟨later, split⟩ := split
    exact ⟨order.rule.before, order.rule, later, split, found, refused⟩

end Diplomacy
