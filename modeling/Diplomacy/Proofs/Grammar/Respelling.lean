import Diplomacy.Proofs.Grammar.Line
import Diplomacy.Proofs.Text.Respelling

namespace Diplomacy

variable {A : Type}

def Designation.respell (change : Text → Text) : Designation → Designation
  | .refused => .refused
  | .read unit rest => .read unit (change rest)

def Hold.respell (change : Text → Text) (order : Hold) : Hold :=
  { order with place := change order.place }

def Move.respell (change : Text → Text) (order : Move) : Move :=
  { order with source := change order.source, destination := change order.destination }

def Aided.respell (change : Text → Text) : Aided → Aided
  | .hold order => .hold (order.respell change)
  | .move order => .move (order.respell change)

/-- Every place is changed, and the units and the kind of the order stay as they are. -/
def Order.respell (change : Text → Text) : Order → Order
  | .hold order => .hold (order.respell change)
  | .move order => .move (order.respell change)
  | .support unit place aided => .support unit (change place) (aided.respell change)
  | .convoy unit place carried => .convoy unit (change place) (carried.respell change)

def Aid.respell (change : Text → Text) (helped : A → A) (aid : Aid A) : Aid A :=
  ⟨aid.unit, change aid.place, change aid.inner, helped aid.aided⟩

namespace IsRespelling

variable {letter : Char → Char} {change : Text → Text} (laws : IsRespelling letter change)

include laws

/-- The designation of a respelled text is the respelled designation. -/
theorem designation (strict : Bool) (text : Text) :
    designation strict (change text) = (Diplomacy.designation strict text).respell change := by
  rw [Diplomacy.designation, Diplomacy.designation, laws.keywordAt? isKeyword_of_mem_unitWords]
  cases found : Diplomacy.keywordAt? unitWords text with
  | none =>
      rw [laws.trimStart]
      rfl
  | some token =>
      dsimp only
      rw [laws.drop_of_keywordAt? isKeyword_of_mem_unitWords found, laws.startsBlank,
        laws.trimStart, laws.trimStart]
      split
      · rfl
      · split <;> rfl

/-- A gap stays a gap, and the text behind it is respelled. -/
theorem afterGap? (text : Text) :
    afterGap? (change text) = (Diplomacy.afterGap? text).map change := by
  rw [Diplomacy.afterGap?, Diplomacy.afterGap?, laws.startsBlank, laws.trimStart]
  split <;> rfl

/-- A keyword stays a keyword, and the text behind it is respelled. -/
theorem afterKeyword? {words : List Text} (keywords : ∀ word ∈ words, IsKeyword word)
    (text : Text) :
    afterKeyword? words (change text) = (Diplomacy.afterKeyword? words text).map change := by
  rw [Diplomacy.afterKeyword?, Diplomacy.afterKeyword?, laws.keywordAt? keywords]
  cases found : Diplomacy.keywordAt? words text with
  | none => rfl
  | some word =>
      rw [Option.map_some, Option.map_some, Option.map_some,
        laws.drop_of_keywordAt? keywords found]

theorem endsHold (text : Text) : endsHold (change text) = Diplomacy.endsHold text := by
  rw [Diplomacy.endsHold, Diplomacy.endsHold, laws.afterGap?]
  cases Diplomacy.afterGap? text with
  | none => rfl
  | some start =>
      rw [Option.map_some, Option.bind_some, Option.bind_some,
        laws.afterKeyword? isKeyword_of_mem_holdKeywords]
      cases Diplomacy.afterKeyword? holdKeywords start with
      | none => rfl
      | some rest =>
          rw [Option.map_some, Bool.eq_iff_iff, beq_iff_eq, beq_iff_eq, Option.some_inj,
            Option.some_inj, laws.eq_nil_iff]

/-- A whole name stays one in its new spelling. -/
theorem wholeName? (text : Text) :
    wholeName? (change text) = (Diplomacy.wholeName? text).map change := by
  rw [Diplomacy.wholeName?, Diplomacy.wholeName?, laws.placeNames, List.findSome?_map,
    List.map_findSome?]
  congr 1
  funext ending
  simp only [Function.comp_apply, Prod.map, List.isEmpty_iff, laws.eq_nil_iff]
  split <;> rfl

/-- The destination is respelled. -/
theorem destination? (text : Text) :
    destination? (change text) = (Diplomacy.destination? text).map change := by
  rw [Diplomacy.destination?, Diplomacy.destination?, laws.trimStart,
    laws.afterKeyword? isKeyword_of_mem_moveSeparators]
  cases Diplomacy.afterKeyword? moveSeparators (Text.trimStart text) with
  | none => rfl
  | some rest => rw [Option.map_some, Option.bind_some, Option.bind_some, laws.trimStart,
      laws.wholeName?]

/-- The aided text is respelled. -/
theorem aidedText? {words : List Text} (keywords : ∀ word ∈ words, IsKeyword word)
    (text : Text) :
    aidedText? words (change text) = (Diplomacy.aidedText? words text).map change := by
  rw [Diplomacy.aidedText?, Diplomacy.aidedText?, laws.afterGap?]
  cases Diplomacy.afterGap? text with
  | none => rfl
  | some start =>
      rw [Option.map_some, Option.bind_some, Option.bind_some, laws.afterKeyword? keywords]
      cases Diplomacy.afterKeyword? words start with
      | none => rfl
      | some rest => rw [Option.map_some, Option.bind_some, Option.bind_some, laws.afterGap?]

/-- A search through the places of the changed text goes the same way. -/
theorem findByPlace {follow : Option Piece → Text → Text → Option A} {respell : A → A}
    (follows : ∀ unit place after,
      follow unit (change place) (change after) = (follow unit place after).map respell)
    (strict : Bool) (text : Text) :
    findByPlace strict (change text) follow =
      (Diplomacy.findByPlace strict text follow).map respell := by
  unfold Diplomacy.findByPlace
  rw [laws.designation]
  cases Diplomacy.designation strict text with
  | refused => rfl
  | read unit rest =>
      simp only [Designation.respell, laws.placeNames, List.findSome?_map, List.map_findSome?]
      congr 1
      funext ending
      exact follows unit ending.1 ending.2

/-- The search for holds commutes with a respelling. -/
theorem hold_find? (strict : Bool) (text : Text) :
    Hold.find? strict (change text) = (Hold.find? strict text).map (Hold.respell change) := by
  refine laws.findByPlace (fun unit place after => ?_) strict text
  rw [Hold.behind?, laws.endsHold, Hold.behind?]
  split <;> rfl

theorem move_find? (strict : Bool) (text : Text) :
    Move.find? strict (change text) = (Move.find? strict text).map (Move.respell change) := by
  refine laws.findByPlace (fun unit place after => ?_) strict text
  rw [Move.behind?, laws.destination?, Move.behind?, Option.map_map, Option.map_map]
  rfl

theorem aided_find? (strict : Bool) (text : Text) :
    Aided.find? strict (change text) = (Aided.find? strict text).map (Aided.respell change) := by
  rw [Aided.find?, Aided.find?, laws.move_find?, laws.hold_find?]
  cases Move.find? strict text with
  | some order => rfl
  | none => cases Hold.find? strict text <;> rfl

/-- The search for aids commutes with a respelling when the search for aided orders does. -/
theorem aid_find? {words : List Text} (keywords : ∀ word ∈ words, IsKeyword word)
    {find : Text → Option A} {respell : A → A}
    (finds : ∀ inner, find (change inner) = (find inner).map respell)
    (strict : Bool) (text : Text) :
    Aid.find? words find strict (change text) =
      (Aid.find? words find strict text).map (Aid.respell change respell) := by
  refine laws.findByPlace (fun unit place after => ?_) strict text
  rw [Aid.behind?, laws.aidedText? keywords, Aid.behind?]
  cases Diplomacy.aidedText? words after with
  | none => rfl
  | some inner =>
      rw [Option.map_some, Option.bind_some, Option.bind_some, finds, Option.map_map,
        Option.map_map]
      rfl

/-- Every rule finds the respelled order in the respelled text. -/
theorem rule_order? (rule : Rule) (strict : Bool) (text : Text) :
    rule.order? strict (change text) = (rule.order? strict text).map (Order.respell change) := by
  cases rule with
  | hold =>
      rw [Rule.order?_hold, Rule.order?_hold, laws.hold_find?, Option.map_map, Option.map_map]
      rfl
  | move =>
      rw [Rule.order?_move, Rule.order?_move, laws.move_find?, Option.map_map, Option.map_map]
      rfl
  | support =>
      rw [Rule.order?_support, Rule.order?_support,
        laws.aid_find? isKeyword_of_mem_supportKeywords (laws.aided_find? strict), Option.map_map,
        Option.map_map]
      rfl
  | convoy =>
      rw [Rule.order?_convoy, Rule.order?_convoy,
        laws.aid_find? isKeyword_of_mem_convoyKeywords (laws.move_find? strict), Option.map_map,
        Option.map_map]
      rfl

/-- What is read from the changed line is the changed order. -/
theorem readLine_accepts_iff (strict : Bool) (line : Text) (order : Order) :
    (readLine strict (change line)).result = .ok (.accepted order) ↔
      ∃ typed, (readLine strict line).result = .ok (.accepted typed) ∧
        order = typed.respell change := by
  have search : (ruleOrder.findSome? fun rule => rule.order? strict (Text.trim (change line))) =
      (ruleOrder.findSome? fun rule => rule.order? strict (Text.trim line)).map
        (Order.respell change) := by
    rw [List.map_findSome?]
    congr
    funext rule
    rw [laws.trim, laws.rule_order?]
    rfl
  rw [readLine_accepts_iff_order?, search, Option.map_eq_some_iff]
  simp only [readLine_accepts_iff_order?, eq_comm]

end IsRespelling

/-- The case of letters decides nothing, and places keep the case in which they were typed. -/
theorem readLine_lowered (strict : Bool) (line : Text) (order : Order) :
    (readLine strict (Text.lowered line)).result = .ok (.accepted order) ↔
      ∃ typed, (readLine strict line).result = .ok (.accepted typed) ∧
        order = typed.respell Text.lowered :=
  isRespelling_lowered.readLine_accepts_iff strict line order

/-- The amount and the kind of white space decide nothing. -/
theorem readLine_squeeze (strict : Bool) (line : Text) (order : Order) :
    (readLine strict (Text.squeeze line)).result = .ok (.accepted order) ↔
      ∃ typed, (readLine strict line).result = .ok (.accepted typed) ∧
        order = typed.respell Text.squeeze :=
  isRespelling_squeeze.readLine_accepts_iff strict line order

end Diplomacy
