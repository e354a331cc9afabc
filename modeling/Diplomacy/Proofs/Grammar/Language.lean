import Diplomacy.Proofs.Grammar.Line

namespace Diplomacy

/-- A name, blanks and a hold keyword make a hold. -/
def IsHoldBody (body : Text) : Prop :=
  ∃ before gap keyword, body = before ++ (gap ++ keyword) ∧ EndsInName before ∧ gap ≠ [] ∧
    AllBlank gap ∧ Spells keyword holdKeywords

/-- Two names with a separator between them make a move. Only the dash may follow a name at
once. -/
def IsMoveBody (body : Text) : Prop :=
  ∃ before gap separator after, body = before ++ (gap ++ (separator ++ after)) ∧
    EndsInName before ∧ AllBlank gap ∧
    (separator = "-".toList ∨ gap ≠ [] ∧ Text.lowered separator = "to".toList) ∧ EndsInName after

/-- A body follows a unit, or else it is the whole text. -/
def OpensWith (strict : Bool) (text body : Text) : Prop :=
  (∃ piece, NamesUnit piece text body) ∨ NamesNoUnit strict text ∧ body = text

/-- The language of orders knows holds and moves only. -/
def IsOrderText (strict : Bool) (text : Text) : Prop :=
  ∃ body, OpensWith strict text body ∧ (IsHoldBody body ∨ IsMoveBody body)

/-- A hold body stays one behind any opening. -/
theorem IsHoldBody.append {body : Text} (isHold : IsHoldBody body) (opening : Text) :
    IsHoldBody (opening ++ body) := by
  obtain ⟨before, gap, keyword, rfl, ends, nonempty, blank, spelled⟩ := isHold
  exact ⟨opening ++ before, gap, keyword, (List.append_assoc ..).symm, ends.append opening,
    nonempty, blank, spelled⟩

theorem IsMoveBody.append {body : Text} (isMove : IsMoveBody body) (opening : Text) :
    IsMoveBody (opening ++ body) := by
  obtain ⟨before, gap, separator, after, rfl, ends, blank, spelled, later⟩ := isMove
  exact ⟨opening ++ before, gap, separator, after, (List.append_assoc ..).symm,
    ends.append opening, blank, spelled, later⟩

section Search

variable {strict : Bool} {text : Text}

/-- A hold is found exactly if the text behind the unit has the shape of one. -/
theorem Hold.exists_find?_iff :
    (∃ order, Hold.find? strict text = some order) ↔
      ∃ unit body, designation strict text = .read unit body ∧ IsHoldBody body := by
  constructor
  · intro given
    obtain ⟨order, found⟩ := given
    obtain ⟨unit, body, place, after, read, member, follows⟩ := exists_of_findByPlace found
    obtain ⟨before, rfl, ends, -⟩ := exists_mem_placeNames_iff.1 ⟨place, member⟩
    obtain ⟨-, -, gap, keyword, rfl, nonempty, blank, spelled⟩ :=
      Hold.behind?_eq_some_iff.1 follows
    exact ⟨unit, _, read, before, gap, keyword, rfl, ends, nonempty, blank, spelled⟩
  · intro given
    obtain ⟨unit, body, read, isHold⟩ := given
    obtain ⟨before, gap, keyword, rfl, ends, nonempty, blank, spelled⟩ := isHold
    have stops : startsInName (gap ++ keyword) = false := by
      rw [startsInName_append nonempty]
      exact startsInName_of_startsBlank (startsBlank_of_allBlank blank nonempty)
    obtain ⟨place, member⟩ := exists_mem_placeNames_iff.2 ⟨before, rfl, ends, stops⟩
    have follows : Hold.behind? unit place (gap ++ keyword) = some ⟨unit, place⟩ :=
      Hold.behind?_eq_some_iff.2 ⟨rfl, rfl, gap, keyword, rfl, nonempty, blank, spelled⟩
    exact exists_findByPlace read member follows

/-- A move is found exactly if the text behind the unit has the shape of one. -/
theorem Move.exists_find?_iff :
    (∃ order, Move.find? strict text = some order) ↔
      ∃ unit body, designation strict text = .read unit body ∧ IsMoveBody body := by
  constructor
  · intro given
    obtain ⟨order, found⟩ := given
    obtain ⟨unit, body, place, behind, read, member, follows⟩ := exists_of_findByPlace found
    obtain ⟨before, rfl, ends, stops⟩ := exists_mem_placeNames_iff.1 ⟨place, member⟩
    obtain ⟨-, -, reached⟩ := Move.behind?_eq_some_iff.1 follows
    obtain ⟨gap, separator, after, rfl, blank, spelled, later⟩ :=
      exists_destination?_iff.1 ⟨_, reached⟩
    have spelled := (startsInName_separator_iff blank spelled).1 stops
    exact ⟨unit, _, read, before, gap, separator, after, rfl, ends, blank, spelled, later⟩
  · intro given
    obtain ⟨unit, body, read, isMove⟩ := given
    obtain ⟨before, gap, separator, after, rfl, ends, blank, apart, later⟩ := isMove
    have spelled : Spells separator moveSeparators :=
      (spells_moveSeparators_iff separator).2 (apart.imp_right And.right)
    have stops : startsInName (gap ++ (separator ++ after)) = false :=
      (startsInName_separator_iff blank spelled).2 apart
    obtain ⟨place, member⟩ := exists_mem_placeNames_iff.2 ⟨before, rfl, ends, stops⟩
    obtain ⟨destination, reached⟩ :=
      exists_destination?_iff.2 ⟨gap, separator, after, rfl, blank, spelled, later⟩
    have follows : Move.behind? unit place (gap ++ (separator ++ after)) =
        some ⟨unit, place, destination⟩ := Move.behind?_eq_some_iff.2 ⟨rfl, rfl, reached⟩
    exact exists_findByPlace read member follows

/-- The designation leaves a body exactly if the text opens with this body. -/
theorem exists_designation_iff (stops : startsBlank text = false) (body : Text) :
    (∃ unit, designation strict text = .read unit body) ↔ OpensWith strict text body := by
  have whole := Text.trimStart_of_not_startsBlank stops
  constructor
  · intro given
    obtain ⟨unit, read⟩ := given
    cases unit with
    | some piece => exact Or.inl ⟨piece, designation_eq_read_some_iff.1 read⟩
    | none =>
        obtain ⟨unnamed, rest⟩ := designation_eq_read_none_iff.1 read
        exact Or.inr ⟨unnamed, by rw [rest, whole]⟩
  · intro given
    rcases given with ⟨piece, names⟩ | ⟨unnamed, rfl⟩
    · exact ⟨some piece, designation_eq_read_some_iff.2 names⟩
    · exact ⟨none, designation_eq_read_none_iff.2 ⟨unnamed, whole.symm⟩⟩

/-- A text belongs to the language when the search finds a hold or a move in it. -/
theorem isOrderText_iff (stops : startsBlank text = false) :
    IsOrderText strict text ↔
      (∃ order, Hold.find? strict text = some order) ∨
        ∃ order, Move.find? strict text = some order := by
  rw [Hold.exists_find?_iff, Move.exists_find?_iff]
  constructor
  · intro given
    obtain ⟨body, opens, shape⟩ := given
    obtain ⟨unit, read⟩ := (exists_designation_iff stops body).2 opens
    exact shape.imp (fun hold => ⟨unit, body, read, hold⟩) fun move => ⟨unit, body, read, move⟩
  · intro given
    rcases given with ⟨unit, body, read, hold⟩ | ⟨unit, body, read, move⟩
    · exact ⟨body, (exists_designation_iff stops body).1 ⟨unit, read⟩, Or.inl hold⟩
    · exact ⟨body, (exists_designation_iff stops body).1 ⟨unit, read⟩, Or.inr move⟩

end Search

section Aid

variable {A : Type} {words : List Text} {find : Text → Option A} {strict : Bool} {text : Text}
variable {aid : Aid A}

/-- The end of the text is read behind a unit of its own, which then belongs to the name. -/
theorem Aid.exists_body (keywords : ∀ word ∈ words, IsKeyword word)
    (search : Aid.find? words find strict text = some aid) {unit : Option Piece} {body : Text}
    (inner : designation strict aid.inner = .read unit body) :
    ∃ opening, designation strict text = .read aid.unit (opening ++ body) := by
  obtain ⟨before, gap, written, space, read, -⟩ := Aid.exists_split keywords search
  obtain ⟨opening, equal⟩ := exists_append_of_designation inner
  refine ⟨before ++ (gap ++ (written ++ (space ++ opening))), ?_⟩
  rw [read, equal]
  simp only [List.append_assoc]

/-- A text that aids a hold is itself read as a hold. -/
theorem Aid.exists_hold (keywords : ∀ word ∈ words, IsKeyword word)
    (search : Aid.find? words find strict text = some aid)
    (helped : ∃ order, Hold.find? strict aid.inner = some order) :
    ∃ order, Hold.find? strict text = some order := by
  obtain ⟨unit, body, read, isHold⟩ := Hold.exists_find?_iff.1 helped
  obtain ⟨opening, outer⟩ := Aid.exists_body keywords search read
  exact Hold.exists_find?_iff.2 ⟨aid.unit, _, outer, isHold.append opening⟩

theorem Aid.exists_move (keywords : ∀ word ∈ words, IsKeyword word)
    (search : Aid.find? words find strict text = some aid)
    (helped : ∃ order, Move.find? strict aid.inner = some order) :
    ∃ order, Move.find? strict text = some order := by
  obtain ⟨unit, body, read, isMove⟩ := Move.exists_find?_iff.1 helped
  obtain ⟨opening, outer⟩ := Aid.exists_body keywords search read
  exact Move.exists_find?_iff.2 ⟨aid.unit, _, outer, isMove.append opening⟩

end Aid

/-- What is helped along is a move or a hold that its own rule finds. -/
theorem Aided.find?_cases {strict : Bool} {text : Text} {aided : Aided}
    (found : Aided.find? strict text = some aided) :
    (∃ order, Move.find? strict text = some order ∧ aided = .move order) ∨
      ∃ order, Hold.find? strict text = some order ∧ aided = .hold order := by
  rw [Aided.find?, Option.or_eq_some_iff] at found
  rcases found with moves | ⟨-, holds⟩
  · obtain ⟨order, search, same⟩ := Option.map_eq_some_iff.1 moves
    exact Or.inl ⟨order, search, same.symm⟩
  · obtain ⟨order, search, same⟩ := Option.map_eq_some_iff.1 holds
    exact Or.inr ⟨order, search, same.symm⟩

/-- A hold is aided when the inner text gives no move and gives this hold. -/
theorem Aided.find?_eq_hold_iff {strict : Bool} {text : Text} {order : Hold} :
    Aided.find? strict text = some (.hold order) ↔
      Move.find? strict text = none ∧ Hold.find? strict text = some order := by
  rw [Aided.find?]
  cases Move.find? strict text <;> cases Hold.find? strict text <;> simp

/-- A move is aided when the inner text gives this move. -/
theorem Aided.find?_eq_move_iff {strict : Bool} {text : Text} {order : Move} :
    Aided.find? strict text = some (.move order) ↔ Move.find? strict text = some order := by
  rw [Aided.find?]
  cases Move.find? strict text <;> cases Hold.find? strict text <;> simp

section Acceptance

variable {strict : Bool} {text : Text}

/-- The support of a hold adds nothing to the holds. -/
theorem exists_hold_of_support {aid : Aid Aided} {order : Hold}
    (search : Aid.find? supportKeywords (Aided.find? strict) strict text = some aid)
    (helps : aid.aided = .hold order) : ∃ other, Hold.find? strict text = some other := by
  have found := Aid.find_inner isKeyword_of_mem_supportKeywords search
  rw [helps] at found
  rcases Aided.find?_cases found with ⟨move, -, same⟩ | ⟨hold, holds, -⟩
  · cases same
  · exact Aid.exists_hold isKeyword_of_mem_supportKeywords search ⟨hold, holds⟩

/-- The support of a move adds nothing to the moves. -/
theorem exists_move_of_support {aid : Aid Aided} {order : Move}
    (search : Aid.find? supportKeywords (Aided.find? strict) strict text = some aid)
    (helps : aid.aided = .move order) : ∃ other, Move.find? strict text = some other := by
  have found := Aid.find_inner isKeyword_of_mem_supportKeywords search
  rw [helps] at found
  rcases Aided.find?_cases found with ⟨move, moves, -⟩ | ⟨hold, -, same⟩
  · exact Aid.exists_move isKeyword_of_mem_supportKeywords search ⟨move, moves⟩
  · cases same

/-- A text that is read as a convoy is also read as a move. -/
theorem exists_move_of_convoy {aid : Aid Move}
    (search : Aid.find? convoyKeywords (Move.find? strict) strict text = some aid) :
    ∃ order, Move.find? strict text = some order := by
  have found := Aid.find_inner isKeyword_of_mem_convoyKeywords search
  exact Aid.exists_move isKeyword_of_mem_convoyKeywords search ⟨aid.aided, found⟩

/-- Every text that some rule accepts is also read as a hold or as a move. -/
theorem exists_of_rule {rule : Rule} {find : Find} (found : rule.find? strict text = some find) :
    (∃ order, Hold.find? strict text = some order) ∨
      ∃ order, Move.find? strict text = some order := by
  cases rule with
  | hold =>
      obtain ⟨order, search, -⟩ := Option.map_eq_some_iff.1 found
      exact Or.inl ⟨order, search⟩
  | move =>
      obtain ⟨order, search, -⟩ := Option.map_eq_some_iff.1 found
      exact Or.inr ⟨order, search⟩
  | support =>
      obtain ⟨aid, search, -⟩ := Option.map_eq_some_iff.1 found
      cases helps : aid.aided with
      | hold order => exact Or.inl (exists_hold_of_support search helps)
      | move order => exact Or.inr (exists_move_of_support search helps)
  | convoy =>
      obtain ⟨aid, search, -⟩ := Option.map_eq_some_iff.1 found
      exact Or.inr (exists_move_of_convoy search)

/-- Some rule accepts a line exactly if the trimmed line belongs to the language. -/
theorem exists_findLine?_iff (strict : Bool) (line : Text) :
    (∃ find, findLine? strict line = some find) ↔ IsOrderText strict (Text.trim line) := by
  rw [isOrderText_iff (startsBlank_trim line)]
  have reported (rule : Rule) (member : rule ∈ ruleOrder) {find : Find}
      (found : rule.find? strict (Text.trim line) = some find) :
      ∃ other, findLine? strict line = some other := by
    refine Option.isSome_iff_exists.1 (List.findSome?_isSome_iff.2 ⟨rule, member, ?_⟩)
    rw [Rule.report?, found]
    rfl
  constructor
  · intro given
    obtain ⟨find, search⟩ := given
    obtain ⟨rule, -, found⟩ := List.exists_of_findSome?_eq_some search
    obtain ⟨first, found, -⟩ := Option.map_eq_some_iff.1 found
    exact exists_of_rule found
  · intro given
    rcases given with ⟨order, found⟩ | ⟨order, found⟩
    · exact reported .hold (by decide) (by rw [Rule.find?, found]; rfl)
    · exact reported .move (by decide) (by rw [Rule.find?, found]; rfl)

/-- The rule for holds accepts what the search for holds finds. -/
theorem readHold_accepts {order : Hold} (found : Hold.find? strict text = some order) :
    (readHold strict text).result = .ok (.accepted (.hold order)) :=
  (Rule.read_accepts_iff .hold strict text _).2 ⟨[], by rw [Rule.find?, found]; rfl⟩

theorem readMove_accepts {order : Move} (found : Move.find? strict text = some order) :
    (readMove strict text).result = .ok (.accepted (.move order)) :=
  (Rule.read_accepts_iff .move strict text _).2 ⟨[], by rw [Rule.find?, found]; rfl⟩

/-- An accepted support comes from an aid that the search finds. -/
theorem exists_aid_of_readSupport {unit : Option Piece} {place : Text} {aided : Aided}
    (accepted : (readSupport strict text).result = .ok (.accepted (.support unit place aided))) :
    ∃ aid, Aid.find? supportKeywords (Aided.find? strict) strict text = some aid ∧
      aid.aided = aided := by
  obtain ⟨events, found⟩ := (Rule.read_accepts_iff .support strict text _).1 accepted
  obtain ⟨aid, search, equal⟩ := Option.map_eq_some_iff.1 found
  exact ⟨aid, search, (Order.support.inj (congrArg Prod.snd equal)).2.2⟩

theorem exists_aid_of_readConvoy {unit : Option Piece} {place : Text} {carried : Move}
    (accepted : (readConvoy strict text).result = .ok (.accepted (.convoy unit place carried))) :
    ∃ aid, Aid.find? convoyKeywords (Move.find? strict) strict text = some aid ∧
      aid.aided = carried := by
  obtain ⟨events, found⟩ := (Rule.read_accepts_iff .convoy strict text _).1 accepted
  obtain ⟨aid, search, equal⟩ := Option.map_eq_some_iff.1 found
  exact ⟨aid, search, (Order.convoy.inj (congrArg Prod.snd equal)).2.2⟩

/-- The lines that are accepted are those whose text has the shape of a hold or of a move, with or
without a unit. A text that is read as the support of a hold is also read as a hold, and one that
is read as the support or the convoy of a move is also read as a move. -/
theorem readLine_accepts_language (strict : Bool) :
    (∀ line, (∃ order, (readLine strict line).result = .ok (.accepted order)) ↔
      IsOrderText strict (Text.trim line)) ∧
    (∀ text unit place held,
      (readSupport strict text).result = .ok (.accepted (.support unit place (.hold held))) →
      ∃ order, (readHold strict text).result = .ok (.accepted (.hold order))) ∧
    ∀ text unit place moved,
      (readSupport strict text).result = .ok (.accepted (.support unit place (.move moved))) ∨
        (readConvoy strict text).result = .ok (.accepted (.convoy unit place moved)) →
      ∃ order, (readMove strict text).result = .ok (.accepted (.move order)) := by
  refine ⟨?_, ?_, ?_⟩
  · intro line
    rw [← exists_findLine?_iff]
    constructor
    · intro given
      obtain ⟨order, accepted⟩ := given
      obtain ⟨events, found⟩ := (readLine_accepts_iff strict line order).1 accepted
      exact ⟨(events, order), found⟩
    · intro given
      obtain ⟨⟨events, order⟩, found⟩ := given
      exact ⟨order, (readLine_accepts_iff strict line order).2 ⟨events, found⟩⟩
  · intro text unit place held accepted
    obtain ⟨aid, search, helps⟩ := exists_aid_of_readSupport accepted
    obtain ⟨order, found⟩ := exists_hold_of_support search helps
    exact ⟨order, readHold_accepts found⟩
  · intro text unit place moved given
    rcases given with accepted | accepted
    · obtain ⟨aid, search, helps⟩ := exists_aid_of_readSupport accepted
      obtain ⟨order, found⟩ := exists_move_of_support search helps
      exact ⟨order, readMove_accepts found⟩
    · obtain ⟨aid, search, -⟩ := exists_aid_of_readConvoy accepted
      obtain ⟨order, found⟩ := exists_move_of_convoy search
      exact ⟨order, readMove_accepts found⟩

end Acceptance

end Diplomacy
