import Diplomacy.Proofs.Grammar.Log
import Diplomacy.Proofs.Grammar.RoundTrip
import Diplomacy.Proofs.Grammar.Shape

namespace Diplomacy

variable {A : Type} {text : Text}

section Move

variable {order : Move} {unit : Option Piece} {after : Text}

/-- A move is rendered as its station, a dash and its destination. -/
theorem Move.render_eq (order : Move) :
    order.render = renderStation order.unit order.source ++ (" - ".toList ++ order.destination) :=
  List.append_assoc ..

/-- The destination of a move is a name at the end of the text. -/
theorem Move.exists_of_fit (fit : FirstFit (Move.behind? unit) order.source after order) :
    GoesTo after ∧ ∃ opening, after = opening ++ order.destination ∧
      startsInName order.destination = true ∧ EndsInName order.destination := by
  obtain ⟨-, -, reached⟩ := Move.behind?_eq_some_iff.1 fit.fits
  refine ⟨(exists_destination?_iff_goesTo fit.stops).1 ⟨_, reached⟩, ?_⟩
  obtain ⟨gap, separator, rest, rfl, -, -, whole⟩ := destination?_eq_some_iff.1 reached
  obtain ⟨skipped, rfl, -, starts, ends⟩ := wholeName?_eq_some_iff.1 whole
  exact ⟨gap ++ (separator ++ skipped), by simp, starts, ends⟩

/-- A dash takes the place of the separator that was read. -/
theorem Move.find?_render_of_named (found : Move.find? true text = some order)
    (named : order.unit ≠ none) : Move.find? true order.render = some order := by
  obtain ⟨skipped, after, -, fit⟩ := Move.exists_fit found
  obtain ⟨-, opening, rfl, starts, ends⟩ := Move.exists_of_fit fit
  have changed : FirstFit (Move.behind? order.unit) order.source
      (" - ".toList ++ order.destination) order := by
    refine fit.change rfl ?_ ?_
    · exact Move.behind?_eq_some_iff.2 ⟨rfl, rfl, destination?_dash starts ends⟩
    · intro shorter later laterEnds outside missed
      have stops (rest : Text) : startsInName (later ++ rest) = false := by
        rw [startsInName_append laterEnds.ne_nil]
        exact outside
      rw [Move.behind?_eq_none_iff (stops _)] at missed ⊢
      exact fun goes => missed (goes.change laterEnds rfl (ends.append opening))
  rw [Move.render_eq, Move.find?]
  exact changed.findByPlace_renderStation named

/-- A move that is found is rendered with a name character at the end. -/
theorem Move.endsInName_render_of_find? (found : Move.find? true text = some order) :
    EndsInName order.render := by
  obtain ⟨skipped, after, -, fit⟩ := Move.exists_fit found
  obtain ⟨-, opening, -, -, ends⟩ := Move.exists_of_fit fit
  exact ends.append _

/-- A strict reader finds no move exactly if the body behind the unit has not the shape of one. -/
theorem Move.find?_eq_none_iff {body : Text} (read : designation true text = .read unit body) :
    Move.find? true text = none ↔ ¬ IsMoveBody body := by
  rw [Option.eq_none_iff_forall_ne_some, ← not_exists, Move.exists_find?_iff, read]
  simp

end Move

section Hold

variable {order : Hold} {place after : Text}

/-- A letter takes the place of the keyword that was read. -/
theorem Hold.find?_render_of_read (found : Hold.find? true text = some order)
    (shown : designation true order.render = .read order.unit (order.place ++ " H".toList)) :
    Hold.find? true order.render = some order := by
  obtain ⟨skipped, after, -, fit⟩ := Hold.exists_fit found
  have changed : FirstFit (Hold.behind? order.unit) order.place " H".toList order := by
    refine fit.change rfl ?_ ?_
    · exact Hold.behind?_eq_some_iff.2 ⟨rfl, rfl, endsHold_iff.1 (by decide)⟩
    · intro shorter later laterEnds outside missed
      rw [Option.eq_none_iff_forall_ne_some]
      intro other made
      obtain ⟨-, -, announced⟩ := Hold.behind?_eq_some_iff.1 made
      exact not_announces_append isKeyword_of_mem_holdKeywords laterEnds rfl announced
  rw [Hold.find?]
  exact changed.findByPlace_of_read shown

/-- The designation of a rendered hold gives its unit and leaves its place and its letter. -/
theorem Hold.designation_render_of_named (found : Hold.find? true text = some order)
    (named : order.unit ≠ none) :
    designation true order.render = .read order.unit (order.place ++ " H".toList) := by
  obtain ⟨skipped, after, -, fit⟩ := Hold.exists_fit found
  exact designation_renderStation_of_named named fit.startsBlank_append

/-- The letter of a hold is no move. -/
theorem not_isMoveBody_letter : ¬ IsMoveBody " H".toList := by
  rw [isMoveBody_iff]
  show ¬ BehindName GoesTo ([' '] ++ ['H'])
  rw [behindName_unnamed_iff (by decide), behindName_cons_iff]
  rintro (⟨-, goes⟩ | behind)
  · exact not_goesTo_of_destination? rfl (by decide) goes
  · exact not_behindName_nil behind

/-- A separator before the letter also stands before the keyword that was read. -/
theorem isMoveBody_of_letter (ends : EndsInName place) (announced : Announces holdKeywords after)
    (isMove : IsMoveBody (place ++ " H".toList)) : IsMoveBody (place ++ after) := by
  have letter : ¬ BehindName GoesTo " H".toList := isMoveBody_iff.not.1 not_isMoveBody_letter
  rw [isMoveBody_iff, behindName_append_iff, or_iff_left letter] at isMove
  rw [isMoveBody_iff, behindName_append_iff]
  refine Or.inl (isMove.imp ends ?_)
  rintro later (rfl | laterEnds) goes
  · exact absurd goes (not_goesTo_of_destination? rfl (by decide))
  · exact goes.change laterEnds rfl announced.endsInName

end Hold

section Aided

variable {aided : Aided}

/-- An aided order that names its unit is found again in its rendered form. -/
theorem Aided.find?_render_of_named (found : Aided.find? true text = some aided)
    (named : aided.toOrder.unit ≠ none) : Aided.find? true aided.render = some aided := by
  cases aided with
  | move order =>
      rw [Aided.find?_eq_move_iff] at found ⊢
      exact Move.find?_render_of_named found named
  | hold order =>
      obtain ⟨missing, holds⟩ := Aided.find?_eq_hold_iff.1 found
      have shown := Hold.designation_render_of_named holds named
      refine Aided.find?_eq_hold_iff.2 ⟨?_, Hold.find?_render_of_read holds shown⟩
      obtain ⟨skipped, after, read, fit⟩ := Hold.exists_fit holds
      obtain ⟨-, -, announced⟩ := Hold.behind?_eq_some_iff.1 fit.fits
      rw [Move.find?_eq_none_iff read] at missing
      rw [Aided.render, Move.find?_eq_none_iff shown]
      exact fun isMove =>
        missing ((isMoveBody_of_letter fit.ends announced isMove).append skipped)

theorem Aided.endsInName_render_of_find? (found : Aided.find? true text = some aided) :
    EndsInName aided.render := by
  cases aided with
  | hold order => exact Hold.endsInName_render order
  | move order => exact Move.endsInName_render_of_find? (Aided.find?_eq_move_iff.1 found)

/-- A station with a unit starts with no blank. -/
theorem startsBlank_renderStation {unit : Option Piece} (named : unit ≠ none) (place rest : Text) :
    startsBlank (renderStation unit place ++ rest) = false := by
  obtain ⟨piece, rfl⟩ := Option.ne_none_iff_exists'.1 named
  cases piece <;> rfl

/-- A move that names its unit is rendered with no blank in front. -/
theorem Move.startsBlank_render_of_named {order : Move} (named : order.unit ≠ none) :
    startsBlank order.render = false := by
  rw [Move.render_eq]
  exact startsBlank_renderStation named _ _

theorem Aided.startsBlank_render_of_named (named : aided.toOrder.unit ≠ none) :
    startsBlank aided.render = false := by
  cases aided with
  | hold order => exact startsBlank_renderStation named _ _
  | move order => exact Move.startsBlank_render_of_named named

end Aided

/-- The laws that the search for a support and the search for a convoy have in common. -/
structure IsAidSearch (words : List Text) (find : Text → Option A) (shape : Text → Prop) :
    Prop where
  keywords : ∀ word ∈ words, IsKeyword word
  apart : ∀ word ∈ words, word.take 1 ∉ unitWords
  finds : ∀ inner, (∃ aided, find inner = some aided) ↔ Opens shape inner
  closed : ∀ body, shape body → ∀ opening, shape (opening ++ body)

/-- The search for supports is a search for aids of aided orders. -/
theorem isAidSearch_support : IsAidSearch supportKeywords (Aided.find? true) IsAidedBody :=
  ⟨isKeyword_of_mem_supportKeywords, by decide, fun _ => Aided.exists_find?_iff,
    fun _ isAided => isAided.append⟩

theorem isAidSearch_convoy : IsAidSearch convoyKeywords (Move.find? true) IsMoveBody :=
  ⟨isKeyword_of_mem_convoyKeywords, by decide, fun _ => Move.exists_find?_iff,
    fun _ isMove => isMove.append⟩

section Aid

variable {words : List Text} {find : Text → Option A} {shape : Text → Prop}
variable {unit : Option Piece} {place after : Text} {aid : Aid A}

/-- No aid stands behind a place exactly if the following text leads to no aided body. -/
theorem IsAidSearch.behind?_eq_none_iff (search : IsAidSearch words find shape) :
    Aid.behind? words find unit place after = none ↔ ¬ LeadsTo words shape after := by
  rw [Option.eq_none_iff_forall_ne_some, ← not_exists, Aid.exists_behind?_iff search.finds]

/-- What stands behind the place of an aid that is found carries the shape of the aided order. -/
theorem IsAidSearch.carries (search : IsAidSearch words find shape)
    (made : Aid.behind? words find unit place after = some aid) : Carries shape after :=
  ((Aid.exists_behind?_iff search.finds unit place).1 ⟨aid, made⟩).carries search.keywords
    search.apart search.closed

/-- A letter takes the place of the keyword that was read. -/
theorem IsAidSearch.find?_render_of_named (search : IsAidSearch words find shape)
    (found : Aid.find? words find true text = some aid) (named : aid.unit ≠ none)
    {letter inner : Text} (spelled : Spells letter words) (helped : find inner = some aid.aided)
    (stops : startsBlank inner = false) :
    Aid.find? words find true
        (renderStation aid.unit aid.place ++ ' ' :: (letter ++ ' ' :: inner)) =
      some ⟨aid.unit, aid.place, inner, aid.aided⟩ := by
  have lone : AllBlank [' '] := by decide
  obtain ⟨skipped, after, -, fit⟩ := Aid.exists_fit found
  have opened : aidedText? words (' ' :: (letter ++ ' ' :: inner)) = some inner :=
    (aidedText?_eq_some_iff search.keywords).2 ⟨[' '], letter, [' '], rfl, by simp, lone, spelled,
      by simp, lone, stops⟩
  have made : Aid.behind? words find aid.unit aid.place (' ' :: (letter ++ ' ' :: inner)) =
      some ⟨aid.unit, aid.place, inner, aid.aided⟩ :=
    Aid.behind?_eq_some_iff.2 ⟨rfl, rfl, opened, helped⟩
  have changed : FirstFit (Aid.behind? words find aid.unit) aid.place
      (' ' :: (letter ++ ' ' :: inner)) ⟨aid.unit, aid.place, inner, aid.aided⟩ := by
    refine fit.change rfl made ?_
    intro shorter later laterEnds outside missed
    -- Both texts carry the shape, so that only the rest of the place decides.
    rw [search.behind?_eq_none_iff] at missed ⊢
    rw [(search.carries fit.fits).leadsTo_append_iff search.keywords laterEnds] at missed
    rwa [(search.carries made).leadsTo_append_iff search.keywords laterEnds]
  rw [Aid.find?]
  exact changed.findByPlace_renderStation named

end Aid

section Order

variable {order : Order}

/-- A hold that is found is rendered with no blanks at its ends. -/
theorem Hold.trim_render {order : Hold} (found : Hold.find? true text = some order) :
    Text.trim order.render = order.render := by
  apply Text.trim_of_endsInName ?_ (Hold.endsInName_render order)
  rw [Hold.render]
  cases named : order.unit with
  | some piece => exact startsBlank_renderStation (by simp) _ _
  | none =>
      obtain ⟨skipped, after, -, fit⟩ := Hold.exists_fit found
      exact fit.startsBlank_append

/-- An order that names its unit is rendered with no blanks at its ends. -/
theorem Order.trim_render (found : order.rule.order? true text = some order)
    (named : order.unit ≠ none) : Text.trim order.render = order.render := by
  cases order with
  | hold hold => exact Hold.trim_render (Rule.order?_hold_iff.1 found)
  | move move =>
      have search := Rule.order?_move_iff.1 found
      exact Text.trim_of_endsInName (Move.startsBlank_render_of_named named)
        (Move.endsInName_render_of_find? search)
  | support unit place aided =>
      obtain ⟨inner, search⟩ := Rule.order?_support_iff.1 found
      have helped := Aid.find_inner isKeyword_of_mem_supportKeywords search
      refine Text.trim_of_endsInName ?_
        (endsInName_renderAid _ _ (Aided.endsInName_render_of_find? helped))
      rw [Order.render, List.append_assoc]
      exact startsBlank_renderStation named _ _
  | convoy unit place carried =>
      obtain ⟨inner, search⟩ := Rule.order?_convoy_iff.1 found
      have helped := Aid.find_inner isKeyword_of_mem_convoyKeywords search
      refine Text.trim_of_endsInName ?_
        (endsInName_renderAid _ _ (Move.endsInName_render_of_find? helped))
      rw [Order.render, List.append_assoc]
      exact startsBlank_renderStation named _ _

/-- The rule that read an order also finds it in its own text. -/
theorem Order.order?_render (found : order.rule.order? true text = some order)
    (named : order.unit ≠ none) (helpsNamed : ∀ aided ∈ order.aided?, aided.unit ≠ none) :
    order.rule.order? true order.render = some order := by
  cases order with
  | hold hold =>
      have search := Rule.order?_hold_iff.1 found
      have shown := Hold.designation_render_of_named search named
      exact Rule.order?_hold_iff.2 (Hold.find?_render_of_read search shown)
  | move move =>
      have search := Rule.order?_move_iff.1 found
      exact Rule.order?_move_iff.2 (Move.find?_render_of_named search named)
  | support unit place aided =>
      have aidedNamed : aided.toOrder.unit ≠ none := helpsNamed _ rfl
      obtain ⟨inner, search⟩ := Rule.order?_support_iff.1 found
      have helped := Aid.find_inner isKeyword_of_mem_supportKeywords search
      refine Rule.order?_support_iff.2 ⟨aided.render, ?_⟩
      rw [Order.render, List.append_assoc, List.cons_append]
      exact isAidSearch_support.find?_render_of_named search named (by decide)
        (Aided.find?_render_of_named helped aidedNamed)
        (Aided.startsBlank_render_of_named aidedNamed)
  | convoy unit place carried =>
      have carriedNamed : carried.unit ≠ none := helpsNamed _ rfl
      obtain ⟨inner, search⟩ := Rule.order?_convoy_iff.1 found
      have helped := Aid.find_inner isKeyword_of_mem_convoyKeywords search
      refine Rule.order?_convoy_iff.2 ⟨carried.render, ?_⟩
      rw [Order.render, List.append_assoc, List.cons_append]
      exact isAidSearch_convoy.find?_render_of_named search named (by decide)
        (Move.find?_render_of_named helped carriedNamed)
        (Move.startsBlank_render_of_named carriedNamed)

end Order

end Diplomacy
