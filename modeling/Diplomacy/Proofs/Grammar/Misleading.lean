import Diplomacy.Proofs.Grammar.Reread

namespace Diplomacy

/-- The text of an order may be taken for a support or a convoy of something else. In a move, the
source ends with a call for an order and the destination has the shape of one. In a convoy, what is
carried does so, or its source begins with a keyword that leads to the rest of it. -/
def Order.Misleads : Order → Prop
  | .hold _ => False
  | .move order =>
      (BehindName (Calls supportKeywords) order.source ∨
        BehindName (Calls convoyKeywords) order.source) ∧ IsMoveBody order.destination
  | .support _ _ _ => False
  | .convoy _ _ carried =>
      (BehindName (Calls supportKeywords) (renderStation carried.unit carried.source) ∧
        IsAidedBody carried.destination) ∨
      LeadsTo supportKeywords EndsInName (' ' :: carried.source)

section Refusal

variable {words : List Text} {shape : Text → Prop} {place after destination : Text}

/-- A dash in front of a text neither makes a move body of it nor unmakes one. -/
theorem isMoveBody_dash_iff :
    IsMoveBody ('-' :: ' ' :: destination) ↔ IsMoveBody destination := by
  have unnamed : NoName "- ".toList := by decide
  rw [isMoveBody_iff, isMoveBody_iff]
  exact behindName_unnamed_iff unnamed

theorem isAidedBody_dash_iff :
    IsAidedBody ('-' :: ' ' :: destination) ↔ IsAidedBody destination := by
  have unnamed : NoName "- ".toList := by decide
  rw [IsAidedBody, IsAidedBody, isMoveBody_dash_iff, isHoldBody_iff, isHoldBody_iff]
  exact or_congr_right (behindName_unnamed_iff unnamed)

/-- An aid in the text of a move lies within one of its places or is called for by the source. -/
theorem isAidBody_dash_iff (keywords : ∀ word ∈ words, IsKeyword word)
    (quiet : ∀ word ∈ words, word.head? ≠ some '-')
    (moves : ∀ body, IsMoveBody body → shape body)
    (dashed : shape ('-' :: ' ' :: destination) ↔ shape destination)
    (ends : EndsInName place) (later : EndsInName destination) :
    IsAidBody words shape (place ++ (" - ".toList ++ destination)) ↔
      (BehindName (Calls words) place ∧ shape destination) ∨
        IsAidBody words EndsInName place ∨ IsAidBody words shape destination := by
  have unnamed : NoName "- ".toList := by decide
  have passed : IsAidBody words shape (place ++ ' ' :: '-' :: ' ' :: destination) ↔ _ :=
    isAidBody_append_space_iff keywords ends '-' (' ' :: destination) (by decide) (by decide) quiet
  have behind : IsAidBody words shape ('-' :: ' ' :: destination) ↔
      IsAidBody words shape destination := behindName_unnamed_iff unnamed
  have within : IsAidBody words (fun own => shape (own ++ ' ' :: '-' :: ' ' :: destination)) place ↔
      IsAidBody words EndsInName place := by
    constructor
    · exact IsAidBody.imp keywords ends fun own ownEnds _ => ownEnds
    · exact IsAidBody.imp keywords ends fun own ownEnds _ =>
        moves _ (isMoveBody_of_goesTo ownEnds (goesTo_dash later))
  rw [dashed, behind, within] at passed
  exact passed

/-- A hold that is no aid is written as a text that is no aid either. -/
theorem not_isAidBody_letter (keywords : ∀ word ∈ words, IsKeyword word)
    (quiet : ∀ word ∈ words, word.head? ≠ some 'h') (missing : ¬ shape "H".toList)
    (gains : ∀ own, EndsInName own → shape (own ++ " H".toList) → shape (own ++ after))
    (ends : EndsInName place) (refused : ¬ IsAidBody words shape (place ++ after)) :
    ¬ IsAidBody words shape (place ++ " H".toList) := by
  have passed : IsAidBody words shape (place ++ ' ' :: 'H' :: []) ↔ _ :=
    isAidBody_append_space_iff keywords ends 'H' [] (by decide) (by decide) quiet
  intro isAid
  rcases passed.1 isAid with ⟨-, fits⟩ | within | beyond
  · exact missing fits
  · exact refused (within.append_right keywords ends gains)
  · rcases behindName_cons_iff.1 beyond with ⟨-, leads⟩ | behind
    · exact leads.ne_nil rfl
    · exact not_behindName_nil behind

end Refusal

section Order

variable {text : Text}

/-- No end of the designated text has the shape of a rule that refuses the text. -/
theorem Rule.not_shape_of_read {rule : Rule} {skipped body : Text} {unit : Option Piece}
    (read : designation true text = .read unit (skipped ++ body))
    (refused : rule.order? true text = none) : ¬ rule.Shape body :=
  fun shape => (Rule.order?_eq_none_iff read).1 refused (Rule.shape_append shape skipped)

/-- The letter of a hold is no aided body. -/
theorem not_isAidedBody_letter : ¬ IsAidedBody "H".toList := by
  rintro (isMove | isHold)
  · exact not_isMoveBody_letter (isMove.append [' '])
  · rw [isHoldBody_iff] at isHold
    rcases behindName_cons_iff.1 isHold with ⟨-, announced⟩ | behind
    · exact announced.endsInName.ne_nil rfl
    · exact not_behindName_nil behind

/-- The text of a hold is no aid if the text that was read is none. -/
theorem Hold.order?_render_eq_none {order : Hold} (found : Hold.find? true text = some order)
    (shown : designation true order.render = .read order.unit (order.place ++ " H".toList))
    {rule : Rule} (member : rule ∈ [Rule.support, Rule.convoy])
    (refused : rule.order? true text = none) : rule.order? true order.render = none := by
  obtain ⟨skipped, after, read, fit⟩ := Hold.exists_fit found
  obtain ⟨-, -, announced⟩ := Hold.behind?_eq_some_iff.1 fit.fits
  have typed := Rule.not_shape_of_read read refused
  rw [Rule.order?_eq_none_iff shown]
  rcases List.mem_cons.1 member with rfl | last
  · exact not_isAidBody_letter isKeyword_of_mem_supportKeywords (by decide) not_isAidedBody_letter
      (fun own ends _ => (isHoldBody_of_announces ends announced).isAidedBody) fit.ends typed
  · obtain rfl := List.mem_singleton.1 last
    exact not_isAidBody_letter isKeyword_of_mem_convoyKeywords (by decide)
      (fun isMove => not_isAidedBody_letter isMove.isAidedBody)
      (fun own ends => isMoveBody_of_letter ends announced) fit.ends typed

section Move

variable {order : Move} {unit : Option Piece} {after : Text}

/-- A move whose text is no hold is not rendered as a hold. -/
theorem Move.not_isHoldBody_render (fit : FirstFit (Move.behind? unit) order.source after order)
    (refused : ¬ IsHoldBody (order.source ++ after)) :
    ¬ IsHoldBody (order.source ++ (" - ".toList ++ order.destination)) := by
  have unnamed : NoName " - ".toList := by decide
  obtain ⟨-, opening, rfl, -, -⟩ := Move.exists_of_fit fit
  intro isHold
  rw [isHoldBody_iff, behindName_append_iff, behindName_unnamed_iff unnamed] at isHold
  rcases isHold with ⟨before, later, equal, -, announced⟩ | within
  · by_cases empty : later = []
    · subst empty
      exact not_announces_space isKeyword_of_mem_holdKeywords (by decide) (by decide) _ announced
    · have ends : EndsInName later := (equal ▸ fit.ends).of_append empty
      exact not_announces_append isKeyword_of_mem_holdKeywords ends rfl announced
  · rw [← List.append_assoc] at refused
    exact refused ((isHoldBody_iff.2 within).append _)

/-- The text of a move is an aid exactly if the source calls for the destination. -/
theorem Move.isAidBody_render_iff {words : List Text} {shape : Text → Prop}
    (fit : FirstFit (Move.behind? unit) order.source after order)
    (keywords : ∀ word ∈ words, IsKeyword word) (quiet : ∀ word ∈ words, word.head? ≠ some '-')
    (moves : ∀ body, IsMoveBody body → shape body)
    (dashed : shape ('-' :: ' ' :: order.destination) ↔ shape order.destination)
    (refused : ¬ IsAidBody words shape (order.source ++ after)) :
    IsAidBody words shape (order.source ++ (" - ".toList ++ order.destination)) ↔
      BehindName (Calls words) order.source ∧ shape order.destination := by
  obtain ⟨goes, opening, rfl, -, ends⟩ := Move.exists_of_fit fit
  rw [isAidBody_dash_iff keywords quiet moves dashed fit.ends ends, or_iff_left]
  rintro (within | beyond)
  · exact refused (within.append_right keywords fit.ends
      fun own ownEnds _ => moves _ (isMoveBody_of_goesTo ownEnds goes))
  · rw [← List.append_assoc] at refused
    exact refused (BehindName.append beyond _)

/-- The earlier rules refuse a rendered move exactly if the move does not mislead. -/
theorem Move.order?_render_iff (found : Move.find? true text = some order)
    (named : order.unit ≠ none)
    (refused : ∀ rule ∈ [Rule.support, Rule.convoy, Rule.hold], rule.order? true text = none) :
    (∀ rule ∈ [Rule.support, Rule.convoy, Rule.hold], rule.order? true order.render = none) ↔
      ¬ (Order.move order).Misleads := by
  obtain ⟨skipped, after, read, fit⟩ := Move.exists_fit found
  have typed (rule : Rule) (member : rule ∈ [Rule.support, Rule.convoy, Rule.hold]) :
      ¬ rule.Shape (order.source ++ after) :=
    Rule.not_shape_of_read read (refused rule member)
  have shown : designation true order.render =
      .read order.unit (order.source ++ (" - ".toList ++ order.destination)) := by
    rw [Move.render_eq]
    exact designation_renderStation_of_named named fit.startsBlank_append
  have noHold := Move.not_isHoldBody_render fit (typed .hold (by simp))
  have support := Move.isAidBody_render_iff fit isKeyword_of_mem_supportKeywords (by decide)
    (fun _ => IsMoveBody.isAidedBody) isAidedBody_dash_iff (typed .support (by simp))
  have convoy := Move.isAidBody_render_iff fit isKeyword_of_mem_convoyKeywords (by decide)
    (fun _ isMove => isMove) isMoveBody_dash_iff (typed .convoy (by simp))
  have onlyMove : IsAidedBody order.destination ↔ IsMoveBody order.destination := by
    refine or_iff_left fun isHold => noHold ?_
    rw [← List.append_assoc]
    exact isHold.append _
  rw [onlyMove] at support
  rw [List.forall_mem_cons, List.forall_mem_cons, List.forall_mem_singleton,
    Rule.order?_eq_none_iff shown, Rule.order?_eq_none_iff shown, Rule.order?_eq_none_iff shown]
  simp only [Rule.Shape, support, convoy, noHold, not_false_eq_true, and_true, Order.Misleads,
    or_and_right, not_or]

end Move

section Convoy

variable {place source after inner : Text} {unit : Option Piece}

/-- A support in the text of a convoy lies within the order that is carried. -/
theorem isAidBody_convoy_iff (carries : Carries IsAidedBody after) (ends : EndsInName place)
    (refused : ¬ IsAidBody supportKeywords IsAidedBody (place ++ after)) (named : unit ≠ none) :
    IsAidBody supportKeywords IsAidedBody
        (place ++ ' ' :: 'C' :: ' ' :: (renderStation unit source ++ inner)) ↔
      IsAidBody supportKeywords IsAidedBody (renderStation unit source ++ inner) := by
  have keywords := isKeyword_of_mem_supportKeywords
  have unnamed : NoName [' '] := by decide
  have quiet : ¬ LeadsTo supportKeywords IsAidedBody
      (' ' :: (renderStation unit source ++ inner)) := by
    obtain ⟨piece, rfl⟩ := Option.ne_none_iff_exists'.1 named
    cases piece <;> exact not_leadsTo_space keywords (by decide) (by decide) _
  rw [carries.isAidBody_append_iff keywords ends, not_or, not_or] at refused
  obtain ⟨silent, whole, -⟩ := refused
  rw [isAidBody_append_space_iff keywords ends 'C' _ (by decide) (by decide) (by decide),
    or_iff_right fun given => silent given.1,
    or_iff_right fun within => whole (within.imp keywords ends fun own ownEnds _ => ownEnds),
    IsAidBody, behindName_cons_iff, or_iff_right fun given => quiet given.2]
  exact behindName_unnamed_iff unnamed

/-- A rendered station is the body of a support when its place is one, or when the place is led to
right behind the unit. -/
theorem isAidBody_renderStation_iff (named : unit ≠ none) :
    IsAidBody supportKeywords EndsInName (renderStation unit source) ↔
      LeadsTo supportKeywords EndsInName (' ' :: source) ∨
        IsAidBody supportKeywords EndsInName source := by
  have unnamed : NoName [' '] := by decide
  have passed : IsAidBody supportKeywords EndsInName ([' '] ++ source) ↔
      IsAidBody supportKeywords EndsInName source := behindName_unnamed_iff unnamed
  have letter (character : Char) (first : isNameCharacter character = true) :
      IsAidBody supportKeywords EndsInName (character :: ' ' :: source) ↔
        LeadsTo supportKeywords EndsInName (' ' :: source) ∨
          IsAidBody supportKeywords EndsInName source := by
    rw [IsAidBody, behindName_cons_iff, and_iff_right first]
    exact or_congr_right passed
  obtain ⟨piece, rfl⟩ := Option.ne_none_iff_exists'.1 named
  cases piece with
  | army => exact letter 'A' (by decide)
  | fleet => exact letter 'F' (by decide)

/-- A rendered station ends with a name character when its place does. -/
theorem endsInName_renderStation (unit : Option Piece) (ends : EndsInName place) :
    EndsInName (renderStation unit place) := by
  cases unit with
  | none => exact ends
  | some piece => exact (ends.append [' ']).append piece.abbreviation

/-- The move that is carried stands at the end of the text. -/
theorem Aid.exists_carried {unit : Option Piece} {aid : Aid Move}
    (fit : FirstFit (Aid.behind? convoyKeywords (Move.find? true) unit) place after aid) :
    ∃ opening rest, after = opening ++ (aid.aided.source ++ rest) ∧
      FirstFit (Move.behind? aid.aided.unit) aid.aided.source rest aid.aided := by
  obtain ⟨-, -, opened, helped⟩ := Aid.behind?_eq_some_iff.1 fit.fits
  obtain ⟨skipped, rest, read, carriedFit⟩ := Move.exists_fit helped
  obtain ⟨gap, written, space, rfl, -⟩ :=
    (aidedText?_eq_some_iff isKeyword_of_mem_convoyKeywords).1 opened
  obtain ⟨station, same⟩ := exists_append_of_designation read
  refine ⟨gap ++ (written ++ (space ++ (station ++ skipped))), rest, ?_, carriedFit⟩
  rw [same]
  simp only [List.append_assoc]

/-- No support lies within a place of a move at the end of a text that is no support. -/
theorem Move.not_isAidBody_within {order : Move} {unit : Option Piece} {before : Text}
    (fit : FirstFit (Move.behind? unit) order.source after order)
    (refused : ¬ IsAidBody supportKeywords IsAidedBody (before ++ (order.source ++ after))) :
    ¬ IsAidBody supportKeywords EndsInName order.source ∧
      ¬ IsAidBody supportKeywords IsAidedBody order.destination := by
  obtain ⟨goes, opening, rfl, -, -⟩ := Move.exists_of_fit fit
  constructor
  · intro within
    have grown : IsAidBody supportKeywords IsAidedBody
        (order.source ++ (opening ++ order.destination)) :=
      within.append_right isKeyword_of_mem_supportKeywords fit.ends fun own ownEnds _ =>
        (isMoveBody_of_goesTo ownEnds goes).isAidedBody
    exact refused (BehindName.append grown before)
  · intro within
    rw [← List.append_assoc, ← List.append_assoc] at refused
    exact refused (BehindName.append within _)

/-- The rule for supports refuses a rendered convoy exactly if the convoy does not mislead. -/
theorem Aid.order?_render_convoy_iff {aid : Aid Move}
    (found : Aid.find? convoyKeywords (Move.find? true) true text = some aid)
    (named : aid.unit ≠ none) (carriedNamed : aid.aided.unit ≠ none)
    (refused : Rule.order? .support true text = none) :
    Rule.order? .support true aid.convoy.render = none ↔ ¬ aid.convoy.Misleads := by
  obtain ⟨skipped, after, read, fit⟩ := Aid.exists_fit found
  obtain ⟨opening, rest, split, carriedFit⟩ := Aid.exists_carried fit
  obtain ⟨-, -, -, -, ends⟩ := Move.exists_of_fit carriedFit
  have typed : ¬ IsAidBody supportKeywords IsAidedBody (aid.place ++ after) :=
    Rule.not_shape_of_read read refused
  have carries : Carries IsAidedBody after :=
    (isAidSearch_convoy.carries fit.fits).imp fun _ => IsMoveBody.isAidedBody
  have within : ¬ IsAidBody supportKeywords EndsInName aid.aided.source ∧
      ¬ IsAidBody supportKeywords IsAidedBody aid.aided.destination := by
    rw [split, ← List.append_assoc] at typed
    exact Move.not_isAidBody_within carriedFit typed
  have station := endsInName_renderStation aid.aided.unit carriedFit.ends
  have shown : designation true aid.convoy.render =
      .read aid.unit (aid.place ++ ' ' :: 'C' :: ' ' ::
        (renderStation aid.aided.unit aid.aided.source ++
          (" - ".toList ++ aid.aided.destination))) := by
    rw [Aid.convoy, Order.render, Move.render_eq, List.append_assoc]
    exact designation_renderStation_of_named named fit.startsBlank_append
  rw [Rule.order?_eq_none_iff shown, Rule.Shape, Aid.convoy, Order.Misleads,
    isAidBody_convoy_iff carries fit.ends typed carriedNamed,
    isAidBody_dash_iff isKeyword_of_mem_supportKeywords (by decide)
      (fun _ => IsMoveBody.isAidedBody) isAidedBody_dash_iff station ends,
    isAidBody_renderStation_iff carriedNamed, or_iff_left within.1, or_iff_left within.2]

end Convoy

variable {order : Order}

/-- The rules that are tried before refuse the text of an order exactly if it does not mislead. -/
theorem Order.refused_render_iff (found : order.rule.order? true text = some order)
    (named : order.unit ≠ none) (helpsNamed : ∀ aided ∈ order.aided?, aided.unit ≠ none)
    (refused : ∀ rule ∈ order.rule.before, rule.order? true text = none) :
    (∀ rule ∈ order.rule.before, rule.order? true order.render = none) ↔ ¬ order.Misleads := by
  cases order with
  | hold hold =>
      have search := Rule.order?_hold_iff.1 found
      have shown := Hold.designation_render_of_named search named
      refine iff_of_true (fun rule member => ?_) id
      exact Hold.order?_render_eq_none search shown member (refused rule member)
  | move move => exact Move.order?_render_iff (Rule.order?_move_iff.1 found) named refused
  | support unit place aided =>
      refine iff_of_true (fun rule member => ?_) id
      cases member
  | convoy unit place carried =>
      obtain ⟨inner, search⟩ := Rule.order?_convoy_iff.1 found
      have single : Rule.before .convoy = [.support] := rfl
      rw [Order.rule, single, List.forall_mem_singleton] at refused ⊢
      have reread := Aid.order?_render_convoy_iff search named (helpsNamed _ rfl) refused
      exact reread

end Order

/-- An order whose units are named is read back from its own text, unless that text misleads. The
text of a support or of a hold never does. -/
theorem readLine_render_accepted_iff (line : Text) (order : Order)
    (accepted : (readLine true line).result = .ok (.accepted order)) (named : order.unit ≠ none)
    (helpsNamed : ∀ aided ∈ order.aided?, aided.unit ≠ none) :
    (readLine true order.render).result = .ok (.accepted order) ↔ ¬ order.Misleads := by
  obtain ⟨found, refused⟩ := readLine_accepts_iff_first.1 accepted
  rw [readLine_accepts_iff_first, Order.trim_render found named,
    and_iff_right (Order.order?_render found named helpsNamed)]
  exact Order.refused_render_iff found named helpsNamed refused

/-- A keyword behind blanks is the last word of a text. -/
theorem getLast?_words_of_spells {words : List Text} (keywords : ∀ word ∈ words, IsKeyword word)
    (before : Text) {gap written : Text} (nonempty : gap ≠ []) (blank : AllBlank gap)
    (spelled : Spells written words) :
    (Text.words (before ++ (gap ++ written))).getLast? = some written := by
  rw [Text.words_append_blanks_append before written blank nonempty,
    Text.words_of_solid (spelled.ne_nil keywords) (spelled.isBlank_eq_false keywords)]
  simp

/-- A text calls for an order only if its last word is a keyword or stands for a unit. -/
theorem not_behindName_calls {words : List Text} (keywords : ∀ word ∈ words, IsKeyword word)
    {text : Text} (absent : ∀ word ∈ (Text.words text).getLast?,
      ¬ Spells word words ∧ ¬ Spells word unitWords) : ¬ BehindName (Calls words) text := by
  rintro ⟨before, after, rfl, -, announced | ⟨token, opened, spelled⟩⟩
  · obtain ⟨gap, written, rfl, nonempty, blank, spelled⟩ := announced
    have last := getLast?_words_of_spells keywords before nonempty blank spelled
    exact (absent written last).1 spelled
  · obtain ⟨gap, written, space, rfl, -, -, -, nonempty, blank, -⟩ :=
      (aidedText?_eq_some_iff keywords).1 opened
    have last := getLast?_words_of_spells isKeyword_of_mem_unitWords (before ++ (gap ++ written))
      nonempty blank spelled
    simp only [List.append_assoc] at last
    exact (absent token last).2 spelled

/-- A convoy that is typed with a longer keyword and a tight dash is read back from its text. -/
theorem readLine_render_london :
    let line := "f north sea convoys a london-st. petersburg (nc)".toList
    let order : Order := .convoy (some .fleet) "north sea".toList
      ⟨some .army, "london".toList, "st. petersburg (nc)".toList⟩
    (readLine true line).result = .ok (.accepted order) ∧ order.unit ≠ none ∧
      (∀ aided ∈ order.aided?, aided.unit ≠ none) ∧
      (readLine true order.render).result = .ok (.accepted order) ∧ ¬ order.Misleads := by
  intro line order
  have accepted : (readLine true line).result = .ok (.accepted order) :=
    (readLine_accepts_iff_order? true line order).2 (by decide +kernel)
  have named : order.unit ≠ none := by decide
  have helpsNamed : ∀ aided ∈ order.aided?, aided.unit ≠ none := by decide
  have straight : ¬ order.Misleads := by
    rintro (⟨calls, -⟩ | leads)
    · exact not_behindName_calls isKeyword_of_mem_supportKeywords (by decide +kernel) calls
    · exact not_leadsTo_space isKeyword_of_mem_supportKeywords (by decide) (by decide) _ leads
  have reread := (readLine_render_accepted_iff line order accepted named helpsNamed).2 straight
  exact ⟨accepted, named, helpsNamed, reread, straight⟩

/-- The dash gets blanks around it, and so the end of the source is taken for a keyword. -/
theorem readLine_render_brest :
    let line := "A brest s-Paris - Rome".toList
    let order : Order := .move ⟨some .army, "brest s".toList, "Paris - Rome".toList⟩
    (readLine true line).result = .ok (.accepted order) ∧ order.unit ≠ none ∧
      order.aided? = none ∧
      (readLine true order.render).result = .ok (.accepted
        (.support (some .army) "brest".toList (.move ⟨none, "Paris".toList, "Rome".toList⟩))) ∧
      (readLine true order.render).result ≠ .ok (.accepted order) := by
  intro line order
  have accepted : (readLine true line).result = .ok (.accepted order) :=
    (readLine_accepts_iff_order? true line order).2 (by decide +kernel)
  have taken : (readLine true order.render).result = .ok (.accepted
      (.support (some .army) "brest".toList (.move ⟨none, "Paris".toList, "Rome".toList⟩))) :=
    (readLine_accepts_iff_order? true order.render _).2 (by decide +kernel)
  refine ⟨accepted, by decide, rfl, taken, ?_⟩
  rw [taken]
  intro same
  have kinds : OrderKind.support = OrderKind.move :=
    congrArg Order.kind (Verdict.accepted.inj (Except.ok.inj same))
  cases kinds

end Diplomacy
