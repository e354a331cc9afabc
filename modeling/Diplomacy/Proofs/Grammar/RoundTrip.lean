import Diplomacy.Proofs.Grammar.Clean
import Mathlib.Data.List.Basic

namespace Diplomacy

section Refusal

variable {A : Type} {strict : Bool} {text : Text}

/-- The words behind a gap of the designated text end the words of the whole text. -/
theorem words_of_designation {unit : Option Piece} {before gap rest : Text} (nonempty : gap ≠ [])
    (blank : AllBlank gap) (read : designation strict text = .read unit (before ++ (gap ++ rest))) :
    ∃ earlier, Text.words text = earlier ++ Text.words rest := by
  obtain ⟨opening, rfl⟩ := exists_append_of_designation read
  refine ⟨Text.words (opening ++ before), ?_⟩
  rw [← List.append_assoc, Text.words_append_blanks_append _ _ blank nonempty]

/-- Without its keyword among the words, an aid is not found. -/
theorem Aid.find?_eq_none {words : List Text} {find : Text → Option A}
    (keywords : ∀ word ∈ words, IsKeyword word)
    (absent : ∀ word ∈ Text.words text, ¬ Spells word words) :
    Aid.find? words find strict text = none := by
  cases search : Aid.find? words find strict text with
  | none => rfl
  | some aid =>
      exfalso
      obtain ⟨before, gap, written, space, read, -, nonempty, blank, spelled, present,
        spaceBlank, -⟩ := Aid.exists_split keywords search
      obtain ⟨earlier, equal⟩ := words_of_designation nonempty blank read
      have starts := spaceBlank.startsBlank_append present aid.inner
      rw [Text.words_solid_append (spelled.ne_nil keywords) (spelled.isBlank_eq_false keywords)
        (Or.inr starts)] at equal
      exact absent written (by rw [equal]; simp) spelled

/-- A text whose last word is no hold keyword is not a hold. -/
theorem Hold.find?_eq_none
    (absent : ∀ word ∈ (Text.words text).getLast?, ¬ Spells word holdKeywords) :
    Hold.find? strict text = none := by
  cases search : Hold.find? strict text with
  | none => rfl
  | some order =>
      exfalso
      obtain ⟨unit, body, read, before, gap, keyword, rfl, -, nonempty, blank, spelled⟩ :=
        Hold.exists_find?_iff.1 ⟨order, search⟩
      obtain ⟨earlier, equal⟩ := words_of_designation nonempty blank read
      rw [Text.words_of_solid (spelled.ne_nil isKeyword_of_mem_holdKeywords)
        (spelled.isBlank_eq_false isKeyword_of_mem_holdKeywords)] at equal
      exact absent keyword (by rw [equal]; simp) spelled

/-- A text without a dash and without a word like "to" is not a move. -/
theorem Move.find?_eq_none (no_dash : '-' ∉ text)
    (absent : ∀ word ∈ Text.words text, ¬ "to".toList <+: Text.lowered word) :
    Move.find? strict text = none := by
  cases search : Move.find? strict text with
  | none => rfl
  | some order =>
      exfalso
      obtain ⟨unit, body, read, before, gap, separator, after, rfl, -, blank, spelled, -⟩ :=
        Move.exists_find?_iff.1 ⟨order, search⟩
      rcases spelled with rfl | ⟨nonempty, same⟩
      · obtain ⟨opening, rfl⟩ := exists_append_of_designation read
        exact no_dash (by simp)
      · have spelled : Spells separator moveSeparators :=
          (spells_moveSeparators_iff separator).2 (Or.inr same)
        obtain ⟨earlier, equal⟩ := words_of_designation nonempty blank read
        obtain ⟨word, words, first, begins⟩ := Text.exists_words_eq_cons
          (spelled.ne_nil isKeyword_of_mem_moveSeparators)
          (spelled.isBlank_eq_false isKeyword_of_mem_moveSeparators) after
        rw [first] at equal
        refine absent word (by rw [equal]; simp) ?_
        rw [← same]
        exact begins.map Char.toLower

end Refusal

section Station

variable {A : Type} {strict : Bool} {unit : Option Piece} {place rest : Text}

/-- A place that stands alone is read without a unit. -/
theorem designation_of_standsAlone (clean : CleanPlace place)
    (alone : StandsAlone strict place) (stops : startsBlank rest = true) :
    designation strict (place ++ rest) = .read none (place ++ rest) := by
  have named : startsInName (place ++ rest) = true := by
    rw [startsInName_append clean.endsInName.ne_nil]
    exact clean.startsInName
  have whole := Text.trimStart_of_not_startsBlank (startsBlank_of_startsInName named)
  cases strict with
  | true =>
      have head : (place ++ rest).head? = place.head? :=
        List.head?_append_of_ne_nil _ clean.endsInName.ne_nil
      have missing : keywordAt? unitWords (place ++ rest) = none := by
        rw [keywordAt?_unitWords_eq_none_iff, head]
        exact alone
      rw [designation, missing, whole]
  | false =>
      rw [designation_eq_read_none_iff, whole]
      refine ⟨⟨?_, by intro strictly; cases strictly⟩, rfl⟩
      intro piece body names
      obtain ⟨token, gap, equal, known, nonempty, blank, -⟩ := names
      have spelled : Spells token unitWords := mem_unitWords_of_lookup known
      have starts := blank.startsBlank_append nonempty body
      have words := congrArg Text.words equal
      rw [Text.words_append_of_startsBlank _ stops,
        Text.words_solid_append (spelled.ne_nil isKeyword_of_mem_unitWords)
          (spelled.isBlank_eq_false isKeyword_of_mem_unitWords) (Or.inr starts)] at words
      have head : (Text.words place).head? = some token := by
        rw [← List.head?_append_of_ne_nil _ clean.endsInName.words_ne_nil, words]
        rfl
      exact alone token head spelled

/-- The unit that stands before a place is read as such, and no other. -/
theorem designation_renderStation (station : CleanStation strict unit place)
    (stops : startsBlank rest = true) :
    designation strict (renderStation unit place ++ rest) = .read unit (place ++ rest) := by
  cases unit with
  | none => exact designation_of_standsAlone station.clean (station.alone rfl) stops
  | some piece =>
      have named : startsInName (place ++ rest) = true := by
        rw [startsInName_append station.clean.endsInName.ne_nil]
        exact station.clean.startsInName
      exact designation_renderStation_of_named (by simp) (startsBlank_of_startsInName named)

/-- The place of a station is found if nothing fits behind a shorter one, where the next word of
the place would have to fit. -/
theorem findByPlace_renderStation {follow : Option Piece → Text → Text → Option A} {found : A}
    (station : CleanStation strict unit place) (stops : startsBlank rest = true)
    (accepted : follow unit place rest = some found)
    (refused : ∀ shorter later word words, Text.words (later ++ rest) = word :: words →
      words ≠ [] → word ∈ Text.words place → follow unit shorter (later ++ rest) = none)
    (nonblank : Text.words rest ≠ []) :
    findByPlace strict (renderStation unit place ++ rest) follow = some found := by
  rw [findByPlace, designation_renderStation station stops]
  refine findSome?_placeNames_of_shortest station.clean.startsInName station.clean.endsInName
    (startsInName_of_startsBlank stops) accepted ?_
  intro shorter later equal nonempty ends outside
  have blank := startsBlank_within_place station.clean equal nonempty outside
  have laterEnds : EndsInName later := by
    have whole := station.clean.endsInName
    rw [equal] at whole
    exact whole.of_append nonempty
  cases words : Text.words later with
  | nil => exact absurd words laterEnds.words_ne_nil
  | cons word others =>
      have split : Text.words (later ++ rest) = word :: (others ++ Text.words rest) := by
        rw [Text.words_append_of_startsBlank _ stops, words]
        rfl
      refine refused shorter later word _ split (by simp [nonblank]) ?_
      rw [equal, Text.words_append_of_startsBlank _ blank, words]
      simp

end Station

section Success

variable {A : Type} {strict : Bool}

/-- A clean hold is found in its rendered form. -/
theorem Hold.find?_render {order : Hold} (clean : order.Clean strict) :
    Hold.find? strict order.render = some order := by
  have station : CleanStation strict order.unit order.place := clean
  refine findByPlace_renderStation station (by decide) (if_pos (by decide)) ?_ (by decide)
  intro shorter later word words split nonempty member
  refine if_neg fun holds => ?_
  obtain ⟨gap, keyword, equal, -, blank, spelled⟩ := endsHold_iff.1 holds
  -- What is left would be a single word, but the place still has one before the letter.
  rw [equal, Text.words_blanks_append blank,
    Text.words_of_solid (spelled.ne_nil isKeyword_of_mem_holdKeywords)
      (spelled.isBlank_eq_false isKeyword_of_mem_holdKeywords)] at split
  exact nonempty (List.cons.inj split).2.symm

/-- A clean place behind a dash is read as the destination. -/
theorem destination?_render {place : Text} (clean : CleanPlace place) :
    destination? (" - ".toList ++ place) = some place :=
  destination?_dash clean.startsInName clean.endsInName

/-- A clean move is found in its rendered form. -/
theorem Move.find?_render {order : Move} (clean : order.Clean strict) :
    Move.find? strict order.render = some order := by
  obtain ⟨station, destination⟩ := clean
  have nonblank : Text.words (" - ".toList ++ order.destination) ≠ [] :=
    (destination.endsInName.append _).words_ne_nil
  rw [Move.render, List.append_assoc]
  refine findByPlace_renderStation station rfl ?_ ?_ nonblank
  · exact Move.behind?_eq_some_iff.2 ⟨rfl, rfl, destination?_render destination⟩
  · intro shorter later word words split nonempty member
    cases sooner :
        Move.behind? order.unit shorter (later ++ (" - ".toList ++ order.destination)) with
    | none => rfl
    | some other =>
        exfalso
        obtain ⟨-, -, reached⟩ := Move.behind?_eq_some_iff.1 sooner
        obtain ⟨gap, separator, after, equal, blank, spelled, -⟩ :=
          destination?_eq_some_iff.1 reached
        obtain ⟨first, others, found, begins⟩ := Text.exists_words_eq_cons
          (spelled.ne_nil isKeyword_of_mem_moveSeparators)
          (spelled.isBlank_eq_false isKeyword_of_mem_moveSeparators) after
        rw [equal, Text.words_blanks_append blank, found] at split
        obtain ⟨rfl, -⟩ := List.cons.inj split
        rcases (spells_moveSeparators_iff separator).1 spelled with rfl | same
        · have named := (station.clean.isWord first member).2 '-' (begins.subset (by simp))
          exact absurd named (by decide)
        · refine (station.clean.isCleanWord first member).2 ?_
          rw [← same]
          exact begins.map Char.toLower

/-- An aid with a clean station is found in its rendered form when its aided order is. -/
theorem Aid.find?_render {words : List Text} {find : Text → Option A} {unit : Option Piece}
    {place letter inner : Text} {aided : A} (keywords : ∀ word ∈ words, IsKeyword word)
    (announces : ∀ word ∈ words, word ∈ aidWords) (station : CleanStation strict unit place)
    (spelled : Spells letter words) (stops : startsBlank inner = false)
    (found : find inner = some aided) :
    Aid.find? words find strict (renderStation unit place ++ ' ' :: letter ++ ' ' :: inner) =
      some ⟨unit, place, inner, aided⟩ := by
  have blank : AllBlank [' '] := by decide
  have nonblank : Text.words (' ' :: (letter ++ ' ' :: inner)) ≠ [] := by
    have split := Text.words_append_space [] (letter ++ ' ' :: inner)
    rw [List.nil_append] at split
    rw [split, Text.words_append_space, Text.words_of_solid (spelled.ne_nil keywords)
      (spelled.isBlank_eq_false keywords)]
    simp
  rw [List.append_assoc, List.cons_append]
  refine findByPlace_renderStation station rfl ?_ ?_ nonblank
  · have opened : aidedText? words (' ' :: (letter ++ ' ' :: inner)) = some inner :=
      (aidedText?_eq_some_iff keywords).2 ⟨[' '], letter, [' '], rfl, List.cons_ne_nil _ _, blank,
        spelled, List.cons_ne_nil _ _, blank, stops⟩
    exact Aid.behind?_eq_some_iff.2 ⟨rfl, rfl, opened, found⟩
  · intro shorter later word others split nonempty member
    cases sooner :
        Aid.behind? words find unit shorter (later ++ ' ' :: (letter ++ ' ' :: inner)) with
    | none => rfl
    | some other =>
        exfalso
        obtain ⟨-, -, opened, -⟩ := Aid.behind?_eq_some_iff.1 sooner
        obtain ⟨gap, written, space, equal, -, gapBlank, fits, present, spaceBlank, -⟩ :=
          (aidedText?_eq_some_iff keywords).1 opened
        have starts := spaceBlank.startsBlank_append present other.inner
        rw [equal, Text.words_blanks_append gapBlank, Text.words_solid_append
          (fits.ne_nil keywords) (fits.isBlank_eq_false keywords) (Or.inr starts)] at split
        obtain ⟨rfl, -⟩ := List.cons.inj split
        exact (station.clean.isCleanWord written member).1 (announces _ fits)

/-- A rendered clean station starts with a name character. -/
theorem startsInName_renderStation {unit : Option Piece} {place : Text}
    (station : CleanStation strict unit place) (rest : Text) :
    startsInName (renderStation unit place ++ rest) = true := by
  cases unit with
  | none =>
      have starts : startsInName (place ++ rest) = startsInName place :=
        startsInName_append station.clean.endsInName.ne_nil
      exact starts.trans station.clean.startsInName
  | some piece =>
      have named : startsInName piece.abbreviation = true := by cases piece <;> decide
      have nonempty : piece.abbreviation ≠ [] := by cases piece <;> decide
      rw [renderStation, List.append_assoc, startsInName_append nonempty, named]

/-- A clean hold is rendered with no blank in front. -/
theorem Hold.startsBlank_render {order : Hold} (clean : order.Clean strict) :
    startsBlank order.render = false :=
  startsBlank_of_startsInName (startsInName_renderStation clean _)

theorem Move.startsBlank_render {order : Move} (clean : order.Clean strict) :
    startsBlank order.render = false := by
  rw [Move.render, List.append_assoc]
  exact startsBlank_of_startsInName (startsInName_renderStation clean.1 _)

/-- A rendered hold ends with a name character. -/
theorem Hold.endsInName_render (order : Hold) : EndsInName order.render := by
  have letter : EndsInName " H".toList := ⟨[' '], 'H', rfl, by decide⟩
  exact letter.append _

theorem Move.endsInName_render {order : Move} (clean : order.Clean strict) :
    EndsInName order.render :=
  clean.2.endsInName.append _

/-- A clean hold is not taken for a move, which would be preferred. -/
theorem Aided.find?_render {aided : Aided} (clean : aided.Clean strict) :
    Aided.find? strict aided.render = some aided := by
  cases aided with
  | hold order =>
      have missing : Move.find? strict order.render = none :=
        Move.find?_eq_none (Hold.no_dash clean) fun word member =>
          (Hold.isCleanWord clean word member).2
      rw [Aided.render, Aided.find?, missing, Hold.find?_render clean]
      rfl
  | move order =>
      rw [Aided.render, Aided.find?, Move.find?_render clean]
      rfl

theorem Aided.startsBlank_render {aided : Aided} (clean : aided.Clean strict) :
    startsBlank aided.render = false := by
  cases aided with
  | hold order => exact Hold.startsBlank_render clean
  | move order => exact Move.startsBlank_render clean

theorem Aided.endsInName_render {aided : Aided} (clean : aided.Clean strict) :
    EndsInName aided.render := by
  cases aided with
  | hold order => exact Hold.endsInName_render order
  | move order => exact Move.endsInName_render clean

end Success

section Dispatch

variable {strict : Bool}

/-- The rule that finds an order decides if the rules before it find none. -/
theorem exists_findLine?_of_rule {text : Text} {earlier later : List Rule} {rule : Rule}
    {events : List Event} {order : Order} (ends : EndsInName text)
    (stops : startsBlank text = false) (split : ruleOrder = earlier ++ rule :: later)
    (refused : ∀ other ∈ earlier, other.find? strict text = none)
    (found : rule.find? strict text = some (events, order)) :
    ∃ reported, findLine? strict text = some (reported, order) := by
  have passed : (earlier.findSome? fun other => other.report? strict text) = none := by
    rw [List.findSome?_eq_none_iff]
    intro other member
    rw [Rule.report?, refused other member]
    rfl
  have reported : rule.report? strict text = some (Find.report text (events, order)) := by
    rw [Rule.report?, found]
    rfl
  rw [findLine?, Text.trim_of_endsInName stops ends, split, List.findSome?_append, passed,
    Option.none_or, List.findSome?_cons, reported]
  exact ⟨_, rfl⟩

/-- A clean word is no support keyword. -/
theorem IsCleanWord.not_support {word : Text} (clean : IsCleanWord word) :
    ¬ Spells word supportKeywords :=
  fun spelled => clean.1 (List.mem_append_left _ spelled)

theorem IsCleanWord.not_convoy {word : Text} (clean : IsCleanWord word) :
    ¬ Spells word convoyKeywords :=
  fun spelled => clean.1 (List.mem_append_right _ spelled)

/-- The rule for supports finds nothing in a text without a support keyword. -/
theorem Rule.find?_support_eq_none (strict : Bool) {text : Text}
    (absent : ∀ word ∈ Text.words text, ¬ Spells word supportKeywords) :
    Rule.find? .support strict text = none := by
  rw [Rule.find?, Aid.find?_eq_none isKeyword_of_mem_supportKeywords absent]
  rfl

/-- The rules for aids refuse a text whose words are clean. -/
theorem Rule.find?_aid_eq_none (strict : Bool) {text : Text}
    (clean : ∀ word ∈ Text.words text, IsCleanWord word) :
    ∀ rule ∈ [Rule.support, Rule.convoy], rule.find? strict text = none := by
  intro rule member
  rcases List.mem_cons.1 member with rfl | last
  · exact Rule.find?_support_eq_none strict fun word member => (clean word member).not_support
  · obtain rfl := List.mem_singleton.1 last
    rw [Rule.find?, Aid.find?_eq_none isKeyword_of_mem_convoyKeywords fun word member =>
      (clean word member).not_convoy]
    rfl

/-- A rendered clean hold is found as a line. -/
theorem exists_findLine?_hold {order : Hold} (clean : order.Clean strict) :
    ∃ events, findLine? strict (Order.hold order).render = some (events, .hold order) := by
  have found : Rule.find? .hold strict order.render = some ([], .hold order) := by
    rw [Rule.find?, Hold.find?_render clean]
    rfl
  have split : ruleOrder = [.support, .convoy] ++ .hold :: [.move] := rfl
  exact exists_findLine?_of_rule (Hold.endsInName_render order) (Hold.startsBlank_render clean)
    split (Rule.find?_aid_eq_none strict (Hold.isCleanWord clean)) found

/-- The text of a move ends with the last word of the destination. -/
theorem Move.mem_words_of_last {order : Move} (clean : order.Clean strict) {word : Text}
    (last : word ∈ (Text.words order.render).getLast?) : word ∈ Text.words order.destination := by
  have found := List.getLast?_eq_some_getLast clean.2.endsInName.words_ne_nil
  rw [Move.words_render, ← List.singleton_append, ← List.append_assoc, List.getLast?_append, found,
    Option.some_or] at last
  exact List.mem_of_getLast? (found.trans last)

/-- A rendered clean move is found as a line when no word of its destination is a hold keyword. -/
theorem exists_findLine?_move {order : Move} (clean : order.Clean strict)
    (apart : ∀ word ∈ Text.words order.destination, ¬ Spells word holdKeywords) :
    ∃ events, findLine? strict (Order.move order).render = some (events, .move order) := by
  have found : Rule.find? .move strict order.render = some ([], .move order) := by
    rw [Rule.find?, Move.find?_render clean]
    rfl
  have split : ruleOrder = [.support, .convoy, .hold] ++ .move :: [] := rfl
  refine exists_findLine?_of_rule (Move.endsInName_render clean) (Move.startsBlank_render clean)
    split ?_ found
  intro rule member
  have cases : rule ∈ [Rule.support, Rule.convoy] ++ [Rule.hold] := member
  rcases List.mem_append.1 cases with aid | hold
  · exact Rule.find?_aid_eq_none strict (Move.isCleanWord clean) rule aid
  · obtain rfl := List.mem_singleton.1 hold
    have missing : Hold.find? strict order.render = none :=
      Hold.find?_eq_none fun word last => apart word (Move.mem_words_of_last clean last)
    rw [Rule.find?, Order.render, missing]
    rfl

section Aid

variable {unit : Option Piece} {place : Text}

/-- A rendered aid with a clean station starts with no blank. -/
theorem startsBlank_renderAid (station : CleanStation strict unit place) (letter inner : Text) :
    startsBlank (renderStation unit place ++ ' ' :: letter ++ ' ' :: inner) = false := by
  rw [List.append_assoc]
  exact startsBlank_of_startsInName (startsInName_renderStation station _)

/-- A rendered aid ends with a name character when its aided order does. -/
theorem endsInName_renderAid (station letter : Text) {inner : Text} (ends : EndsInName inner) :
    EndsInName (station ++ ' ' :: letter ++ ' ' :: inner) := by
  rw [← List.singleton_append]
  exact (ends.append [' ']).append _

/-- A rendered clean support is found as a line. -/
theorem exists_findLine?_support {aided : Aided} (station : CleanStation strict unit place)
    (clean : aided.Clean strict) :
    ∃ events, findLine? strict (Order.support unit place aided).render =
      some (events, .support unit place aided) := by
  have announces : ∀ word ∈ supportKeywords, word ∈ aidWords :=
    fun word member => List.mem_append_left _ member
  have letter : Spells supportLetter supportKeywords := by decide
  have found : Rule.find? .support strict (Order.support unit place aided).render =
      some (Aid.find Aid.support Aided.toOrder ⟨unit, place, aided.render, aided⟩) := by
    rw [Rule.find?, Order.render, Aid.find?_render isKeyword_of_mem_supportKeywords announces
      station letter (Aided.startsBlank_render clean) (Aided.find?_render clean)]
    rfl
  have split : ruleOrder = [] ++ .support :: [.convoy, .hold, .move] := rfl
  refine exists_findLine?_of_rule (endsInName_renderAid _ _ (Aided.endsInName_render clean))
    (startsBlank_renderAid station _ _) split ?_ found
  intro other member
  cases member

theorem exists_findLine?_convoy {carried : Move} (station : CleanStation strict unit place)
    (clean : carried.Clean strict) :
    ∃ events, findLine? strict (Order.convoy unit place carried).render =
      some (events, .convoy unit place carried) := by
  have announces : ∀ word ∈ convoyKeywords, word ∈ aidWords :=
    fun word member => List.mem_append_right _ member
  have letter : Spells convoyLetter convoyKeywords := by decide
  have found : Rule.find? .convoy strict (Order.convoy unit place carried).render =
      some (Aid.find Aid.convoy .move ⟨unit, place, carried.render, carried⟩) := by
    rw [Rule.find?, Order.render, Aid.find?_render isKeyword_of_mem_convoyKeywords announces
      station letter (Move.startsBlank_render clean) (Move.find?_render clean)]
    rfl
  have split : ruleOrder = [.support] ++ .convoy :: [.hold, .move] := rfl
  refine exists_findLine?_of_rule (endsInName_renderAid _ _ (Move.endsInName_render clean))
    (startsBlank_renderAid station _ _) split ?_ found
  intro other member
  obtain rfl := List.mem_singleton.1 member
  refine Rule.find?_support_eq_none strict fun word inside => ?_
  have mark : ¬ Spells convoyLetter supportKeywords := by decide
  rw [Order.render, Text.words_aid _ _ _ (by decide)] at inside
  rcases List.mem_append.1 inside with early | late
  · exact (station.isCleanWord word early).not_support
  · rcases List.mem_cons.1 late with rfl | later
    · exact mark
    · exact (Move.isCleanWord clean word later).not_support

end Aid

/-- A clean order is read back from its own text, whatever its kind. -/
theorem readLine_render (strict : Bool) (order : Order) (clean : order.Clean strict) :
    (readLine strict order.render).result = .ok (.accepted order) := by
  rw [readLine_accepts_iff]
  cases order with
  | hold order => exact exists_findLine?_hold clean
  | move order => exact exists_findLine?_move clean.1 clean.2
  | support unit place aided => exact exists_findLine?_support clean.1 clean.2
  | convoy unit place carried => exact exists_findLine?_convoy clean.1 clean.2

theorem readLine_render_spain :
    let order : Order := .support (some .fleet) "brest".toList
      (.move ⟨none, "western mediterranean".toList, "spain (sc)".toList⟩)
    order.Clean true ∧ (readLine true order.render).result = .ok (.accepted order) := by
  have brest : CleanPlace "brest".toList := ⟨["brest".toList], .last (by decide), by decide⟩
  have sea : CleanPlace "western mediterranean".toList :=
    ⟨["western".toList, "mediterranean".toList], .space (by decide) (.last (by decide)), by decide⟩
  have spain : CleanPlace "spain (sc)".toList :=
    ⟨["spain".toList, "(sc)".toList], .space (by decide) (.last (by decide)), by decide⟩
  have carrier : CleanStation true (some .fleet) "brest".toList :=
    ⟨brest, by intro missing; cases missing⟩
  have mover : CleanStation true none "western mediterranean".toList := ⟨sea, fun _ => by decide⟩
  intro order
  have clean : order.Clean true := ⟨carrier, mover, spain⟩
  exact ⟨clean, readLine_render true order clean⟩

/-- A capital does not keep a reader from taking the start of a word for a separator. -/
theorem readLine_render_toulon :
    let order : Move := ⟨none, "Brest Toulon".toList, "Paris".toList⟩
    SpelledBy ["Brest".toList, "Toulon".toList] order.source ∧
    SpelledBy ["Paris".toList] order.destination ∧
    (∀ word ∈ ["Brest".toList, "Toulon".toList, "Paris".toList],
      ¬ Spells word aidWords ∧ ¬ Spells word holdKeywords ∧ ¬ "to".toList <+: word) ∧
    StandsAlone true order.source ∧
    (readLine true (Order.move order).render).result =
      .ok (.accepted (.move ⟨none, "Brest".toList, "ulon - Paris".toList⟩)) ∧
    (readLine true (Order.move order).render).result ≠ .ok (.accepted (.move order)) := by
  intro order
  have spelled : SpelledBy ["Brest".toList, "Toulon".toList] order.source :=
    .space (by decide) (.last (by decide))
  have found : findLine? true (Order.move order).render =
      some ([.logged (.parsed "Brest Toulon - Paris".toList
        (.move ⟨none, "Brest".toList, "ulon - Paris".toList⟩))],
        .move ⟨none, "Brest".toList, "ulon - Paris".toList⟩) := by decide +kernel
  have read := (readLine_accepts_iff true (Order.move order).render _).2 ⟨_, found⟩
  refine ⟨spelled, .last (by decide), by decide, by decide, read, ?_⟩
  rw [read]
  intro same
  have sources := (Move.mk.inj (Order.move.inj (Verdict.accepted.inj (Except.ok.inj same)))).2.1
  exact absurd sources (by decide)

end Dispatch

end Diplomacy
