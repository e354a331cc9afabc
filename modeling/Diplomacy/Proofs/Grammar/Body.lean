import Diplomacy.Proofs.Grammar.Rule
import Diplomacy.Proofs.Grammar.Split

namespace Diplomacy

/-- The body of a hold keeps the place, the blanks and the small keyword. -/
def HoldSplit.value {text : Text} (split : HoldSplit text) : Value :=
  .tuple [.text split.place, .text split.gap, .text (Text.lowered split.keyword), .tuple []]

/-- The body of a move keeps both places, and between them the blanks and the small separator. -/
def MoveSplit.value {text : Text} (split : MoveSplit text) : Value :=
  .tuple [.text split.place, .text split.gap, .text (Text.lowered split.separator),
    .text (split.between.takeWhile isBlank), .text split.destination, .tuple []]

/-- The blanks at the start of a text end before whatever is no blank. -/
theorem takeWhile_isBlank_append (text : Text) {rest : Text} (stops : startsBlank rest = false) :
    (text ++ rest).takeWhile isBlank = text.takeWhile isBlank := by
  induction text with
  | nil =>
      cases rest with
      | nil => rfl
      | cons character others =>
          have solid : ¬ isBlank character = true := Bool.eq_false_iff.1 stops
          exact List.takeWhile_cons_of_neg solid
  | cons character others ih => rw [List.cons_append, List.takeWhile_cons, List.takeWhile_cons, ih]

/-- A blank prefix is exactly what is taken before a text that starts with no blank. -/
theorem AllBlank.takeWhile_append {gap rest : Text} (blank : AllBlank gap)
    (stops : startsBlank rest = false) : (gap ++ rest).takeWhile isBlank = gap := by
  rw [takeWhile_isBlank_append gap stops]
  exact List.takeWhile_eq_self_iff.2 blank

section Reading

variable {place source after : Text} {value : Value}

/-- A name is followed by a hold when a gap and a hold keyword are all that remains. -/
theorem holdReading?_eq_some_iff :
    holdReading? place after = some value ↔
      ∃ gap keyword, after = gap ++ keyword ∧ gap ≠ [] ∧ AllBlank gap ∧
        Spells keyword holdKeywords ∧
        .tuple [.text place, .text gap, .text (Text.lowered keyword), .tuple []] = value := by
  have keywords := isKeyword_of_mem_holdKeywords
  constructor
  · intro found
    obtain ⟨start, opened, spoken⟩ := Option.bind_eq_some_iff.1 found
    obtain ⟨word, search, made⟩ := Option.bind_eq_some_iff.1 spoken
    obtain ⟨gap, rfl, nonempty, blank, stops⟩ := afterGap?_eq_some_iff.1 opened
    obtain ⟨keyword, rest, rfl, spelled, rfl, behind⟩ :=
      exists_written_of_keywordAt? keywords search
    rw [behind, Option.ite_none_right_eq_some, List.isEmpty_iff, Option.some_inj] at made
    obtain ⟨rfl, rfl⟩ := made
    rw [List.append_nil] at stops ⊢
    refine ⟨gap, keyword, rfl, nonempty, blank, spelled, ?_⟩
    rw [blank.takeWhile_append stops]
  · intro given
    obtain ⟨gap, keyword, rfl, nonempty, blank, spelled, rfl⟩ := given
    have stops := spelled.startsBlank_append keywords []
    rw [List.append_nil] at stops
    have opened : afterGap? (gap ++ keyword) = some keyword :=
      afterGap?_eq_some_iff.2 ⟨gap, rfl, nonempty, blank, stops⟩
    have search := keywordAt?_append keywords spelled (Or.inl rfl)
    rw [List.append_nil] at search
    rw [holdReading?, opened, Option.bind_some, search, Option.bind_some, Text.length_lowered,
      List.drop_length, blank.takeWhile_append stops]
    rfl

/-- A name is followed by a move when a separator and a whole second name remain, with blanks
allowed around the separator. -/
theorem moveReading?_eq_some_iff :
    moveReading? source after = some value ↔
      ∃ gap separator between destination,
        after = gap ++ (separator ++ (between ++ destination)) ∧ AllBlank gap ∧
        Spells separator moveSeparators ∧ NoName between ∧ IsName destination ∧
        .tuple [.text source, .text gap, .text (Text.lowered separator),
          .text (between.takeWhile isBlank), .text destination, .tuple []] = value := by
  have keywords := isKeyword_of_mem_moveSeparators
  constructor
  · intro found
    obtain ⟨word, search, made⟩ := Option.bind_eq_some_iff.1 found
    obtain ⟨gap, equal, blank, -⟩ := Text.exists_blanks_append_trimStart after
    obtain ⟨separator, rest, split, spelled, rfl, behind⟩ :=
      exists_written_of_keywordAt? keywords search
    rw [behind] at made
    dsimp only at made
    rw [wholeName?_trimStart] at made
    obtain ⟨destination, whole, rfl⟩ := Option.map_eq_some_iff.1 made
    obtain ⟨between, rfl, unnamed, isName⟩ := wholeName?_eq_some_iff.1 whole
    have solid := startsBlank_of_startsInName isName.1
    refine ⟨gap, separator, between, destination, by rw [← split, ← equal], blank, spelled, unnamed,
      isName, ?_⟩
    rw [takeWhile_isBlank_append between solid, equal,
      blank.takeWhile_append (startsBlank_trimStart after)]
  · intro given
    obtain ⟨gap, separator, between, destination, rfl, blank, spelled, unnamed, isName, rfl⟩ :=
      given
    have stops := spelled.startsBlank_append keywords (between ++ destination)
    have solid := startsBlank_of_startsInName isName.1
    have whole : wholeName? (between ++ destination) = some destination :=
      wholeName?_eq_some_iff.2 ⟨between, rfl, unnamed, isName⟩
    have search : keywordAt? moveSeparators (separator ++ (between ++ destination)) =
        some (Text.lowered separator) :=
      keywordAt?_append_of_prefixFree keywords moveSeparators_prefixFree spelled _
    rw [moveReading?, Text.trimStart_append blank stops, search, Option.bind_some,
      Text.length_lowered, List.drop_left, blank.takeWhile_append stops]
    dsimp only
    rw [wholeName?_trimStart, whole, takeWhile_isBlank_append between solid, Option.map_some]

end Reading

section Listing

/-- The search for holds meets every split of the text into a hold, and nothing else. -/
theorem findsSplits_holdReading? (text : Text) :
    FindsSplits (HoldSplit.toNameSplit : HoldSplit text → NameSplit text) HoldSplit.value
      fun name => holdReading? name.1 name.2 where
  stops := HoldSplit.startsInName_after
  apart := HoldSplit.toNameSplit_injective
  finds_iff := by
    intro name member value
    rw [holdReading?_eq_some_iff]
    constructor
    · intro given
      obtain ⟨gap, keyword, behind, nonempty, blank, spelled, made⟩ := given
      obtain ⟨base, rfl⟩ := NameSplit.exists_of_mem member
      exact ⟨⟨base, gap, keyword, behind, nonempty, blank, spelled⟩, rfl, made⟩
    · intro given
      obtain ⟨split, rfl, made⟩ := given
      exact ⟨split.gap, split.keyword, split.behind, split.nonempty, split.blank, split.spelled,
        made⟩

theorem findsSplits_moveReading? (text : Text) :
    FindsSplits (MoveSplit.toNameSplit : MoveSplit text → NameSplit text) MoveSplit.value
      fun name => moveReading? name.1 name.2 where
  stops := MoveSplit.startsInName_after
  apart := MoveSplit.toNameSplit_injective
  finds_iff := by
    intro name member value
    rw [moveReading?_eq_some_iff]
    constructor
    · intro given
      obtain ⟨gap, separator, between, destination, behind, blank, spelled, unnamed, isName, made⟩ :=
        given
      obtain ⟨-, -, -, -, -, stops⟩ := mem_placeNames_iff.1 member
      rw [behind, startsInName_separator_iff blank spelled] at stops
      obtain ⟨base, rfl⟩ := NameSplit.exists_of_mem member
      exact ⟨⟨base, gap, separator, between, destination, behind, blank, stops, unnamed, isName⟩,
        rfl, made⟩
    · intro given
      obtain ⟨split, rfl, made⟩ := given
      exact ⟨split.gap, split.separator, split.between, split.destination, split.behind,
        split.blank, split.spells, split.betweenUnnamed, split.isDestination, made⟩

/-- If every tail gives at most one reading, then the complete readings list the splits. -/
theorem FindsSplits.exists_complete {Split : Type} {text : Text} {base : Split → NameSplit text}
    {make : Split → Value} {search : Text × Text → Option Value} {parts : List Parser}
    (finds : FindsSplits base make search)
    (tails : ∀ place after, tailOf parts place after = Run.ofOption (search (place, after))) :
    ∃ splits, ListsSplits base splits ∧
      (Parser.sequence (.placeName :: parts)).complete text = Run.ofList (splits.map make) := by
  obtain ⟨splits, lists, found⟩ := finds.exists_list
  refine ⟨splits, lists, ?_⟩
  rw [Parser.complete_placeName, ← found, ← Run.ofList_bind_ofOption]
  congr
  funext name
  exact tails name.1 name.2

/-- The complete readings of a hold body are the values of all its splits, in the order of the
length of the place. -/
theorem exists_complete_hold (text : Text) :
    ∃ splits : List (HoldSplit text), ListsSplits HoldSplit.toNameSplit splits ∧
      holdBody.complete text = Run.ofList (splits.map HoldSplit.value) :=
  (findsSplits_holdReading? text).exists_complete holdTail_eq

theorem exists_complete_move (text : Text) :
    ∃ splits : List (MoveSplit text), ListsSplits MoveSplit.toNameSplit splits ∧
      moveBody.complete text = Run.ofList (splits.map MoveSplit.value) :=
  (findsSplits_moveReading? text).exists_complete moveTail_eq

end Listing

end Diplomacy
