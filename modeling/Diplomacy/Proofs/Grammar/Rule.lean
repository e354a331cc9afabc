import Diplomacy.Proofs.Grammar.Find
import Diplomacy.Proofs.Run.Search

namespace Diplomacy

variable {A : Type}

/-- This function turns a find of a rule into its answer. -/
def conclude (text : Text) : Option Find → Answer Verdict
  | none => pure (.refused text)
  | some find => ⟨find.1, .ok (.accepted find.2)⟩

/-- An order that was made is reported and accepted. -/
def settle (text : Text) : Option Order → Answer Verdict
  | none => pure (.refused text)
  | some order => do
      Answer.log (.parsed text order)
      pure (.accepted order)

/-- Announcing a find and settling it concludes with the report of the find. -/
theorem announce_settle (text : Text) (found : Option Find) :
    Answer.announce found >>= settle text = conclude text (found.map (Find.report text)) := by
  cases found with
  | none => rfl
  | some find => rfl

section Body

variable {strict : Bool} {text : Text} {body : Parser}
variable {assemble : Option Piece → Value → Except Failure Order}

/-- A rule refuses a text whose designation is refused. -/
theorem readByRule_of_refused (refused : designation strict text = .refused) :
    readByRule strict body assemble text = pure (.refused text) := by
  rw [readByRule, readDesignation_eq, pure_bind, refused]

/-- A rule settles what is assembled from the first complete reading of the body. -/
theorem readByRule_of_read {unit : Option Piece} {rest : Text}
    (read : designation strict text = .read unit rest) :
    readByRule strict body assemble text =
      (body.complete rest).first? >>= Answer.assemble (assemble unit) >>= settle text := by
  rw [readByRule, readDesignation_eq, pure_bind, read, bind_assoc]
  refine bind_congr fun found => ?_
  cases found with
  | none => rfl
  | some value => simp [Answer.assemble, settle]

/-- A body that opens with a place is read by a search through the places. -/
theorem readByRule_eq {tail : Text → Text → Run Value}
    {follow : Option Piece → Text → Text → Option Find}
    (opens : ∀ rest, body.complete rest =
      (Run.ofList (placeNames rest)).bind fun (place, after) => tail place after)
    (finds : ∀ unit place after, (tail place after).first? >>= Answer.assemble (assemble unit) =
      Answer.announce (follow unit place after)) :
    readByRule strict body assemble text =
      conclude text ((findByPlace strict text follow).map (Find.report text)) := by
  unfold findByPlace
  cases read : designation strict text with
  | refused => exact readByRule_of_refused read
  | read unit rest =>
      have search : (body.complete rest).first? >>= Answer.assemble (assemble unit) =
          Answer.announce ((placeNames rest).findSome? fun (place, after) =>
            follow unit place after) := by
        rw [opens, Run.first?_bind_ofList, Answer.findSomeM?_assemble,
          ← Answer.findSomeM?_announce]
        congr
        funext item
        exact finds unit item.1 item.2
      rw [readByRule_of_read read, search, announce_settle]

end Body

/-- A gap is read in one way, and the other parts read the text behind it. -/
theorem Parser.runAll_gap (parts : List Parser) (text : Text) :
    Parser.runAll (.blanks true :: parts) text =
      (Run.ofOption (afterGap? text)).bind fun after =>
        (Parser.runAll parts after).bind fun (values, remainder) =>
          .one (.text (text.takeWhile isBlank) :: values, remainder) := by
  cases text with
  | nil => rfl
  | cons character rest =>
      rw [Parser.runAll, Parser.run, afterGap?]
      by_cases blank : isBlank character = true
      · simp [Text.splitBlanks, Text.trimStart, startsBlank, blank, Run.ofOption]
      · simp [Text.splitBlanks, startsBlank, blank, Run.ofOption]

/-- Optional blanks are read in one way, and the other parts read the trimmed text. -/
theorem Parser.runAll_skip (parts : List Parser) (text : Text) :
    Parser.runAll (.blanks false :: parts) text =
      (Parser.runAll parts (Text.trimStart text)).bind fun (values, remainder) =>
        .one (.text (text.takeWhile isBlank) :: values, remainder) := by
  rw [Parser.runAll, Parser.run]
  simp [Text.splitBlanks, Text.trimStart]

/-- A keyword is read in at most one way, and the other parts read the text behind it. -/
theorem Parser.runAll_keyword (words : List Text) (parts : List Parser) (text : Text) :
    Parser.runAll (.keyword words :: parts) text =
      (Run.ofOption (keywordAt? words text)).bind fun word =>
        (Parser.runAll parts (text.drop word.length)).bind fun (values, remainder) =>
          .one (.text word :: values, remainder) := by
  rw [Parser.runAll, Parser.keyword, Parser.oneOf, Parser.run]
  change ((Run.ofOption ((keywordAt? words text).map _)).bind _) = _
  cases keywordAt? words text with
  | none => rfl
  | some word => simp [Run.ofOption]

/-- The other parts read the text behind each place name in turn. -/
theorem Parser.runAll_placeName (parts : List Parser) (text : Text) :
    Parser.runAll (.placeName :: parts) text =
      (Run.ofList (placeNames text)).bind fun (place, after) =>
        (Parser.runAll parts after).bind fun (values, remainder) =>
          .one (.text place :: values, remainder) := by
  rw [Parser.runAll, Parser.run_placeName, Run.bind_assoc]
  simp only [Run.one_bind]

/-- The end of the input is read from the empty text only. -/
theorem Parser.runAll_end (text : Text) :
    Parser.runAll [.endOfInput] text =
      if text.isEmpty then .one ([.tuple []], text) else .stop := by
  rw [Parser.runAll, Parser.run]
  split <;> simp [Run.bind]

/-- What follows the first place must use up the text. -/
def tailOf (parts : List Parser) (place after : Text) : Run Value :=
  (Parser.runAll parts after).bind fun (values, remainder) =>
    Run.ofOption (Reading.complete? (.tuple (.text place :: values), remainder))

/-- The complete readings of a sequence that opens with a place go through the place names. -/
theorem Parser.complete_placeName (parts : List Parser) (text : Text) :
    (Parser.sequence (.placeName :: parts)).complete text =
      (Run.ofList (placeNames text)).bind fun (place, after) => tailOf parts place after := by
  rw [Parser.complete_sequence, Parser.runAll_placeName, Run.bind_assoc]
  simp only [Run.bind_assoc, Run.one_bind, tailOf]

/-- This is what the body of a hold makes of the text behind a place. -/
def holdReading? (place after : Text) : Option Value :=
  (afterGap? after).bind fun start =>
    (keywordAt? holdKeywords start).bind fun word =>
      if (start.drop word.length).isEmpty then
        some (.tuple [.text place, .text (after.takeWhile isBlank), .text word, .tuple []])
      else none

/-- This is what the body of a move makes of the text behind a source. -/
def moveReading? (source after : Text) : Option Value :=
  (keywordAt? moveSeparators (Text.trimStart after)).bind fun word =>
    let rest := (Text.trimStart after).drop word.length
    (wholeName? (Text.trimStart rest)).map fun destination =>
      .tuple [.text source, .text (after.takeWhile isBlank), .text word,
        .text (rest.takeWhile isBlank), .text destination, .tuple []]

/-- Behind its place, a hold has at most one reading. -/
theorem holdTail_eq (place after : Text) :
    tailOf [.blanks true, holdKeyword, .endOfInput] place after =
      Run.ofOption (holdReading? place after) := by
  rw [tailOf, Parser.runAll_gap, holdKeyword, holdReading?]
  cases afterGap? after with
  | none => rfl
  | some start =>
      rw [Run.ofOption_some, Run.one_bind, Option.bind_some, Parser.runAll_keyword]
      cases keywordAt? holdKeywords start with
      | none => rfl
      | some word =>
          rw [Run.ofOption_some, Run.one_bind, Parser.runAll_end, Option.bind_some]
          cases start.drop word.length with
          | nil => rfl
          | cons character rest => rfl

/-- Behind its source, a move has at most one reading. -/
theorem moveTail_eq (source after : Text) :
    tailOf [.blanks false, moveSeparator, .blanks false, .placeName, .endOfInput] source after =
      Run.ofOption (moveReading? source after) := by
  rw [tailOf, Parser.runAll_skip, moveSeparator, Parser.runAll_keyword, moveReading?]
  cases keywordAt? moveSeparators (Text.trimStart after) with
  | none => rfl
  | some word =>
      simp only [Run.ofOption_some, Run.one_bind, Parser.runAll_skip, Parser.runAll_placeName,
        Parser.runAll_end, Run.bind_assoc, Option.bind_some]
      rw [← Run.ofList_toList, ← filterMap_whole_placeNames, ← Run.ofList_bind_ofOption]
      congr
      funext item
      obtain ⟨name, remainder⟩ := item
      cases remainder with
      | nil => rfl
      | cons character rest => rfl

/-- The first reading behind the place of a hold is assembled into this hold. -/
theorem holdTail_first? (unit : Option Piece) (place after : Text) :
    (tailOf [.blanks true, holdKeyword, .endOfInput] place after).first? >>=
        Answer.assemble (assembleHold unit) =
      Answer.announce
        ((if endsHold after then some ⟨unit, place⟩ else none : Option Hold).map fun order =>
          ([], .hold order)) := by
  rw [holdTail_eq, Run.first?_ofOption, pure_bind, holdReading?, endsHold]
  cases afterGap? after with
  | none => rfl
  | some start =>
      rw [Option.bind_some, Option.bind_some, afterKeyword?]
      cases keywordAt? holdKeywords start with
      | none => rfl
      | some word =>
          rw [Option.bind_some, Option.map_some]
          cases start.drop word.length with
          | nil => rfl
          | cons character rest => rfl

/-- The first reading behind the source of a move is assembled into this move. -/
theorem moveTail_first? (unit : Option Piece) (source after : Text) :
    (tailOf [.blanks false, moveSeparator, .blanks false, .placeName, .endOfInput]
        source after).first? >>= Answer.assemble (assembleMove unit) =
      Answer.announce
        (((destination? after).map fun destination => (⟨unit, source, destination⟩ : Move)).map
          fun order => ([], .move order)) := by
  rw [moveTail_eq, Run.first?_ofOption, pure_bind, moveReading?, destination?, afterKeyword?]
  cases keywordAt? moveSeparators (Text.trimStart after) with
  | none => rfl
  | some word =>
      rw [Option.bind_some, Option.map_some, Option.bind_some]
      dsimp only
      cases wholeName? (Text.trimStart ((Text.trimStart after).drop word.length)) with
      | none => rfl
      | some destination => rfl

/-- The rule for holds answers with the report of its search. -/
theorem readHold_eq (strict : Bool) (text : Text) :
    readHold strict text = conclude text (Rule.report? .hold strict text) := by
  rw [readHold, Rule.report?, Rule.find?, Hold.find?, findByPlace_map]
  exact readByRule_eq (Parser.complete_placeName _) holdTail_first?

theorem readMove_eq (strict : Bool) (text : Text) :
    readMove strict text = conclude text (Rule.report? .move strict text) := by
  rw [readMove, Rule.report?, Rule.find?, Move.find?, findByPlace_map]
  exact readByRule_eq (Parser.complete_placeName _) moveTail_first?

/-- This run shows a find as a reading that uses up the text. -/
def Run.ofFind : Option Find → Run Reading
  | none => .stop
  | some find => Run.after find.1 (.one (.order find.2, []))

/-- A nested rule reads what the rule finds, and its report goes along with the reading. -/
theorem Parser.run_nested {rule : Text → Answer Verdict} {text : Text} {found : Option Find}
    (reads : rule text = conclude text found) :
    (Parser.nested rule).run text = Run.ofFind found := by
  simp only [Parser.nested, Parser.run, Adapter.read, Adapter.ofRule]
  rw [reads]
  cases found with
  | none => rfl
  | some find =>
      obtain ⟨events, order⟩ := find
      have reached : (conclude text (some (events, order))).result = .ok (.accepted order) := rfl
      rw [Answer.bind_of_ok _ reached, Run.ofAnswer, Run.after_bind]
      simp [conclude, Run.ofExcept, Run.ofFind, Verdict.offer, Offer.read]

/-- Within an aid, a nested parser gives the order that a search finds and reports it. -/
def Parser.ReadsAs (nested : Parser) (find : Text → Option Order) : Prop :=
  ∀ (inner : Text) (shape : Value → Value),
    ((nested.run inner).bind fun (aided, rest) =>
        Run.ofOption (Reading.complete? (shape aided, rest))).first? =
      Answer.announce ((find inner).map fun order =>
        ([.logged (.parsed inner order)], shape (.order order)))

/-- The nested rule for moves reads the move that its search finds. -/
theorem readsAs_move (strict : Bool) :
    (Parser.nested (readMove strict)).ReadsAs fun inner => (Move.find? strict inner).map .move := by
  intro inner shape
  rw [Parser.run_nested (readMove_eq strict inner), Rule.report?, Rule.find?]
  dsimp only
  cases Move.find? strict inner with
  | none => rfl
  | some order => rfl

/-- The hold is not even looked at after a move has been read. -/
theorem readsAs_aided (strict : Bool) :
    (Parser.map (.either (.nested (readMove strict)) (.nested (readHold strict)))
      Transform.untag).ReadsAs fun inner => (Aided.find? strict inner).map Aided.toOrder := by
  intro inner shape
  rw [Parser.run, Parser.run, Parser.run_nested (readMove_eq strict inner),
    Parser.run_nested (readHold_eq strict inner), Rule.report?, Rule.find?, Rule.report?,
    Rule.find?]
  dsimp only [Aided.find?]
  cases Move.find? strict inner with
  | none =>
      cases Hold.find? strict inner with
      | none => rfl
      | some order => rfl
  | some order => rfl

/-- Behind the place, a keyword between blanks leads to the order that is helped along. -/
def aidTail (words : List Text) (nested : Parser) (place after : Text) : Run Value :=
  (Parser.runAll [.blanks true, .keyword words, .blanks true] after).bind fun (values, inner) =>
    (nested.run inner).bind fun (aided, rest) =>
      Run.ofOption (Reading.complete? (.tuple [.tuple (.text place :: values), aided], rest))

/-- The complete readings of an aid go through the place names of its text. -/
theorem Parser.complete_aid (words : List Text) (nested : Parser) (text : Text) :
    (Parser.sequence [.sequence [.placeName, .blanks true, .keyword words, .blanks true],
        nested]).complete text =
      (Run.ofList (placeNames text)).bind fun (place, after) =>
        aidTail words nested place after := by
  rw [Parser.complete_sequence, Parser.runAll, Parser.run_sequence, Parser.runAll_placeName]
  simp only [Parser.runAll, Run.bind_assoc, Run.one_bind, aidTail]

/-- The first reading behind the place of an aid is assembled into this aid. -/
theorem aidTail_first? {words : List Text} {nested : Parser} {find : Text → Option A}
    {aided : A → Order} {order : Aid A → Order}
    {make : Option Piece → Text → Value → Except Failure Order}
    (reads : nested.ReadsAs fun inner => (find inner).map aided)
    (makes : ∀ aid : Aid A,
      make aid.unit aid.place (.order (aided aid.aided)) = .ok (order aid))
    (unit : Option Piece) (place after : Text) :
    (aidTail words nested place after).first? >>= Answer.assemble (assembleAid make unit) =
      Answer.announce
        (((aidedText? words after).bind fun inner =>
            (find inner).map fun aided => (⟨unit, place, inner, aided⟩ : Aid A)).map
          (Aid.find order aided)) := by
  rw [aidTail, Parser.runAll_gap, aidedText?]
  cases afterGap? after with
  | none => rfl
  | some start =>
      rw [Run.ofOption_some, Run.one_bind, Option.bind_some, Parser.runAll_keyword, afterKeyword?]
      cases keywordAt? words start with
      | none => rfl
      | some word =>
          rw [Run.ofOption_some, Run.one_bind, Option.map_some, Option.bind_some,
            Parser.runAll_gap]
          cases afterGap? (start.drop word.length) with
          | none => rfl
          | some inner =>
              simp only [Run.ofOption_some, Run.one_bind, Parser.runAll_nil, Option.bind_some]
              have search := reads inner fun value => .tuple [.tuple [.text place,
                .text (after.takeWhile isBlank), .text word,
                .text ((start.drop word.length).takeWhile isBlank)], value]
              rw [search]
              dsimp only
              cases find inner with
              | none => rfl
              | some found =>
                  have made := makes ⟨unit, place, inner, found⟩
                  rw [Option.map_some, Option.map_some, Answer.announce_some_bind]
                  simp only [Answer.assemble, assembleAid, made]
                  rfl

theorem readSupport_eq (strict : Bool) (text : Text) :
    readSupport strict text =
      conclude text (Rule.report? .support strict text) := by
  rw [readSupport, Rule.report?, Rule.find?, Aid.find?, findByPlace_map]
  refine readByRule_eq (Parser.complete_aid _ _) (aidTail_first? (readsAs_aided strict) ?_)
  intro aid
  obtain ⟨unit, place, inner, aided⟩ := aid
  cases aided <;> rfl

theorem readConvoy_eq (strict : Bool) (text : Text) :
    readConvoy strict text =
      conclude text (Rule.report? .convoy strict text) := by
  rw [readConvoy, Rule.report?, Rule.find?, Aid.find?, findByPlace_map]
  refine readByRule_eq (Parser.complete_aid _ _) (aidTail_first? (readsAs_move strict) ?_)
  intro aid
  rfl

/-- Every rule reads what its search finds, reports it last and never fails. -/
theorem Rule.read_eq (rule : Rule) (strict : Bool) (text : Text) :
    rule.read strict text = conclude text (rule.report? strict text) := by
  cases rule with
  | hold => exact readHold_eq strict text
  | move => exact readMove_eq strict text
  | support => exact readSupport_eq strict text
  | convoy => exact readConvoy_eq strict text

end Diplomacy
