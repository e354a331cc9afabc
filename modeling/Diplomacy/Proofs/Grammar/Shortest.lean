import Diplomacy.Proofs.Grammar.Body
import Diplomacy.Proofs.Grammar.Excerpt

namespace Diplomacy

/-- A designation never fails. What is claimed of a text depends on whether its unit is refused or
what is read before the rest of the text. -/
def OnDesignation (strict : Bool) (text : Text) (refused : Prop)
    (read : Option Piece → Text → Prop) : Prop :=
  match (readDesignation strict text).result with
  | .error _ => False
  | .ok .refused => refused
  | .ok (.read unit rest) => read unit rest

/-- A text is accepted exactly if the rest behind its unit can be split. The split with the
shortest place makes the order that is returned, and no other split has the same place. -/
structure ReadsShortest {Split : Type} {rest : Text} (base : Split → NameSplit rest)
    (make : Split → Order) (text : Text) (result : Except Failure Verdict) : Prop where
  accepts_iff : (∃ order, result = .ok (.accepted order)) ↔ Nonempty Split
  returns_iff : ∀ order, result = .ok (.accepted order) ↔
    ∃ split, make split = order ∧
      ∀ other, (base split).place.length ≤ (base other).place.length
  apart : ∀ first second, (base first).place = (base second).place → first = second
  refuses : IsEmpty Split → result = .ok (.refused text)

def Move.ReadFrom (strict : Bool) (inner : Text) (order : Move) : Prop :=
  (readMove strict inner).result = .ok (.accepted (.move order))

/-- A hold is read only from a text that is no move. -/
def Aided.ReadFrom (strict : Bool) (inner : Text) : Aided → Prop
  | .move order => order.ReadFrom strict inner
  | .hold order =>
      (readMove strict inner).result = .ok (.refused inner) ∧
        (readHold strict inner).result = .ok (.accepted (.hold order))

def AidSplit.aid {A : Type} {words : List Text} {reads : Text → A → Prop} {rest : Text}
    (unit : Option Piece) (split : AidSplit words reads rest) : Aid A :=
  ⟨unit, split.place, split.inner, split.aided⟩

/-- What holds after each outcome of the designation holds of the text. -/
theorem onDesignation_of_designation {strict : Bool} {text : Text} {refused : Prop}
    {read : Option Piece → Text → Prop}
    (onRefused : designation strict text = .refused → refused)
    (onRead : ∀ unit rest, designation strict text = .read unit rest → read unit rest) :
    OnDesignation strict text refused read := by
  rw [OnDesignation, readDesignation_eq, Answer.result_pure]
  cases found : designation strict text with
  | refused => exact onRefused found
  | read unit rest => exact onRead unit rest found

/-- The first split in the list makes what a rule returns. -/
theorem ListsSplits.readsShortest {Split : Type} {text rest : Text}
    {base : Split → NameSplit rest} {splits : List Split} {make : Split → Order}
    {result : Except Failure Verdict} (lists : ListsSplits base splits)
    (answered : result = .ok ((splits.head?.map make).elim (.refused text) .accepted)) :
    ReadsShortest base make text result := by
  have accepted_iff (order : Order) : result = .ok (.accepted order) ↔
      ∃ split, splits.head? = some split ∧ make split = order := by
    rw [answered]
    cases splits.head? <;> simp
  refine ⟨?_, ?_, fun _ _ => lists.eq_of_place, ?_⟩
  · constructor
    · intro given
      obtain ⟨order, accepted⟩ := given
      obtain ⟨split, -⟩ := (accepted_iff order).1 accepted
      exact ⟨split⟩
    · intro given
      obtain ⟨split⟩ := given
      have first := List.head?_eq_some_head (List.ne_nil_of_mem (lists.all split))
      exact ⟨_, (accepted_iff _).2 ⟨_, first, rfl⟩⟩
  · intro order
    rw [accepted_iff]
    simp only [lists.head?_eq_some_iff, and_comm]
  · intro empty
    cases splits with
    | nil => exact answered
    | cons split later => exact (empty.false split).elim

section Rule

variable {strict : Bool} {text rest : Text} {unit : Option Piece}

/-- A rule makes its order from the first value that its body gives. -/
theorem readByRule_result_of_complete {Split : Type} {body : Parser}
    {assemble : Option Piece → Value → Except Failure Order} {value : Split → Value}
    {make : Split → Order} {splits : List Split} (read : designation strict text = .read unit rest)
    (complete : body.complete rest = Run.ofList (splits.map value))
    (assembles : ∀ split, assemble unit (value split) = .ok (make split)) :
    (readByRule strict body assemble text).result =
      .ok ((splits.head?.map make).elim (.refused text) .accepted) := by
  rw [readByRule_of_read read, complete]
  cases splits with
  | nil => rfl
  | cons split later =>
      rw [List.map_cons, Run.ofList, Run.first?_emit, pure_bind, Answer.assemble, assembles]
      rfl

/-- The rule for moves reads exactly what its search finds. -/
theorem Move.readFrom_iff (strict : Bool) (inner : Text) (order : Move) :
    order.ReadFrom strict inner ↔ Move.find? strict inner = some order := by
  rw [← Rule.order?_move_iff]
  exact Rule.read_accepts_iff_order? .move strict inner _

/-- The rule for moves refuses a text exactly if its search finds nothing. -/
theorem readMove_refuses_iff (strict : Bool) (inner : Text) :
    (readMove strict inner).result = .ok (.refused inner) ↔ Move.find? strict inner = none := by
  have answered : (readMove strict inner).result = _ := Rule.read_result .move strict inner
  rw [answered, Rule.order?_move]
  cases Move.find? strict inner <;> simp

/-- An aided order is read exactly if its search finds it. -/
theorem Aided.readFrom_iff (strict : Bool) (inner : Text) (aided : Aided) :
    aided.ReadFrom strict inner ↔ Aided.find? strict inner = some aided := by
  cases aided with
  | move order =>
      rw [Aided.find?_eq_move_iff]
      exact Move.readFrom_iff strict inner order
  | hold order =>
      rw [Aided.find?_eq_hold_iff, ← Rule.order?_hold_iff]
      exact and_congr (readMove_refuses_iff strict inner)
        (Rule.read_accepts_iff_order? .hold strict inner _)

/-- A rule accepts a text exactly if it finds an order in it. -/
theorem Rule.exists_accepted_iff (rule : Rule) (strict : Bool) (text : Text) :
    (∃ order, (rule.read strict text).result = .ok (.accepted order)) ↔
      (rule.order? strict text).isSome = true := by
  simp only [Rule.read_accepts_iff_order?, Option.isSome_iff_exists]

/-- Something is helped along exactly if one of the two rules accepts the text. -/
theorem Aided.exists_readFrom_iff (strict : Bool) (inner : Text) :
    (∃ aided, Aided.ReadFrom strict inner aided) ↔
      (∃ order, (readMove strict inner).result = .ok (.accepted order)) ∨
        ∃ order, (readHold strict inner).result = .ok (.accepted order) := by
  have moves := Rule.exists_accepted_iff .move strict inner
  have holds := Rule.exists_accepted_iff .hold strict inner
  rw [Rule.order?_move, Option.isSome_map] at moves
  rw [Rule.order?_hold, Option.isSome_map] at holds
  simp only [Aided.readFrom_iff]
  rw [← Option.isSome_iff_exists, Aided.find?, Option.isSome_or, Option.isSome_map,
    Option.isSome_map, Bool.or_eq_true]
  exact or_congr moves.symm holds.symm

end Rule

section Aid

variable {A : Type} {words : List Text} {find : Text → Option A} {reads : Text → A → Prop}
variable {strict : Bool} {text rest : Text} {unit : Option Piece}

/-- The search for aids meets every split of the text into an aid, and nothing else. -/
theorem findsSplits_aid (keywords : ∀ word ∈ words, IsKeyword word)
    (reads_iff : ∀ inner aided, reads inner aided ↔ find inner = some aided)
    (unit : Option Piece) (rest : Text) :
    FindsSplits (AidSplit.toNameSplit : AidSplit words reads rest → NameSplit rest)
      (AidSplit.aid unit) fun name => Aid.behind? words find unit name.1 name.2 where
  stops := AidSplit.startsInName_after
  apart := by
    apply AidSplit.toNameSplit_injective keywords
    intro inner first second helped alsoHelped
    rw [reads_iff] at helped alsoHelped
    exact Option.some.inj (helped.symm.trans alsoHelped)
  finds_iff := by
    intro name member aid
    obtain ⟨named, place, inner, aided⟩ := aid
    rw [Aid.behind?_eq_some_iff, aidedText?_eq_some_iff keywords]
    dsimp only
    constructor
    · intro given
      obtain ⟨rfl, rfl, ⟨gap, keyword, space, behind, nonempty, blank, spelled, present,
        spaceBlank, stops⟩, helped⟩ := given
      obtain ⟨base, rfl⟩ := NameSplit.exists_of_mem member
      exact ⟨⟨base, gap, keyword, space, inner, aided, behind, nonempty, blank, spelled, present,
        spaceBlank, stops, (reads_iff _ _).2 helped⟩, rfl, rfl⟩
    · intro given
      obtain ⟨split, rfl, made⟩ := given
      obtain ⟨rfl, rfl, rfl, rfl⟩ := Aid.mk.inj made
      exact ⟨rfl, rfl, ⟨split.gap, split.keyword, split.space, split.behind, split.nonempty,
        split.blank, split.spelled, split.present, split.spaceBlank, split.stops⟩,
        (reads_iff _ _).1 split.helped⟩

/-- A rule for aids returns the order of the split with the shortest place. -/
theorem Rule.readsShortest_aid {rule : Rule} {make : Aid A → Order}
    (keywords : ∀ word ∈ words, IsKeyword word)
    (reads_iff : ∀ inner aided, reads inner aided ↔ find inner = some aided)
    (orders : rule.order? strict text = (Aid.find? words find strict text).map make)
    (read : designation strict text = .read unit rest) :
    ReadsShortest (AidSplit.toNameSplit : AidSplit words reads rest → NameSplit rest)
      (fun split => make (split.aid unit)) text (rule.read strict text).result := by
  obtain ⟨splits, lists, found⟩ := (findsSplits_aid keywords reads_iff unit rest).exists_list
  apply lists.readsShortest
  have search : Aid.find? words find strict text = splits.head?.map (AidSplit.aid unit) := by
    rw [Aid.find?, findByPlace, read, ← List.head?_map, ← found, List.head?_filterMap]
  rw [Rule.read_result, orders, search, Option.map_map]
  rfl

end Aid

/-- A hold is read behind a unit exactly if a name, blanks and a keyword make up the rest of the
text. There is at most one way to split it so, and the body gives at most one reading. -/
theorem readHold_by_split (strict : Bool) (text : Text) :
    OnDesignation strict text ((readHold strict text).result = .ok (.refused text))
      fun unit rest =>
        Subsingleton (HoldSplit rest) ∧
        (∃ found : Option (HoldSplit rest), (∀ split, found = some split) ∧
          holdBody.complete rest = Run.ofOption (found.map HoldSplit.value)) ∧
        ((∃ order, (readHold strict text).result = .ok (.accepted order)) ↔
          Nonempty (HoldSplit rest)) ∧
        (∀ split : HoldSplit rest,
          (readHold strict text).result = .ok (.accepted (.hold ⟨unit, split.place⟩))) ∧
        (IsEmpty (HoldSplit rest) → (readHold strict text).result = .ok (.refused text)) := by
  apply onDesignation_of_designation
  · intro refused
    rw [readHold, readByRule_of_refused refused]
    rfl
  · intro unit rest read
    obtain ⟨splits, lists, complete⟩ := exists_complete_hold rest
    have reads : ReadsShortest HoldSplit.toNameSplit
        (fun split : HoldSplit rest => .hold ⟨unit, split.place⟩) text
        (readHold strict text).result :=
      lists.readsShortest (readByRule_result_of_complete read complete fun _ => rfl)
    refine ⟨inferInstance, ⟨splits.head?, ?_, ?_⟩, reads.accepts_iff, ?_, reads.refuses⟩
    · intro split
      rw [lists.head?_eq_some_iff]
      intro other
      rw [Subsingleton.elim other split]
    · rw [complete, lists.map_eq_toList, Run.ofList_toList]
    · intro split
      apply (reads.returns_iff _).2
      refine ⟨split, rfl, fun other => ?_⟩
      rw [Subsingleton.elim other split]

/-- The body of a move gives one reading for every way to split the text behind the unit, and a
shorter source comes first. The rule returns the first of these moves. -/
theorem readMove_by_split (strict : Bool) (text : Text) :
    OnDesignation strict text ((readMove strict text).result = .ok (.refused text))
      fun unit rest =>
        (∃ splits : List (MoveSplit rest), ListsSplits MoveSplit.toNameSplit splits ∧
          moveBody.complete rest = Run.ofList (splits.map MoveSplit.value)) ∧
        ReadsShortest MoveSplit.toNameSplit
          (fun split : MoveSplit rest => .move ⟨unit, split.place, split.destination⟩) text
          (readMove strict text).result := by
  apply onDesignation_of_designation
  · intro refused
    rw [readMove, readByRule_of_refused refused]
    rfl
  · intro unit rest read
    obtain ⟨splits, lists, complete⟩ := exists_complete_move rest
    refine ⟨⟨splits, lists, complete⟩, lists.readsShortest ?_⟩
    exact readByRule_result_of_complete read complete fun _ => rfl

/-- An aid is read behind a unit exactly if its keyword can be split off the rest of the text so
that something is helped along behind it. A move is preferred to a hold for every place of a
support, but a shorter place is preferred to a longer one. -/
theorem readAids_by_split (strict : Bool) (text : Text) :
    (∀ inner, (∃ aided, Aided.ReadFrom strict inner aided) ↔
      (∃ order, (readMove strict inner).result = .ok (.accepted order)) ∨
        ∃ order, (readHold strict inner).result = .ok (.accepted order)) ∧
    OnDesignation strict text
      ((readSupport strict text).result = .ok (.refused text) ∧
        (readConvoy strict text).result = .ok (.refused text))
      fun unit rest =>
        ReadsShortest AidSplit.toNameSplit
          (fun split : AidSplit supportKeywords (Aided.ReadFrom strict) rest =>
            .support unit split.place split.aided) text (readSupport strict text).result ∧
        ReadsShortest AidSplit.toNameSplit
          (fun split : AidSplit convoyKeywords (Move.ReadFrom strict) rest =>
            .convoy unit split.place split.aided) text (readConvoy strict text).result := by
  constructor
  · exact Aided.exists_readFrom_iff strict
  · apply onDesignation_of_designation
    · intro refused
      rw [readSupport, readConvoy, readByRule_of_refused refused, readByRule_of_refused refused]
      exact ⟨rfl, rfl⟩
    · intro unit rest read
      have supports := Rule.readsShortest_aid isKeyword_of_mem_supportKeywords
        (Aided.readFrom_iff strict) (Rule.order?_support strict text) read
      have convoys := Rule.readsShortest_aid isKeyword_of_mem_convoyKeywords
        (Move.readFrom_iff strict) (Rule.order?_convoy strict text) read
      exact ⟨supports, convoys⟩

/-- A move stands behind a longer place as well, but the shortest place decides. -/
example : Rule.order? .support true "f brest s paris s rome s a ruhr - kiel".toList =
    some (.support (some .fleet) "brest".toList
      (.move ⟨none, "paris s rome s a ruhr".toList, "kiel".toList⟩)) := by
  decide +kernel

end Diplomacy
