import Diplomacy.Proofs.Grammar.Log
import Diplomacy.Proofs.Grammar.Language
import Mathlib.Data.List.Basic

namespace Diplomacy

variable {A B : Type}

/-- A search with a weaker test stops at the same item or at one before it. -/
theorem exists_findSome?_of_weaker {items : List A} {narrow wide : A → Option B}
    {Before : A → A → Prop} (sorted : items.Pairwise Before)
    (weaker : ∀ item value, narrow item = some value → wide item = some value) {found : B}
    (search : items.findSome? narrow = some found) :
    ∃ item, narrow item = some found ∧
      (items.findSome? wide = some found ∨
        ∃ earlier other, Before earlier item ∧ wide earlier = some other ∧
          items.findSome? wide = some other) := by
  obtain ⟨before, item, after, rfl, fits, -⟩ := List.findSome?_eq_some_iff.1 search
  refine ⟨item, fits, ?_⟩
  rw [List.findSome?_append, List.findSome?_cons, weaker item found fits]
  cases early : before.findSome? wide with
  | none => exact Or.inl rfl
  | some other =>
      right
      obtain ⟨earlier, member, accepted⟩ := List.exists_of_findSome?_eq_some early
      have ordered := (List.pairwise_append.1 sorted).2.2 earlier member item List.mem_cons_self
      exact ⟨earlier, other, ordered, accepted, rfl⟩

/-- A text that names no unit names none for the lenient reader. -/
theorem NamesNoUnit.lenient {text : Text} (unnamed : NamesNoUnit true text) :
    NamesNoUnit false text :=
  ⟨unnamed.1, fun strictly => nomatch strictly⟩

/-- Whatever a strict reader makes of the start of a text, a lenient one makes of it too. -/
theorem designation_lenient {text rest : Text} {unit : Option Piece}
    (read : designation true text = .read unit rest) :
    designation false text = .read unit rest := by
  cases unit with
  | some piece => exact designation_eq_read_some_iff.2 (designation_eq_read_some_iff.1 read)
  | none =>
      obtain ⟨unnamed, equal⟩ := designation_eq_read_none_iff.1 read
      exact designation_eq_read_none_iff.2 ⟨unnamed.lenient, equal⟩

/-- The lenient search by place finds what the strict one finds. -/
theorem findByPlace_lenient {text : Text} {follow : Option Piece → Text → Text → Option A}
    {found : A} (search : findByPlace true text follow = some found) :
    findByPlace false text follow = some found := by
  unfold findByPlace at search
  split at search
  · cases search
  · rename_i unit rest read
    rw [findByPlace, designation_lenient read]
    exact search

/-- A hold that is found strictly is found leniently. -/
theorem Hold.find?_lenient {text : Text} {order : Hold}
    (found : Hold.find? true text = some order) : Hold.find? false text = some order :=
  findByPlace_lenient found

theorem Move.find?_lenient {text : Text} {order : Move}
    (found : Move.find? true text = some order) : Move.find? false text = some order :=
  findByPlace_lenient found

/-- A lenient reader finds no move where a strict one has found a hold instead. -/
theorem Aided.find?_lenient {text : Text} {aided : Aided}
    (found : Aided.find? true text = some aided) : Aided.find? false text = some aided := by
  rcases Aided.find?_cases found with ⟨order, moves, rfl⟩ | ⟨order, holds, rfl⟩
  · rw [Aided.find?, Move.find?_lenient moves]
    rfl
  · obtain ⟨unit, body, read, -⟩ := Hold.exists_find?_iff.1 ⟨order, holds⟩
    have moves : Move.find? false text = Move.find? true text := by
      rw [Move.find?, Move.find?, findByPlace, findByPlace, read, designation_lenient read]
    rw [Aided.find?, holds, Option.map_some] at found
    rw [Aided.find?, moves, Hold.find?_lenient holds]
    exact found

/-- A lenient reader may find an aid with a shorter place, because more is helped along for it. -/
theorem Aid.find?_lenient {words : List Text} {narrow wide : Text → Option A} {text : Text}
    {aid : Aid A} (weaker : ∀ inner aided, narrow inner = some aided → wide inner = some aided)
    (search : Aid.find? words narrow true text = some aid) :
    ∃ other, Aid.find? words wide false text = some other ∧ other.unit = aid.unit ∧
      other.place <+: aid.place ∧ (other.place = aid.place → other = aid) := by
  rw [Aid.find?] at search
  unfold findByPlace at search
  split at search
  · cases search
  · rename_i unit rest read
    have behind (item : Text × Text) (found : Aid A)
        (narrowly : Aid.behind? words narrow unit item.1 item.2 = some found) :
        Aid.behind? words wide unit item.1 item.2 = some found := by
      obtain ⟨sameUnit, samePlace, opened, helped⟩ := Aid.behind?_eq_some_iff.1 narrowly
      exact Aid.behind?_eq_some_iff.2 ⟨sameUnit, samePlace, opened, weaker _ _ helped⟩
    obtain ⟨⟨place, after⟩, found, outcome⟩ :=
      exists_findSome?_of_weaker (placeNames_pairwise_beginning rest) behind search
    obtain ⟨rfl, rfl, -, -⟩ := Aid.behind?_eq_some_iff.1 found
    rw [Aid.find?, findByPlace, designation_lenient read]
    rcases outcome with same | ⟨⟨shorter, later⟩, other, ⟨begins, apart⟩, accepted, reached⟩
    · exact ⟨aid, same, rfl, List.prefix_rfl, fun _ => rfl⟩
    · obtain ⟨sameUnit, rfl, -, -⟩ := Aid.behind?_eq_some_iff.1 accepted
      exact ⟨other, reached, sameUnit, begins, fun equal => absurd equal apart⟩

/-- The designation at the start of the text is the unit of the order. -/
theorem Rule.exists_designation_of_order? {rule : Rule} {strict : Bool} {text : Text}
    {order : Order} (found : rule.order? strict text = some order) :
    ∃ body, designation strict text = .read order.unit body := by
  cases rule with
  | hold =>
      rw [Rule.order?_hold] at found
      obtain ⟨hold, search, rfl⟩ := Option.map_eq_some_iff.1 found
      obtain ⟨skipped, after, read, -⟩ := Hold.exists_fit search
      exact ⟨_, read⟩
  | move =>
      rw [Rule.order?_move] at found
      obtain ⟨move, search, rfl⟩ := Option.map_eq_some_iff.1 found
      obtain ⟨skipped, after, read, -⟩ := Move.exists_fit search
      exact ⟨_, read⟩
  | support =>
      rw [Rule.order?_support] at found
      obtain ⟨aid, search, rfl⟩ := Option.map_eq_some_iff.1 found
      obtain ⟨skipped, after, read, -⟩ := Aid.exists_fit search
      exact ⟨_, read⟩
  | convoy =>
      rw [Rule.order?_convoy] at found
      obtain ⟨aid, search, rfl⟩ := Option.map_eq_some_iff.1 found
      obtain ⟨skipped, after, read, -⟩ := Aid.exists_fit search
      exact ⟨_, read⟩

/-- The unit of an accepted order is the one that opens the trimmed line. -/
theorem exists_designation_of_readLine {strict : Bool} {line : Text} {order : Order}
    (accepted : (readLine strict line).result = .ok (.accepted order)) :
    ∃ body, designation strict (Text.trim line) = .read order.unit body := by
  rw [readLine_accepts_iff_first] at accepted
  exact Rule.exists_designation_of_order? accepted.1

section Acceptance

variable {text line : Text}

/-- The two rules for aids differ in what they make of an aid only. -/
theorem Rule.exists_aid_lenient {rule : Rule} {words : List Text} {find : Bool → Text → Option A}
    {make : Aid A → Order} {kind : OrderKind} {order : Order}
    (orders : ∀ strict text,
      rule.order? strict text = (Aid.find? words (find strict) strict text).map make)
    (made : ∀ aid, (make aid).kind = kind ∧ (make aid).unit = aid.unit ∧
      (make aid).place = aid.place)
    (weaker : ∀ inner aided, find true inner = some aided → find false inner = some aided)
    (accepted : (rule.read true text).result = .ok (.accepted order)) :
    ∃ other, (rule.read false text).result = .ok (.accepted other) ∧ other.kind = order.kind ∧
      other.unit = order.unit ∧ other.place <+: order.place ∧
      (other.place = order.place → other = order) := by
  rw [Rule.read_accepts_iff_order?, orders] at accepted
  obtain ⟨aid, search, rfl⟩ := Option.map_eq_some_iff.1 accepted
  obtain ⟨other, wider, sameUnit, begins, same⟩ := Aid.find?_lenient weaker search
  obtain ⟨kindOther, unitOther, placeOther⟩ := made other
  obtain ⟨kindAid, unitAid, placeAid⟩ := made aid
  refine ⟨make other, ?_, kindOther.trans kindAid.symm, ?_, ?_, ?_⟩
  · rw [Rule.read_accepts_iff_order?, orders, wider, Option.map_some]
  · rw [unitOther, unitAid, sameUnit]
  · rw [placeOther, placeAid]
    exact begins
  · intro equal
    rw [placeOther, placeAid] at equal
    rw [same equal]

/-- The two readers may stop at different orders, but both accept the line with the same unit. -/
theorem exists_readLine_lenient {order : Order}
    (accepted : (readLine true line).result = .ok (.accepted order)) :
    ∃ other, (readLine false line).result = .ok (.accepted other) ∧ other.unit = order.unit := by
  obtain ⟨events, found⟩ := (readLine_accepts_iff true line order).1 accepted
  obtain ⟨body, opens, shape⟩ := (exists_findLine?_iff true line).1 ⟨_, found⟩
  have wider : OpensWith false (Text.trim line) body :=
    opens.imp_right fun whole => ⟨whole.1.lenient, whole.2⟩
  obtain ⟨⟨otherEvents, other⟩, reached⟩ := (exists_findLine?_iff false line).2 ⟨body, wider, shape⟩
  have answered := (readLine_accepts_iff false line other).2 ⟨otherEvents, reached⟩
  obtain ⟨narrowBody, narrow⟩ := exists_designation_of_readLine accepted
  obtain ⟨wideBody, wide⟩ := exists_designation_of_readLine answered
  rw [designation_lenient narrow] at wide
  exact ⟨other, answered, (Designation.read.inj wide).1.symm⟩

/-- A line that the lenient reader refuses is refused by the strict one. -/
theorem isRefused_of_lenient (refused : isRefused (readLine false line).result = true) :
    isRefused (readLine true line).result = true := by
  obtain ⟨verdict, answered, -⟩ := readLine_lineLog true line
  cases verdict with
  | accepted order =>
      obtain ⟨other, wider, -⟩ := exists_readLine_lenient answered
      rw [wider] at refused
      cases refused
  | refused text => rw [answered]; rfl

/-- A lenient reader accepts whatever a strict one does. It reads the same hold and the same move.
It reads an aid of the same kind and with the same unit whose place may be shorter, and the same
aid if it is not. It reads some order with the same unit from the same line, and so it rejects no
line of a batch that a strict reader accepts. -/
theorem lenient_accepts_more :
    (∀ text order, (readHold true text).result = .ok (.accepted order) →
      (readHold false text).result = .ok (.accepted order)) ∧
    (∀ text order, (readMove true text).result = .ok (.accepted order) →
      (readMove false text).result = .ok (.accepted order)) ∧
    (∀ rule ∈ [Rule.support, Rule.convoy], ∀ text order,
      (rule.read true text).result = .ok (.accepted order) →
      ∃ other, (rule.read false text).result = .ok (.accepted other) ∧
        other.kind = order.kind ∧ other.unit = order.unit ∧ other.place <+: order.place ∧
        (other.place = order.place → other = order)) ∧
    (∀ line order, (readLine true line).result = .ok (.accepted order) →
      ∃ other, (readLine false line).result = .ok (.accepted other) ∧
        other.unit = order.unit) ∧
    ∀ lines, ∃ wide narrow, (readLines false lines).result = .ok wide ∧
      (readLines true lines).result = .ok narrow ∧ wide.rejected.Sublist narrow.rejected := by
  refine ⟨?_, ?_, ?_, ?_, ?_⟩
  · intro text order accepted
    have found := (Rule.read_accepts_iff_order? .hold true text order).1 accepted
    rw [Rule.order?_hold] at found
    obtain ⟨hold, search, rfl⟩ := Option.map_eq_some_iff.1 found
    exact readHold_accepts (Hold.find?_lenient search)
  · intro text order accepted
    have found := (Rule.read_accepts_iff_order? .move true text order).1 accepted
    rw [Rule.order?_move] at found
    obtain ⟨move, search, rfl⟩ := Option.map_eq_some_iff.1 found
    exact readMove_accepts (Move.find?_lenient search)
  · intro rule member text order accepted
    rcases List.mem_cons.1 member with rfl | last
    · exact Rule.exists_aid_lenient Rule.order?_support (fun _ => ⟨rfl, rfl, rfl⟩)
        (fun _ _ => Aided.find?_lenient) accepted
    · obtain rfl := List.mem_singleton.1 last
      exact Rule.exists_aid_lenient Rule.order?_convoy (fun _ => ⟨rfl, rfl, rfl⟩)
        (fun _ _ => Move.find?_lenient) accepted
  · intro line order accepted
    exact exists_readLine_lenient accepted
  · intro lines
    obtain ⟨wide, wideRead, wideRejected, -⟩ := readLines_log false lines
    obtain ⟨narrow, narrowRead, narrowRejected, -⟩ := readLines_log true lines
    refine ⟨wide, narrow, wideRead, narrowRead, ?_⟩
    rw [wideRejected, narrowRejected]
    exact List.monotone_filter_right _ fun line => isRefused_of_lenient

/-- A strict reader refuses the unit in "ankara", and a lenient one stops there. Both read the hold
and the move that need no such leniency. -/
theorem lenient_accepts_ankara :
    let text := "f brest s ankara s a paris h".toList
    let narrow : Order := .support (some .fleet) "brest s ankara".toList
      (.hold ⟨some .army, "paris".toList⟩)
    let wide : Order := .support (some .fleet) "brest".toList
      (.hold ⟨none, "ankara s a paris".toList⟩)
    (readSupport true text).result = .ok (.accepted narrow) ∧
      (readSupport false text).result = .ok (.accepted wide) ∧
      (∃ other, (readSupport false text).result = .ok (.accepted other) ∧
        other.place <+: narrow.place) ∧
      (∃ other, (readLine false text).result = .ok (.accepted other) ∧
        other.unit = narrow.unit) ∧
      (readHold false "a paris h".toList).result =
        .ok (.accepted (.hold ⟨some .army, "paris".toList⟩)) ∧
      (readMove false "a paris - rome".toList).result =
        .ok (.accepted (.move ⟨some .army, "paris".toList, "rome".toList⟩)) := by
  intro text narrow wide
  have strictly : (readSupport true text).result = .ok (.accepted narrow) :=
    (Rule.read_accepts_iff_order? .support true text narrow).2 (by decide +kernel)
  have leniently : (readSupport false text).result = .ok (.accepted wide) :=
    (Rule.read_accepts_iff_order? .support false text wide).2 (by decide +kernel)
  have line : (readLine true text).result = .ok (.accepted narrow) :=
    (readLine_accepts_iff_order? true text narrow).2 (by decide +kernel)
  obtain ⟨holds, moves, aids, lines, -⟩ := lenient_accepts_more
  obtain ⟨other, accepted, -, -, begins, -⟩ := aids .support (by decide) text narrow strictly
  exact ⟨strictly, leniently, ⟨other, accepted, begins⟩, lines text narrow line,
    holds _ _ ((Rule.read_accepts_iff_order? .hold true _ _).2 (by decide +kernel)),
    moves _ _ ((Rule.read_accepts_iff_order? .move true _ _).2 (by decide +kernel))⟩

end Acceptance

end Diplomacy
