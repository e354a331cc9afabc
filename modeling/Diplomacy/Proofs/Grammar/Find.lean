import Diplomacy.Grammar.Batch
import Diplomacy.Proofs.Grammar.Ending
import Diplomacy.Proofs.Grammar.Unit

namespace Diplomacy

variable {A B : Type}

/-- The places behind the unit are tried in turn, and the first that fits decides. -/
def findByPlace (strict : Bool) (text : Text) (follow : Option Piece → Text → Text → Option A) :
    Option A :=
  match designation strict text with
  | .refused => none
  | .read unit rest => (placeNames rest).findSome? fun (place, after) => follow unit place after

/-- What stands behind a place makes it the place of a hold. -/
def Hold.behind? (unit : Option Piece) (place after : Text) : Option Hold :=
  if endsHold after then some ⟨unit, place⟩ else none

def Hold.find? (strict : Bool) (text : Text) : Option Hold :=
  findByPlace strict text Hold.behind?

/-- What stands behind a place makes it the source of a move. -/
def Move.behind? (unit : Option Piece) (source after : Text) : Option Move :=
  (destination? after).map fun destination => ⟨unit, source, destination⟩

def Move.find? (strict : Bool) (text : Text) : Option Move :=
  findByPlace strict text Move.behind?

/-- A hold is looked for only if there is no move. -/
def Aided.find? (strict : Bool) (text : Text) : Option Aided :=
  ((Move.find? strict text).map .move).or ((Hold.find? strict text).map .hold)

/-- A support and a convoy name a place and what is helped along, which is read from a text of
its own. -/
structure Aid (A : Type) where
  unit : Option Piece
  place : Text
  inner : Text
  aided : A

/-- What stands behind a place makes it the place of an aid. -/
def Aid.behind? (words : List Text) (find : Text → Option A) (unit : Option Piece)
    (place after : Text) : Option (Aid A) :=
  (aidedText? words after).bind fun inner =>
    (find inner).map fun aided => ⟨unit, place, inner, aided⟩

def Aid.find? (words : List Text) (find : Text → Option A) (strict : Bool) (text : Text) :
    Option (Aid A) :=
  findByPlace strict text (Aid.behind? words find)

/-- A hold stands behind a place when the following text announces it. -/
theorem Hold.behind?_eq_some_iff {unit : Option Piece} {place after : Text} {order : Hold} :
    Hold.behind? unit place after = some order ↔
      order.unit = unit ∧ order.place = place ∧ Announces holdKeywords after := by
  rw [Hold.behind?, Option.ite_none_right_eq_some, endsHold_iff, Option.some_inj]
  constructor
  · intro given
    obtain ⟨announced, rfl⟩ := given
    exact ⟨rfl, rfl, announced⟩
  · intro given
    obtain ⟨rfl, rfl, announced⟩ := given
    exact ⟨announced, rfl⟩

/-- A move stands behind its source when the following text gives its destination. -/
theorem Move.behind?_eq_some_iff {unit : Option Piece} {source after : Text} {order : Move} :
    Move.behind? unit source after = some order ↔
      order.unit = unit ∧ order.source = source ∧ destination? after = some order.destination := by
  rw [Move.behind?, Option.map_eq_some_iff]
  constructor
  · intro given
    obtain ⟨destination, reached, rfl⟩ := given
    exact ⟨rfl, rfl, reached⟩
  · intro given
    obtain ⟨rfl, rfl, reached⟩ := given
    exact ⟨order.destination, reached, rfl⟩

/-- No move stands behind a name when the following text goes to no place. -/
theorem Move.behind?_eq_none_iff {unit : Option Piece} {source after : Text}
    (stops : startsInName after = false) :
    Move.behind? unit source after = none ↔ ¬ GoesTo after := by
  rw [Move.behind?, Option.map_eq_none_iff, ← exists_destination?_iff_goesTo stops, not_exists,
    Option.eq_none_iff_forall_ne_some]

/-- An aid stands behind its place when the aided text follows and holds the aided order. -/
theorem Aid.behind?_eq_some_iff {words : List Text} {find : Text → Option A}
    {unit : Option Piece} {place after : Text} {aid : Aid A} :
    Aid.behind? words find unit place after = some aid ↔
      aid.unit = unit ∧ aid.place = place ∧ aidedText? words after = some aid.inner ∧
        find aid.inner = some aid.aided := by
  rw [Aid.behind?, Option.bind_eq_some_iff]
  constructor
  · intro given
    obtain ⟨inner, opened, made⟩ := given
    obtain ⟨aided, helped, rfl⟩ := Option.map_eq_some_iff.1 made
    exact ⟨rfl, rfl, opened, helped⟩
  · intro given
    obtain ⟨rfl, rfl, opened, helped⟩ := given
    exact ⟨aid.inner, opened, by rw [helped]; rfl⟩

def Aid.support (aid : Aid Aided) : Order :=
  .support aid.unit aid.place aid.aided

def Aid.convoy (aid : Aid Move) : Order :=
  .convoy aid.unit aid.place aid.aided

/-- A find is an order with the events that lead to it. -/
abbrev Find := List Event × Order

/-- A rule reports its order after everything else. -/
def Find.report (text : Text) (find : Find) : Find :=
  (find.1 ++ [.logged (.parsed text find.2)], find.2)

/-- The order that is helped along has been reported before. -/
def Aid.find (order : Aid A → Order) (aided : A → Order) (aid : Aid A) : Find :=
  ([.logged (.parsed aid.inner (aided aid.aided))], order aid)

def Rule.find? : Rule → Bool → Text → Option Find
  | .hold, strict, text => (Hold.find? strict text).map fun order => ([], .hold order)
  | .move, strict, text => (Move.find? strict text).map fun order => ([], .move order)
  | .support, strict, text =>
      (Aid.find? supportKeywords (Aided.find? strict) strict text).map
        (Aid.find Aid.support Aided.toOrder)
  | .convoy, strict, text =>
      (Aid.find? convoyKeywords (Move.find? strict) strict text).map (Aid.find Aid.convoy .move)

/-- A find of a rule that has been reported. -/
def Rule.report? (rule : Rule) (strict : Bool) (text : Text) : Option Find :=
  (rule.find? strict text).map (Find.report text)

/-- The rules are tried in turn on a line without the blanks around it. -/
def findLine? (strict : Bool) (line : Text) : Option Find :=
  ruleOrder.findSome? fun rule => rule.report? strict (Text.trim line)

/-- A change of the result commutes with the search by place. -/
theorem findByPlace_map (strict : Bool) (text : Text)
    (follow : Option Piece → Text → Text → Option A) (change : A → B) :
    (findByPlace strict text follow).map change =
      findByPlace strict text fun unit place after => (follow unit place after).map change := by
  unfold findByPlace
  cases designation strict text with
  | refused => rfl
  | read unit rest => exact List.map_findSome?

/-- A find stems from one place behind the unit. -/
theorem exists_of_findByPlace {strict : Bool} {text : Text}
    {follow : Option Piece → Text → Text → Option A} {found : A}
    (search : findByPlace strict text follow = some found) :
    ∃ unit rest place after, designation strict text = .read unit rest ∧
      (place, after) ∈ placeNames rest ∧ follow unit place after = some found := by
  unfold findByPlace at search
  split at search
  · cases search
  · rename_i unit rest read
    obtain ⟨⟨place, after⟩, member, follows⟩ := List.exists_of_findSome?_eq_some search
    exact ⟨unit, rest, place, after, read, member, follows⟩

/-- Something is found as soon as one place fits. -/
theorem exists_findByPlace {strict : Bool} {text rest place after : Text} {unit : Option Piece}
    {follow : Option Piece → Text → Text → Option A} {found : A}
    (read : designation strict text = .read unit rest) (member : (place, after) ∈ placeNames rest)
    (follows : follow unit place after = some found) :
    ∃ other, findByPlace strict text follow = some other := by
  unfold findByPlace
  rw [read]
  have isSome : (follow unit place after).isSome = true :=
    Option.isSome_iff_exists.2 ⟨found, follows⟩
  exact Option.isSome_iff_exists.1
    (List.findSome?_isSome_iff.2 ⟨(place, after), member, isSome⟩)

/-- A place fits before what stands behind it, and no shorter one does. -/
structure FirstFit (follow : Text → Text → Option A) (place after : Text) (found : A) : Prop where
  starts : startsInName place = true
  ends : EndsInName place
  stops : startsInName after = false
  fits : follow place after = some found
  shortest : ∀ shorter later, place = shorter ++ later → later ≠ [] → EndsInName shorter →
    startsInName later = false → follow shorter (later ++ after) = none

/-- The search returns what the first fitting place of the designated text gives. -/
theorem exists_firstFit_of_findByPlace {strict : Bool} {text : Text}
    {follow : Option Piece → Text → Text → Option A} {found : A}
    (search : findByPlace strict text follow = some found) :
    ∃ unit skipped place after,
      designation strict text = .read unit (skipped ++ (place ++ after)) ∧
      FirstFit (follow unit) place after found := by
  unfold findByPlace at search
  split at search
  · cases search
  · rename_i unit rest read
    obtain ⟨earlier, ⟨place, after⟩, behind, split, fits, refused⟩ :=
      List.findSome?_eq_some_iff.1 search
    have member : (place, after) ∈ placeNames rest := by
      rw [split]
      exact List.mem_append_right _ List.mem_cons_self
    obtain ⟨skipped, rfl, unnamed, starts, ends, stops⟩ := mem_placeNames_iff.1 member
    refine ⟨unit, skipped, place, after, read, starts, ends, stops, fits, ?_⟩
    intro shorter later equal nonempty shorterEnds outside
    subst equal
    have begins : startsInName shorter = true := by
      rw [← startsInName_append shorterEnds.ne_nil]
      exact starts
    have candidate : (shorter, later ++ after) ∈
        placeNames (skipped ++ (shorter ++ later ++ after)) := by
      refine mem_placeNames_iff.2 ⟨skipped, by simp, unnamed, begins, shorterEnds, ?_⟩
      rw [startsInName_append nonempty]
      exact outside
    have less : shorter.length < (shorter ++ later).length := by
      rw [List.length_append]
      have := List.length_pos_iff.2 nonempty
      omega
    exact refused _ (mem_of_shorter_name split candidate less)

/-- What is found tells the unit and the place. -/
theorem exists_fit_of_findByPlace {strict : Bool} {text : Text}
    {follow : Option Piece → Text → Text → Option A} {unit : A → Option Piece} {place : A → Text}
    {found : A} (keeps : ∀ {named name after made}, follow named name after = some made →
      unit made = named ∧ place made = name)
    (search : findByPlace strict text follow = some found) :
    ∃ skipped after,
      designation strict text = .read (unit found) (skipped ++ (place found ++ after)) ∧
      FirstFit (follow (unit found)) (place found) after found := by
  obtain ⟨named, skipped, name, after, read, fit⟩ := exists_firstFit_of_findByPlace search
  obtain ⟨rfl, rfl⟩ := keeps fit.fits
  exact ⟨skipped, after, read, fit⟩

/-- A hold is found at the first place that a hold keyword follows. -/
theorem Hold.exists_fit {strict : Bool} {text : Text} {order : Hold}
    (found : Hold.find? strict text = some order) :
    ∃ skipped after,
      designation strict text = .read order.unit (skipped ++ (order.place ++ after)) ∧
      FirstFit (Hold.behind? order.unit) order.place after order := by
  refine exists_fit_of_findByPlace (fun made => ?_) found
  obtain ⟨sameUnit, samePlace, -⟩ := Hold.behind?_eq_some_iff.1 made
  exact ⟨sameUnit, samePlace⟩

/-- A move is found at the first place that a destination follows. -/
theorem Move.exists_fit {strict : Bool} {text : Text} {order : Move}
    (found : Move.find? strict text = some order) :
    ∃ skipped after,
      designation strict text = .read order.unit (skipped ++ (order.source ++ after)) ∧
      FirstFit (Move.behind? order.unit) order.source after order := by
  refine exists_fit_of_findByPlace (fun made => ?_) found
  obtain ⟨sameUnit, sameSource, -⟩ := Move.behind?_eq_some_iff.1 made
  exact ⟨sameUnit, sameSource⟩

/-- An aid is found at the first place that an aided order follows. -/
theorem Aid.exists_fit {words : List Text} {find : Text → Option A} {strict : Bool} {text : Text}
    {aid : Aid A} (found : Aid.find? words find strict text = some aid) :
    ∃ skipped after,
      designation strict text = .read aid.unit (skipped ++ (aid.place ++ after)) ∧
      FirstFit (Aid.behind? words find aid.unit) aid.place after aid := by
  refine exists_fit_of_findByPlace (fun made => ?_) found
  obtain ⟨sameUnit, samePlace, -⟩ := Aid.behind?_eq_some_iff.1 made
  exact ⟨sameUnit, samePlace⟩

/-- A place that fits starts with no blank. -/
theorem FirstFit.startsBlank_append {follow : Text → Text → Option A} {place after : Text}
    {found : A} (fit : FirstFit follow place after found) {rest : Text} :
    startsBlank (place ++ rest) = false := by
  apply startsBlank_of_startsInName
  rw [startsInName_append fit.ends.ne_nil]
  exact fit.starts

/-- The text of an order is read up to the place that fits first. -/
theorem FirstFit.findByPlace_of_read {strict : Bool} {text : Text} {unit : Option Piece}
    {place after : Text} {follow : Option Piece → Text → Text → Option A} {found : A}
    (fit : FirstFit (follow unit) place after found)
    (read : designation strict text = .read unit (place ++ after)) :
    findByPlace strict text follow = some found := by
  rw [findByPlace, read]
  exact findSome?_placeNames_of_shortest fit.starts fit.ends fit.stops fit.fits fit.shortest

/-- Behind a rendered station that names its unit, the search finds the same thing again. -/
theorem FirstFit.findByPlace_renderStation {strict : Bool} {unit : Option Piece}
    {place after : Text} {follow : Option Piece → Text → Text → Option A} {found : A}
    (fit : FirstFit (follow unit) place after found) (named : unit ≠ none) :
    findByPlace strict (renderStation unit place ++ after) follow = some found :=
  fit.findByPlace_of_read (designation_renderStation_of_named named fit.startsBlank_append)

/-- A place still fits first if what stands behind it changes and no shorter one gains by it. -/
theorem FirstFit.change {follow : Text → Text → Option A} {place after other : Text}
    {found changed : A} (fit : FirstFit follow place after found)
    (stops : startsInName other = false) (fits : follow place other = some changed)
    (gains : ∀ shorter later, EndsInName later → startsInName later = false →
      follow shorter (later ++ after) = none → follow shorter (later ++ other) = none) :
    FirstFit follow place other changed := by
  refine ⟨fit.starts, fit.ends, stops, fits, ?_⟩
  intro shorter later equal nonempty ends outside
  have laterEnds : EndsInName later := by
    have whole := fit.ends
    rw [equal] at whole
    exact whole.of_append nonempty
  exact gains shorter later laterEnds outside
    (fit.shortest shorter later equal nonempty ends outside)

section Aid

variable {words : List Text} {find : Text → Option A} {strict : Bool} {text : Text} {aid : Aid A}

/-- Between the place and the order that is helped along stands a keyword between blanks. -/
theorem Aid.exists_split (keywords : ∀ word ∈ words, IsKeyword word)
    (search : Aid.find? words find strict text = some aid) :
    ∃ before gap written space,
      designation strict text =
        .read aid.unit (before ++ (gap ++ (written ++ (space ++ aid.inner)))) ∧
      EndsInName before ∧ gap ≠ [] ∧ AllBlank gap ∧ Spells written words ∧ space ≠ [] ∧
      AllBlank space ∧ find aid.inner = some aid.aided := by
  obtain ⟨unit, rest, place, after, read, member, follows⟩ := exists_of_findByPlace search
  obtain ⟨rfl, -, opened, found⟩ := Aid.behind?_eq_some_iff.1 follows
  obtain ⟨before, rfl, ends, -⟩ := exists_mem_placeNames_iff.1 ⟨place, member⟩
  obtain ⟨gap, written, space, rfl, nonempty, blank, spelled, present, spaceBlank, -⟩ :=
    (aidedText?_eq_some_iff keywords).1 opened
  exact ⟨before, gap, written, space, read, ends, nonempty, blank, spelled, present, spaceBlank,
    found⟩

/-- The aided order is what its own search finds in the inner text. -/
theorem Aid.find_inner (keywords : ∀ word ∈ words, IsKeyword word)
    (search : Aid.find? words find strict text = some aid) : find aid.inner = some aid.aided := by
  obtain ⟨before, gap, written, space, -, -, -, -, -, -, -, found⟩ :=
    Aid.exists_split keywords search
  exact found

/-- The order that is helped along is read from a proper end of the text. -/
theorem Aid.inner_suffix (keywords : ∀ word ∈ words, IsKeyword word)
    (search : Aid.find? words find strict text = some aid) :
    aid.inner <:+ text ∧ aid.inner ≠ text := by
  obtain ⟨before, gap, written, space, read, ends, -⟩ := Aid.exists_split keywords search
  obtain ⟨opening, equal⟩ := exists_append_of_designation read
  have split : text = (opening ++ (before ++ (gap ++ (written ++ space)))) ++ aid.inner := by
    rw [equal]
    simp only [List.append_assoc]
  refine ⟨⟨_, split.symm⟩, ?_⟩
  intro whole
  have length := congrArg List.length split
  rw [List.length_append, List.length_append, List.length_append, whole] at length
  have := List.length_pos_iff.2 ends.ne_nil
  omega

end Aid

end Diplomacy
