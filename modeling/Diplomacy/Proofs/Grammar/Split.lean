import Diplomacy.Proofs.Grammar.Excerpt
import Mathlib.Data.List.Nodup
import Mathlib.Logic.Function.Basic

namespace Diplomacy

/-- A name is cut out of a text, and nothing before it belongs to a name. -/
structure NameSplit (text : Text) where
  skipped : Text
  place : Text
  after : Text
  whole : text = skipped ++ (place ++ after)
  unnamed : NoName skipped
  isName : IsName place

/-- Behind the name of a hold, blanks and a keyword use up the text. -/
structure HoldSplit (text : Text) extends NameSplit text where
  gap : Text
  keyword : Text
  behind : after = gap ++ keyword
  nonempty : gap ≠ []
  blank : AllBlank gap
  spelled : Spells keyword holdKeywords

/-- A separator leads from the name of a move to another name, which ends the text. Only the dash
may follow a name at once. -/
structure MoveSplit (text : Text) extends NameSplit text where
  gap : Text
  separator : Text
  between : Text
  destination : Text
  behind : after = gap ++ (separator ++ (between ++ destination))
  blank : AllBlank gap
  apart : separator = "-".toList ∨ gap ≠ [] ∧ Text.lowered separator = "to".toList
  betweenUnnamed : NoName between
  isDestination : IsName destination

/-- A keyword between blanks leads from the name of an aid to a text of its own, from which the
order that is helped along is read. -/
structure AidSplit {A : Type} (words : List Text) (reads : Text → A → Prop) (text : Text)
    extends NameSplit text where
  gap : Text
  keyword : Text
  space : Text
  inner : Text
  aided : A
  behind : after = gap ++ (keyword ++ (space ++ inner))
  nonempty : gap ≠ []
  blank : AllBlank gap
  spelled : Spells keyword words
  present : space ≠ []
  spaceBlank : AllBlank space
  stops : startsBlank inner = false
  helped : reads inner aided

section Uniqueness

variable {first second rest later : Text}

/-- The blanks at the start of a text are determined by it. -/
theorem AllBlank.append_inj (firstBlank : AllBlank first) (secondBlank : AllBlank second)
    (stops : startsBlank rest = false) (laterStops : startsBlank later = false)
    (equal : first ++ rest = second ++ later) : first = second ∧ rest = later := by
  have same : rest = later := by
    rw [← Text.trimStart_append firstBlank stops, equal,
      Text.trimStart_append secondBlank laterStops]
  subst same
  exact ⟨List.append_cancel_right equal, rfl⟩

/-- What stands before the first name of a text is determined by it. -/
theorem NoName.append_inj (firstUnnamed : NoName first) (secondUnnamed : NoName second)
    (starts : startsInName rest = true) (laterStarts : startsInName later = true)
    (equal : first ++ rest = second ++ later) : first = second ∧ rest = later := by
  have same : rest = later := by
    rw [← firstUnnamed.dropWhile_append starts, equal,
      secondUnnamed.dropWhile_append laterStarts]
  subst same
  exact ⟨List.append_cancel_right equal, rfl⟩

/-- A word before a blank is determined by the text. -/
theorem solid_append_inj (firstSolid : ∀ character ∈ first, isBlank character = false)
    (secondSolid : ∀ character ∈ second, isBlank character = false)
    (starts : startsBlank rest = true) (laterStarts : startsBlank later = true)
    (equal : first ++ rest = second ++ later) : first = second ∧ rest = later := by
  obtain ⟨own, rfl, rfl⟩ := exists_of_solid_append secondSolid starts equal
  cases own with
  | nil => exact ⟨List.append_nil second, rfl⟩
  | cons character others =>
      have blank : isBlank character = true := laterStarts
      rw [firstSolid character (by simp)] at blank
      cases blank

/-- No separator of a move begins another one, so the text determines where it ends. -/
theorem moveSeparator_append_inj (firstSpelled : Spells first moveSeparators)
    (secondSpelled : Spells second moveSeparators) (equal : first ++ rest = second ++ later) :
    first = second ∧ rest = later := by
  have keywords := isKeyword_of_mem_moveSeparators
  have prefixFree := moveSeparators_prefixFree
  have found := afterKeyword?_append_of_prefixFree keywords prefixFree firstSpelled rest
  rw [equal, afterKeyword?_append_of_prefixFree keywords prefixFree secondSpelled later] at found
  obtain rfl := Option.some.inj found
  exact ⟨List.append_cancel_right equal, rfl⟩

end Uniqueness

section NameSplit

variable {text : Text}

/-- A text that begins with a name starts with a name character. -/
theorem IsName.startsInName_append {place : Text} (isName : IsName place) (rest : Text) :
    startsInName (place ++ rest) = true := by
  rw [Diplomacy.startsInName_append isName.2.ne_nil]
  exact isName.1

def NameSplit.name (split : NameSplit text) : Text × Text :=
  (split.place, split.after)

/-- A name that ends where a name ends is one of the place names of the text. -/
theorem NameSplit.name_mem (split : NameSplit text) (stops : startsInName split.after = false) :
    split.name ∈ placeNames text :=
  mem_placeNames_iff.2
    ⟨split.skipped, split.whole, split.unnamed, split.isName.1, split.isName.2, stops⟩

/-- Every place name of the text is cut out by some split. -/
theorem NameSplit.exists_of_mem {name : Text × Text} (member : name ∈ placeNames text) :
    ∃ split : NameSplit text, split.name = name := by
  obtain ⟨skipped, whole, unnamed, starts, ends, -⟩ := mem_placeNames_iff.1 member
  exact ⟨⟨skipped, name.1, name.2, whole, unnamed, starts, ends⟩, rfl⟩

/-- The place tells where a text is cut. -/
theorem NameSplit.eq_of_place {first second : NameSplit text}
    (same : first.place = second.place) : first = second := by
  obtain ⟨skipped, place, after, whole, unnamed, isName⟩ := first
  obtain ⟨otherSkipped, other, otherAfter, otherWhole, otherUnnamed, otherName⟩ := second
  obtain rfl : place = other := same
  obtain ⟨rfl, rest⟩ := unnamed.append_inj otherUnnamed (isName.startsInName_append _)
    (otherName.startsInName_append _) (whole.symm.trans otherWhole)
  obtain rfl := List.append_cancel_left rest
  rfl

/-- Two splits of one text leave the same text behind what they skip. -/
theorem NameSplit.append_eq (first second : NameSplit text) :
    first.place ++ first.after = second.place ++ second.after :=
  (first.unnamed.append_inj second.unnamed (first.isName.startsInName_append _)
    (second.isName.startsInName_append _) (first.whole.symm.trans second.whole)).2

/-- A longer place goes on behind a shorter one. -/
theorem NameSplit.exists_of_shorter {first second : NameSplit text}
    (shorter : first.place.length < second.place.length) :
    ∃ later, first.after = later ++ second.after ∧ EndsInName later := by
  rcases List.append_eq_append_iff.1 (first.append_eq second) with
    ⟨later, longer, same⟩ | ⟨later, longer, -⟩
  · refine ⟨later, same, ?_⟩
    have ends := second.isName.2
    rw [longer] at ends
    apply ends.of_append
    rintro rfl
    rw [longer, List.append_nil] at shorter
    exact Nat.lt_irrefl _ shorter
  · rw [longer, List.length_append] at shorter
    omega

end NameSplit

section Kinds

variable {A : Type} {text : Text}

/-- The separator of a split spells a move separator. -/
theorem MoveSplit.spells (split : MoveSplit text) : Spells split.separator moveSeparators :=
  (spells_moveSeparators_iff _).2 (split.apart.imp_right And.right)

/-- No name character follows the place of a hold. -/
theorem HoldSplit.startsInName_after (split : HoldSplit text) :
    startsInName split.after = false := by
  rw [split.behind]
  exact startsInName_of_startsBlank (split.blank.startsBlank_append split.nonempty _)

theorem MoveSplit.startsInName_after (split : MoveSplit text) :
    startsInName split.after = false := by
  rw [split.behind]
  exact (startsInName_separator_iff split.blank split.spells).2 split.apart

theorem AidSplit.startsInName_after {words : List Text} {reads : Text → A → Prop}
    (split : AidSplit words reads text) : startsInName split.after = false := by
  rw [split.behind]
  exact startsInName_of_startsBlank (split.blank.startsBlank_append split.nonempty _)

/-- Behind its name, a hold can be cut in one way only. -/
theorem HoldSplit.toNameSplit_injective :
    Function.Injective (HoldSplit.toNameSplit : HoldSplit text → NameSplit text) := by
  intro first second same
  obtain ⟨base, gap, keyword, behind, nonempty, blank, spelled⟩ := first
  obtain ⟨other, otherGap, otherKeyword, otherBehind, otherNonempty, otherBlank, otherSpelled⟩ :=
    second
  obtain rfl : base = other := same
  have stops := spelled.startsBlank_append isKeyword_of_mem_holdKeywords []
  have otherStops := otherSpelled.startsBlank_append isKeyword_of_mem_holdKeywords []
  rw [List.append_nil] at stops otherStops
  obtain ⟨rfl, rfl⟩ :=
    blank.append_inj otherBlank stops otherStops (behind.symm.trans otherBehind)
  rfl

/-- The keyword of a hold ends the text, so that no longer place leaves room for it. -/
theorem HoldSplit.not_shorter (first second : HoldSplit text) :
    ¬ first.place.length < second.place.length := by
  intro shorter
  obtain ⟨later, equal, ends⟩ := NameSplit.exists_of_shorter shorter
  have starts : startsBlank second.after = true := by
    rw [second.behind]
    exact second.blank.startsBlank_append second.nonempty _
  apply not_announces_append isKeyword_of_mem_holdKeywords ends starts
  rw [← equal]
  exact ⟨first.gap, first.keyword, first.behind, first.nonempty, first.blank, first.spelled⟩

instance (text : Text) : Subsingleton (HoldSplit text) := by
  refine ⟨fun first second => HoldSplit.toNameSplit_injective (NameSplit.eq_of_place ?_)⟩
  have notShorter := first.not_shorter second
  have notLonger := second.not_shorter first
  exact (List.append_inj (first.append_eq second.toNameSplit) (by omega)).1

/-- Behind its source, a move can be cut in one way only, because no separator begins another
one. -/
theorem MoveSplit.toNameSplit_injective :
    Function.Injective (MoveSplit.toNameSplit : MoveSplit text → NameSplit text) := by
  intro first second same
  have keywords := isKeyword_of_mem_moveSeparators
  have spelled := first.spells
  have otherSpelled := second.spells
  obtain ⟨base, gap, separator, between, destination, behind, blank, _, unnamed, isName⟩ := first
  obtain ⟨other, otherGap, otherSeparator, otherBetween, otherDestination, otherBehind, otherBlank,
    _, otherUnnamed, otherName⟩ := second
  obtain rfl : base = other := same
  obtain ⟨rfl, spoken⟩ := blank.append_inj otherBlank (spelled.startsBlank_append keywords _)
    (otherSpelled.startsBlank_append keywords _) (behind.symm.trans otherBehind)
  obtain ⟨rfl, rest⟩ := moveSeparator_append_inj spelled otherSpelled spoken
  obtain ⟨rfl, rfl⟩ := unnamed.append_inj otherUnnamed isName.1 otherName.1 rest
  rfl

/-- Behind its name, an aid can be cut in one way only, if a text is read in one way only. -/
theorem AidSplit.toNameSplit_injective {words : List Text} {reads : Text → A → Prop}
    (keywords : ∀ word ∈ words, IsKeyword word)
    (functional : ∀ inner first second, reads inner first → reads inner second → first = second) :
    Function.Injective (AidSplit.toNameSplit : AidSplit words reads text → NameSplit text) := by
  intro first second same
  obtain ⟨base, gap, keyword, space, inner, aided, behind, nonempty, blank, spelled, present,
    spaceBlank, stops, helped⟩ := first
  obtain ⟨other, otherGap, otherKeyword, otherSpace, otherInner, otherAided, otherBehind,
    otherNonempty, otherBlank, otherSpelled, otherPresent, otherSpaceBlank, otherStops,
    otherHelped⟩ := second
  obtain rfl : base = other := same
  obtain ⟨rfl, spoken⟩ := blank.append_inj otherBlank (spelled.startsBlank_append keywords _)
    (otherSpelled.startsBlank_append keywords _) (behind.symm.trans otherBehind)
  obtain ⟨rfl, rest⟩ := solid_append_inj (spelled.isBlank_eq_false keywords)
    (otherSpelled.isBlank_eq_false keywords) (spaceBlank.startsBlank_append present _)
    (otherSpaceBlank.startsBlank_append otherPresent _) spoken
  obtain ⟨rfl, rfl⟩ := spaceBlank.append_inj otherSpaceBlank stops otherStops rest
  obtain rfl := functional inner aided otherAided helped otherHelped
  rfl

end Kinds

/-- Every split is listed, and one with a shorter place comes before one with a longer place. -/
structure ListsSplits {Split : Type} {text : Text} (base : Split → NameSplit text)
    (splits : List Split) : Prop where
  all : ∀ split, split ∈ splits
  sorted : splits.Pairwise fun first second =>
    (base first).place.length < (base second).place.length

/-- A search finds at every place of a text what a split makes that is cut out there, and no two
splits are cut out at one place. -/
structure FindsSplits {Split B : Type} {text : Text} (base : Split → NameSplit text)
    (make : Split → B) (search : Text × Text → Option B) : Prop where
  stops : ∀ split, startsInName (base split).after = false
  apart : Function.Injective base
  finds_iff : ∀ name ∈ placeNames text, ∀ value,
    search name = some value ↔ ∃ split, (base split).name = name ∧ make split = value

section Listing

variable {Split : Type} {text : Text} {base : Split → NameSplit text} {splits : List Split}

/-- The split with the shortest place is listed first. -/
theorem ListsSplits.head?_eq_some_iff (lists : ListsSplits base splits) {split : Split} :
    splits.head? = some split ↔
      ∀ other, (base split).place.length ≤ (base other).place.length := by
  obtain ⟨all, sorted⟩ := lists
  cases splits with
  | nil => exact absurd (all split) List.not_mem_nil
  | cons first later =>
      have longer := (List.pairwise_cons.1 sorted).1
      rw [List.head?_cons, Option.some_inj]
      constructor
      · rintro rfl other
        rcases List.mem_cons.1 (all other) with rfl | member
        · exact Nat.le_refl _
        · exact Nat.le_of_lt (longer other member)
      · intro shortest
        rcases List.mem_cons.1 (all split) with same | member
        · exact same.symm
        · exact absurd (shortest first) (Nat.not_le_of_lt (longer split member))

/-- No two splits that are listed have the same place. -/
theorem ListsSplits.eq_of_place (lists : ListsSplits base splits) {first second : Split}
    (same : (base first).place = (base second).place) : first = second := by
  have nodup : (splits.map fun split => (base split).place.length).Nodup := by
    rw [List.Nodup, List.pairwise_map]
    exact lists.sorted.imp fun shorter => Nat.ne_of_lt shorter
  exact List.inj_on_of_nodup_map nodup (lists.all first) (lists.all second)
    (congrArg List.length same)

/-- If a text can be split in one way at most, then the list has one entry at most. -/
theorem ListsSplits.map_eq_toList [Subsingleton Split] (lists : ListsSplits base splits)
    {B : Type} (make : Split → B) : splits.map make = (splits.head?.map make).toList := by
  cases splits with
  | nil => rfl
  | cons first later =>
      cases later with
      | nil => rfl
      | cons second others =>
          have shorter := (List.pairwise_cons.1 lists.sorted).1 second List.mem_cons_self
          rw [Subsingleton.elim second first] at shorter
          exact absurd shorter (Nat.lt_irrefl _)

end Listing

section Search

variable {Split B : Type} {text : Text} {base : Split → NameSplit text} {make : Split → B}
variable {search : Text × Text → Option B} {value : B}

/-- The search finds the value of every split at the place that the split cuts out. -/
theorem FindsSplits.search_eq (finds : FindsSplits base make search) (split : Split) :
    (base split).name ∈ placeNames text ∧ search (base split).name = some (make split) := by
  have member := (base split).name_mem (finds.stops split)
  exact ⟨member, (finds.finds_iff _ member _).2 ⟨split, rfl, rfl⟩⟩

/-- All splits can be listed, one for each thing that is found and in the same order. -/
theorem FindsSplits.exists_list (finds : FindsSplits base make search) :
    ∃ splits, ListsSplits base splits ∧
      (placeNames text).filterMap search = splits.map make := by
  have injective : Function.Injective fun split => (base split).name := by
    intro first second same
    exact finds.apart (NameSplit.eq_of_place (congrArg Prod.fst same))
  -- A value that is found does not tell its split, so the splits are picked by their names.
  have picks := injective.isPartialInv
  refine ⟨(placeNames text).filterMap (Function.partialInv fun split => (base split).name),
    ⟨?_, ?_⟩, ?_⟩
  · intro split
    exact List.mem_filterMap.2 ⟨_, (finds.search_eq split).1, (picks split _).2 rfl⟩
  · rw [List.pairwise_filterMap]
    apply (placeNames_pairwise text).imp
    intro name other shorter first picked second otherPicked
    obtain rfl := (picks first name).1 picked
    obtain rfl := (picks second other).1 otherPicked
    exact shorter
  · rw [List.map_filterMap]
    apply List.filterMap_congr
    intro name member
    ext value
    rw [finds.finds_iff name member, Option.map_eq_some_iff]
    simp only [picks _ name]

end Search

end Diplomacy
