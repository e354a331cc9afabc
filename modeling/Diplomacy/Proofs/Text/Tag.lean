import Diplomacy.Parser.Tag
import Diplomacy.Proofs.Text.Lowercase

namespace Diplomacy

/-- The tags are kept in the form that texts are compared with. -/
def storedTags (ignoreCase : Bool) (tags : List Text) : List Text :=
  if ignoreCase then tags.map Text.lower else tags

/-- As many characters as the tag has are the tag, or become it in lower case if case does not
matter. -/
def TagFits (ignoreCase : Bool) (text tag : Text) : Prop :=
  text.take tag.length = tag ∨ ignoreCase = true ∧ Text.lower (text.take tag.length) = tag

instance (ignoreCase : Bool) (text tag : Text) : Decidable (TagFits ignoreCase text tag) :=
  inferInstanceAs (Decidable (_ ∨ _))

/-- The tag fits, and no other stored tag that fits is longer. -/
structure LongestTag (ignoreCase : Bool) (tags : List Text) (text tag : Text) : Prop where
  stored : tag ∈ storedTags ignoreCase tags
  fits : TagFits ignoreCase text tag
  longest : ∀ other ∈ storedTags ignoreCase tags, TagFits ignoreCase text other →
    other.length ≤ tag.length

section Search

variable {ignoreCase : Bool} {tags : List Text} {text tag : Text}

/-- The check of one tag decides whether it fits. -/
theorem tagMatches_iff_tagFits : tagMatches ignoreCase text tag = true ↔
    TagFits ignoreCase text tag := by
  simp [tagMatches, TagFits]

/-- Arranging the tags neither loses nor adds any. -/
theorem mem_arrangeTags_iff : tag ∈ arrangeTags ignoreCase tags ↔
    tag ∈ storedTags ignoreCase tags :=
  (longestFirst_perm _).mem_iff

/-- No tag is found exactly if none fits. -/
theorem firstTag?_eq_none_iff :
    firstTag? ignoreCase (arrangeTags ignoreCase tags) text = none ↔
      ∀ tag ∈ storedTags ignoreCase tags, ¬ TagFits ignoreCase text tag := by
  simp only [firstTag?, List.find?_eq_none, mem_arrangeTags_iff, tagMatches_iff_tagFits]

/-- The tags are tried from the longest to the shortest, so the first that fits is a longest. -/
theorem longestTag_of_firstTag?
    (found : firstTag? ignoreCase (arrangeTags ignoreCase tags) text = some tag) :
    LongestTag ignoreCase tags text tag := by
  obtain ⟨matched, before, after, split, earlier⟩ := List.find?_eq_some_iff_append.1 found
  have member : tag ∈ storedTags ignoreCase tags := mem_arrangeTags_iff.1 (by simp [split])
  refine ⟨member, tagMatches_iff_tagFits.1 matched, ?_⟩
  intro other otherMember otherFits
  have sorted : (arrangeTags ignoreCase tags).Pairwise
      fun first second => second.length ≤ first.length := longestFirst_sorted _
  have place := mem_arrangeTags_iff.2 otherMember
  rw [split] at sorted place
  rcases List.mem_append.1 place with early | late
  · have unmatched := earlier other early
    rw [tagMatches_iff_tagFits.2 otherFits] at unmatched
    cases unmatched
  · rcases List.mem_cons.1 late with rfl | later
    · exact Nat.le_refl _
    · exact (List.pairwise_cons.1 (List.pairwise_append.1 sorted).2.1).1 other later

/-- A stored tag is its own lower case if case does not matter. -/
theorem lower_of_mem_storedTags (member : tag ∈ storedTags true tags) : Text.lower tag = tag := by
  obtain ⟨given, -, rfl⟩ := List.mem_map.1 member
  exact Text.lower_lower given

/-- Two stored tags of one length do not both fit, because both are compared with the same part of
the text. -/
theorem TagFits.eq_of_length {other : Text} (member : tag ∈ storedTags ignoreCase tags)
    (otherMember : other ∈ storedTags ignoreCase tags) (fits : TagFits ignoreCase text tag)
    (otherFits : TagFits ignoreCase text other) (same : tag.length = other.length) :
    tag = other := by
  rw [TagFits, ← same] at otherFits
  -- If one of them is the part itself and the other its lower case, then the part is stored and
  -- thus its own lower case.
  rcases fits with equal | ⟨rfl, lowered⟩
  · rcases otherFits with otherEqual | ⟨rfl, otherLowered⟩
    · exact equal.symm.trans otherEqual
    · rwa [equal, lower_of_mem_storedTags member] at otherLowered
  · rcases otherFits with otherEqual | ⟨-, otherLowered⟩
    · rw [otherEqual, lower_of_mem_storedTags otherMember] at lowered
      exact lowered.symm
    · exact lowered.symm.trans otherLowered

/-- There is only one longest tag that fits. -/
theorem LongestTag.unique {other : Text} (first : LongestTag ignoreCase tags text tag)
    (second : LongestTag ignoreCase tags text other) : tag = other := by
  have same : tag.length = other.length :=
    Nat.le_antisymm (second.longest tag first.stored first.fits)
      (first.longest other second.stored second.fits)
  exact first.fits.eq_of_length first.stored second.stored second.fits same

/-- The tag that is found does not depend on the order in which the tags were given. -/
theorem firstTag?_eq_some_iff :
    firstTag? ignoreCase (arrangeTags ignoreCase tags) text = some tag ↔
      LongestTag ignoreCase tags text tag := by
  constructor
  · exact longestTag_of_firstTag?
  · intro longest
    cases search : firstTag? ignoreCase (arrangeTags ignoreCase tags) text with
    | none => exact absurd longest.fits (firstTag?_eq_none_iff.1 search tag longest.stored)
    | some found => exact congrArg some ((longestTag_of_firstTag? search).unique longest)

/-- If some stored tag fits, then one of those that fit is the longest. -/
theorem exists_longestTag (member : tag ∈ storedTags ignoreCase tags)
    (fits : TagFits ignoreCase text tag) : ∃ longest, LongestTag ignoreCase tags text longest := by
  cases search : firstTag? ignoreCase (arrangeTags ignoreCase tags) text with
  | none => exact absurd fits (firstTag?_eq_none_iff.1 search tag member)
  | some longest => exact ⟨longest, longestTag_of_firstTag? search⟩

/-- A tag that is not longer than the text is compared with the text alone. -/
theorem tagFits_append_iff (covered : tag.length ≤ text.length) (more : Text) :
    TagFits ignoreCase (text ++ more) tag ↔ TagFits ignoreCase text tag := by
  rw [TagFits, TagFits, List.take_append_of_le_length covered]

/-- Only the lower case of the whole text can be a tag that is longer than the text. -/
theorem TagFits.lower_eq (fits : TagFits ignoreCase text tag) (short : text.length < tag.length) :
    ignoreCase = true ∧ Text.lower text = tag := by
  rw [TagFits, List.take_of_length_le (Nat.le_of_lt short)] at fits
  rcases fits with rfl | lowered
  · exact absurd short (Nat.lt_irrefl _)
  · exact lowered

/-- Only a dotted I makes a text shorter than the tag that fits it. -/
theorem TagFits.dotted (fits : TagFits ignoreCase text tag) (short : text.length < tag.length) :
    ignoreCase = true ∧ '\u0130' ∈ text := by
  obtain ⟨ignores, rfl⟩ := fits.lower_eq short
  rw [Text.length_lower] at short
  exact ⟨ignores, List.count_pos_iff.1 (by omega)⟩

/-- A tag that is longer than the text does not fit any more when something follows the text,
because the part that it is compared with takes in what follows and becomes too long. -/
theorem TagFits.not_append {more : Text} (fits : TagFits ignoreCase text tag)
    (short : text.length < tag.length) (present : more ≠ []) :
    ¬ TagFits ignoreCase (text ++ more) tag := by
  obtain ⟨-, rfl⟩ := fits.lower_eq short
  obtain ⟨dots, amount⟩ : ∃ dots, (Text.lower text).length = text.length + (dots + 1) :=
    ⟨text.count '\u0130' - 1, by rw [Text.length_lower] at short ⊢; omega⟩
  have taken : (text ++ more).take (Text.lower text).length = text ++ more.take (dots + 1) := by
    rw [amount, List.take_length_add_append]
  have reaches : 0 < (more.take (dots + 1)).length := by
    rw [List.length_take]
    have := List.length_pos_iff.2 present
    omega
  rw [TagFits, taken]
  intro again
  rcases again with equal | ⟨-, lowered⟩
  · -- The tag is its own lower case and holds no dotted I, but the text holds one.
    have lengths := congrArg List.length (congrArg Text.lower equal)
    rw [Text.lower_lower, ← equal, Text.length_lower, List.count_append] at lengths
    rw [Text.length_lower] at amount
    omega
  · have lengths := congrArg List.length lowered
    rw [Text.length_lower, Text.length_lower, List.count_append, List.length_append] at lengths
    omega

/-- Behind a longer text the longest tag is kept or gives way to a longer one, unless the tag is
longer than the text itself, something follows, and no longer tag fits there. -/
theorem LongestTag.append_iff (longest : LongestTag ignoreCase tags text tag) (more : Text) :
    (∃ other, LongestTag ignoreCase tags (text ++ more) other ∧
        (other = tag ∨ tag.length < other.length)) ↔
      tag.length ≤ text.length ∨ more = [] ∨
        ∃ longer ∈ storedTags ignoreCase tags, tag.length < longer.length ∧
          TagFits ignoreCase (text ++ more) longer := by
  constructor
  · rintro ⟨other, found, rfl | longer⟩
    · by_cases covered : other.length ≤ text.length
      · exact Or.inl covered
      · by_cases present : more = []
        · exact Or.inr (Or.inl present)
        · exact absurd found.fits (longest.fits.not_append (Nat.lt_of_not_le covered) present)
    · exact Or.inr (Or.inr ⟨other, found.stored, longer, found.fits⟩)
  · intro kept
    have fitting : TagFits ignoreCase (text ++ more) tag ∨
        ∃ longer ∈ storedTags ignoreCase tags, tag.length < longer.length ∧
          TagFits ignoreCase (text ++ more) longer := by
      rcases kept with covered | rfl | longer
      · exact Or.inl ((tagFits_append_iff covered more).2 longest.fits)
      · rw [List.append_nil]
        exact Or.inl longest.fits
      · exact Or.inr longer
    rcases fitting with fits | ⟨longer, member, further, fits⟩
    · obtain ⟨other, found⟩ := exists_longestTag longest.stored fits
      refine ⟨other, found, ?_⟩
      rcases Nat.lt_or_eq_of_le (found.longest tag longest.stored fits) with further | same
      · exact Or.inr further
      · exact Or.inl (found.fits.eq_of_length found.stored longest.stored fits same.symm)
    · obtain ⟨other, found⟩ := exists_longestTag member fits
      exact ⟨other, found, Or.inr (Nat.lt_of_lt_of_le further (found.longest longer member fits))⟩

end Search

/-- Tags count once, and their order does not count. -/
theorem firstTag?_congr {tags others : List Text} (same : ∀ tag, tag ∈ others ↔ tag ∈ tags)
    (ignoreCase : Bool) (text : Text) :
    firstTag? ignoreCase (arrangeTags ignoreCase others) text =
      firstTag? ignoreCase (arrangeTags ignoreCase tags) text := by
  have stored (tag : Text) :
      tag ∈ storedTags ignoreCase others ↔ tag ∈ storedTags ignoreCase tags := by
    cases ignoreCase <;> simp [storedTags, same]
  apply Option.ext
  intro tag
  rw [firstTag?_eq_some_iff, firstTag?_eq_some_iff]
  constructor
  · intro longest
    exact ⟨(stored tag).1 longest.stored, longest.fits,
      fun other member => longest.longest other ((stored other).2 member)⟩
  · intro longest
    exact ⟨(stored tag).2 longest.stored, longest.fits,
      fun other member => longest.longest other ((stored other).1 member)⟩

end Diplomacy
