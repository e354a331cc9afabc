import Diplomacy.Parser.Blueprint
import Diplomacy.Proofs.Text.Tag

namespace Diplomacy

section OneOf

variable {tags : List Text} {ignoreCase : Bool} {text tag : Text}

/-- Tags that are all written make a parser. -/
theorem checkOneOf_of_written (given : tags ≠ []) (written : ∀ tag ∈ tags, tag ≠ []) :
    checkOneOf tags ignoreCase = .ok (.oneOf tags ignoreCase) := by
  have full : tags.any List.isEmpty = false := by
    rw [List.any_eq_false]
    intro tag member
    simpa using written tag member
  simp [checkOneOf, given, full]

/-- A parser of tags gives one reading if a tag is found, and otherwise none. -/
theorem Parser.start_oneOf :
    (Parser.oneOf tags ignoreCase).start text = .ok fun _ =>
      Run.ofOption ((firstTag? ignoreCase (arrangeTags ignoreCase tags) text).map fun tag =>
        (.text tag, text.drop tag.length)) := rfl

/-- Nothing is read exactly if no stored tag fits. -/
theorem Parser.start_oneOf_eq_stop_iff :
    (Parser.oneOf tags ignoreCase).start text = .ok (fun _ => .stop) ↔
      ∀ tag ∈ storedTags ignoreCase tags, ¬ TagFits ignoreCase text tag := by
  rw [← firstTag?_eq_none_iff, Parser.start_oneOf]
  cases firstTag? ignoreCase (arrangeTags ignoreCase tags) text with
  | none => exact iff_of_true rfl rfl
  | some tag =>
      refine iff_of_false ?_ nofun
      intro same
      cases congrFun (Except.ok.inj same) ()

/-- The longest stored tag that fits is read. -/
theorem LongestTag.start_oneOf (longest : LongestTag ignoreCase tags text tag) :
    (Parser.oneOf tags ignoreCase).start text =
      .ok fun _ => .one (.text tag, text.drop tag.length) := by
  rw [Parser.start_oneOf, firstTag?_eq_some_iff.2 longest]
  rfl

/-- A tag that is read is the longest that fits. -/
theorem longestTag_of_start_oneOf {rest : Text}
    (started : (Parser.oneOf tags ignoreCase).start text = .ok fun _ => .one (.text tag, rest)) :
    LongestTag ignoreCase tags text tag := by
  rw [← firstTag?_eq_some_iff]
  rw [Parser.start_oneOf] at started
  have opened := congrFun (Except.ok.inj started) ()
  cases search : firstTag? ignoreCase (arrangeTags ignoreCase tags) text with
  | none =>
      rw [search] at opened
      cases opened
  | some found =>
      rw [search] at opened
      cases opened
      rfl

end OneOf

/-- Tags that are all written make a parser. It reads nothing exactly if no stored tag fits the
text, and otherwise it gives the longest stored tag that fits as its only reading. Any list of the
same tags, in whatever order and however often, makes a parser with the same readings. -/
theorem oneOf_reads_longest_tag {tags : List Text} (given : tags ≠ [])
    (written : ∀ tag ∈ tags, tag ≠ []) (ignoreCase : Bool) :
    ∃ parser, checkOneOf tags ignoreCase = .ok parser ∧
      (∀ text,
        (parser.start text = .ok (fun _ => .stop) ↔
          ∀ tag ∈ storedTags ignoreCase tags, ¬ TagFits ignoreCase text tag) ∧
        ((∃ tag ∈ storedTags ignoreCase tags, TagFits ignoreCase text tag) →
          ∃ tag, LongestTag ignoreCase tags text tag ∧
            parser.start text = .ok fun _ => .one (.text tag, text.drop tag.length))) ∧
      ∀ others : List Text, (∀ tag, tag ∈ others ↔ tag ∈ tags) →
        ∃ same, checkOneOf others ignoreCase = .ok same ∧
          ∀ text, same.start text = parser.start text := by
  refine ⟨.oneOf tags ignoreCase, checkOneOf_of_written given written, ?_, ?_⟩
  · intro text
    refine ⟨Parser.start_oneOf_eq_stop_iff, ?_⟩
    rintro ⟨tag, member, fits⟩
    cases search : firstTag? ignoreCase (arrangeTags ignoreCase tags) text with
    | none => exact absurd fits (firstTag?_eq_none_iff.1 search tag member)
    | some found =>
        have longest := longestTag_of_firstTag? search
        exact ⟨found, longest, longest.start_oneOf⟩
  · intro others same
    have otherGiven : others ≠ [] := by
      obtain ⟨tag, member⟩ := List.exists_mem_of_ne_nil tags given
      exact List.ne_nil_of_mem ((same tag).2 member)
    have otherWritten : ∀ tag ∈ others, tag ≠ [] :=
      fun tag member => written tag ((same tag).1 member)
    refine ⟨.oneOf others ignoreCase, checkOneOf_of_written otherGiven otherWritten, ?_⟩
    intro text
    rw [Parser.start_oneOf, Parser.start_oneOf, firstTag?_congr same]

/-- All three tags fit, and the longest is read from either list. -/
theorem oneOf_reads_longest_tag_holds :
    let tags := ["h".toList, "Holds".toList, "hold".toList]
    let others := ["hold".toList, "h".toList, "Holds".toList, "h".toList]
    let found : Except Failure (Suspended Reading) :=
      .ok fun _ => .one (.text "holds".toList, " a".toList)
    tags ≠ [] ∧ (∀ tag ∈ tags, tag ≠ []) ∧ (∀ tag, tag ∈ others ↔ tag ∈ tags) ∧
      ∃ parser same, checkOneOf tags true = .ok parser ∧ checkOneOf others true = .ok same ∧
        parser.start "HolDs a".toList = found ∧ same.start "HolDs a".toList = found := by
  intro tags others found
  have given : tags ≠ [] := by decide
  have written : ∀ tag ∈ tags, tag ≠ [] := by decide
  have equal (tag : Text) : tag ∈ others ↔ tag ∈ tags :=
    ⟨fun member => (by decide : ∀ tag ∈ others, tag ∈ tags) tag member,
      fun member => (by decide : ∀ tag ∈ tags, tag ∈ others) tag member⟩
  obtain ⟨parser, checked, readings, alike⟩ := oneOf_reads_longest_tag given written true
  obtain ⟨same, otherChecked, starts⟩ := alike others equal
  have longest : LongestTag true tags "HolDs a".toList "holds".toList :=
    ⟨by decide +kernel, by decide +kernel, by decide +kernel⟩
  obtain ⟨tag, tagLongest, started⟩ :=
    (readings "HolDs a".toList).2 ⟨_, longest.stored, longest.fits⟩
  obtain rfl := tagLongest.unique longest
  exact ⟨given, written, equal, parser, same, checked, otherChecked, started,
    (starts _).trans started⟩

/-- Suppose that tags that are all written read a tag from a text. Behind the text, the same tag or
a longer one is read exactly if the tag is not longer than the text, nothing follows the text, or a
longer stored tag fits there. The tag is longer than the text only if case is ignored and the text
holds a dotted I, whose lower case takes two characters. -/
theorem oneOf_reads_on_iff {tags : List Text} (given : tags ≠ [])
    (written : ∀ tag ∈ tags, tag ≠ []) (ignoreCase : Bool) :
    ∃ parser, checkOneOf tags ignoreCase = .ok parser ∧
      ∀ text more tag rest,
        parser.start text = .ok (fun _ => .one (.text tag, rest)) →
          ((∃ other later, other ∈ storedTags ignoreCase tags ∧
              (other = tag ∨ tag.length < other.length) ∧
              parser.start (text ++ more) = .ok fun _ => .one (.text other, later)) ↔
            tag.length ≤ text.length ∨ more = [] ∨
              ∃ longer ∈ storedTags ignoreCase tags, tag.length < longer.length ∧
                TagFits ignoreCase (text ++ more) longer) ∧
          (text.length < tag.length → ignoreCase = true ∧ '\u0130' ∈ text) := by
  refine ⟨.oneOf tags ignoreCase, checkOneOf_of_written given written, ?_⟩
  intro text more tag rest started
  have longest := longestTag_of_start_oneOf started
  refine ⟨?_, longest.fits.dotted⟩
  rw [← longest.append_iff]
  constructor
  · rintro ⟨other, later, -, further, reread⟩
    exact ⟨other, longestTag_of_start_oneOf reread, further⟩
  · rintro ⟨other, found, further⟩
    exact ⟨other, _, found.stored, further, found.start_oneOf⟩

/-- One letter is read, and the whole word when more letters follow. -/
theorem oneOf_reads_on_hold :
    let tags := ["h".toList, "hold".toList]
    let stored := storedTags true tags
    tags ≠ [] ∧ (∀ tag ∈ tags, tag ≠ []) ∧
      ∃ parser, checkOneOf tags true = .ok parser ∧
        parser.start "H".toList = .ok (fun _ => .one (.text "h".toList, [])) ∧
        ∃ other later, other ∈ stored ∧ (other = "h".toList ∨ "h".toList.length < other.length) ∧
          parser.start "HOLDs".toList = .ok fun _ => .one (.text other, later) := by
  intro tags stored
  have given : tags ≠ [] := by decide
  have written : ∀ tag ∈ tags, tag ≠ [] := by decide
  obtain ⟨parser, checked, readings⟩ := oneOf_reads_on_iff given written true
  have longest : LongestTag true tags "H".toList "h".toList :=
    ⟨by decide +kernel, by decide +kernel, by decide +kernel⟩
  obtain rfl : Parser.oneOf tags true = parser :=
    Except.ok.inj ((checkOneOf_of_written given written).symm.trans checked)
  have started : (Parser.oneOf tags true).start "H".toList =
      .ok (fun _ => .one (.text "h".toList, [])) := longest.start_oneOf
  exact ⟨given, written, _, checked, started,
    (readings "H".toList "OLDs".toList _ _ started).1.2 (Or.inl (by decide))⟩

/-- A dotted I is read when nothing follows it, and is not read any more when a letter follows. -/
theorem oneOf_loses_dotted :
    ∃ parser, checkOneOf [['\u0130']] true = .ok parser ∧
      parser.start ['\u0130'] = .ok (fun _ => .one (.text ['i', '\u0307'], [])) ∧
      parser.start (['\u0130'] ++ ['x']) = .ok fun _ => .stop := by
  have longest : LongestTag true [['\u0130']] ['\u0130'] ['i', '\u0307'] :=
    ⟨by decide +kernel, by decide +kernel, by decide +kernel⟩
  refine ⟨_, checkOneOf_of_written (by decide) (by decide), longest.start_oneOf, ?_⟩
  exact Parser.start_oneOf_eq_stop_iff.2 (by decide +kernel)

end Diplomacy
