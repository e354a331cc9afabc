/-
This file chooses among several fixed words at the start of a text.
-/

import Diplomacy.Text.Lowercase

namespace Diplomacy

/-- A tag goes before the first one that is not longer, so equal lengths keep their order. -/
def insertByLength (tag : Text) : List Text → List Text
  | [] => [tag]
  | first :: rest =>
      if first.length ≤ tag.length then tag :: first :: rest
      else first :: insertByLength tag rest

def longestFirst : List Text → List Text
  | [] => []
  | tag :: rest => insertByLength tag (longestFirst rest)

/-- Tags that ignore case are kept in lower case. -/
def arrangeTags (ignoreCase : Bool) (tags : List Text) : List Text :=
  longestFirst (if ignoreCase then tags.map Text.lower else tags)

/-- A tag is compared with as many characters as it has itself. -/
def tagMatches (ignoreCase : Bool) (text tag : Text) : Bool :=
  let head := text.take tag.length
  head == tag || (ignoreCase && Text.lower head == tag)

def firstTag? (ignoreCase : Bool) (tags : List Text) (text : Text) : Option Text :=
  tags.find? (tagMatches ignoreCase text)

theorem insertByLength_perm (tag : Text) (tags : List Text) :
    (insertByLength tag tags).Perm (tag :: tags) := by
  induction tags with
  | nil => exact .refl _
  | cons first rest ih =>
      simp only [insertByLength]
      split
      · exact .refl _
      · exact (ih.cons first).trans (.swap tag first rest)

theorem longestFirst_perm (tags : List Text) : (longestFirst tags).Perm tags := by
  induction tags with
  | nil => exact .refl _
  | cons tag rest ih => exact (insertByLength_perm tag _).trans (ih.cons tag)

theorem insertByLength_sorted {tag : Text} {tags : List Text}
    (sorted : tags.Pairwise fun first second => second.length ≤ first.length) :
    (insertByLength tag tags).Pairwise fun first second => second.length ≤ first.length := by
  induction tags with
  | nil => simp [insertByLength]
  | cons first rest ih =>
      obtain ⟨below, ordered⟩ := List.pairwise_cons.1 sorted
      simp only [insertByLength]
      split
      · rename_i shorter
        refine List.pairwise_cons.2 ⟨fun other member => ?_, sorted⟩
        rcases List.mem_cons.1 member with rfl | later
        · exact shorter
        · exact Nat.le_trans (below other later) shorter
      · rename_i longer
        refine List.pairwise_cons.2 ⟨fun other member => ?_, ih ordered⟩
        rcases List.mem_cons.1 ((insertByLength_perm tag rest).mem_iff.1 member) with rfl | later
        · omega
        · exact below other later

theorem longestFirst_sorted (tags : List Text) :
    (longestFirst tags).Pairwise fun first second => second.length ≤ first.length := by
  induction tags with
  | nil => exact .nil
  | cons tag rest ih => exact insertByLength_sorted ih

example : arrangeTags true ["A".toList, "bb".toList, "c".toList] =
    ["bb".toList, "a".toList, "c".toList] := by decide

end Diplomacy
