import Diplomacy.Proofs.Place.Boundary
import Diplomacy.Proofs.Run.Pulls
import Mathlib.Data.List.Induction
import Mathlib.Logic.ExistsUnique

namespace Diplomacy

/-- The text begins with this part, which belongs to no name, and with no longer part of that
kind. -/
structure LeadsIn (lead text : Text) : Prop where
  begins : lead <+: text
  unnamed : NoName lead
  longest : ∀ other, other <+: text → NoName other → other.length ≤ lead.length

/-- A run of name characters reaches as far as it can on both sides. -/
structure NameRun (text : Text) where
  before : Text
  word : Text
  after : Text
  whole : text = before ++ (word ++ after)
  nonempty : word ≠ []
  named : ∀ character ∈ word, isNameCharacter character = true
  opens : ¬ EndsInName before
  stops : startsInName after = false

section Lead

variable {lead text : Text}

theorem leadsIn_of_startsInName (unnamed : NoName lead) (starts : startsInName text = true) :
    LeadsIn lead (lead ++ text) := by
  refine ⟨List.prefix_append lead text, unnamed, ?_⟩
  intro other begins otherUnnamed
  by_contra longer
  -- A longer part would take in the first character of the name.
  obtain ⟨taken, rfl⟩ := List.prefix_of_prefix_length_le (List.prefix_append lead text) begins
    (by omega)
  obtain ⟨left, equal⟩ := (List.prefix_append_right_inj lead).1 begins
  cases taken with
  | nil => simp at longer
  | cons character others =>
      rw [← equal, List.cons_append] at starts
      have named : isNameCharacter character = true := starts
      rw [otherUnnamed character (by simp)] at named
      cases named

/-- What follows the lead begins with a name, or else the lead would be longer. -/
theorem LeadsIn.startsInName (leads : LeadsIn lead (lead ++ text)) (nonempty : text ≠ []) :
    startsInName text = true := by
  cases text with
  | nil => exact absurd rfl nonempty
  | cons character rest =>
      by_contra unnamed
      have further : NoName (lead ++ [character]) := by
        intro other member
        rcases List.mem_append.1 member with early | last
        · exact leads.unnamed other early
        · rw [List.mem_singleton.1 last]
          exact Bool.eq_false_iff.2 unnamed
      have bounded := leads.longest (lead ++ [character]) ⟨rest, by simp⟩ further
      rw [List.length_append, List.length_singleton] at bounded
      omega

end Lead

/-- The listed names all begin behind the lead of the text. -/
theorem mem_placeNames_iff_leadsIn {text name remainder : Text} :
    (name, remainder) ∈ placeNames text ↔
      ∃ lead, LeadsIn lead text ∧ text = lead ++ (name ++ remainder) ∧ EndsInName name ∧
        startsInName remainder = false := by
  rw [mem_placeNames_iff]
  constructor
  · intro given
    obtain ⟨lead, rfl, unnamed, starts, ends, stops⟩ := given
    have begun : startsInName (name ++ remainder) = true := by
      rw [startsInName_append ends.ne_nil]
      exact starts
    exact ⟨lead, leadsIn_of_startsInName unnamed begun, rfl, ends, stops⟩
  · intro given
    obtain ⟨lead, leads, rfl, ends, stops⟩ := given
    have begun := leads.startsInName (List.append_ne_nil_of_left_ne_nil ends.ne_nil remainder)
    rw [startsInName_append ends.ne_nil] at begun
    exact ⟨lead, rfl, leads.unnamed, begun, ends, stops⟩

section Runs

variable {text : Text}

theorem endsInName_of_named {word : Text} (nonempty : word ≠ [])
    (named : ∀ character ∈ word, isNameCharacter character = true) : EndsInName word :=
  ⟨word.dropLast, word.getLast nonempty, (List.dropLast_concat_getLast nonempty).symm,
    named _ (List.getLast_mem nonempty)⟩

/-- Whether a text ends in a name is seen from its last character. -/
theorem endsInName_concat_iff {before : Text} {last : Char} :
    EndsInName (before ++ [last]) ↔ isNameCharacter last = true := by
  rw [← endsInName_singleton_iff]
  exact ⟨fun ends => ends.of_append (by simp), EndsInName.append before⟩

/-- What ends in a name ends with a run of name characters. -/
theorem EndsInName.exists_run (ends : EndsInName text) :
    ∃ before word, text = before ++ word ∧ word ≠ [] ∧
      (∀ character ∈ word, isNameCharacter character = true) ∧ ¬ EndsInName before := by
  induction text using List.reverseRecOn with
  | nil => exact absurd rfl ends.ne_nil
  | append_singleton front last ih =>
      have named := endsInName_concat_iff.1 ends
      by_cases earlier : EndsInName front
      · obtain ⟨before, word, rfl, -, wordNamed, opens⟩ := ih earlier
        refine ⟨before, word ++ [last], by simp, by simp, ?_, opens⟩
        intro character member
        rcases List.mem_append.1 member with within | final
        · exact wordNamed character within
        · rwa [List.mem_singleton.1 final]
      · exact ⟨front, [last], rfl, by simp, by simpa using named, earlier⟩

/-- Two runs of name characters before one end begin at the same character. -/
theorem run_append_inj {first second word other : Text} (equal : first ++ word = second ++ other)
    (wordNamed : ∀ character ∈ word, isNameCharacter character = true)
    (otherNamed : ∀ character ∈ other, isNameCharacter character = true)
    (opens : ¬ EndsInName first) (otherOpens : ¬ EndsInName second) :
    first = second ∧ word = other := by
  rcases List.append_eq_append_iff.1 equal with ⟨excess, rfl, rfl⟩ | ⟨excess, rfl, rfl⟩
  · by_cases empty : excess = []
    · subst empty
      exact ⟨(List.append_nil first).symm, rfl⟩
    · have named := fun character member => wordNamed character (List.mem_append_left _ member)
      exact absurd ((endsInName_of_named empty named).append first) otherOpens
  · by_cases empty : excess = []
    · subst empty
      exact ⟨List.append_nil second, rfl⟩
    · have named := fun character member => otherNamed character (List.mem_append_left _ member)
      exact absurd ((endsInName_of_named empty named).append second) opens

/-- There is at most one run in front of each end. -/
theorem NameRun.eq_of_after {first second : NameRun text} (same : first.after = second.after) :
    first = second := by
  obtain ⟨before, word, after, whole, nonempty, named, opens, stops⟩ := first
  obtain ⟨other, otherWord, otherAfter, otherWhole, otherNonempty, otherNamed, otherOpens,
    otherStops⟩ := second
  obtain rfl : after = otherAfter := same
  rw [whole, ← List.append_assoc, ← List.append_assoc] at otherWhole
  obtain ⟨rfl, rfl⟩ := run_append_inj (List.append_cancel_right otherWhole) named otherNamed
    opens otherOpens
  rfl

/-- A name ends with a run of name characters that cannot be made longer. -/
theorem NameRun.exists_of_mem {name : Text × Text} (member : name ∈ placeNames text) :
    ∃ run : NameRun text, run.after = name.2 := by
  obtain ⟨before, equal, ends, stops⟩ := exists_mem_placeNames_iff.1 ⟨name.1, member⟩
  obtain ⟨outer, word, rfl, nonempty, named, opens⟩ := ends.exists_run
  exact ⟨⟨outer, word, name.2, by rw [equal, List.append_assoc], nonempty, named, opens, stops⟩,
    rfl⟩

/-- A name ends with every run of name characters. -/
theorem NameRun.exists_name (run : NameRun text) : ∃ name, (name, run.after) ∈ placeNames text := by
  have ends : EndsInName (run.before ++ run.word) :=
    (endsInName_of_named run.nonempty run.named).append run.before
  exact exists_mem_placeNames_iff.2
    ⟨run.before ++ run.word, by rw [List.append_assoc, ← run.whole], ends, run.stops⟩

/-- There is at most one name in front of each remainder. -/
theorem eq_of_mem_placeNames {first second : Text × Text} (member : first ∈ placeNames text)
    (otherMember : second ∈ placeNames text) (same : first.2 = second.2) : first = second := by
  have equal := append_of_mem_nameEndings member
  rw [← append_of_mem_nameEndings otherMember, same] at equal
  exact Prod.ext (List.append_cancel_right equal) same

end Runs

/-- The search gives the names one pull after the other, never fails, and then stays ended. -/
theorem pulls_findNames (text : Text) (extra : Nat) :
    Suspended.pulls ((placeNames text).length + extra) (fun _ => findNames text) =
      (placeNames text).map (fun name => .ok (some name)) ++
        List.replicate extra (.ok none) := by
  have listed := transcript_findNames text
  cases extra with
  | zero =>
      have within := Run.pulls_within (findNames text) (placeNames text).length (by rw [listed])
      rw [listed, List.take_length] at within
      rw [Nat.add_zero, within, List.replicate_zero, List.append_nil]
  | succ extra =>
      have beyond := Run.pulls_beyond (findNames text) extra
      rw [listed] at beyond
      rw [Nat.add_comm extra 1, ← Nat.add_assoc, beyond, Nat.add_comm 1 extra,
        List.replicate_succ]
      rfl

/-- The search for names ends on every text. It gives exactly the parts behind what leads in that
end with a name character and are followed by none, the shorter ones first. One name ends with
each run of name characters, and a name reaches to the end of the text exactly if the text ends
with a name character. -/
theorem placeNames_enumerate (text : Text) :
    (∀ extra, Suspended.pulls ((placeNames text).length + extra) (fun _ => findNames text) =
      (placeNames text).map (fun name => .ok (some name)) ++
        List.replicate extra (.ok none)) ∧
    (∀ name remainder, (name, remainder) ∈ placeNames text ↔
      ∃ lead, LeadsIn lead text ∧ text = lead ++ (name ++ remainder) ∧ EndsInName name ∧
        startsInName remainder = false) ∧
    (placeNames text).Pairwise (fun first second => first.1.length < second.1.length) ∧
    (∀ name ∈ placeNames text, ∃! run : NameRun text, run.after = name.2) ∧
    (∀ run : NameRun text, ∃! name, name ∈ placeNames text ∧ name.2 = run.after) ∧
    ((∃ name, (name, []) ∈ placeNames text) ↔ EndsInName text) := by
  refine ⟨pulls_findNames text, fun _ _ => mem_placeNames_iff_leadsIn, placeNames_pairwise text,
    ?_, ?_, ?_⟩
  · intro name member
    obtain ⟨run, same⟩ := NameRun.exists_of_mem member
    exact ⟨run, same, fun other otherSame => NameRun.eq_of_after (otherSame.trans same.symm)⟩
  · intro run
    obtain ⟨name, member⟩ := run.exists_name
    refine ⟨(name, run.after), ⟨member, rfl⟩, ?_⟩
    intro other given
    exact eq_of_mem_placeNames given.1 member given.2
  · rw [exists_mem_placeNames_iff]
    simp [startsInName]

end Diplomacy
