import Diplomacy.Proofs.Grammar.Lenient
import Diplomacy.Proofs.Grammar.Misleading

namespace Diplomacy

section Hold

variable {text line : Text} {order : Hold}

/-- The place of a hold that is found starts with a name character. -/
theorem Hold.startsInName_place (found : Hold.find? true text = some order) :
    startsInName order.place = true := by
  obtain ⟨skipped, after, -, fit⟩ := Hold.exists_fit found
  exact fit.starts

/-- A hold is read back as soon as its station is, because the letter that is written for its
keyword does not turn the text into an aid. -/
theorem Hold.readLine_render_of_read
    (accepted : (readLine true line).result = .ok (.accepted (.hold order)))
    (shown : designation true order.render = .read order.unit (order.place ++ " H".toList)) :
    (readLine true order.render).result = .ok (.accepted (.hold order)) := by
  obtain ⟨found, refused⟩ := readLine_accepts_iff_first.1 accepted
  have search := Rule.order?_hold_iff.1 found
  rw [readLine_accepts_iff_first, Hold.trim_render search]
  constructor
  · exact Rule.order?_hold_iff.2 (Hold.find?_render_of_read search shown)
  · intro rule member
    exact Hold.order?_render_eq_none search shown member (refused rule member)

end Hold

/-- A hold that was read from a line is read back from its own text exactly if its unit is named or
its place does not begin with the letter of a unit. -/
theorem readLine_render_hold_iff (line : Text) (order : Hold)
    (accepted : (readLine true line).result = .ok (.accepted (.hold order))) :
    (readLine true (Order.hold order).render).result = .ok (.accepted (.hold order)) ↔
      order.unit ≠ none ∨ ∀ character ∈ order.place.head?, character ∉ unitLetters := by
  obtain ⟨found, -⟩ := readLine_accepts_iff_first.1 accepted
  have search := Rule.order?_hold_iff.1 found
  have starts := Hold.startsInName_place search
  constructor
  · intro reread
    rw [← exists_designation_renderStation_iff starts " H".toList]
    have read := exists_designation_of_readLine reread
    rw [Order.render, Hold.trim_render search] at read
    exact read
  · intro plain
    exact Hold.readLine_render_of_read accepted
      (designation_renderStation_of_plain starts plain " H".toList)

/-- The delimiter hides the letter of "ankara" in the line and is not written again. Without such
a letter, a keyword within the place does no harm. -/
theorem readLine_render_hold_ankara :
    let hidden := "- ankara holds".toList
    let plain := "- med sea hold h".toList
    let lost : Hold := ⟨none, "ankara".toList⟩
    let kept : Hold := ⟨none, "med sea hold".toList⟩
    (readLine true hidden).result = .ok (.accepted (.hold lost)) ∧
      (readLine true lost.render).result ≠ .ok (.accepted (.hold lost)) ∧
      (readLine true plain).result = .ok (.accepted (.hold kept)) ∧
      (readLine true kept.render).result = .ok (.accepted (.hold kept)) := by
  intro hidden plain lost kept
  have lostRead : (readLine true hidden).result = .ok (.accepted (.hold lost)) :=
    (readLine_accepts_iff_order? true hidden _).2 (by decide +kernel)
  have keptRead : (readLine true plain).result = .ok (.accepted (.hold kept)) :=
    (readLine_accepts_iff_order? true plain _).2 (by decide +kernel)
  refine ⟨lostRead, ?_, keptRead, ?_⟩
  · intro reread
    rcases (readLine_render_hold_iff hidden lost lostRead).1 reread with named | alone
    · exact named rfl
    · exact alone 'a' rfl (by decide)
  · apply (readLine_render_hold_iff plain kept keptRead).2
    right
    intro character member
    obtain rfl := Option.some.inj member
    decide

end Diplomacy
