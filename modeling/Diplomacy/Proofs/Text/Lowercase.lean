import Diplomacy.Text.Lowercase

namespace Diplomacy

/-- The character is its own small letter. -/
def IsSmall (character : Char) : Prop :=
  smallLetters character = [character]

instance (character : Char) : Decidable (IsSmall character) :=
  inferInstanceAs (Decidable (_ = _))

/-- The small letters of the first run are no capitals of the other one. They stand before it,
behind it, or in the gaps that a step of two leaves. -/
def CaseRun.avoids (run other : CaseRun) : Bool :=
  Nat.blt (run.image + (run.last - run.first)) other.first || Nat.blt other.last run.image ||
    (other.step == 2 && (run.step == 2 || run.first == run.last) &&
      (run.image + other.first) % 2 == 1)

/-- A point keeps its value, or a run of capitals gives it a new one. -/
theorem smallPoint_cases (runs : List CaseRun) (point : Nat) :
    smallPoint runs point = point ∨
      ∃ run ∈ runs, ∃ distance ≤ run.last - run.first, distance % run.step = 0 ∧
        smallPoint runs point = run.image + distance := by
  induction runs with
  | nil => exact Or.inl rfl
  | cons run rest ih =>
      simp only [smallPoint]
      split
      · exact Or.inl rfl
      · split
        · split
          · rename_i within aligned
            refine Or.inr ⟨run, List.mem_cons_self, point - run.first, ?_, aligned, rfl⟩
            exact Nat.sub_le_sub_right within run.first
          · exact Or.inl rfl
        · rcases ih with kept | ⟨found, member, distance, within, aligned, moved⟩
          · exact Or.inl kept
          · exact Or.inr ⟨found, List.mem_cons_of_mem _ member, distance, within, aligned, moved⟩

/-- No image in one run is a capital of a run that it avoids. -/
theorem CaseRun.not_capital_of_avoids {run other : CaseRun} {distance : Nat}
    (within : distance ≤ run.last - run.first) (aligned : distance % run.step = 0)
    (avoids : run.avoids other = true) :
    ¬ (other.first ≤ run.image + distance ∧ run.image + distance ≤ other.last ∧
      (run.image + distance - other.first) % other.step = 0) := by
  rintro ⟨above, below, capital⟩
  simp only [CaseRun.avoids, Bool.or_eq_true, Bool.and_eq_true, Nat.blt_eq, beq_iff_eq] at avoids
  rcases avoids with (before | behind) | ⟨⟨double, steps⟩, odd⟩
  · omega
  · omega
  · have even : distance % 2 = 0 := by
      rcases steps with same | single
      · rwa [same] at aligned
      · omega
    rw [double] at capital
    omega

/-- A small letter that avoids every run is left as it is. -/
theorem smallPoint_image {runs : List CaseRun} {run : CaseRun} {distance : Nat}
    (within : distance ≤ run.last - run.first) (aligned : distance % run.step = 0)
    (avoids : runs.all run.avoids = true) :
    smallPoint runs (run.image + distance) = run.image + distance := by
  induction runs with
  | nil => rfl
  | cons other rest ih =>
      obtain ⟨here, later⟩ := Bool.and_eq_true_iff.1 avoids
      have apart := CaseRun.not_capital_of_avoids within aligned here
      simp only [smallPoint]
      split
      · rfl
      · rename_i above
        split
        · rename_i below
          rw [if_neg fun capital => apart ⟨Nat.le_of_not_lt above, below, capital⟩]
        · exact ih later

/-- A valid code point is the code point of its character. -/
theorem toNat_ofNat_of_isValidChar {point : Nat} (valid : point.isValidChar) :
    (Char.ofNat point).toNat = point := by
  have same : Char.ofNat point = Char.ofNatAux point valid := dif_pos valid
  rw [same]
  rfl

/-- The images of all runs avoid the capitals of all runs. -/
theorem caseRuns_avoid : (caseRuns.all fun run => caseRuns.all run.avoids) = true := by
  decide +kernel

/-- The small letters of a run are characters, and the dotted I is none of them. -/
theorem caseRuns_scalar : ∀ run ∈ caseRuns,
    (run.image + (run.last - run.first) < 0x130 ∨ 0x130 < run.image) ∧
      (run.image + (run.last - run.first) < 0xd800 ∨
        0xdfff < run.image ∧ run.image + (run.last - run.first) < 0x110000) := by
  decide +kernel

/-- The table leads from capitals to small letters in one step. -/
theorem isSmall_of_caseRuns {run : CaseRun} (member : run ∈ caseRuns) {distance : Nat}
    (within : distance ≤ run.last - run.first) (aligned : distance % run.step = 0) :
    IsSmall (Char.ofNat (run.image + distance)) := by
  obtain ⟨undotted, scalar⟩ := caseRuns_scalar run member
  have valid : (run.image + distance).isValidChar := by
    unfold Nat.isValidChar
    omega
  have value := toNat_ofNat_of_isValidChar valid
  have notDotted : Char.ofNat (run.image + distance) ≠ '\u0130' := by
    intro same
    have point : (Char.ofNat (run.image + distance)).toNat = 0x130 := by
      rw [same]
      rfl
    omega
  rw [IsSmall, smallLetters, if_neg notDotted, value,
    smallPoint_image within aligned (List.all_eq_true.1 caseRuns_avoid run member)]

/-- The small letters of a character are small themselves. -/
theorem isSmall_of_mem_smallLetters {character small : Char}
    (member : small ∈ smallLetters character) : IsSmall small := by
  by_cases dotted : character = '\u0130'
  · have plain : IsSmall 'i' := by decide +kernel
    have dot : IsSmall '\u0307' := by decide +kernel
    rw [smallLetters, if_pos dotted] at member
    exact List.forall_mem_cons.2 ⟨plain, List.forall_mem_singleton.2 dot⟩ small member
  · rw [smallLetters, if_neg dotted, List.mem_singleton] at member
    rcases smallPoint_cases caseRuns character.toNat with kept | ⟨run, listed, distance, within,
      aligned, moved⟩
    · rw [kept, Char.ofNat_toNat] at member
      rw [member, IsSmall, smallLetters, if_neg dotted, kept, Char.ofNat_toNat]
    · rw [member, moved]
      exact isSmall_of_caseRuns listed within aligned

/-- Whichever form a capital sigma takes, only small letters are left. -/
theorem isSmall_of_mem_lowerAfter {text : Text} {casedBefore : Bool} {small : Char}
    (member : small ∈ Text.lowerAfter casedBefore text) : IsSmall small := by
  induction text generalizing casedBefore with
  | nil => cases member
  | cons character rest ih =>
      rw [Text.lowerAfter] at member
      rcases List.mem_append.1 member with here | later
      · split at here
        · have forms : IsSmall 'ς' ∧ IsSmall 'σ' := by decide +kernel
          split at here
          · exact List.mem_singleton.1 here ▸ forms.1
          · exact List.mem_singleton.1 here ▸ forms.2
        · exact isSmall_of_mem_smallLetters here
      · exact ih later

/-- What stands around a small letter does not matter to it. -/
theorem Text.lowerAfter_of_small {text : Text} (small : ∀ character ∈ text, IsSmall character)
    (casedBefore : Bool) : Text.lowerAfter casedBefore text = text := by
  induction text generalizing casedBefore with
  | nil => rfl
  | cons character rest ih =>
      obtain ⟨here, later⟩ := List.forall_mem_cons.1 small
      have notSigma : character ≠ 'Σ' := by
        rintro rfl
        have letters : smallLetters 'Σ' = ['σ'] := by decide +kernel
        exact absurd (letters.symm.trans here) (by decide)
      rw [Text.lowerAfter, if_neg notSigma, here, ih later]
      rfl

/-- A text in lower case stays as it is. -/
theorem Text.lower_lower (text : Text) : Text.lower (Text.lower text) = Text.lower text :=
  Text.lowerAfter_of_small (fun _ => isSmall_of_mem_lowerAfter) false

theorem length_smallLetters (character : Char) :
    (smallLetters character).length = 1 + [character].count '\u0130' := by
  unfold smallLetters
  split
  · rename_i dotted
    rw [dotted, List.count_singleton_self]
    rfl
  · rename_i dotted
    rw [List.count_singleton, beq_false_of_ne dotted]
    rfl

/-- Only the dotted I becomes longer, and no character is lost. -/
theorem Text.length_lowerAfter (casedBefore : Bool) (text : Text) :
    (Text.lowerAfter casedBefore text).length = text.length + text.count '\u0130' := by
  induction text generalizing casedBefore with
  | nil => rfl
  | cons character rest ih =>
      have here : (if character = 'Σ' then
            if casedBefore && !casedAhead rest then ['ς'] else ['σ']
          else smallLetters character).length = 1 + [character].count '\u0130' := by
        split
        · rename_i sigma
          subst sigma
          split <;> rfl
        · exact length_smallLetters character
      have dots : (character :: rest).count '\u0130' =
          [character].count '\u0130' + rest.count '\u0130' := by
        rw [← List.count_append, List.singleton_append]
      rw [Text.lowerAfter, List.length_append, here, ih, List.length_cons, dots]
      omega

/-- A text in lower case is longer by its dotted I letters. -/
theorem Text.length_lower (text : Text) :
    (Text.lower text).length = text.length + text.count '\u0130' :=
  Text.length_lowerAfter false text

end Diplomacy
