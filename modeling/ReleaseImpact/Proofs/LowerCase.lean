import ReleaseImpact.Text.LowerCase

/-!
Text in lower case that is lowered once more. Main statements:

- `not_isLatinCapital_of_mem_lowered`: no capital is left that would become a letter of ASCII.
- `lowered_of_ascii`: so where lowering again gives ASCII, it gives what was there.
-/

namespace ReleaseImpact.Text

/-- Whether a character is a capital whose lower case has a letter of ASCII in it. -/
def isLatinCapital (c : Char) : Prop :=
  0x41 ≤ c.toNat ∧ c.toNat ≤ 0x5a ∨ c.toNat = 0x212a ∨ c.toNat = 0x130

/-- The small letters of a run are characters, and none is a capital that becomes ASCII. -/
theorem small_of_mem_capitalRuns : ∀ r ∈ capitalRuns,
    (r.2.2.2 + (r.2.1 - r.1) < 0xd800 ∨ 0xdfff < r.2.2.2 ∧ r.2.2.2 + (r.2.1 - r.1) < 0x110000) ∧
      (r.2.2.2 + (r.2.1 - r.1) < 0x41 ∨ 0x5a < r.2.2.2) ∧
      (r.2.2.2 + (r.2.1 - r.1) < 0x212a ∨ 0x212a < r.2.2.2) ∧
      (r.2.2.2 + (r.2.1 - r.1) < 0x130 ∨ 0x130 < r.2.2.2) := by
  decide +kernel

theorem capital_of_mem_capitalRuns : ∀ r ∈ capitalRuns, r.2.2.2 < 0x80 →
    0x41 ≤ r.1 ∧ r.2.1 ≤ 0x5a ∨ r.1 = 0x212a ∧ r.2.1 = 0x212a := by
  decide +kernel

theorem loweredChar_cases (c : Char) :
    loweredChar c = c ∧ (isLatinCapital c → c.toNat = 0x130) ∨
      ∃ r ∈ capitalRuns, r.1 ≤ c.toNat ∧ c.toNat ≤ r.2.1 ∧ (loweredChar c).toNat = r.2.2.2 + (c.toNat - r.1) := by
  cases found : capitalRuns.find? fun r =>
      r.1 ≤ c.toNat && c.toNat ≤ r.2.1 && (c.toNat - r.1) % r.2.2.1 = 0 with
  | none =>
    refine .inl ⟨by rw [loweredChar, found], fun capital => ?_⟩
    have outside := List.find?_eq_none.mp found
    rcases capital with letter | kelvin | dotted
    · have latin := outside (0x41, 0x5a, 1, 0x61) (by decide)
      simp [Nat.mod_one, letter] at latin
    · have sign := outside (0x212a, 0x212a, 1, 0x6b) (by decide +kernel)
      simp [kelvin] at sign
    · exact dotted
  | some r =>
    obtain ⟨first, last, step, small⟩ := r
    have member := List.mem_of_find?_eq_some found
    have inside := List.find?_some found
    simp only [Bool.and_eq_true, decide_eq_true_eq] at inside
    refine .inr ⟨_, member, inside.1.1, inside.1.2, ?_⟩
    have valid : (small + (c.toNat - first)).isValidChar := by
      have bounds := (small_of_mem_capitalRuns _ member).1
      dsimp only at bounds inside
      unfold Nat.isValidChar
      omega
    rw [loweredChar, found]
    show (Char.ofNat (small + (c.toNat - first))).toNat = _
    rw [Char.ofNat, dif_pos valid]
    rfl

theorem not_isLatinCapital_loweredChar {c : Char} (notDotted : c.toNat ≠ 0x130) : ¬ isLatinCapital (loweredChar c) := by
  rcases loweredChar_cases c with ⟨same, capital⟩ | ⟨r, member, first, last, small⟩
  · rw [same]
    exact fun isCapital => notDotted (capital isCapital)
  · obtain ⟨-, letters, sign, dotted⟩ := small_of_mem_capitalRuns r member
    unfold isLatinCapital
    omega

theorem loweredChar_of_ascii {c : Char} (notCapital : ¬ isLatinCapital c) (ascii : (loweredChar c).toNat < 0x80) :
    loweredChar c = c := by
  rcases loweredChar_cases c with ⟨same, -⟩ | ⟨r, member, first, last, small⟩
  · exact same
  · have capital := capital_of_mem_capitalRuns r member (by omega)
    unfold isLatinCapital at notCapital
    omega

theorem not_isLatinCapital_of_mem {before cs : List Char} {c : Char} (member : c ∈ loweredChars before cs) :
    ¬ isLatinCapital c := by
  induction cs generalizing before with
  | nil => cases member
  | cons d rest ih =>
    rw [loweredChars] at member
    rcases List.mem_append.mp member with here | later
    · split at here
      · simp only [List.mem_cons, List.not_mem_nil, or_false] at here
        unfold isLatinCapital
        rcases here with rfl | rfl <;> decide
      · next notDotted =>
        split at here
        · rw [List.mem_singleton.mp here]
          unfold isLatinCapital
          split <;> decide
        · rw [List.mem_singleton.mp here]
          refine not_isLatinCapital_loweredChar fun dotted => notDotted ?_
          rw [← Char.toNat_inj, dotted]
          rfl
    · exact ih later

theorem loweredChars_of_ascii {before cs : List Char} (notCapital : ∀ c ∈ cs, ¬ isLatinCapital c)
    (ascii : ∀ c ∈ loweredChars before cs, c.toNat < 0x80) : loweredChars before cs = cs := by
  induction cs generalizing before with
  | nil => rfl
  | cons c rest ih =>
    obtain ⟨here, later⟩ := List.forall_mem_cons.mp notCapital
    rw [loweredChars] at ascii ⊢
    rw [List.forall_mem_append] at ascii
    rw [ih later ascii.2]
    split
    · next dotted =>
      subst dotted
      exact absurd (.inr (.inr rfl)) here
    · next notDotted =>
      rw [if_neg notDotted] at ascii
      split
      · next sigma =>
        -- Neither form of the small sigma is ASCII.
        rw [if_pos sigma] at ascii
        have small := ascii.1 _ (List.mem_singleton_self _)
        split at small <;> exact absurd small (by decide)
      · next notSigma =>
        rw [if_neg notSigma] at ascii
        rw [loweredChar_of_ascii here (ascii.1 _ (List.mem_singleton_self _))]
        rfl

theorem lowered_of_ascii {text part : String} (inside : part.toList ⊆ (lowered text).toList)
    (ascii : ∀ c ∈ (lowered part).toList, c.toNat < 0x80) : lowered part = part := by
  rw [lowered, String.toList_ofList] at inside ascii
  rw [lowered, loweredChars_of_ascii (fun c member => not_isLatinCapital_of_mem (inside member)) ascii,
    String.ofList_toList]

end ReleaseImpact.Text
