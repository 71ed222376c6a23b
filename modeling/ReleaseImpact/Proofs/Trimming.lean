import ReleaseImpact.Text.Blank
import Mathlib.Data.List.DropRight

/-!
Text without blanks at its ends. Main statements:

- `dropLastBlanks_append`: the end of a text loses its blanks, and what stands before it only where
  nothing of the end is left.
- `trimmed_eq`: it makes no difference which end is cleared first.
- `trimmed_eq_self_iff`: a text stays as it is where no blank stands at either end.
- `exists_trimmed`: what is taken away at the ends is blank.
-/

namespace ReleaseImpact.Text

/-- All of a text is blank. -/
def Blanks (text : List Char) : Prop := ∀ c ∈ text, isBlank c = true

instance (text : List Char) : Decidable (Blanks text) :=
  decidable_of_iff (text.all isBlank = true) List.all_eq_true

variable {text front back : List Char} {c : Char}

theorem dropBlanks_eq_nil_iff : dropBlanks text = [] ↔ Blanks text := List.dropWhile_eq_nil_iff

theorem dropLastBlanks_eq_nil_iff : dropLastBlanks text = [] ↔ Blanks text := List.rdropWhile_eq_nil_iff

theorem dropBlanks_append (front text : List Char) :
    dropBlanks (front ++ text) =
      if dropBlanks front = [] then dropBlanks text else dropBlanks front ++ text := by
  simp [dropBlanks, List.dropWhile_append]

theorem dropLastBlanks_append (front text : List Char) :
    dropLastBlanks (front ++ text) =
      if dropLastBlanks text = [] then dropLastBlanks front else front ++ dropLastBlanks text := by
  simp only [dropLastBlanks, List.reverse_append, dropBlanks_append, List.reverse_eq_nil_iff]
  split <;> simp

theorem dropLastBlanks_append_blanks (blanks : Blanks back) :
    dropLastBlanks (text ++ back) = dropLastBlanks text := by
  rw [dropLastBlanks_append, if_pos (dropLastBlanks_eq_nil_iff.mpr blanks)]

theorem trimmed_eq (text : List Char) : trimmed text = dropBlanks (dropLastBlanks text) := by
  unfold trimmed
  induction text with
  | nil => rfl
  | cons c rest ih =>
    rw [← List.singleton_append, dropBlanks_append, dropLastBlanks_append]
    cases blank : isBlank c with
    | true =>
      have none : dropBlanks [c] = [] := by simp [dropBlanks, blank]
      rw [if_pos none, ih]
      split
      · next gone => rw [gone, dropLastBlanks_eq_nil_iff.mpr (by simpa [Blanks] using blank)]
      · rw [dropBlanks_append, if_pos none]
    | false =>
      have kept (rest : List Char) : dropBlanks (c :: rest) = c :: rest := dropBlanks_of_head rest blank
      have alone : dropLastBlanks [c] = [c] := by rw [dropLastBlanks, List.reverse_singleton, kept]; rfl
      rw [← dropBlanks_append, List.singleton_append, kept, alone, ← List.singleton_append,
        dropLastBlanks_append, alone]
      split
      · exact (kept []).symm
      · exact (kept _).symm

theorem trimmed_sublist (text : List Char) : (trimmed text).Sublist text :=
  (List.rdropWhile_prefix isBlank _).sublist.trans (List.dropWhile_sublist isBlank)

theorem trimmed_eq_nil_iff : trimmed text = [] ↔ Blanks text := by
  rw [trimmed, dropLastBlanks_eq_nil_iff, ← dropBlanks_eq_nil_iff, ← dropBlanks_eq_nil_iff]
  exact Eq.congr_left (dropWhile_idem isBlank text)

theorem trimmed_append_blanks (blanks : Blanks back) : trimmed (text ++ back) = trimmed text := by
  rw [trimmed_eq, dropLastBlanks_append_blanks blanks, ← trimmed_eq]

theorem isBlank_of_mem_getLast?_dropLastBlanks (last : c ∈ (dropLastBlanks text).getLast?) :
    isBlank c = false := by
  rw [dropLastBlanks, List.getLast?_reverse, Option.mem_def] at last
  obtain ⟨rest, first⟩ := List.head?_eq_some_iff.mp last
  exact head_dropBlanks first

theorem isBlank_of_mem_getLast?_trimmed (last : c ∈ (trimmed text).getLast?) : isBlank c = false :=
  isBlank_of_mem_getLast?_dropLastBlanks last

theorem isBlank_of_mem_head?_trimmed (first : c ∈ (trimmed text).head?) : isBlank c = false := by
  obtain ⟨rest, whole⟩ := List.head?_eq_some_iff.mp first
  exact head_dropBlanks ((trimmed_eq text).symm.trans whole)

theorem dropBlanks_eq_self (first : ∀ c ∈ text.head?, isBlank c = false) : dropBlanks text = text := by
  cases text with
  | nil => rfl
  | cons c rest => exact dropBlanks_of_head rest (first c rfl)

theorem trimmed_eq_self_iff :
    trimmed text = text ↔
      (∀ c ∈ text.head?, isBlank c = false) ∧ ∀ c ∈ text.getLast?, isBlank c = false := by
  constructor
  · intro same
    rw [← same]
    exact ⟨fun _ => isBlank_of_mem_head?_trimmed, fun _ => isBlank_of_mem_getLast?_trimmed⟩
  · rintro ⟨first, last⟩
    have backwards : dropBlanks text.reverse = text.reverse :=
      dropBlanks_eq_self (by simpa [List.head?_reverse] using last)
    rw [trimmed, dropBlanks_eq_self first, dropLastBlanks, backwards, List.reverse_reverse]

theorem exists_dropBlanks (text : List Char) : ∃ front, Blanks front ∧ front ++ dropBlanks text = text :=
  ⟨text.takeWhile isBlank, fun _ member => List.mem_takeWhile_imp member, List.takeWhile_append_dropWhile⟩

theorem exists_trimmed (text : List Char) :
    ∃ front back, Blanks front ∧ Blanks back ∧ front ++ trimmed text ++ back = text := by
  obtain ⟨front, blankFront, whole⟩ := exists_dropBlanks text
  obtain ⟨back, blankBack, rest⟩ := exists_dropBlanks (dropBlanks text).reverse
  refine ⟨front, back.reverse, blankFront, fun c member => blankBack c (List.mem_reverse.mp member), ?_⟩
  have backwards : trimmed text ++ back.reverse = dropBlanks text := by
    rw [trimmed, dropLastBlanks, ← List.reverse_append, rest, List.reverse_reverse]
  rw [List.append_assoc, backwards, whole]

theorem trimmed_blanks_append (blanks : Blanks front) (text : List Char) : trimmed (front ++ text) = trimmed text := by
  rw [trimmed, dropBlanks_append, if_pos (dropBlanks_eq_nil_iff.mpr blanks), trimmed]

end ReleaseImpact.Text
