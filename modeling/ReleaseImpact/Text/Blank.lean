/-!
Blank characters and trimming. Main statements:

- `isBlank_of_isWhitespace`: the four blanks of ASCII text are blanks here.
- `trimmed_trimmed`: trimming a second time changes nothing.
-/

namespace ReleaseImpact.Text

/-- White space of Unicode together with the four information separators. -/
def isBlank (c : Char) : Bool :=
  let n := c.toNat
  (9 ≤ n && n ≤ 13) || (28 ≤ n && n ≤ 32) || n == 0x85 || n == 0xA0 || n == 0x1680 ||
    (0x2000 ≤ n && n ≤ 0x200A) || n == 0x2028 || n == 0x2029 || n == 0x202F || n == 0x205F ||
    n == 0x3000

theorem isBlank_of_isWhitespace {c : Char} (h : c.isWhitespace = true) : isBlank c = true := by
  simp only [Char.isWhitespace, Bool.or_eq_true, decide_eq_true_eq] at h
  rcases h with ((h | h) | h) | h <;> subst h <;> decide

def dropBlanks : List Char → List Char := List.dropWhile isBlank

def dropLastBlanks (text : List Char) : List Char := (dropBlanks text.reverse).reverse

/-- The text without blanks at either end. -/
def trimmed (text : List Char) : List Char := dropLastBlanks (dropBlanks text)

def trim (text : String) : String := String.ofList (trimmed text.toList)

/-! ## Trimming twice -/

theorem dropWhile_idem (p : Char → Bool) (text : List Char) :
    (text.dropWhile p).dropWhile p = text.dropWhile p := by
  induction text with
  | nil => rfl
  | cons c rest ih => by_cases h : p c <;> simp [h, ih]

theorem dropBlanks_of_head {c : Char} (rest : List Char) (h : isBlank c = false) :
    dropBlanks (c :: rest) = c :: rest := by
  simp [dropBlanks, h]

theorem dropBlanks_append_of_not_blank {front back : List Char} {c : Char} (hc : isBlank c = false) :
    dropBlanks (front ++ c :: back) = dropBlanks front ++ c :: back := by
  induction front with
  | nil => simp [dropBlanks, hc]
  | cons d front ih =>
    by_cases h : isBlank d <;> simp_all [dropBlanks]

theorem head_dropBlanks {text rest : List Char} {c : Char} (h : dropBlanks text = c :: rest) :
    isBlank c = false := by
  induction text with
  | nil => simp [dropBlanks] at h
  | cons d text ih =>
    by_cases hd : isBlank d
    · exact ih (by simpa [dropBlanks, hd] using h)
    · simp [dropBlanks, hd] at h
      obtain ⟨rfl, _⟩ := h
      simpa using hd

theorem trimmed_trimmed (text : List Char) : trimmed (trimmed text) = trimmed text := by
  unfold trimmed dropLastBlanks
  cases h : dropBlanks text with
  | nil => simp [dropBlanks]
  | cons c rest =>
    have hc := head_dropBlanks h
    have step : dropBlanks (c :: rest).reverse = dropBlanks rest.reverse ++ [c] := by
      have := @dropBlanks_append_of_not_blank rest.reverse [] c hc
      simpa using this
    rw [step]
    simp only [List.reverse_append, List.reverse_cons, List.reverse_nil, List.nil_append,
      List.singleton_append]
    rw [dropBlanks_of_head _ hc]
    simp only [List.reverse_cons, List.reverse_reverse]
    rw [dropBlanks_append_of_not_blank hc]
    simp [dropBlanks, dropWhile_idem]

end ReleaseImpact.Text
