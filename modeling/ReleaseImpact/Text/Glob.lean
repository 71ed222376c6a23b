/-!
Wildcard patterns for file names: a star stands for any run of characters, a question mark for one,
and brackets for one character of a set. Main statements:

- `glob_iff_of_literal`: a pattern without marks accepts only itself.
- `matches_anyRun`: the star alone accepts every name.
-/

namespace ReleaseImpact.Text

/-- A set of characters between brackets, as ranges with both ends included. -/
structure CharSet where
  negated : Bool
  ranges : List (Char × Char)
  deriving DecidableEq, Repr

def CharSet.holds (s : CharSet) (c : Char) : Bool :=
  (s.ranges.any fun r => r.1 ≤ c && c ≤ r.2) != s.negated

inductive GlobPart
  | anyRun
  | anyOne
  | oneOf (set : CharSet)
  | exactly (c : Char)
  deriving DecidableEq, Repr

/-- What opens a set beyond its bracket: an exclamation mark and a closing bracket that comes first
belong to the set. -/
def setHead : List Char → List Char × List Char
  | '!' :: ']' :: rest => (['!', ']'], rest)
  | '!' :: rest => (['!'], rest)
  | ']' :: rest => ([']'], rest)
  | rest => ([], rest)

/-- The text of a set up to the bracket that closes it, and the text after that. -/
def cutSet? (text : List Char) : Option (List Char × List Char) :=
  match (setHead text).2.dropWhile (· ≠ ']') with
  | [] => none
  | _ :: after => some ((setHead text).1 ++ (setHead text).2.takeWhile (· ≠ ']'), after)

/-- The ranges that the text of a set writes; a range whose ends are out of order is empty. -/
def setRanges : List Char → List (Char × Char)
  | lo :: '-' :: hi :: rest => (lo, hi) :: setRanges rest
  | c :: rest => (c, c) :: setRanges rest
  | [] => []

/-- The text of a set without the empty ranges at its start. -/
def withoutEmptyRanges : List Char → List Char
  | lo :: '-' :: hi :: rest => if hi < lo then withoutEmptyRanges rest else lo :: '-' :: hi :: rest
  | text => text

/-- The set that a text writes. An exclamation mark negates it where it comes first, also behind empty
ranges. -/
def charSet : List Char → CharSet
  | '!' :: rest => ⟨true, setRanges rest⟩
  | text =>
    match withoutEmptyRanges text with
    | '!' :: rest => ⟨true, setRanges rest⟩
    | rest => ⟨false, setRanges rest⟩

theorem length_setHead_le (text : List Char) : (setHead text).2.length ≤ text.length := by
  unfold setHead
  split <;> simp only [List.length_cons] <;> omega

theorem length_cutSet {text : List Char} {cut : List Char × List Char} (h : cutSet? text = some cut) :
    cut.2.length < text.length := by
  unfold cutSet? at h
  split at h
  · contradiction
  · next c after hd =>
    have hle := (List.dropWhile_suffix (· ≠ ']') (l := (setHead text).2)).length_le
    have := length_setHead_le text
    rw [hd, List.length_cons] at hle
    injection h with h
    subst h
    show after.length < _
    omega

/-- The parts of a pattern; a bracket that is never closed stands for itself. -/
def globParts : List Char → List GlobPart
  | [] => []
  | '*' :: rest => .anyRun :: globParts rest
  | '?' :: rest => .anyOne :: globParts rest
  | '[' :: rest =>
    match h : cutSet? rest with
    | some cut =>
      have := length_cutSet h
      .oneOf (charSet cut.1) :: globParts cut.2
    | none => .exactly '[' :: globParts rest
  | c :: rest => .exactly c :: globParts rest
termination_by text => text.length
decreasing_by all_goals simp only [List.length_cons]; omega

def globMatches : List GlobPart → List Char → Bool
  | [], text => text.isEmpty
  | .anyRun :: parts, [] => globMatches parts []
  | .anyRun :: parts, c :: text =>
    globMatches parts (c :: text) || globMatches (.anyRun :: parts) text
  | .anyOne :: parts, _ :: text => globMatches parts text
  | .oneOf set :: parts, c :: text => set.holds c && globMatches parts text
  | .exactly d :: parts, c :: text => c == d && globMatches parts text
  | _ :: _, [] => false
termination_by parts text => (parts.length, text.length)

/-- Whether a whole name matches a pattern. -/
def glob (pattern name : String) : Bool := globMatches (globParts pattern.toList) name.toList

theorem matches_anyRun (text : List Char) : globMatches [.anyRun] text = true := by
  induction text with
  | nil => simp [globMatches]
  | cons c text ih => simp [globMatches, ih]

theorem matches_literal (name text : List Char) :
    globMatches (name.map .exactly) text = true ↔ text = name := by
  induction name generalizing text with
  | nil => cases text <;> simp [globMatches]
  | cons c name ih => cases text <;> simp [globMatches, ih]

/-- A character that stands for itself in patterns. -/
def isLiteral (c : Char) : Bool := c ≠ '*' && c ≠ '?' && c ≠ '['

theorem globParts_of_literal {name : List Char} (h : ∀ c ∈ name, isLiteral c = true) :
    globParts name = name.map .exactly := by
  induction name with
  | nil => simp [globParts]
  | cons c rest ih =>
    have hc := h c List.mem_cons_self
    simp only [isLiteral, Bool.and_eq_true, decide_eq_true_eq, ne_eq] at hc
    rw [globParts, ih fun d hd => h d (List.mem_cons_of_mem _ hd), List.map_cons] <;> grind

theorem glob_iff_of_literal {pattern name : String} (h : pattern.toList.all isLiteral = true) :
    glob pattern name = true ↔ name = pattern := by
  rw [glob, globParts_of_literal (List.all_eq_true.1 h), matches_literal, String.toList_inj]

end ReleaseImpact.Text
