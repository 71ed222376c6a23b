import ReleaseImpact.Proofs.NextVersion
import ReleaseImpact.Proofs.Trimming

/-!
The texts that spell a version, and what becomes of them when a part is raised. Main statements:

- `Spelling.raiseVersion_text`: a text that spells a version is raised, unless a number in it or in the
  outcome is too long.
- `exists_spelling`: a text in which numerals are found spells a version.
- `raised_of_short`: the outcome is the plain text of the least version that counts as raised.
- `raiseVersion_answers`: which texts are raised, and what becomes of all others.
- `longVersion_fails`: a number that is too long ends a run without a report.
-/

namespace ReleaseImpact

namespace Text

theorem isBlank_eq_false_of_isDecimalDigit {c : Char} (digit : isDecimalDigit c = true) : isBlank c = false := by
  -- the runs of digits lie between the blanks
  have apart : ∀ z ∈ digitZeros, 32 < z ∧ z + 10 ≤ 0x85 ∨ 0xA0 < z ∧ z + 10 ≤ 0x1680 ∨
      0x1680 < z ∧ z + 10 ≤ 0x2000 ∨ 0x3000 < z := by decide
  obtain ⟨n, value⟩ := Option.isSome_iff_exists.mp digit
  obtain ⟨z, found, -⟩ := Option.map_eq_some_iff.mp value
  have bounds := List.find?_some found
  simp only [Bool.and_eq_true, decide_eq_true_eq] at bounds
  have := apart z (List.mem_of_find?_eq_some found)
  simp [isBlank]
  omega

theorem filterMap_digitValue? {run : List Char} (digits : ∀ c ∈ run, isDecimalDigit c = true) :
    run.mapM digitValue? = some (run.filterMap digitValue?) := by
  induction run with
  | nil => rfl
  | cons c rest ih =>
    obtain ⟨first, others⟩ := List.forall_mem_cons.mp digits
    obtain ⟨n, value⟩ := Option.isSome_iff_exists.mp first
    rw [List.mapM_cons, value, ih others, List.filterMap_cons_some value]
    rfl

theorem head?_decimal {n : Nat} (positive : 0 < n) : (decimal n).head? ≠ some '0' := by
  induction n using Nat.strongRecOn with
  | ind n ih =>
    by_cases small : n < 10
    · have digit : ∀ d < 10, 0 < d → [d.digitChar].head? ≠ some '0' := by decide
      rw [decimal, Nat.toDigits_of_lt_base small]
      exact digit n small positive
    · have more : 10 ≤ n := Nat.le_of_not_lt small
      have fewer : n / 10 < n := Nat.div_lt_self positive (by decide)
      have notEmpty : decimal (n / 10) ≠ [] := List.length_pos_iff.mp (length_decimal_pos _)
      have ends : decimal n = decimal (n / 10) ++ [(n % 10).digitChar] := Nat.toDigits_of_base_le (by decide) more
      rw [ends, List.head?_append_of_ne_nil _ notEmpty]
      exact ih (n / 10) fewer (Nat.div_pos more (by decide))

end Text

namespace Version

/-! ## Spellings -/

/-- A run of decimal digits of any scripts. -/
structure Numeral where
  digits : List Char
  filled : digits ≠ []
  decimal : ∀ c ∈ digits, Text.isDecimalDigit c = true

namespace Numeral

variable (n : Numeral)

def value : Nat := Text.spelled (n.digits.filterMap Text.digitValue?)

def Short : Prop := n.digits.length ≤ Text.maxNumeralLength

instance : Decidable n.Short := inferInstanceAs (Decidable (_ ≤ _))

theorem not_mem {c : Char} (other : Text.isDecimalDigit c = false) : c ∉ n.digits := by
  intro member
  rw [n.decimal c member] at other
  cases other

theorem isNumeral_digits : isNumeral n.digits = true := by
  rw [isNumeral, List.isEmpty_eq_false_iff.mpr n.filled, List.all_eq_true.mpr n.decimal]
  rfl

theorem readNat?_digits : Text.readNat? n.digits = some n.value := by
  rw [Text.readNat?, if_neg (by simp [n.filled]), Text.filterMap_digitValue? n.decimal]
  rfl

theorem readPart_of_short {n : Numeral} (short : n.Short) : readPart n.digits = .ok n.value := by
  rw [readPart, if_neg (Nat.not_lt.mpr short), readNat?_digits]
  rfl

theorem readPart_of_long {n : Numeral} (long : ¬ n.Short) : readPart n.digits = .error .longNumeral :=
  if_pos (Nat.not_le.mp long)

end Numeral

theorem exists_numeral {run : List Char} (numeral : isNumeral run = true) : ∃ n : Numeral, n.digits = run := by
  simp only [isNumeral, Bool.and_eq_true, Bool.not_eq_true', List.isEmpty_eq_false_iff, List.all_eq_true] at numeral
  exact ⟨⟨run, numeral.1, numeral.2⟩, rfl⟩

/-- Three runs of digits with points between them, behind an optional mark and with blanks around. -/
structure Spelling where
  front : List Char
  marked : Bool
  major : Numeral
  minor : Numeral
  patch : Numeral
  back : List Char
  blankFront : Text.Blanks front
  blankBack : Text.Blanks back

namespace Spelling

variable (s : Spelling)

def numerals : List Char := s.major.digits ++ '.' :: s.minor.digits ++ '.' :: s.patch.digits

def core : List Char := (if s.marked then ['v'] else []) ++ s.numerals

def text : String := String.ofList (s.front ++ s.core ++ s.back)

def version : Version := ⟨s.major.value, s.minor.value, s.patch.value⟩

def Short : Prop := s.major.Short ∧ s.minor.Short ∧ s.patch.Short

instance : Decidable s.Short := inferInstanceAs (Decidable (_ ∧ _))

theorem exists_digit_numerals : ∃ c rest, s.numerals = c :: rest ∧ Text.isDecimalDigit c = true := by
  obtain ⟨c, rest, first⟩ := List.exists_cons_of_ne_nil s.major.filled
  refine ⟨c, rest ++ '.' :: s.minor.digits ++ '.' :: s.patch.digits, by simp [numerals, first], ?_⟩
  exact s.major.decimal c (first ▸ List.mem_cons_self)

theorem withoutMark_core : withoutMark s.core = s.numerals := by
  unfold core
  split
  · rfl
  · obtain ⟨c, rest, first, digit⟩ := s.exists_digit_numerals
    rw [List.nil_append, first]
    unfold withoutMark
    split
    · next same =>
      obtain ⟨rfl, -⟩ := List.cons_eq_cons.mp same
      cases digit
    · rfl

theorem numerals?_core : numerals? s.core = some (s.major.digits, s.minor.digits, s.patch.digits) := by
  have parts : Text.splitOn '.' s.numerals = [s.major.digits, s.minor.digits, s.patch.digits] := by
    have noPoint (n : Numeral) : Text.splitOn '.' n.digits = [n.digits] :=
      Text.splitOn_of_not_mem (n.not_mem (by decide))
    rw [numerals, Text.splitOn_append, Text.splitOn_append, noPoint, noPoint, noPoint]
    rfl
  rw [numerals?, withoutMark_core, parts, threeNumerals?, Numeral.isNumeral_digits, Numeral.isNumeral_digits,
    Numeral.isNumeral_digits]
  rfl

theorem trimmed_core : Text.trimmed s.core = s.core := by
  have noBlank (n : Numeral) : ∀ c ∈ n.digits, Text.isBlank c = false := fun c member =>
    Text.isBlank_eq_false_of_isDecimalDigit (n.decimal c member)
  refine Text.trimmed_eq_self_iff.mpr ⟨fun c first => ?_, fun c last => ?_⟩
  · unfold core at first
    split at first
    · cases first
      decide
    · obtain ⟨d, rest, whole, digit⟩ := s.exists_digit_numerals
      rw [List.nil_append, whole] at first
      cases first
      exact Text.isBlank_eq_false_of_isDecimalDigit digit
  · have ends : s.core = ((if s.marked then ['v'] else []) ++ s.major.digits ++ '.' :: s.minor.digits ++ ['.']) ++
        s.patch.digits := by simp [core, numerals]
    rw [ends, List.getLast?_append_of_ne_nil _ s.patch.filled] at last
    exact noBlank s.patch c (List.mem_of_getLast? last)

theorem trimmed_text : Text.trimmed s.text.toList = s.core := by
  rw [text, String.toList_ofList, Text.trimmed_append_blanks s.blankBack, Text.trimmed_blanks_append s.blankFront,
    trimmed_core]

theorem read_text_eq : read s.text =
    (do return ⟨← readPart s.major.digits, ← readPart s.minor.digits, ← readPart s.patch.digits⟩) := by
  rw [read, trimmed_text, numerals?_core]

theorem read_of_short {s : Spelling} (short : s.Short) : read s.text = .ok s.version := by
  rw [read_text_eq, Numeral.readPart_of_short short.1, Numeral.readPart_of_short short.2.1,
    Numeral.readPart_of_short short.2.2]
  rfl

theorem read_of_long {s : Spelling} (long : ¬ s.Short) : read s.text = .error .longNumeral := by
  rw [read_text_eq]
  by_cases major : s.major.Short
  · rw [Numeral.readPart_of_short major]
    by_cases minor : s.minor.Short
    · have patch : ¬ s.patch.Short := fun patch => long ⟨major, minor, patch⟩
      rw [Numeral.readPart_of_short minor, Numeral.readPart_of_long patch]
      rfl
    · rw [Numeral.readPart_of_long minor]
      rfl
  · rw [Numeral.readPart_of_long major]
    rfl

end Spelling

theorem exists_spelling {text : String} {a b c : List Char}
    (found : numerals? (Text.trimmed text.toList) = some (a, b, c)) : ∃ s : Spelling, s.text = text := by
  obtain ⟨front, back, blankFront, blankBack, whole⟩ := Text.exists_trimmed text.toList
  unfold numerals? threeNumerals? at found
  split at found
  · next x y z parts =>
    split at found
    · next numerals =>
      simp only [Bool.and_eq_true] at numerals
      obtain ⟨major, rfl⟩ := exists_numeral numerals.1.1
      obtain ⟨minor, rfl⟩ := exists_numeral numerals.1.2
      obtain ⟨patch, rfl⟩ := exists_numeral numerals.2
      have joined : withoutMark (Text.trimmed text.toList) =
          major.digits ++ '.' :: minor.digits ++ '.' :: patch.digits := by
        rw [← Text.joinWith_splitOn '.' (withoutMark _), parts]
        simp [Text.joinWith]
      have marked : ∃ marked : Bool, Text.trimmed text.toList =
          (if marked then ['v'] else []) ++ withoutMark (Text.trimmed text.toList) := by
        unfold withoutMark
        split
        · next same => exact ⟨true, same⟩
        · exact ⟨false, rfl⟩
      obtain ⟨marked, core⟩ := marked
      refine ⟨⟨front, marked, major, minor, patch, back, blankFront, blankBack⟩, ?_⟩
      rw [← String.toList_inj, Spelling.text, String.toList_ofList, Spelling.core, Spelling.numerals, ← joined, ← core,
        whole]
    · cases found
  · cases found

/-! ## Plain texts -/

/-- A numeral of ASCII digits without superfluous zeros. -/
structure PlainNumeral (run : List Char) : Prop where
  filled : run ≠ []
  ascii : ∀ c ∈ run, c.isDigit = true
  noZero : run.head? = some '0' → run = ['0']

/-- Three plain numerals with points between them, and nothing else. -/
def PlainText (text : String) : Prop :=
  ∃ a b c, text.toList = a ++ '.' :: b ++ '.' :: c ∧ PlainNumeral a ∧ PlainNumeral b ∧ PlainNumeral c

theorem plainNumeral_decimal (n : Nat) : PlainNumeral (Text.decimal n) where
  filled := List.length_pos_iff.mp (Text.length_decimal_pos n)
  ascii _ member := Text.isDigit_of_mem_decimal member
  noZero first := by
    cases n with
    | zero => rfl
    | succ n => exact absurd first (Text.head?_decimal n.succ_pos)

theorem plainText_text (v : Version) : PlainText v.text :=
  ⟨_, _, _, by simp [toList_text, Text.joinWith], plainNumeral_decimal v.major, plainNumeral_decimal v.minor,
    plainNumeral_decimal v.patch⟩

namespace Numeral

def ofNat (n : Nat) : Numeral where
  digits := Text.decimal n
  filled := (plainNumeral_decimal n).filled
  decimal c member := Text.isDecimalDigit_of_isDigit ((plainNumeral_decimal n).ascii c member)

theorem value_ofNat (n : Nat) : (ofNat n).value = n := by
  have read : Text.readNat? (Text.decimal n) = some (ofNat n).value := (ofNat n).readNat?_digits
  exact (Option.some.inj ((Text.readNat?_decimal n).symm.trans read)).symm

end Numeral

/-- The spelling without a mark, blanks or superfluous zeros. -/
def spelling (v : Version) : Spelling where
  front := []
  marked := false
  major := .ofNat v.major
  minor := .ofNat v.minor
  patch := .ofNat v.patch
  back := []
  blankFront := nofun
  blankBack := nofun

theorem text_spelling (v : Version) : v.spelling.text = v.text := by
  rw [← String.toList_inj, toList_text]
  simp [Spelling.text, Spelling.core, Spelling.numerals, spelling, Numeral.ofNat, Text.joinWith]

theorem version_spelling (v : Version) : v.spelling.version = v := by
  simp [Spelling.version, spelling, Numeral.value_ofNat]

theorem short_spelling {v : Version} (printable : v.Printable) : v.spelling.Short :=
  ⟨printable.major, printable.minor, printable.patch⟩

theorem printPart_of_lt {n : Nat} (long : ¬ (Text.decimal n).length ≤ Text.maxNumeralLength) :
    printPart n = .error .longNumeral :=
  if_pos (Nat.not_le.mp long)

theorem print_of_not_printable {v : Version} (long : ¬ v.Printable) : v.print = .error .longNumeral := by
  unfold print
  by_cases major : (Text.decimal v.major).length ≤ Text.maxNumeralLength
  · rw [printPart_of_le major]
    by_cases minor : (Text.decimal v.minor).length ≤ Text.maxNumeralLength
    · rw [printPart_of_le minor, printPart_of_lt fun patch => long ⟨major, minor, patch⟩]
      rfl
    · rw [printPart_of_lt minor]
      rfl
  · rw [printPart_of_lt major]
    rfl

/-! ## Raising -/

namespace Spelling

theorem raiseVersion_text (s : Spelling) (level : Option Severity) : raiseVersion s.text level =
    if s.Short ∧ (s.version.raise level).Printable then .ok (s.version.raise level).text else .error .longNumeral := by
  unfold raiseVersion
  by_cases short : s.Short
  · rw [read_of_short short]
    show (s.version.raise level).print = _
    by_cases printable : (s.version.raise level).Printable
    · rw [print_of_printable printable, if_pos ⟨short, printable⟩]
    · rw [print_of_not_printable printable, if_neg fun both => printable both.2]
  · rw [read_of_long short, if_neg fun both => short both.1]
    rfl

theorem raiseVersion_eq_ok_iff {s : Spelling} {level : Option Severity} {told : String} :
    raiseVersion s.text level = .ok told ↔
      (s.Short ∧ (s.version.raise level).Printable) ∧ (s.version.raise level).text = told := by
  rw [raiseVersion_text]
  split
  · next fits => simp [fits]
  · next long => simp [long]

theorem eq_longNumeral_of_fails {s : Spelling} {level : Option Severity} {f : Failure}
    (fails : raiseVersion s.text level = .error f) : f = .longNumeral := by
  rw [raiseVersion_text] at fails
  split at fails <;> cases fails
  rfl

end Spelling

def partNames : List String := ["major", "minor", "patch"]

theorem ofPart?_eq_none {part : String} (other : part ∉ partNames) : Severity.ofPart? part = none := by
  unfold Severity.ofPart?
  split <;> simp_all [partNames]

/-- What counts as a version with a part raised. A name of no part leaves nothing but the version itself. -/
def Beyond (v w : Version) (part : String) : Prop :=
  match part with
  | "major" => v.major < w.major
  | "minor" => v.major < w.major ∨ v.major = w.major ∧ v.minor < w.minor
  | "patch" => v.lt w
  | _ => w = v

theorem beyond_iff_of_other {v w : Version} {part : String} (other : part ∉ partNames) :
    v.Beyond w part ↔ w = v := by
  unfold Beyond
  split <;> simp_all [partNames]

theorem eq_or_not_mem_partNames (part : String) :
    part = "major" ∨ part = "minor" ∨ part = "patch" ∨ part ∉ partNames := by
  by_cases known : part ∈ partNames
  · simp only [partNames, List.mem_cons, List.not_mem_nil, or_false] at known
    exact known.imp_right (Or.imp_right .inl)
  · exact .inr (.inr (.inr known))

theorem beyond_raise (v : Version) (part : String) : v.Beyond (v.raise (Severity.ofPart? part)) part := by
  rcases eq_or_not_mem_partNames part with rfl | rfl | rfl | other
  · exact Nat.lt_succ_self v.major
  · exact .inr ⟨rfl, Nat.lt_succ_self v.minor⟩
  · exact .inr ⟨rfl, .inr ⟨rfl, Nat.lt_succ_self v.patch⟩⟩
  · rw [beyond_iff_of_other other, ofPart?_eq_none other, raise_none]

theorem raise_le_of_beyond {v w : Version} {part : String} (beyond : v.Beyond w part) :
    (v.raise (Severity.ofPart? part)).le w := by
  rcases eq_or_not_mem_partNames part with rfl | rfl | rfl | other
  · have more : v.major < w.major := beyond
    simp only [Severity.ofPart?, raise, le]
    omega
  · have more : v.major < w.major ∨ v.major = w.major ∧ v.minor < w.minor := beyond
    simp only [Severity.ofPart?, raise, le]
    omega
  · have more : v.lt w := beyond
    unfold lt at more
    simp only [Severity.ofPart?, raise, le]
    omega
  · rw [(beyond_iff_of_other other).mp beyond, ofPart?_eq_none other]
    exact v.le_raise none

/-- What becomes of a text that spells a version when a part is raised. -/
structure Raised (s : Spelling) (part : String) (w : Version) : Prop where
  told : raiseVersion s.text (Severity.ofPart? part) = .ok w.text
  plain : PlainText w.text
  spelt : ∃ t : Spelling, t.text = w.text ∧ t.Short ∧ t.version = w
  kept : ∀ other, other ∉ partNames → raiseVersion w.text (Severity.ofPart? other) = .ok w.text
  beyond : s.version.Beyond w part
  least : ∀ u : Version, s.version.Beyond u part → w.le u
  same : ∀ t : Spelling, t.Short → t.version = s.version →
    raiseVersion t.text (Severity.ofPart? part) = .ok w.text

theorem raised_of_short {s : Spelling} {part : String} (short : s.Short)
    (fits : (s.version.raise (Severity.ofPart? part)).Printable) :
    Raised s part (s.version.raise (Severity.ofPart? part)) where
  told := by rw [Spelling.raiseVersion_text, if_pos ⟨short, fits⟩]
  plain := plainText_text _
  spelt := ⟨_, text_spelling _, short_spelling fits, version_spelling _⟩
  kept other unknown := by
    rw [ofPart?_eq_none unknown]
    exact raiseVersion_of_read (read_text fits) fits
  beyond := s.version.beyond_raise part
  least u beyond := raise_le_of_beyond beyond
  same t short' value := by rw [Spelling.raiseVersion_text, value, if_pos ⟨short', fits⟩]

/-- Digits of three scripts with superfluous zeros, between blanks. -/
def mixedSpelling : Spelling where
  front := ['\u2003']
  marked := true
  major := ⟨['٠', '7'], nofun, List.all_eq_true.mp rfl⟩
  minor := ⟨['４'], nofun, List.all_eq_true.mp rfl⟩
  patch := ⟨['०', '9'], nofun, List.all_eq_true.mp rfl⟩
  back := [' ', '\n']
  blankFront := by decide
  blankBack := by decide

theorem raised_of_short_mixed :
    mixedSpelling.text = "\u2003v٠7.４.०9 \n" ∧ mixedSpelling.Short ∧ Raised mixedSpelling "minor" ⟨7, 5, 0⟩ := by
  have value : mixedSpelling.version.raise (Severity.ofPart? "minor") = ⟨7, 5, 0⟩ := by decide
  refine ⟨by decide, by decide, ?_⟩
  rw [← value]
  exact raised_of_short (by decide) (by decide)

/-! ## Texts that are raised, and all others -/

def refusal (text : String) : Failure := .problem (.invalidValue "current_version" (.text text) "expected X.Y.Z")

theorem raiseVersion_of_no_spelling {text : String} (no : ¬ ∃ s : Spelling, s.text = text) (level : Option Severity) :
    raiseVersion text level = .error (refusal text) := by
  have none : numerals? (Text.trimmed text.toList) = none :=
    Option.eq_none_iff_forall_not_mem.mpr fun found there => no (exists_spelling there)
  unfold raiseVersion read
  rw [none]
  rfl

/-- A text is raised just if it spells a version and no number is too long on the way. What spells no version is
refused, and long numbers are the only other reason to fail. -/
theorem raiseVersion_answers (text part : String) :
    ((∃ told, raiseVersion text (Severity.ofPart? part) = .ok told) ↔ ∃ s : Spelling, s.text = text ∧ s.Short ∧
        (s.version.raise (Severity.ofPart? part)).Printable) ∧
      (raiseVersion text (Severity.ofPart? part) = .error (refusal text) ↔ ¬ ∃ s : Spelling, s.text = text) ∧
      ∀ f, raiseVersion text (Severity.ofPart? part) = .error f → f = refusal text ∨ f = .longNumeral := by
  by_cases spelt : ∃ s : Spelling, s.text = text
  · refine ⟨⟨?_, ?_⟩, ⟨?_, fun no => absurd spelt no⟩, ?_⟩
    · rintro ⟨told, raised⟩
      obtain ⟨s, rfl⟩ := spelt
      obtain ⟨fits, -⟩ := Spelling.raiseVersion_eq_ok_iff.mp raised
      exact ⟨s, rfl, fits⟩
    · rintro ⟨s, rfl, fits⟩
      exact ⟨_, Spelling.raiseVersion_eq_ok_iff.mpr ⟨fits, rfl⟩⟩
    · intro refused
      obtain ⟨s, rfl⟩ := spelt
      cases Spelling.eq_longNumeral_of_fails refused
    · intro f fails
      obtain ⟨s, rfl⟩ := spelt
      exact .inr (Spelling.eq_longNumeral_of_fails fails)
  · have refused := raiseVersion_of_no_spelling spelt (Severity.ofPart? part)
    refine ⟨⟨?_, ?_⟩, ⟨fun _ => spelt, fun _ => refused⟩, ?_⟩
    · rintro ⟨told, raised⟩
      cases refused.symm.trans raised
    · rintro ⟨s, same, -⟩
      exact absurd ⟨s, same⟩ spelt
    · intro f fails
      cases refused.symm.trans fails
      exact .inl rfl

namespace Numeral

def nines (more : Nat) : Numeral where
  digits := List.replicate (more + 1) '9'
  filled := nofun
  decimal c member := by
    rw [List.eq_of_mem_replicate member]
    decide

theorem short_nines_iff {more : Nat} : (nines more).Short ↔ more < Text.maxNumeralLength := by
  rw [Short, nines, List.length_replicate]
  exact Nat.succ_le_iff

end Numeral

/-- A version whose first number has one digit more than numerals may have. -/
def longSpelling : Spelling where
  front := []
  marked := false
  major := .nines 4300
  minor := .ofNat 0
  patch := .ofNat 0
  back := []
  blankFront := nofun
  blankBack := nofun

/-- Long numbers end a run though the text spells a version, and they are not reported. -/
theorem longVersion_fails :
    raiseVersion longSpelling.text (Severity.ofPart? "patch") = .error .longNumeral ∧
      Failure.longNumeral ≠ refusal longSpelling.text ∧ Failure.longNumeral.problem? = none := by
  have long : ¬ longSpelling.Short := fun short => absurd (Numeral.short_nines_iff.mp short.1) (by decide)
  refine ⟨?_, nofun, rfl⟩
  rw [Spelling.raiseVersion_text, if_neg fun fits => long fits.1]

end Version

end ReleaseImpact
