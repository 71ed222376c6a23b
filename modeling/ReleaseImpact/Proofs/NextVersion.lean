import ReleaseImpact.Version

/-!
The version to release after a report that grows. Main statements:

- `Version.read_text`: the text of a version is read as that version.
- `Version.le_raise_of_rank_le`: a heavier severity raises a version at least as far.
- `Report.rank_add` and `Report.exists_highest_addAll`: a further change, or any number of them, never
  makes a report weigh less.
- `nextVersion_addAll`: the version after a report and after what is added to it.
-/

namespace ReleaseImpact

/-! ## Texts of versions -/

namespace Version

/-- The numeral of each part is short enough to be written. -/
structure Printable (v : Version) : Prop where
  major : (Text.decimal v.major).length ≤ Text.maxNumeralLength
  minor : (Text.decimal v.minor).length ≤ Text.maxNumeralLength
  patch : (Text.decimal v.patch).length ≤ Text.maxNumeralLength

instance (v : Version) : Decidable v.Printable :=
  decidable_of_iff
    ((Text.decimal v.major).length ≤ Text.maxNumeralLength ∧
      (Text.decimal v.minor).length ≤ Text.maxNumeralLength ∧
      (Text.decimal v.patch).length ≤ Text.maxNumeralLength)
    ⟨fun ⟨major, minor, patch⟩ => ⟨major, minor, patch⟩, fun h => ⟨h.major, h.minor, h.patch⟩⟩

def text (v : Version) : String :=
  Text.decimalText v.major ++ "." ++ Text.decimalText v.minor ++ "." ++ Text.decimalText v.patch

theorem printPart_of_le {n : Nat} (short : (Text.decimal n).length ≤ Text.maxNumeralLength) :
    printPart n = .ok (Text.decimalText n) :=
  if_neg (Nat.not_lt.mpr short)

theorem print_of_printable {v : Version} (printable : v.Printable) : v.print = .ok v.text := by
  unfold print
  rw [printPart_of_le printable.major, printPart_of_le printable.minor, printPart_of_le printable.patch]
  rfl

theorem readPart_decimal {n : Nat} (short : (Text.decimal n).length ≤ Text.maxNumeralLength) :
    readPart (Text.decimal n) = .ok n := by
  rw [readPart, if_neg (Nat.not_lt.mpr short), Text.readNat?_decimal]
  rfl

theorem isNumeral_decimal (n : Nat) : isNumeral (Text.decimal n) = true := by
  have notEmpty : (Text.decimal n).isEmpty = false :=
    List.isEmpty_eq_false_iff.mpr (List.length_pos_iff.mp (Text.length_decimal_pos n))
  have digits : (Text.decimal n).all Text.isDecimalDigit = true :=
    List.all_eq_true.mpr fun _ member =>
      Text.isDecimalDigit_of_isDigit (Text.isDigit_of_mem_decimal member)
  rw [isNumeral, notEmpty, digits]
  rfl

theorem toList_text (v : Version) :
    v.text.toList =
      Text.joinWith '.' [Text.decimal v.major, Text.decimal v.minor, Text.decimal v.patch] := by
  simp [text, Text.decimalText, Text.joinWith]

theorem isBlank_eq_false_of_isDigit {c : Char} (digit : c.isDigit = true) : Text.isBlank c = false := by
  have bounds : 48 ≤ c.toNat ∧ c.toNat ≤ 57 := by
    simp only [Char.isDigit, Bool.and_eq_true, decide_eq_true_eq] at digit
    exact ⟨UInt32.le_iff_toNat_le.1 digit.1, UInt32.le_iff_toNat_le.1 digit.2⟩
  simp [Text.isBlank]
  omega

theorem trimmed_of_ends {front back : Char} {middle : List Char} (first : Text.isBlank front = false)
    (last : Text.isBlank back = false) :
    Text.trimmed (front :: (middle ++ [back])) = front :: (middle ++ [back]) := by
  rw [Text.trimmed, Text.dropBlanks_of_head _ first, Text.dropLastBlanks, List.reverse_cons,
    List.reverse_append, List.reverse_singleton, List.singleton_append, List.cons_append,
    Text.dropBlanks_of_head _ last]
  simp

theorem exists_ends_decimal (n : Nat) :
    (∃ c rest, Text.decimal n = c :: rest ∧ c.isDigit = true) ∧
      ∃ front c, Text.decimal n = front ++ [c] ∧ c.isDigit = true := by
  have notEmpty : Text.decimal n ≠ [] := List.length_pos_iff.mp (Text.length_decimal_pos n)
  constructor
  · obtain ⟨c, rest, whole⟩ := List.exists_cons_of_ne_nil notEmpty
    exact ⟨c, rest, whole, Text.isDigit_of_mem_decimal (whole ▸ List.mem_cons_self)⟩
  · refine ⟨_, _, (List.dropLast_concat_getLast notEmpty).symm, ?_⟩
    exact Text.isDigit_of_mem_decimal (List.getLast_mem notEmpty)

theorem trimmed_text (v : Version) : Text.trimmed v.text.toList = v.text.toList := by
  obtain ⟨⟨c, rest, first, digit⟩, -⟩ := exists_ends_decimal v.major
  obtain ⟨-, front, d, last, digit'⟩ := exists_ends_decimal v.patch
  have ends : v.text.toList = c :: (rest ++ '.' :: Text.decimal v.minor ++ '.' :: front ++ [d]) := by
    simp [toList_text, Text.joinWith, first, last]
  rw [ends]
  exact trimmed_of_ends (isBlank_eq_false_of_isDigit digit) (isBlank_eq_false_of_isDigit digit')

theorem withoutMark_text (v : Version) : withoutMark v.text.toList = v.text.toList := by
  obtain ⟨⟨c, rest, first, digit⟩, -⟩ := exists_ends_decimal v.major
  have begins : v.text.toList = c :: (rest ++ '.' :: Text.decimal v.minor ++ '.' :: Text.decimal v.patch) := by
    simp [toList_text, Text.joinWith, first]
  rw [begins]
  unfold withoutMark
  split
  · next same =>
    obtain ⟨rfl, -⟩ := List.cons_eq_cons.mp same
    cases digit
  · rfl

theorem numerals?_text (v : Version) :
    numerals? v.text.toList =
      some (Text.decimal v.major, Text.decimal v.minor, Text.decimal v.patch) := by
  have noPoint (n : Nat) : '.' ∉ Text.decimal n := fun member => by
    cases Text.isDigit_of_mem_decimal member
  have parts : Text.splitOn '.' v.text.toList =
      [Text.decimal v.major, Text.decimal v.minor, Text.decimal v.patch] := by
    rw [toList_text]
    refine Text.splitOn_joinWith (fun part member => ?_) (List.cons_ne_nil _ _)
    simp only [List.mem_cons, List.not_mem_nil, or_false] at member
    obtain rfl | rfl | rfl := member <;> exact noPoint _
  rw [numerals?, withoutMark_text, parts, threeNumerals?, isNumeral_decimal, isNumeral_decimal,
    isNumeral_decimal]
  rfl

theorem read_text {v : Version} (printable : v.Printable) : read v.text = .ok v := by
  unfold read
  rw [trimmed_text, numerals?_text]
  simp only [readPart_decimal printable.major, readPart_decimal printable.minor,
    readPart_decimal printable.patch]
  rfl

/-! ## Raising -/

/-- The order of different versions: the first part that differs is less. -/
def lt (v w : Version) : Prop :=
  v.major < w.major ∨ v.major = w.major ∧ (v.minor < w.minor ∨ v.minor = w.minor ∧ v.patch < w.patch)

theorem not_lt_self (v : Version) : ¬v.lt v := by
  simp [lt]

theorem lt_raise (v : Version) (s : Severity) : v.lt (v.raise (some s)) := by
  cases s <;> simp [raise, lt]

theorem le_raise_of_rank_le (v : Version) {s t : Severity} (heavier : s.rank ≤ t.rank) :
    (v.raise (some s)).le (v.raise (some t)) := by
  cases s <;> cases t <;> simp [raise, le, Severity.rank] at heavier ⊢

end Version

theorem Severity.ofPart?_part (s : Severity) : Severity.ofPart? s.part = some s := by
  cases s <;> rfl

/-! ## Reports that grow -/

namespace Report

/-- The heaviest severity: a change has it, and no change weighs more. -/
structure Highest (r : Report) (s : Severity) : Prop where
  occurs : ∃ e ∈ r.entries, e.2.severity = s
  bounds : ∀ e ∈ r.entries, e.2.severity.rank ≤ s.rank

theorem mem_severities_iff {r : Report} {s : Severity} :
    s ∈ (r.changes none).map Change.severity ↔ ∃ e ∈ r.entries, e.2.severity = s := by
  simp [changes_none]

theorem level?_eq_some_iff {r : Report} {s : Severity} : r.level? none = some s ↔ r.Highest s := by
  have of_level {t : Severity} (level : r.level? none = some t) : r.Highest t :=
    ⟨mem_severities_iff.mp (heaviest?_mem level), fun e member =>
      rank_le_of_heaviest? level (mem_severities_iff.mpr ⟨e, member, rfl⟩)⟩
  refine ⟨of_level, fun highest => ?_⟩
  obtain ⟨e, member, rfl⟩ := highest.occurs
  cases level : r.level? none with
  | none => exact absurd member (by simp [level?_eq_none_iff.mp level])
  | some t =>
    obtain ⟨e', member', rfl⟩ := (of_level level).occurs
    have same := Nat.le_antisymm (highest.bounds e' member') ((of_level level).bounds e member)
    rw [Severity.rank_injective same]

/-- The report after changes are added one by one. -/
def addAll (r : Report) (more : List (String × Change)) : Report :=
  more.foldl (fun r e => r.add e.1 e.2) r

theorem rank_add {r : Report} {s t : Severity} {domain : String} {c : Change} (before : r.Highest s)
    (after : (r.add domain c).Highest t) : s.rank ≤ t.rank := by
  obtain ⟨e, member, rfl⟩ := before.occurs
  exact after.bounds e (List.mem_append_left _ member)

theorem exists_highest_add (r : Report) (domain : String) (c : Change) :
    ∃ s, (r.add domain c).Highest s := by
  cases level : (r.add domain c).level? none with
  | none => exact absurd (level?_eq_none_iff.mp level) (by simp [add])
  | some s => exact ⟨s, level?_eq_some_iff.mp level⟩

theorem exists_highest_addAll {r : Report} {s : Severity} (highest : r.Highest s)
    (more : List (String × Change)) : ∃ t, (r.addAll more).Highest t ∧ s.rank ≤ t.rank := by
  induction more generalizing r s with
  | nil => exact ⟨s, highest, Nat.le_refl _⟩
  | cons e rest ih =>
    obtain ⟨u, next⟩ := r.exists_highest_add e.1 e.2
    obtain ⟨t, last, heavier⟩ := ih next
    exact ⟨t, last, Nat.le_trans (rank_add highest next) heavier⟩

end Report

theorem raiseVersion_of_read {current : String} {v : Version} {level : Option Severity}
    (valid : Version.read current = .ok v) (fits : (v.raise level).Printable) :
    raiseVersion current level = .ok (v.raise level).text := by
  unfold raiseVersion
  rw [valid]
  exact Version.print_of_printable fits

/-- The version to release after a report: its text, and how it stands to the current version. -/
structure Releases (current : String) (v : Version) (r : Report) (w : Version) : Prop where
  told : nextVersion current r = .ok w.text
  reads : Version.read w.text = .ok w
  raised : ∀ s, r.Highest s → raiseVersion current (Severity.ofPart? s.part) = .ok w.text
  kept : r.entries = [] → w = v
  later : v.lt w ↔ r.entries ≠ []
  same : ∀ r' : Report, (∀ s, r'.Highest s ↔ r.Highest s) → nextVersion current r' = .ok w.text

theorem releases_raise {current : String} {v : Version} {r : Report}
    (valid : Version.read current = .ok v) (fits : (v.raise (r.level? none)).Printable) :
    Releases current v r (v.raise (r.level? none)) where
  told := raiseVersion_of_read valid fits
  reads := Version.read_text fits
  raised s highest := by
    rw [Severity.ofPart?_part, ← Report.level?_eq_some_iff.mpr highest]
    exact raiseVersion_of_read valid fits
  kept empty := by rw [Report.level?_eq_none_iff.mpr empty, Version.raise_none]
  later := by
    rw [ne_eq, ← Report.level?_eq_none_iff]
    cases r.level? none with
    | none => simp [Version.raise_none, Version.not_lt_self]
    | some s => simp [Version.lt_raise]
  same r' highest := by
    have level : r'.level? none = r.level? none := by
      refine Option.ext fun s => ?_
      rw [Report.level?_eq_some_iff, Report.level?_eq_some_iff]
      exact highest s
    rw [nextVersion, level]
    exact raiseVersion_of_read valid fits

/-- What is added to a report never takes the version to release back. -/
theorem nextVersion_addAll {current : String} {v : Version} {r : Report} {more : List (String × Change)}
    (valid : Version.read current = .ok v) (fits : (v.raise (r.level? none)).Printable)
    (fitsMore : (v.raise ((r.addAll more).level? none)).Printable) :
    ∃ before after, Releases current v r before ∧ Releases current v (r.addAll more) after ∧
      before.le after := by
  refine ⟨_, _, releases_raise valid fits, releases_raise valid fitsMore, ?_⟩
  cases level : r.level? none with
  | none => exact v.le_raise _
  | some s =>
    obtain ⟨t, highest, heavier⟩ :=
      Report.exists_highest_addAll (Report.level?_eq_some_iff.mp level) more
    rw [Report.level?_eq_some_iff.mpr highest]
    exact v.le_raise_of_rank_le heavier

theorem nextVersion_addAll_removed :
    Version.read " v1.4.9\n" = .ok ⟨1, 4, 9⟩ ∧
      ∃ before after : Version,
        Releases " v1.4.9\n" ⟨1, 4, 9⟩
            ⟨[(systemDomain, ⟨.fieldAdded, "etc/adminhtml/system.xml", "a/b/c"⟩)]⟩ before ∧
          Releases " v1.4.9\n" ⟨1, 4, 9⟩
            (Report.addAll ⟨[(systemDomain, ⟨.fieldAdded, "etc/adminhtml/system.xml", "a/b/c"⟩)]⟩
              [(diDomain, ⟨.virtualTypeRemoved, "etc/di.xml", "cart"⟩),
                (systemDomain, ⟨.groupAdded, "etc/adminhtml/system.xml", "a/d"⟩)]) after ∧
          before.le after :=
  ⟨by cbv, nextVersion_addAll (by cbv) (by decide) (by decide)⟩

end ReleaseImpact
