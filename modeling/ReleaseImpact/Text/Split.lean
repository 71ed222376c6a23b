/-!
Cutting text at a separator and putting it together again. Main statements:

- `joinWith_splitOn`: joining what a split gives restores the text.
- `splitOn_joinWith`: parts without the separator are found again in what they are joined to.
- `splitOn_append` and `join_append`: splitting and joining what stands around a separator.
- `splitOn_ne_nil`: a split has at least one part.
- `splitOn_of_not_mem`: text without the separator is one part.
- `append_slash_inj`: the last slash of a text parts it in one way only.
- `occursIn_iff_infix`: what stands in a text is an infix of it.
-/

namespace ReleaseImpact.Text

/-- The parts between the separators, empty ones included. -/
def splitOn (sep : Char) : List Char → List (List Char)
  | [] => [[]]
  | c :: rest =>
    if c = sep then [] :: splitOn sep rest
    else
      match splitOn sep rest with
      | [] => [[c]]
      | part :: parts => (c :: part) :: parts

def joinWith (sep : Char) : List (List Char) → List Char
  | [] => []
  | [part] => part
  | part :: parts => part ++ sep :: joinWith sep parts

theorem splitOn_ne_nil (sep : Char) (text : List Char) : splitOn sep text ≠ [] := by
  cases text with
  | nil => simp [splitOn]
  | cons c rest =>
    by_cases h : c = sep
    · simp [splitOn, h]
    · simp only [splitOn, h, if_false]
      split <;> simp

theorem joinWith_splitOn (sep : Char) (text : List Char) :
    joinWith sep (splitOn sep text) = text := by
  induction text with
  | nil => rfl
  | cons c rest ih =>
    have hne := splitOn_ne_nil sep rest
    cases hs : splitOn sep rest with
    | nil => exact absurd hs hne
    | cons part parts =>
      rw [hs] at ih
      by_cases h : c = sep
      · simp [splitOn, h, hs, joinWith, ih]
      · cases parts <;> simp_all [splitOn, joinWith]

theorem splitOn_of_not_mem {sep : Char} {text : List Char} (h : sep ∉ text) :
    splitOn sep text = [text] := by
  induction text with
  | nil => rfl
  | cons c rest ih =>
    simp only [List.mem_cons, not_or] at h
    simp [splitOn, Ne.symm h.1, ih h.2]

theorem splitOn_append (sep : Char) (front back : List Char) :
    splitOn sep (front ++ sep :: back) = splitOn sep front ++ splitOn sep back := by
  induction front with
  | nil => simp [splitOn]
  | cons c front ih =>
    have hne := splitOn_ne_nil sep front
    cases hs : splitOn sep front with
    | nil => exact absurd hs hne
    | cons part parts =>
      rw [hs] at ih
      by_cases h : c = sep <;> simp [splitOn, h, ih, hs]

theorem splitOn_joinWith {sep : Char} {parts : List (List Char)} (h : ∀ p ∈ parts, sep ∉ p)
    (nonempty : parts ≠ []) : splitOn sep (joinWith sep parts) = parts := by
  induction parts with
  | nil => exact absurd rfl nonempty
  | cons part rest ih =>
    obtain ⟨first, others⟩ := List.forall_mem_cons.1 h
    cases rest with
    | nil => exact splitOn_of_not_mem first
    | cons next rest => simp [joinWith, splitOn_append, splitOn_of_not_mem first, ih others]

theorem joinWith_append (sep : Char) {front back : List (List Char)} (hf : front ≠ []) (hb : back ≠ []) :
    joinWith sep (front ++ back) = joinWith sep front ++ sep :: joinWith sep back := by
  induction front with
  | nil => exact absurd rfl hf
  | cons part rest ih =>
    cases rest with
    | nil =>
      cases back with
      | nil => exact absurd rfl hb
      | cons next back => rfl
    | cons next rest => simpa [joinWith] using ih (by simp)

def split (sep : Char) (text : String) : List String :=
  (splitOn sep text.toList).map String.ofList

def join (sep : Char) (parts : List String) : String :=
  String.ofList (joinWith sep (parts.map String.toList))

theorem split_join {sep : Char} {parts : List String} (h : ∀ p ∈ parts, sep ∉ p.toList)
    (nonempty : parts ≠ []) : split sep (join sep parts) = parts := by
  rw [split, join, String.toList_ofList, splitOn_joinWith (by simpa using h) (by simpa using nonempty)]
  simp

theorem join_split (text : String) : join '/' (split '/' text) = text := by
  rw [join, split, List.map_map, Function.comp_def]
  simp only [String.toList_ofList, List.map_id', joinWith_splitOn, String.ofList_toList]

theorem join_append {front back : List String} (hf : front ≠ []) (hb : back ≠ []) :
    join '/' (front ++ back) = join '/' front ++ "/" ++ join '/' back := by
  have fronts : front.map String.toList ≠ [] := by simpa using hf
  have backs : back.map String.toList ≠ [] := by simpa using hb
  apply String.toList_inj.1
  simp [join, joinWith_append '/' fronts backs]

theorem join_singleton (part : String) : join '/' [part] = part := by simp [join, joinWith]

theorem join_append_singleton {parts : List String} (nonempty : parts ≠ []) (last : String) :
    join '/' (parts ++ [last]) = join '/' parts ++ "/" ++ last := by
  rw [join_append nonempty (List.cons_ne_nil _ _), join_singleton]

theorem utf8ByteSize_join_le (front back : List String) :
    (join '/' front).utf8ByteSize ≤ (join '/' (front ++ back)).utf8ByteSize := by
  by_cases ends : front = [] ∨ back = []
  · rcases ends with rfl | rfl
    · exact Nat.zero_le _
    · exact Nat.le_of_eq (by rw [List.append_nil])
  · obtain ⟨front, back⟩ := not_or.mp ends
    rw [join_append front back, String.utf8ByteSize_append, String.utf8ByteSize_append]
    omega

theorem split_append (front back : String) :
    split '/' (front ++ "/" ++ back) = split '/' front ++ split '/' back := by
  simp [split, splitOn_append]

theorem split_of_not_mem {text : String} (free : '/' ∉ text.toList) : split '/' text = [text] := by
  rw [split, splitOn_of_not_mem free, List.map_singleton, String.ofList_toList]

theorem append_slash_inj {front front' last last' : String} (free : '/' ∉ last.toList)
    (free' : '/' ∉ last'.toList) (same : front ++ "/" ++ last = front' ++ "/" ++ last') :
    front = front' ∧ last = last' := by
  have parts : split '/' front ++ [last] = split '/' front' ++ [last'] := by
    rw [← split_of_not_mem free, ← split_of_not_mem free', ← split_append, ← split_append, same]
  obtain ⟨fronts, lasts⟩ := List.append_inj' parts rfl
  refine ⟨?_, List.singleton_inj.mp lasts⟩
  rw [← join_split front, fronts, join_split]

def replaceChar (old new : Char) (text : String) : String :=
  String.ofList (text.toList.map fun c => if c = old then new else c)

/-- Whether `needle` stands somewhere in the text. -/
def occursIn (needle : List Char) : List Char → Bool
  | [] => needle.isEmpty
  | c :: rest => needle.isPrefixOf (c :: rest) || occursIn needle rest

theorem occursIn_iff_infix {needle text : List Char} : occursIn needle text = true ↔ needle <:+: text := by
  induction text with
  | nil => simp [occursIn]
  | cons c rest ih => rw [occursIn, Bool.or_eq_true, List.isPrefixOf_iff_prefix, ih, List.infix_cons_iff]

def contains (text needle : String) : Bool := occursIn needle.toList text.toList

def startsWith (text front : String) : Bool := front.toList.isPrefixOf text.toList

/-- The lower case of a letter where that is one from a to z; the sign for kelvin counts as a K. -/
def lowerChar (c : Char) : Char := if c = '\u212a' then 'k' else c.toLower

/-- The upper case of a letter where that is one from A to Z; the dotless i and the long s have such
an upper case too. -/
def upperChar (c : Char) : Char :=
  if c = '\u0131' then 'I' else if c = '\u017f' then 'S' else c.toUpper

/-- Lower case of the Latin letters; other characters stay. -/
def lower (text : String) : String := String.ofList (text.toList.map lowerChar)

def upper (text : String) : String := String.ofList (text.toList.map upperChar)

/-- Blanks on the right up to a width. -/
def padRight (width : Nat) (text : String) : String :=
  text ++ String.ofList (List.replicate (width - text.length) ' ')

end ReleaseImpact.Text
