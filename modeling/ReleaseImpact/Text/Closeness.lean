import ReleaseImpact.Text.Split

/-!
How alike two texts are, and the names closest to a misspelt one. Two texts share their longest common
block, and what is shared before it and after it. Main statements:

- `sharedPrefix_le`: a shared prefix is no longer than either text.
- `mem_closest`: only given names are proposed.
-/

namespace ReleaseImpact.Text

/-- The number of characters with which two texts begin alike. -/
def sharedPrefix : List Char → List Char → Nat
  | a :: as, b :: bs => if a = b then sharedPrefix as bs + 1 else 0
  | _, _ => 0

theorem sharedPrefix_le (a b : List Char) : sharedPrefix a b ≤ a.length ∧ sharedPrefix a b ≤ b.length := by
  fun_induction sharedPrefix a b <;> simp_all

/-- A block that two texts share: where it begins in each, and how long it is. -/
structure Block where
  first : Nat
  second : Nat
  length : Nat

/-- The longer of two blocks, the first of two equally long ones. -/
def Block.longer (a b : Block) : Block := if a.length < b.length then b else a

/-- The longest block that two texts share, the first one of those. -/
def longestBlock (a b : List Char) : Block :=
  ((List.range a.length).flatMap fun i => (List.range b.length).map fun j =>
    ⟨i, j, sharedPrefix (a.drop i) (b.drop j)⟩).foldl Block.longer ⟨0, 0, 0⟩

/-- The number of characters that two texts share in blocks of one order. -/
def sharedLength (a b : List Char) : Nat :=
  let block := longestBlock a b
  if _ : 0 < block.length ∧ block.first < a.length then
    sharedLength (a.take block.first) (b.take block.second) + block.length +
      sharedLength (a.drop (block.first + block.length)) (b.drop (block.second + block.length))
  else 0
termination_by a.length
decreasing_by
  all_goals
    next h =>
      have positive : 0 < (longestBlock a b).length := h.1
      have inside : (longestBlock a b).first < a.length := h.2
      simp only [List.length_take, List.length_drop]
      omega

/-- The likeness of two texts: what they share of all their characters, in both. -/
structure Likeness where
  shared : Nat
  total : Nat

def Likeness.of (a b : String) : Likeness :=
  ⟨2 * sharedLength a.toList b.toList, a.length + b.length⟩

/-- Three fifths of the characters have to be shared. -/
def Likeness.isClose (l : Likeness) : Bool := 3 * l.total ≤ 5 * l.shared

def Likeness.le (a b : Likeness) : Bool := a.shared * b.total ≤ b.shared * a.total

/-- As many names as are proposed at most. -/
def maxProposals : Nat := 3

/-- The names that are close to a text, in alphabetical order; of many only the closest ones. -/
def closest (names : List String) (text : String) : List String :=
  let close := (names.map fun name => (name, Likeness.of name text)).filter (·.2.isClose)
  (((close.mergeSort fun a b => b.2.le a.2).take maxProposals).map Prod.fst).mergeSort
    fun a b => decide (a ≤ b)

theorem mem_closest {names : List String} {text name : String} (h : name ∈ closest names text) :
    name ∈ names := by
  simp only [closest, List.mem_mergeSort, List.mem_map] at h
  obtain ⟨p, hp, rfl⟩ := h
  have := (List.mem_filter.1 (List.mem_mergeSort.1 (List.mem_of_mem_take hp))).1
  obtain ⟨n, hn, rfl⟩ := List.mem_map.1 this
  exact hn

end ReleaseImpact.Text
