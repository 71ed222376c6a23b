import ReleaseImpact.Comparison.VirtualTypes
import ReleaseImpact.Proofs.Trimming
import Mathlib.Data.List.Basic

/-!
Changes of a declaration that are not reported. The scope may widen to the global one, and a type may be
spelt in several ways. Main statements:

- `silent_iff`: what a declaration and a later one have in common of which nothing is reported.
- `silent_chain`: where nothing is reported step by step, nothing is reported of all the steps together.
- `trimmed_append`: what is left of a type with something put in front of it.
- `spelling_kept_iff`: what may be put in front of a type so that it stays the same.
- `spelling_spaced`: a blank behind a backslash makes another type of it.
-/

namespace ReleaseImpact

variable {v w : VirtualType}

/-- Nothing is reported of the change from one declaration to another. -/
def Silent (v w : VirtualType) : Prop := changedProperties v w = []

instance : DecidableRel Silent := fun _ _ => inferInstanceAs (Decidable (_ = _))

theorem type_mem_changedProperties_iff :
    "type" ∈ changedProperties v w ↔ normalizedType v.type ≠ normalizedType w.type := by
  unfold changedProperties
  by_cases type : normalizedType v.type = normalizedType w.type <;>
    by_cases wide : w.scope = globalScope <;> by_cases scope : v.scope = w.scope <;> simp [type, wide, scope]

theorem silent_iff :
    Silent v w ↔
      normalizedType v.type = normalizedType w.type ∧ (w.scope = globalScope ∨ v.scope = w.scope) := by
  unfold Silent changedProperties
  by_cases type : normalizedType v.type = normalizedType w.type <;>
    by_cases wide : w.scope = globalScope <;> by_cases scope : v.scope = w.scope <;> simp [type, wide, scope]

theorem Silent.refl (v : VirtualType) : Silent v v := changedProperties_self v

theorem Silent.trans {u : VirtualType} (first : Silent u v) (second : Silent v w) : Silent u w := by
  obtain ⟨type, scope⟩ := silent_iff.mp first
  obtain ⟨type', scope'⟩ := silent_iff.mp second
  refine silent_iff.mpr ⟨type.trans type', ?_⟩
  rcases scope' with wide | same
  · exact .inl wide
  · -- the scope stays in the second step, so it is the global one if it was so before
    exact scope.imp (fun wide => same.symm.trans wide) fun same' => same'.trans same

instance : Trans Silent Silent Silent := ⟨Silent.trans⟩

/-- Nothing is reported between any two of several declarations, the later one after the earlier one, if
nothing is reported from each one to the next. -/
theorem silent_chain :
    (∀ v, Silent v v) ∧ (∀ u v w, Silent u v → Silent v w → Silent u w) ∧
      (∀ first rest, List.IsChain Silent (first :: rest) →
        changedProperties first ((first :: rest).getLast (List.cons_ne_nil first rest)) = [] ∧
          (first :: rest).Pairwise Silent) ∧
      ∃ v w, changedProperties v w = [] ∧ changedProperties w v = ["scope"] := by
  refine ⟨Silent.refl, fun u v w => Silent.trans, fun first rest chain => ?_, ?_⟩
  · have pairs : (first :: rest).Pairwise Silent := List.isChain_iff_pairwise.mp chain
    refine ⟨?_, pairs⟩
    rcases List.mem_cons.mp (List.getLast_mem (List.cons_ne_nil first rest)) with same | later
    · rw [same]
      exact Silent.refl first
    · exact (List.pairwise_cons.mp pairs).1 _ later
  · exact ⟨⟨"Pool", "Foo", "frontend", none⟩, ⟨"Pool", "Foo", "global", none⟩, by decide⟩

theorem silent_chain_widened :
    List.IsChain Silent [⟨"Pool", "Foo", "frontend", none⟩, ⟨"Pool", " \\Foo ", "frontend", none⟩,
        ⟨"Pool", "\\\\Foo", "global", some "true"⟩, ⟨"Pool", "Foo", "global", none⟩] ∧
      changedProperties ⟨"Pool", "Foo", "frontend", none⟩ ⟨"Pool", "Foo", "global", none⟩ = [] := by
  have chain : List.IsChain Silent [⟨"Pool", "Foo", "frontend", none⟩, ⟨"Pool", " \\Foo ", "frontend", none⟩,
      ⟨"Pool", "\\\\Foo", "global", some "true"⟩, ⟨"Pool", "Foo", "global", none⟩] := by decide
  exact ⟨chain, (silent_chain.2.2.1 _ _ chain).1⟩

/-! ## Spellings of a type -/

open Text

theorem toList_normalizedType (type : String) :
    (normalizedType type).toList = (trimmed type.toList).dropWhile (· = '\\') := String.toList_ofList

/-- What is put in front of a type, and the blanks that the type begins with. If the type is nothing but
blanks, those at the end of what is in front count as little as they do. -/
def lead (front type : List Char) : List Char :=
  if trimmed type = [] then dropLastBlanks front else front ++ type.takeWhile isBlank

/-- Behind the blanks that a text begins with there are only backslashes. -/
def Lined (text : List Char) : Prop := ∀ c ∈ dropBlanks text, c = '\\'

instance (text : List Char) : Decidable (Lined text) :=
  decidable_of_iff ((dropBlanks text).all (· = '\\') = true) (by simp [Lined])

theorem trimmed_append (front type : List Char) :
    trimmed (front ++ type) = dropBlanks (lead front type) ++ trimmed type := by
  unfold lead
  split
  · next none =>
    rw [trimmed_append_blanks (trimmed_eq_nil_iff.mp none), none, trimmed_eq, List.append_nil]
  · next some =>
    have whole : front ++ type = (front ++ type.takeWhile isBlank) ++ dropBlanks type := by
      rw [List.append_assoc]
      exact congrArg (front ++ ·) List.takeWhile_append_dropWhile.symm
    have clear : dropBlanks (trimmed type) = trimmed type :=
      dropBlanks_eq_self fun _ => isBlank_of_mem_head?_trimmed
    have kept : dropLastBlanks (dropBlanks type) = trimmed type := rfl
    rw [trimmed_eq, whole, dropLastBlanks_append, kept, if_neg some, dropBlanks_append, clear]
    split
    · next gone => rw [gone, List.nil_append]
    · rfl

theorem dropWhile_append_eq_iff {p : Char → Bool} {front text : List Char} :
    (front ++ text).dropWhile p = text.dropWhile p ↔ ∀ c ∈ front, p c = true := by
  rw [← List.dropWhile_eq_nil_iff, List.dropWhile_append]
  cases rest : front.dropWhile p with
  | nil => simp
  | cons c rest =>
    -- what is left of the front makes it longer than the text
    have shorter : (text.dropWhile p).length ≤ text.length := (List.dropWhile_sublist p).length_le
    refine iff_of_false (fun same => ?_) nofun
    have lengths := congrArg List.length same
    simp at lengths
    omega

theorem normalizedType_append_iff (front type : String) {back : String} (blanks : Blanks back.toList) :
    normalizedType (front ++ type ++ back) = normalizedType type ↔ Lined (lead front.toList type.toList) := by
  rw [← String.toList_inj, toList_normalizedType, toList_normalizedType, String.toList_append,
    String.toList_append, trimmed_append_blanks blanks, trimmed_append, dropWhile_append_eq_iff]
  simp [Lined]

theorem head?_normalizedType_ne (type : String) : (normalizedType type).toList.head? ≠ some '\\' := by
  intro first
  have other := List.head?_dropWhile_not (· = '\\') (trimmed type.toList)
  rw [← toList_normalizedType, first] at other
  simp at other

/-- In a trimmed type, the blank that is left in front stood behind backslashes. -/
theorem head?_normalizedType_blank_iff {type : String} :
    (∃ c ∈ (normalizedType type).toList.head?, isBlank c = true) ↔
      ∃ slashes c rest, trimmed type.toList = slashes ++ c :: rest ∧ (∀ s ∈ slashes, s = '\\') ∧
        isBlank c = true := by
  rw [toList_normalizedType]
  constructor
  · rintro ⟨c, first, blank⟩
    obtain ⟨rest, whole⟩ := List.head?_eq_some_iff.mp first
    refine ⟨(trimmed type.toList).takeWhile (· = '\\'), c, rest, ?_, fun s inside => ?_, blank⟩
    · rw [← whole, List.takeWhile_append_dropWhile]
    · simpa using List.mem_takeWhile_imp inside
  · rintro ⟨slashes, c, rest, whole, only, blank⟩
    have other : c ≠ '\\' := by
      rintro rfl
      exact absurd blank (by decide)
    refine ⟨c, ?_, blank⟩
    rw [whole, List.dropWhile_append_of_pos (by simpa using only), List.dropWhile_cons_of_neg (by simpa using other)]
    rfl

theorem isBlank_of_mem_getLast?_normalizedType {type : String} {c : Char}
    (last : c ∈ (normalizedType type).toList.getLast?) : isBlank c = false := by
  rw [toList_normalizedType, Option.mem_def] at last
  obtain ⟨slashes, whole⟩ : _ <:+ trimmed type.toList := List.dropWhile_suffix (· = '\\')
  have last : c ∈ (trimmed type.toList).getLast? := by
    rw [← whole, List.getLast?_append, last]
    rfl
  exact isBlank_of_mem_getLast?_trimmed last

theorem normalizedType_normalizedType_iff {type : String} :
    normalizedType (normalizedType type) = normalizedType type ↔
      ∀ c ∈ (normalizedType type).toList.head?, isBlank c = false := by
  rw [← String.toList_inj, toList_normalizedType (normalizedType type)]
  constructor
  · intro same
    have part : ((trimmed (normalizedType type).toList).dropWhile (· = '\\')).Sublist _ :=
      List.dropWhile_sublist _
    rw [same] at part
    exact (trimmed_eq_self_iff.mp ((trimmed_sublist _).antisymm part)).1
  · intro first
    rw [trimmed_eq_self_iff.mpr ⟨first, fun _ => isBlank_of_mem_getLast?_normalizedType⟩,
      toList_normalizedType, dropWhile_idem]

theorem lined_lead {blanks slashes type : List Char} (blank : Blanks blanks)
    (only : ∀ c ∈ slashes, c = '\\') (apart : slashes = [] ∨ ∀ c ∈ type.head?, isBlank c = false) :
    Lined (lead (blanks ++ slashes) type) := by
  have cleared (rest : List Char) : dropBlanks (blanks ++ rest) = dropBlanks rest := by
    rw [dropBlanks_append, if_pos (dropBlanks_eq_nil_iff.mpr blank)]
  unfold lead Lined
  split
  · intro c inside
    rw [← trimmed_eq, trimmed, cleared] at inside
    exact only c ((trimmed_sublist slashes).mem inside)
  · intro c inside
    rw [List.append_assoc, cleared] at inside
    rcases apart with rfl | first
    · have all : Blanks (type.takeWhile isBlank) := fun c inside => List.mem_takeWhile_imp inside
      rw [List.nil_append, dropBlanks_eq_nil_iff.mpr all] at inside
      cases inside
    · have none : type.takeWhile isBlank = [] := by
        cases type with
        | nil => rfl
        | cons d rest => exact List.takeWhile_cons_of_neg (by simpa using first d rfl)
      rw [none, List.append_nil] at inside
      exact only c ((List.dropWhile_sublist isBlank).mem inside)

/-- Blanks and then backslashes may be put in front of a type, and blanks behind it; it stays the same just
if no blank comes to stand behind one of the backslashes. For the same reason a type in normal form may
begin with a blank, and only then it changes when it is normalized again. -/
theorem spelling_kept_iff :
    (∀ blanks slashes type back : String, Blanks blanks.toList → (∀ c ∈ slashes.toList, c = '\\') →
        (slashes = "" ∨ ∀ c ∈ type.toList.head?, isBlank c = false) → Blanks back.toList →
        normalizedType (blanks ++ slashes ++ type ++ back) = normalizedType type) ∧
      (∀ front type back : String, Blanks back.toList →
        (normalizedType (front ++ type ++ back) = normalizedType type ↔
          Lined (lead front.toList type.toList))) ∧
      (∀ (v w : VirtualType) (front back : String), Blanks back.toList → w.type = front ++ v.type ++ back →
        ("type" ∈ changedProperties v w ↔ ¬Lined (lead front.toList v.type.toList)) ∧
          ("type" ∈ changedProperties w v ↔ ¬Lined (lead front.toList v.type.toList))) ∧
      ∀ type : String,
        (normalizedType type).toList.head? ≠ some '\\' ∧
          ((∃ c ∈ (normalizedType type).toList.head?, isBlank c = true) ↔
            ∃ slashes c rest, trimmed type.toList = slashes ++ c :: rest ∧ (∀ s ∈ slashes, s = '\\') ∧
              isBlank c = true) ∧
          (normalizedType (normalizedType type) = normalizedType type ↔
            ∀ c ∈ (normalizedType type).toList.head?, isBlank c = false) := by
  refine ⟨?_, fun front type back => normalizedType_append_iff front type, ?_, fun type => ?_⟩
  · intro blanks slashes type back blank only apart behind
    rw [normalizedType_append_iff _ _ behind, String.toList_append]
    exact lined_lead blank only (apart.imp_left fun none => by rw [none]; rfl)
  · intro v w front back behind spelt
    have same := normalizedType_append_iff front v.type behind
    rw [type_mem_changedProperties_iff, type_mem_changedProperties_iff, spelt, ← same]
    exact ⟨not_congr eq_comm, Iff.rfl⟩
  · exact ⟨head?_normalizedType_ne type, head?_normalizedType_blank_iff, normalizedType_normalizedType_iff⟩

theorem spelling_kept_iff_escaped :
    Blanks "\t ".toList ∧ (∀ c ∈ "\\\\".toList, c = '\\') ∧
      normalizedType ("\t " ++ "\\\\" ++ "Acme\\Pool" ++ "\n") = normalizedType "Acme\\Pool" ∧
      "type" ∉ changedProperties ⟨"Pool", "Acme\\Pool", "global", none⟩
        ⟨"Pool", "\t \\\\Acme\\Pool\n", "frontend", none⟩ ∧
      "type" ∈ changedProperties ⟨"Pool", " Acme\\Pool", "global", none⟩
        ⟨"Pool", "\\ Acme\\Pool", "global", none⟩ := by
  obtain ⟨kept, -, changed, -⟩ := spelling_kept_iff
  have blank : Blanks "\t ".toList := by decide
  have behind : Blanks "\n".toList := by decide
  have only : ∀ c ∈ "\\\\".toList, c = '\\' := by simp
  have apart : ∀ c ∈ "Acme\\Pool".toList.head?, isBlank c = false := by
    intro c first
    obtain rfl := Option.some.inj first
    decide
  have lined : Lined (lead "\t \\\\".toList "Acme\\Pool".toList) := by decide
  have spaced : ¬Lined (lead "\\".toList " Acme\\Pool".toList) := by decide
  refine ⟨blank, only, kept _ _ _ _ blank only (.inr apart) behind, ?_, ?_⟩
  · exact fun listed => (changed _ _ "\t \\\\" "\n" behind (by decide)).1.mp listed lined
  · exact (changed _ _ "\\" "" (by decide) (by decide)).1.mpr spaced

/-- A blank behind a backslash in front of a type is no part of the marks that are taken away. -/
theorem spelling_spaced :
    (∀ c ∈ "\\ ".toList, isBlank c = true ∨ c = '\\') ∧
      normalizedType ("\\ " ++ "Foo") = " Foo" ∧ normalizedType "Foo" = "Foo" ∧
      changedProperties ⟨"Pool", "Foo", "global", none⟩ ⟨"Pool", "\\ Foo", "frontend", none⟩ =
        ["type", "scope"] ∧
      normalizedType (normalizedType "\\ Foo") ≠ normalizedType "\\ Foo" := by
  refine ⟨?_, by decide⟩
  have blank : isBlank ' ' = true := by decide
  simp [blank]

end ReleaseImpact
