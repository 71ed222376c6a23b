import ReleaseImpact.Path
import ReleaseImpact.Proofs.ClassPaths

/-!
Paths in normal form and their texts. Main statements:

- `Path.normal_ofText`: what a text is read as is in normal form.
- `Path.ofText_text`: a path in normal form is found again in its text.
-/

namespace ReleaseImpact

/-- A part that a path in normal form may have. -/
structure PathPart (part : String) : Prop where
  filled : part ≠ ""
  notHere : part ≠ "."
  noSlash : '/' ∉ part.toList

namespace Path

def Normal (p : Path) : Prop := ∀ part ∈ p.parts, PathPart part

variable {p : Path} {parts : List String}

theorem normal_ofText (text : String) : (ofText text).Normal := by
  intro part member
  obtain ⟨inside, kept⟩ := List.mem_filter.mp member
  obtain ⟨filled, notHere⟩ := of_decide_eq_true kept
  exact ⟨filled, notHere, ClassPath.not_slash_of_mem_split inside⟩

theorem Normal.below (normal : p.Normal) (more : ∀ part ∈ parts, PathPart part) : (p.below parts).Normal := by
  intro part member
  exact (List.mem_append.mp member).elim (normal part) (more part)

theorem significant_of_parts (whole : ∀ part ∈ parts, PathPart part) : significant parts = parts :=
  List.filter_eq_self.mpr fun part member => decide_eq_true ⟨(whole part member).filled, (whole part member).notHere⟩

theorem exists_head_join (whole : ∀ part ∈ parts, PathPart part) (some : parts ≠ []) :
    ∃ c rest, (Text.join '/' parts).toList = c :: rest ∧ c ≠ '/' := by
  obtain ⟨part, others, rfl⟩ := List.exists_cons_of_ne_nil some
  have first := whole part List.mem_cons_self
  have letters : part.toList ≠ [] := fun none => first.filled (String.toList_inj.mp none)
  obtain ⟨c, cs, spelt⟩ := List.exists_cons_of_ne_nil letters
  have begins := ClassPath.head?_joinWith_cons letters '/' (others.map String.toList)
  rw [spelt, List.head?_cons] at begins
  obtain ⟨rest, joined⟩ := List.head?_eq_some_iff.mp begins
  refine ⟨c, rest, ?_, ?_⟩
  · rw [Text.join, String.toList_ofList, List.map_cons, spelt, joined]
  · rintro rfl
    exact first.noSlash (spelt ▸ List.mem_cons_self)

theorem anchorOf_append {c : Char} (noSlash : c ≠ '/') (a : Anchor) (rest : List Char) :
    anchorOf ((anchorText a).toList ++ c :: rest) = a := by
  cases a <;> simp [anchorText, anchorOf, noSlash]

theorem split_anchorText (a : Anchor) (text : String) : Text.split '/' (anchorText a ++ text) =
    List.replicate (anchorText a).toList.length "" ++ Text.split '/' text := by
  cases a <;> simp [anchorText, Text.split, Text.splitOn, List.replicate_succ]

theorem ofText_text (normal : p.Normal) : ofText p.text = p := by
  obtain ⟨a, parts⟩ := p
  by_cases bare : parts = []
  · subst bare
    cases a <;> rfl
  · obtain ⟨c, rest, joined, noSlash⟩ := exists_head_join normal bare
    have written : text ⟨a, parts⟩ = anchorText a ++ Text.join '/' parts := if_neg fun none => bare none.2
    have again : Text.split '/' (Text.join '/' parts) = parts :=
      Text.split_join (fun part member => (normal part member).noSlash) bare
    have gone (n : Nat) : significant (List.replicate n "") = [] :=
      List.filter_eq_nil_iff.mpr fun part member => by simp [List.eq_of_mem_replicate member]
    rw [ofText, written, String.toList_append, joined, anchorOf_append noSlash, split_anchorText, again, significant,
      List.filter_append, ← significant, gone, List.nil_append, ← significant, significant_of_parts normal]

end Path

end ReleaseImpact
