import ReleaseImpact.Proofs.Addresses
import ReleaseImpact.Xml.Char
import Mathlib.Data.List.Chain
import Mathlib.Data.List.TakeWhile
import Mathlib.Logic.Relation

/-!
What the search for an address finds, told by the elements alone. The search keeps the elements of a whole
level and goes on from all of them; an address is found where one of them leads through to the end. Main
statements:

- `steps_name`: a name of an element, dots and all, is a path of one step.
- `IsPlainTag.select`: a tag that is no path selects the children of that name.
- `exists_chain_of_leads` and `exists_leads_of_chain`: steps lead on just where there is a chain of elements.
- `search_iff_chain`: the search finds an address just if there is a chain for it.
-/

namespace ReleaseImpact

namespace Xml

/-! ## Names are no paths -/

/-- A name of an element outside of any namespace. It may hold dots, which are steps in paths. -/
def IsElementName (tag : String) : Prop :=
  ∃ first rest, tag.toList = first :: rest ∧ isNameStart first = true ∧ ∀ c ∈ rest, isNameChar c = true

theorem IsElementName.isNameChar {tag : String} (named : IsElementName tag) :
    ∀ c ∈ tag.toList, isNameChar c = true := by
  obtain ⟨first, rest, text, start, more⟩ := named
  rw [text]
  exact List.forall_mem_cons.mpr ⟨isNameChar_of_isNameStart start, more⟩

theorem not_isNameChar_of_mark {c : Char} (mark : c ∈ "/*:[]()@=!{}'\"".toList) : isNameChar c = false := by
  have marks : "/*:[]()@=!{}'\"".toList.all (fun c => !isNameChar c) = true := by decide
  simpa using List.all_eq_true.mp marks c mark

theorem not_isNameStart_of_mark {c : Char} (mark : c ∈ "/.*:[]()@=!{}'\"".toList) :
    isNameStart c = false := by
  have marks : "/.*:[]()@=!{}'\"".toList.all (fun c => !isNameStart c) = true := by decide
  simpa using List.all_eq_true.mp marks c mark

theorem not_isNameChar_of_isBlank {c : Char} (blank : Text.isBlank c = true) : isNameChar c = false := by
  let codes := List.range' 9 5 ++ List.range' 28 5 ++ List.range' 0x2000 11 ++
    [0x85, 0xA0, 0x1680, 0x2028, 0x2029, 0x202F, 0x205F, 0x3000]
  have listed : c.toNat ∈ codes := by
    simp only [Text.isBlank, Bool.or_eq_true, Bool.and_eq_true, decide_eq_true_eq, beq_iff_eq] at blank
    simp only [codes, List.mem_append, List.mem_range'_1, List.mem_cons, List.not_mem_nil, or_false]
    omega
  have outside : ∀ n ∈ codes, isNameChar (Char.ofNat n) = false := by decide +kernel
  simpa using outside c.toNat listed

theorem isPathChar_of_isNameChar {c : Char} (named : isNameChar c = true) : PathMark.isPathChar c = true := by
  have noMark : c ∉ "/[]()@!=".toList := fun mark => by
    have listed : "/[]()@!=".toList ⊆ "/*:[]()@=!{}'\"".toList := by decide
    rw [not_isNameChar_of_mark (listed mark)] at named
    cases named
  have noBlank : Text.isBlank c = false := by
    by_contra blank
    rw [not_isNameChar_of_isBlank (Bool.not_eq_false _ ▸ blank)] at named
    cases named
  rw [PathMark.isPathChar, noBlank, Bool.not_false, Bool.and_true]
  exact decide_eq_true noMark

theorem next_name {first : Char} {rest : List Char} (start : isNameStart first = true)
    (more : ∀ c ∈ rest, isNameChar c = true) :
    PathMark.next (first :: rest) = (some (.name (String.ofList (first :: rest))), rest.length + 1) := by
  have names : ∀ c ∈ first :: rest, isNameChar c = true :=
    List.forall_mem_cons.mpr ⟨isNameChar_of_isNameStart start, more⟩
  have noMark : first ∉ "/.*:[]()@=!{}'\"".toList := fun mark => by
    rw [not_isNameStart_of_mark mark] at start
    cases start
  have whole : PathMark.nameAt (first :: rest) = first :: rest := by
    have noSpace : PathMark.spaceLength (first :: rest) = 0 := by
      unfold PathMark.spaceLength
      split
      · next same =>
        cases same
        exact absurd (by decide) noMark
      · rfl
    rw [PathMark.nameAt, noSpace, List.take_zero, List.drop_zero, List.nil_append]
    exact List.takeWhile_eq_self_iff.mpr fun c member => isPathChar_of_isNameChar (names c member)
  have bound : PathMark.ofName (first :: rest) = .name (String.ofList (first :: rest)) := by
    have noColon : ':' ∉ first :: rest := fun colon => absurd (names ':' colon) (by decide)
    rw [PathMark.ofName, if_neg (fun unbound => noColon unbound.2)]
  have apart : ∀ c ∈ "/.*:[]()@=!{}'\"".toList, first ≠ c := fun c mark same => noMark (same ▸ mark)
  unfold PathMark.next
  simp only [whole, bound]
  split
  -- a mark of two characters begins with none of a name
  iterate 5
    · next same => exact absurd (List.cons.inj same).1 (apart _ (by decide))
  · next same =>
    obtain ⟨rfl, rfl⟩ := List.cons.inj same
    rw [if_neg, if_neg]
    · rfl
    · rintro (single | double)
      · exact apart _ (by decide) single
      · exact apart _ (by decide) double
    · intro mark
      have listed : "/.*:[]()@=".toList ⊆ "/.*:[]()@=!{}'\"".toList := by decide
      exact noMark (listed mark)
  · next same => cases same

theorem marks_name {first : Char} {rest : List Char} (start : isNameStart first = true)
    (more : ∀ c ∈ rest, isNameChar c = true) :
    PathMark.ofText (first :: rest) = [.name (String.ofList (first :: rest))] := by
  have ended (budget : Nat) : PathMark.all budget [] = [] := by cases budget <;> rfl
  simp [PathMark.ofText, PathMark.all, next_name start more, ended]

theorem ofTag_name {tag : String} (named : IsElementName tag) : NameTest.ofTag tag = .exactly tag := by
  have noBrace : '{' ∉ tag.toList := fun member => absurd (named.isNameChar _ member) (by decide)
  have noStar : '*' ∉ tag.toList := fun member => absurd (named.isNameChar _ member) (by decide)
  unfold NameTest.ofTag
  rw [if_neg (by rintro rfl; exact noStar (by decide)), if_neg (by rintro rfl; exact noStar (by decide))]
  split
  · next same => exact absurd (same ▸ List.mem_cons_self) noBrace
  · split
    · next same => exact absurd (List.mem_reverse.mp (same ▸ List.mem_cons_self)) noStar
    · split
      · next same => exact absurd (same ▸ List.mem_cons_self) noBrace
      · rfl

theorem steps_name {tag : String} (named : IsElementName tag) :
    SelectionStep.ofText tag = .ok [.child (.exactly tag)] := by
  have test := ofTag_name named
  have noSlash : '/' ∉ tag.toList := fun member => absurd (named.isNameChar _ member) (by decide)
  obtain ⟨first, rest, text, start, more⟩ := named
  rw [text] at noSlash
  have written : String.ofList (first :: rest) = tag := by rw [← text, String.ofList_toList]
  unfold SelectionStep.ofText
  rw [text, if_neg, if_neg, marks_name start more, written]
  · simp [selectionSteps, nextMark, SelectionStep.read, test, bind, Except.bind, pure, Except.pure]
  · exact fun last => noSlash (List.mem_of_getLast? last)
  · exact fun head => noSlash (List.mem_of_head? head)

theorem Element.select_of_elementName {tag : String} (named : IsElementName tag) (e : Element) :
    e.select tag = .ok (e.childrenNamed tag) := by
  rw [select]
  split
  · rw [steps_name named]
    have found : ((SelectionStep.child (.exactly tag)).apply [⟨e, []⟩]).map Spot.element =
        e.childrenNamed tag := by
      rw [SelectionStep.apply, childrenNamed, ← Spot.children_spot ⟨e, []⟩, List.filter_map]
      simp [NameTest.meets, Function.comp_def]
    exact congrArg Except.ok found
  · rfl

/-- A tag that is no path: no mark of paths stands in it outside of braces, or it is a name. -/
def IsPlainTag (tag : String) : Prop := isSelection tag = false ∨ IsElementName tag

theorem IsPlainTag.select {tag : String} (plain : IsPlainTag tag) (e : Element) :
    e.select tag = .ok (e.childrenNamed tag) := by
  rcases plain with unmarked | named
  · exact Element.select_of_plain unmarked e
  · exact Element.select_of_elementName named e

theorem IsPlainTag.ne_any {tag : String} (plain : IsPlainTag tag) : tag ≠ "*" := by
  rintro rfl
  rcases plain with unmarked | named
  · exact absurd unmarked (by decide)
  · exact absurd (named.isNameChar '*' (by decide)) (by decide)

end Xml

namespace Address

open Xml (Element)

/-! ## Chains of elements -/

/-- An element is a document or stands in it, however deep. -/
def Within (root e : Element) : Prop :=
  Relation.ReflTransGen (fun parent child : Element => child ∈ parent.children) root e

def Carries (s : AddressStep) (e : Element) : Prop := e.tag = s.tag ∧ e.attribute? "id" = some s.id

/-- A chain of elements for the steps of an address: the first stands anywhere in a document, each further
one is a child of the one before, and each has the name and the identifier of its step. -/
structure Chain (root : Element) (steps : Address) (chain : List Element) : Prop where
  carried : List.Forall₂ Carries steps chain
  linked : chain.IsChain fun parent child => child ∈ parent.children
  within : ∀ e ∈ chain.head?, Within root e

theorem mem_preorder_of_within {root e : Element} (within : Within root e) : e ∈ root.preorder := by
  induction within with
  | refl => exact root.mem_preorder_self
  | tail _ child ih =>
    exact Survey.mem_preorder_trans ih (Element.mem_preorder_of_child child (Element.mem_preorder_self _))

theorem within_of_mem_preorder {root e : Element} (inside : e ∈ root.preorder) : Within root e := by
  rw [Element.preorder_eq] at inside
  rcases List.mem_cons.mp inside with rfl | below
  · exact .refl
  · obtain ⟨child, member, deeper⟩ := List.mem_flatMap.mp below
    exact .head member (within_of_mem_preorder deeper)
termination_by sizeOf root
decreasing_by exact Nat.lt_trans (List.sizeOf_lt_of_mem member) root.sizeOf_children_lt

theorem exists_chain_of_leads {es : List Element} {steps : Address} {x : Element}
    (led : Survey.Leads es steps x) :
    ∃ chain, List.Forall₂ Carries steps chain ∧
      chain.IsChain (fun parent child => child ∈ parent.children) ∧ ∀ e ∈ chain.head?, e ∈ es := by
  induction led with
  | last member here =>
    exact ⟨[_], .cons (Survey.isAt_iff.mp here) .nil, .singleton _, by simpa using member⟩
  | step member here _ ih =>
    obtain ⟨chain, carried, linked, below⟩ := ih
    exact ⟨_ :: chain, .cons (Survey.isAt_iff.mp here) carried, List.isChain_cons.mpr ⟨below, linked⟩,
      by simpa using member⟩

theorem exists_leads_of_chain {es : List Element} {steps : Address} {chain : List Element}
    (carried : List.Forall₂ Carries steps chain)
    (linked : chain.IsChain fun parent child => child ∈ parent.children) (nonempty : steps ≠ [])
    (starts : ∀ e ∈ chain.head?, e ∈ es) : ∃ x, Survey.Leads es steps x := by
  induction carried generalizing es with
  | nil => exact absurd rfl nonempty
  | @cons s e rest chain here carried ih =>
    have member : e ∈ es := starts e (by simp)
    obtain ⟨below, linked⟩ := List.isChain_cons.mp linked
    cases rest with
    | nil => exact ⟨e, .last member (Survey.isAt_iff.mpr here)⟩
    | cons next rest =>
      obtain ⟨x, further⟩ := ih linked (List.cons_ne_nil _ _) below
      exact ⟨x, .step member (Survey.isAt_iff.mpr here) further⟩

theorem holds_iff_chain {root : Element} {s : AddressStep} {rest : Address} :
    holds root (s :: rest) = true ↔ ∃ chain, Chain root (s :: rest) chain := by
  rw [Survey.holds_iff]
  constructor
  · rintro ⟨x, led⟩
    obtain ⟨chain, carried, linked, inside⟩ := exists_chain_of_leads led
    exact ⟨chain, carried, linked, fun e first => within_of_mem_preorder (inside e first)⟩
  · rintro ⟨chain, carried, linked, within⟩
    exact exists_leads_of_chain carried linked (List.cons_ne_nil _ _) fun e first =>
      mem_preorder_of_within (within e first)

/-- The search for an address of plain tags comes to an end, and finds it just if a chain of elements leads
through the document that has the names and the identifiers of its steps. -/
theorem search_iff_chain {root : Element} {steps : Address} (nonempty : steps ≠ [])
    (plain : ∀ s ∈ steps, Xml.IsPlainTag s.tag) :
    ∃ found, search root steps = .ok found ∧ (found = true ↔ ∃ chain, Chain root steps chain) := by
  obtain ⟨s, rest, rfl⟩ := List.exists_cons_of_ne_nil nonempty
  obtain ⟨first, others⟩ := List.forall_mem_cons.mp plain
  exact ⟨_, search_of_children first.ne_any (fun s member => (others s member).select) root, holds_iff_chain⟩

/-! ## Elements of one identifier -/

/-- Two groups of one identifier, of which only the second leads on to a title, and only the first to a
note. -/
def twinForm : Element :=
  .mk "config" [] "" ""
    [.mk "section" [("id", "shop")] "" ""
      [.mk "group" [("id", "main")] "" ""
        [.mk "group" [("id", "seo")] "" "" [],
          .mk "my.field" [("id", "note")] "" "" []],
       .mk "group" [("id", "main")] "" ""
        [.mk "group" [("id", "seo")] "" "" [.mk "my.field" [("id", "title")] "" "" []]]]]

def twinSteps (last : String) : Address :=
  [⟨"section", "shop"⟩, ⟨"group", "main"⟩, ⟨"group", "seo"⟩, ⟨"my.field", last⟩]

theorem search_iff_chain_twins :
    twinSteps "title" ≠ [] ∧ twinSteps "note" ≠ [] ∧ (∀ last, ∀ s ∈ twinSteps last, Xml.IsPlainTag s.tag) ∧
      (∃ chain, Chain twinForm (twinSteps "title") chain) ∧
      ¬∃ chain, Chain twinForm (twinSteps "note") chain := by
  have field : Xml.IsPlainTag "my.field" :=
    .inr ⟨'m', ['y', '.', 'f', 'i', 'e', 'l', 'd'], by decide, by decide, List.all_eq_true.mp (by decide)⟩
  have plain (last : String) : ∀ s ∈ twinSteps last, Xml.IsPlainTag s.tag := by
    intro s member
    simp only [twinSteps, List.mem_cons, List.not_mem_nil, or_false] at member
    rcases member with rfl | rfl | rfl | rfl
    · exact .inl (by decide)
    · exact .inl (by decide)
    · exact .inl (by decide)
    · exact field
  have finds (last : String) : ∃ found, search twinForm (twinSteps last) = .ok found ∧
      (found = true ↔ ∃ chain, Chain twinForm (twinSteps last) chain) :=
    search_iff_chain (List.cons_ne_nil _ _) (plain last)
  have search_eq (last : String) : search twinForm (twinSteps last) = .ok (holds twinForm (twinSteps last)) := by
    obtain ⟨top, below⟩ := List.forall_mem_cons.mp (plain last)
    exact search_of_children top.ne_any (fun s member => (below s member).select) twinForm
  have titled : holds twinForm (twinSteps "title") = true := by decide +kernel
  have noted : holds twinForm (twinSteps "note") = false := by decide +kernel
  refine ⟨List.cons_ne_nil _ _, List.cons_ne_nil _ _, plain, ?_, fun chained => ?_⟩
  · obtain ⟨found, ends, leads⟩ := finds "title"
    rw [search_eq, titled] at ends
    exact leads.mp (Except.ok.inj ends).symm
  · obtain ⟨found, ends, leads⟩ := finds "note"
    rw [leads.mpr chained, search_eq, noted] at ends
    cases ends

end Address

end ReleaseImpact
