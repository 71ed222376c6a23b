import ReleaseImpact.Proofs.Survey

/-!
Reading a form and searching it find the same groups and fields. The reader puts identifiers together
to paths on its way down; the search takes the paths apart and follows them. Main statements:

- `holds_iff`: an address holds where its steps lead from an element of the document to a descendant.
- `mem_groupsAmong_iff` and `mem_formNodes_iff`: what is read, one level of a document at a time.
- `exists_collected` and `leads_of_collected`: a node is read just where the steps of its path lead.
- `search_formAddress`: the steps of an address are plain names, so searching for it never fails.
- `search_iff_collected`: an address is found just if a node with this address is read.
-/

namespace ReleaseImpact.Survey

open Xml (Element)
open Address (isAt leadsTo holds pathParts ofParts?)

/-- Steps lead from one of some elements down to an element. -/
inductive Leads : List Element → Address → Element → Prop
  | last {es : List Element} {s : AddressStep} {e : Element} (member : e ∈ es)
      (here : isAt s e = true) : Leads es [s] e
  | step {es : List Element} {s : AddressStep} {rest : Address} {e x : Element} (member : e ∈ es)
      (here : isAt s e = true) (further : Leads e.children rest x) : Leads es (s :: rest) x

/-- The steps through groups to a group or field. -/
def groupSteps (groups : List String) (kind : Kind) (last : String) : Address :=
  groups.map (⟨"group", ·⟩) ++ [⟨kind.text, last⟩]

/-- The address of a group or field in groups of a section. -/
def formAddress (first : String) (groups : List String) (kind : Kind) (last : String) : Address :=
  ⟨"section", first⟩ :: groupSteps groups kind last

/-- Identifiers that can be told apart in a path again. -/
def Plain (ids : List String) : Prop := ∀ id ∈ ids, id ≠ "" ∧ '/' ∉ id.toList

/-- No identifier in a document holds the character that parts a path. -/
def SlashFree (root : Element) : Prop :=
  ∀ e ∈ root.preorder, ∀ id ∈ e.attribute? "id", '/' ∉ id.toList

/-! ## Searching -/

theorem isAt_iff {tag id : String} {e : Element} :
    isAt ⟨tag, id⟩ e = true ↔ e.tag = tag ∧ e.attribute? "id" = some id := by
  simp [isAt]

theorem leads_singleton_iff {es : List Element} {s : AddressStep} {x : Element} :
    Leads es [s] x ↔ x ∈ es ∧ isAt s x = true := by
  constructor
  · intro led
    cases led with
    | last member here => exact ⟨member, here⟩
    | step _ _ further => cases further
  · rintro ⟨member, here⟩
    exact .last member here

theorem leads_cons_iff {es : List Element} {s : AddressStep} {rest : Address} {x : Element}
    (more : rest ≠ []) :
    Leads es (s :: rest) x ↔ ∃ e ∈ es, isAt s e = true ∧ Leads e.children rest x := by
  constructor
  · intro led
    cases led with
    | last => exact absurd rfl more
    | step member here further => exact ⟨_, member, here, further⟩
  · rintro ⟨e, member, here, further⟩
    exact .step member here further

theorem leads_flatMap_iff {es : List Element} {steps : Address} {x : Element} :
    Leads (es.flatMap Element.children) steps x ↔ ∃ e ∈ es, Leads e.children steps x := by
  constructor
  · intro led
    cases led with
    | last member here =>
      obtain ⟨e, inside, child⟩ := List.mem_flatMap.mp member
      exact ⟨e, inside, .last child here⟩
    | step member here further =>
      obtain ⟨e, inside, child⟩ := List.mem_flatMap.mp member
      exact ⟨e, inside, .step child here further⟩
  · rintro ⟨e, inside, led⟩
    cases led with
    | last member here => exact .last (List.mem_flatMap.mpr ⟨e, inside, member⟩) here
    | step member here further =>
      exact .step (List.mem_flatMap.mpr ⟨e, inside, member⟩) here further

theorem mem_leadsTo_iff {es : List Element} {s : AddressStep} {rest : Address} {x : Element} :
    x ∈ leadsTo (es.filter (isAt s)) rest ↔ Leads es (s :: rest) x := by
  induction rest generalizing es s with
  | nil => rw [leadsTo, List.mem_filter, leads_singleton_iff]
  | cons next rest ih =>
    rw [leadsTo, ← List.filter_flatMap, ih, leads_flatMap_iff, leads_cons_iff (List.cons_ne_nil _ _)]
    simp only [List.mem_filter, and_assoc]

theorem holds_iff {root : Element} {s : AddressStep} {rest : Address} :
    holds root (s :: rest) = true ↔ ∃ x, Leads root.preorder (s :: rest) x := by
  simp only [holds, ← mem_leadsTo_iff, Bool.not_eq_true', List.isEmpty_eq_false_iff_exists_mem]

theorem mem_preorder_trans {root e d : Element} (outer : e ∈ root.preorder) (inner : d ∈ e.preorder) :
    d ∈ root.preorder := by
  rw [Element.preorder_eq] at outer
  rcases List.mem_cons.mp outer with rfl | below
  · exact inner
  · obtain ⟨child, member, inside⟩ := List.mem_flatMap.mp below
    exact Element.mem_preorder_of_child member (mem_preorder_trans inside inner)
termination_by sizeOf root
decreasing_by exact Nat.lt_trans (List.sizeOf_lt_of_mem member) root.sizeOf_children_lt

theorem exists_id_of_leads {root : Element} {es : List Element} {steps : Address} {x : Element}
    (led : Leads es steps x) (inside : ∀ e ∈ es, e ∈ root.preorder) :
    ∀ s ∈ steps, ∃ e ∈ root.preorder, e.attribute? "id" = some s.id := by
  induction led with
  | last member here =>
    intro s same
    cases List.mem_singleton.mp same
    exact ⟨_, inside _ member, (isAt_iff.mp here).2⟩
  | step member here _ ih =>
    intro s place
    rcases List.mem_cons.mp place with rfl | later
    · exact ⟨_, inside _ member, (isAt_iff.mp here).2⟩
    · have children : ∀ child ∈ Element.children _, child ∈ root.preorder := fun child below =>
        mem_preorder_trans (inside _ member)
          (Element.mem_preorder_of_child below (Element.mem_preorder_self child))
      exact ih children s later

/-! ## Reading -/

theorem mem_groupsAmong_iff {parent : String} {es : List Element} {n : Node} :
    .node n ∈ groupsAmong parent es ↔
      ∃ e ∈ es, e.tag = "group" ∧ ∃ id, filled? "id" e = some id ∧
        (n = .configGroup ⟨id, parent, label? e⟩ ∨
          (∃ f ∈ e.children, f.tag = "field" ∧ ∃ own, filled? "id" f = some own ∧
            n = .configField ⟨own, parent ++ "/" ++ id, f.attribute? "type", label? f⟩) ∨
          .node n ∈ groupsAmong (parent ++ "/" ++ id) e.children) := by
  have field (f : Element) (above : String) : .node n = fieldFinding above f ↔
      ∃ own, filled? "id" f = some own ∧
        n = .configField ⟨own, above, f.attribute? "type", label? f⟩ := by
    unfold fieldFinding
    cases filled? "id" f <;> simp
  have group (e : Element) : .node n ∈ groupFindings parent e ↔
      ∃ id, filled? "id" e = some id ∧
        (n = .configGroup ⟨id, parent, label? e⟩ ∨
          (∃ f ∈ e.children, f.tag = "field" ∧ ∃ own, filled? "id" f = some own ∧
            n = .configField ⟨own, parent ++ "/" ++ id, f.attribute? "type", label? f⟩) ∨
          .node n ∈ groupsAmong (parent ++ "/" ++ id) e.children) := by
    rw [groupFindings_eq]
    cases filled? "id" e with
    | none => simp
    | some id =>
      simp only [List.mem_append, List.mem_cons, List.mem_map, Element.mem_childrenNamed_iff,
        Finding.node.injEq, Option.some.injEq, eq_comm (b := Finding.node n), field, or_assoc,
        exists_eq_left', and_assoc]
  rw [groupsAmong_eq, List.mem_flatMap]
  constructor
  · rintro ⟨e, member, found⟩
    split at found
    · next tag => exact ⟨e, member, tag, (group e).mp found⟩
    · cases found
  · rintro ⟨e, member, tag, found⟩
    exact ⟨e, member, by rw [if_pos tag]; exact (group e).mpr found⟩

theorem mem_formNodes_iff {root : Element} {n : Node} :
    .node n ∈ formNodes root ↔
      ∃ e ∈ root.preorder, e.tag = "section" ∧ ∃ id, filled? "id" e = some id ∧
        (n = .configSection ⟨id, label? e⟩ ∨ .node n ∈ groupsAmong id e.children) := by
  have found (e : Element) : .node n ∈ sectionFindings e ↔ ∃ id, filled? "id" e = some id ∧
      (n = .configSection ⟨id, label? e⟩ ∨ .node n ∈ groupsAmong id e.children) := by
    unfold sectionFindings
    cases filled? "id" e <;> simp
  simp only [formNodes, Element.named, List.mem_flatMap, List.mem_filter, decide_eq_true_eq, found,
    and_assoc]

/-! ## Paths -/

theorem pathParts_join {parts : List String} (some : parts ≠ [])
    (plain : Plain parts) : pathParts (Text.join '/' parts) = parts := by
  rw [pathParts, Text.split_join (fun part member => (plain part member).2) some]
  exact List.filter_eq_self.mpr fun part member => by simpa using (plain part member).1

theorem ofParts?_of_groups {groups : List String} (deep : groups ≠ []) (first last : String)
    (kind : Kind) :
    ofParts? kind.text (first :: (groups ++ [last])) = some (formAddress first groups kind last) := by
  have long : 1 ≤ groups.length := List.length_pos_iff.mpr deep
  simp [ofParts?, Address.minLength, formAddress, groupSteps, long]

theorem address?_eq_ofParts? {n : Node} (form : n.kind = .configGroup ∨ n.kind = .configField) :
    n.address? = ofParts? n.kind.text (pathParts n.path) := by
  cases n <;> simp [Node.kind] at form <;> rfl

theorem address?_of_path {n : Node} (form : n.kind = .configGroup ∨ n.kind = .configField)
    {first last : String} {groups : List String} (plain : Plain (first :: (groups ++ [last])))
    (path : n.path = Text.join '/' (first :: (groups ++ [last]))) :
    n.address? = if groups = [] then none else some (formAddress first groups n.kind last) := by
  have spelt : n.address? = ofParts? n.kind.text (first :: (groups ++ [last])) := by
    rw [address?_eq_ofParts? form, path, pathParts_join (List.cons_ne_nil _ _) plain]
  split
  · next flat => simp [spelt, flat, Address.ofParts?_eq_none_iff, Address.minLength]
  · next deep => exact spelt.trans (ofParts?_of_groups deep ..)

/-! ## Reading where a search leads -/

theorem groupSteps_cons (group : String) (groups : List String) (kind : Kind) (last : String) :
    groupSteps (group :: groups) kind last = ⟨"group", group⟩ :: groupSteps groups kind last := rfl

theorem groupSteps_ne_nil (groups : List String) (kind : Kind) (last : String) :
    groupSteps groups kind last ≠ [] := by simp [groupSteps]

theorem exists_collected {kind : Kind} (form : kind = .configGroup ∨ kind = .configField)
    {groups above : List String} {last : String} {es : List Element} {x : Element}
    (led : Leads es (groupSteps groups kind last) x) (named : ∀ id ∈ groups ++ [last], id ≠ "")
    (inGroup : kind = .configField → groups ≠ []) (top : above ≠ []) :
    ∃ n, .node n ∈ groupsAmong (Text.join '/' above) es ∧ n.kind = kind ∧
      n.path = Text.join '/' (above ++ (groups ++ [last])) := by
  induction groups generalizing above es with
  | nil =>
    have isGroup : kind = .configGroup := form.resolve_right fun field => inGroup field rfl
    subst isGroup
    obtain ⟨member, here⟩ := leads_singleton_iff.mp led
    obtain ⟨tag, own⟩ := isAt_iff.mp here
    have filled := filled?_eq_some_iff.mpr ⟨own, named last (by simp)⟩
    refine ⟨_, mem_groupsAmong_iff.mpr ⟨x, member, tag, last, filled, .inl rfl⟩, rfl, ?_⟩
    exact (Text.join_append_singleton top last).symm
  | cons group groups ih =>
    rw [groupSteps_cons, leads_cons_iff (groupSteps_ne_nil groups kind last)] at led
    obtain ⟨e, member, here, further⟩ := led
    obtain ⟨tag, own⟩ := isAt_iff.mp here
    have filled := filled?_eq_some_iff.mpr ⟨own, named group (by simp)⟩
    have below : above ++ [group] ≠ [] := by simp
    -- a field is read with the group that it is in, everything else with the level below
    by_cases direct : kind = .configField ∧ groups = []
    · obtain ⟨rfl, rfl⟩ := direct
      obtain ⟨child, there⟩ := leads_singleton_iff.mp further
      obtain ⟨fieldTag, fieldOwn⟩ := isAt_iff.mp there
      have fieldFilled := filled?_eq_some_iff.mpr ⟨fieldOwn, named last (by simp)⟩
      refine ⟨_, mem_groupsAmong_iff.mpr ⟨e, member, tag, group, filled,
        .inr (.inl ⟨x, child, fieldTag, last, fieldFilled, rfl⟩)⟩, rfl, ?_⟩
      rw [← Text.join_append_singleton top]
      simpa [Node.path] using (Text.join_append_singleton below last).symm
    · have deeper : kind = .configField → groups ≠ [] := fun field flat => direct ⟨field, flat⟩
      obtain ⟨n, found, isKind, path⟩ :=
        ih further (fun id place => named id (List.mem_cons_of_mem _ place)) deeper below
      rw [Text.join_append_singleton top] at found
      refine ⟨n, mem_groupsAmong_iff.mpr ⟨e, member, tag, group, filled, .inr (.inr found)⟩, isKind, ?_⟩
      simpa using path

theorem leads_of_collected {above : List String} {es : List Element} {n : Node} (top : above ≠ [])
    (found : .node n ∈ groupsAmong (Text.join '/' above) es) :
    ∃ groups last x, Leads es (groupSteps groups n.kind last) x ∧ (∀ id ∈ groups ++ [last], id ≠ "") ∧
      n.path = Text.join '/' (above ++ (groups ++ [last])) ∧
      (n.kind = .configGroup ∨ n.kind = .configField ∧ groups ≠ []) := by
  obtain ⟨e, member, tag, id, filled, kinds⟩ := mem_groupsAmong_iff.mp found
  obtain ⟨own, full⟩ := filled?_eq_some_iff.mp filled
  have here : isAt ⟨"group", id⟩ e = true := isAt_iff.mpr ⟨tag, own⟩
  rw [← Text.join_append_singleton top] at kinds
  rcases kinds with rfl | ⟨f, child, fieldTag, last, fieldFilled, rfl⟩ | deeper
  · refine ⟨[], id, e, .last member here, by simpa using full, ?_, .inl rfl⟩
    exact (Text.join_append_singleton top id).symm
  · obtain ⟨fieldOwn, fieldFull⟩ := filled?_eq_some_iff.mp fieldFilled
    have there : isAt ⟨"field", last⟩ f = true := isAt_iff.mpr ⟨fieldTag, fieldOwn⟩
    refine ⟨[id], last, f, .step member here (.last child there), by simp [full, fieldFull], ?_,
      .inr ⟨rfl, by simp⟩⟩
    simpa [Node.path] using (Text.join_append_singleton (by simp : above ++ [id] ≠ []) last).symm
  · obtain ⟨groups, last, x, led, named, path, form⟩ :=
      leads_of_collected (List.append_ne_nil_of_right_ne_nil above (by simp)) deeper
    have form : n.kind = .configGroup ∨ n.kind = .configField ∧ id :: groups ≠ [] :=
      form.imp_right fun field => ⟨field.1, by simp⟩
    refine ⟨id :: groups, last, x, .step member here led, ?_, by simpa using path, form⟩
    simpa [full] using named
termination_by sizeOf es
decreasing_by exact Nat.lt_trans e.sizeOf_children_lt (List.sizeOf_lt_of_mem member)

theorem formLeads_of_collected {root : Element} {n : Node} (found : .node n ∈ formNodes root) :
    (∃ e ∈ root.preorder, ∃ id, isAt ⟨"section", id⟩ e = true ∧ id ≠ "" ∧
      n = .configSection ⟨id, label? e⟩) ∨
    ∃ first groups last x, Leads root.preorder (formAddress first groups n.kind last) x ∧
      (∀ id ∈ first :: (groups ++ [last]), id ≠ "") ∧
      n.path = Text.join '/' (first :: (groups ++ [last])) ∧
      (n.kind = .configGroup ∨ n.kind = .configField ∧ groups ≠ []) := by
  obtain ⟨e, member, tag, first, filled, rfl | deeper⟩ := mem_formNodes_iff.mp found
  · obtain ⟨own, full⟩ := filled?_eq_some_iff.mp filled
    exact .inl ⟨e, member, first, isAt_iff.mpr ⟨tag, own⟩, full, rfl⟩
  · obtain ⟨own, full⟩ := filled?_eq_some_iff.mp filled
    rw [← Text.join_singleton first] at deeper
    obtain ⟨groups, last, x, led, named, path, form⟩ := leads_of_collected (List.cons_ne_nil _ _) deeper
    refine .inr ⟨first, groups, last, x, .step member (isAt_iff.mpr ⟨tag, own⟩) led, ?_, path, form⟩
    exact List.forall_mem_cons.mpr ⟨full, named⟩

theorem isForm_of_collected {root : Element} {n : Node} (found : .node n ∈ formNodes root) :
    n.kind ≠ .virtualType := by
  rcases formLeads_of_collected found with ⟨_, _, _, _, _, rfl⟩ | ⟨_, _, _, _, _, _, _, form⟩
  · simp [Node.kind]
  · rcases form with kind | ⟨kind, -⟩ <;> simp [kind]

/-- Only the identifiers on the way have to be free of slashes for a path to be taken apart again. -/
theorem plain_of_leads {root : Element} (free : SlashFree root) {first last : String} {groups : List String}
    {kind : Kind} {x : Element} (led : Leads root.preorder (formAddress first groups kind last) x)
    (named : ∀ id ∈ first :: (groups ++ [last]), id ≠ "") : Plain (first :: (groups ++ [last])) := by
  intro id place
  have step : ∃ s ∈ formAddress first groups kind last, s.id = id := by
    simpa [formAddress, groupSteps, eq_comm] using place
  obtain ⟨s, inside, rfl⟩ := step
  obtain ⟨d, below, carried⟩ := exists_id_of_leads led (fun e inside => inside) s inside
  exact ⟨named _ place, free d below s.id carried⟩

theorem search_formAddress (root : Element) (first : String) (groups : List String) {kind : Kind}
    (form : kind = .configGroup ∨ kind = .configField) (last : String) :
    Address.search root (formAddress first groups kind last) =
      .ok (holds root (formAddress first groups kind last)) := by
  have anywhere : (⟨"section", first⟩ : AddressStep).tag ≠ "*" := by simp
  have names : ∀ s ∈ groupSteps groups kind last, Xml.isSelection s.tag = false := by
    intro s place
    rcases List.mem_append.mp place with group | leaf
    · obtain ⟨id, -, rfl⟩ := List.mem_map.mp group
      exact (by decide : Xml.isSelection "group" = false)
    · cases List.mem_singleton.mp leaf
      rcases form with rfl | rfl
      · exact (by decide : Xml.isSelection "group" = false)
      · exact (by decide : Xml.isSelection "field" = false)
  exact Address.search_of_names anywhere names root

theorem search_of_collected {root : Element} (free : SlashFree root) {n : Node}
    (found : .node n ∈ formNodes root) {steps : Address} (spelt : n.address? = some steps) :
    Address.search root steps = .ok true := by
  rcases formLeads_of_collected found with
    ⟨_, _, _, _, _, rfl⟩ | ⟨first, groups, last, x, led, named, path, form⟩
  · cases spelt
  have form := form.imp_right And.left
  rw [address?_of_path form (plain_of_leads free led named) path] at spelt
  split at spelt
  · cases spelt
  · cases spelt
    have reached : holds root (formAddress first groups n.kind last) = true := holds_iff.mpr ⟨x, led⟩
    rw [search_formAddress root first groups form last, reached]

theorem collected_of_search {root : Element} {kind : Kind}
    (form : kind = .configGroup ∨ kind = .configField) {first last : String} {groups : List String}
    (deep : groups ≠ []) (plain : Plain (first :: (groups ++ [last])))
    (found : Address.search root (formAddress first groups kind last) = .ok true) :
    ∃ n, .node n ∈ formNodes root ∧ n.kind = kind ∧
      n.address? = some (formAddress first groups kind last) := by
  rw [search_formAddress root first groups form last, Except.ok.injEq] at found
  obtain ⟨x, led⟩ := holds_iff.mp found
  obtain ⟨e, member, here, further⟩ := (leads_cons_iff (groupSteps_ne_nil groups kind last)).mp led
  obtain ⟨tag, own⟩ := isAt_iff.mp here
  have filled := filled?_eq_some_iff.mpr ⟨own, (plain first List.mem_cons_self).1⟩
  have named : ∀ id ∈ groups ++ [last], id ≠ "" := fun id place =>
    (plain id (List.mem_cons_of_mem _ place)).1
  obtain ⟨n, inside, rfl, path⟩ :=
    exists_collected form further named (fun _ => deep) (List.cons_ne_nil first [])
  rw [Text.join_singleton] at inside
  refine ⟨n, mem_formNodes_iff.mpr ⟨e, member, tag, first, filled, .inr inside⟩, rfl, ?_⟩
  rw [address?_of_path form plain path, if_neg deep]

/-! ## Both together -/

/-- A form with two sections of one identifier, one of them in a group, and a group without one. -/
def nestedForm : Element :=
  .mk "config" [] "" ""
    [.mk "section" [("id", "shop")] "" ""
      [.mk "group" [("id", "main")] "" "" [],
        .mk "group" [] "" "" [.mk "field" [("id", "lost")] "" "" []]],
     .mk "group" [("id", "outer")] "" ""
      [.mk "section" [("id", "shop")] "" ""
        [.mk "group" [("id", "main")] "" ""
          [.mk "group" [("id", "seo")] "" "" [.mk "field" [("id", "title")] "" "" []]]]]]

end ReleaseImpact.Survey
