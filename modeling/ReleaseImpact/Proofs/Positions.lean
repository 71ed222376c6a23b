import ReleaseImpact.Proofs.EnclosingNodes

/-!
Where nodes stand in forms. A node keeps the path of what it stands in as one text; its own path, taken
apart, gives the identifiers of all that is around it again. Main statements:

- `StandsAt.pathParts_path`: from the path of a node, its position is read back.
- `StandsAt.address?_of_long` and `StandsAt.address?_of_short`: the address of a node goes through its
  position.
- `StandsAt.key_eq_iff`: nodes have one key just if they are of one kind and stand at one position.
- `exists_standsAt_of_collected`: what is read from a document without slashes in its identifiers has a
  position.
- `address?_and_key_of_standsAt`: addresses and keys tell positions, and nothing else.
-/

namespace ReleaseImpact.Survey

open Xml (Element)
open Address (pathParts ofParts?)

/-- The identifiers from the section down to a node of a form. What a group or field gives as its parent is
the path through all but its own. -/
inductive StandsAt : List String → Node → Prop
  | configSection (s : ConfigSection) : StandsAt [s.id] (.configSection s)
  | configGroup {above : List String} (g : ConfigGroup) (inside : g.parent = Text.join '/' above) :
    StandsAt (above ++ [g.id]) (.configGroup g)
  | configField {above : List String} (f : ConfigField) (inside : f.parent = Text.join '/' above) :
    StandsAt (above ++ [f.id]) (.configField f)

/-! ## Paths -/

theorem pathParts_append (front back : String) :
    pathParts (front ++ "/" ++ back) = pathParts front ++ pathParts back := by
  simp only [pathParts, Text.split_append, List.filter_append]

theorem plain_append_iff {front back : List String} : Plain (front ++ back) ↔ Plain front ∧ Plain back :=
  List.forall_mem_append

theorem pathParts_of_plain {id : String} (plain : Plain [id]) : pathParts id = [id] := by
  have joined := pathParts_join (List.cons_ne_nil id []) plain
  rwa [Text.join_singleton] at joined

/-- Without anything around it, a group has a path that begins with a slash. -/
theorem pathParts_below {above : List String} {id : String} (plain : Plain (above ++ [id])) :
    pathParts (Text.join '/' above ++ "/" ++ id) = above ++ [id] := by
  obtain ⟨outer, own⟩ := plain_append_iff.mp plain
  have around : pathParts (Text.join '/' above) = above := by
    cases above with
    | nil => decide
    | cons first rest => exact pathParts_join (List.cons_ne_nil _ _) outer
  rw [pathParts_append, around, pathParts_of_plain own]

namespace StandsAt

variable {ids others : List String} {m n : Node}

theorem isForm (here : StandsAt ids n) : n.kind ≠ .virtualType := by
  cases here <;> simp [Node.kind]

theorem pathParts_path (here : StandsAt ids n) (plain : Plain ids) : pathParts n.path = ids := by
  cases here with
  | configSection s => exact pathParts_of_plain plain
  | configGroup g inside =>
    rw [Node.path, inside]
    exact pathParts_below plain
  | configField f inside =>
    rw [Node.path, inside]
    exact pathParts_below plain

theorem path_eq (here : StandsAt ids n) :
    n.path = if n.kind = .configSection then Text.join '/' ids
      else Text.join '/' ids.dropLast ++ "/" ++ ids.getLastD "" := by
  cases here with
  | configSection s => exact (Text.join_singleton s.id).symm
  | configGroup g inside => simp [Node.path, Node.kind, inside]
  | configField f inside => simp [Node.path, Node.kind, inside]

/-! ## Addresses -/

theorem isSection_or_form (here : StandsAt ids n) :
    ids.length = 1 ∧ n.address? = none ∨ n.kind = .configGroup ∨ n.kind = .configField := by
  cases here with
  | configSection s => exact .inl ⟨rfl, rfl⟩
  | configGroup g _ => exact .inr (.inl rfl)
  | configField f _ => exact .inr (.inr rfl)

theorem address?_of_short (here : StandsAt ids n) (plain : Plain ids) (short : ids.length < 3) :
    n.address? = none := by
  rcases here.isSection_or_form with ⟨-, none⟩ | form
  · exact none
  · rw [address?_eq_ofParts? form, here.pathParts_path plain]
    exact Address.ofParts?_eq_none_iff.mpr short

theorem address?_of_long (here : StandsAt ids n) (plain : Plain ids) (long : 3 ≤ ids.length) :
    ∃ steps, n.address? = some steps ∧
      steps.map AddressStep.tag = "section" :: (List.replicate (ids.length - 2) "group" ++ [n.kind.text]) ∧
      steps.map AddressStep.id = ids := by
  have form := here.isSection_or_form.resolve_left fun top => by omega
  have spelt : n.address? = ofParts? n.kind.text ids := by
    rw [address?_eq_ofParts? form, here.pathParts_path plain]
  obtain ⟨first, rest, rfl⟩ := List.exists_cons_of_length_pos (by omega : 0 < ids.length)
  rcases List.eq_nil_or_concat' rest with rfl | ⟨groups, last, rfl⟩
  · simp at long
  have deep : groups ≠ [] := by
    rintro rfl
    simp at long
  refine ⟨formAddress first groups n.kind last, spelt.trans (ofParts?_of_groups deep ..), ?_, ?_⟩
  · simp [formAddress, groupSteps, List.map_const', Function.comp_def]
  · simp [formAddress, groupSteps, Function.comp_def]

/-! ## Keys -/

theorem key_eq_iff (here : StandsAt ids m) (there : StandsAt others n) (plain : Plain ids)
    (plainThere : Plain others) : m.key = n.key ↔ m.kind = n.kind ∧ ids = others := by
  rw [Node.key_eq_iff_of_form here.isForm there.isForm]
  refine and_congr_right fun kinds => ⟨fun paths => ?_, fun same => ?_⟩
  · rw [← here.pathParts_path plain, paths, there.pathParts_path plainThere]
  · rw [here.path_eq, there.path_eq, kinds, same]

end StandsAt

/-! ## Documents -/

theorem standsAt_of_path {above : List String} {last : String} {n : Node}
    (form : n.kind = .configGroup ∨ n.kind = .configField) (top : above ≠ []) (free : '/' ∉ n.name.toList)
    (freeLast : '/' ∉ last.toList) (path : n.path = Text.join '/' (above ++ [last])) :
    StandsAt (above ++ [last]) n := by
  rw [Text.join_append_singleton top] at path
  cases n with
  | configGroup g =>
    obtain ⟨inside, rfl⟩ := Text.append_slash_inj free freeLast path
    exact .configGroup g inside
  | configField f =>
    obtain ⟨inside, rfl⟩ := Text.append_slash_inj free freeLast path
    exact .configField f inside
  | _ => simp [Node.kind] at form

theorem exists_standsAt_of_collected {root : Element} (free : SlashFree root) {n : Node}
    (found : .node n ∈ formNodes root) : ∃ ids, Plain ids ∧ StandsAt ids n := by
  rcases formLeads_of_collected found with
    ⟨e, member, id, here, full, rfl⟩ | ⟨first, groups, last, x, led, named, path, form⟩
  · have own := free e member id (isAt_iff.mp here).2
    exact ⟨[id], by simpa [Plain] using ⟨full, own⟩, .configSection ⟨id, label? e⟩⟩
  · have plain := plain_of_leads free led named
    refine ⟨first :: groups ++ [last], plain, ?_⟩
    exact standsAt_of_path (form.imp_right And.left) (List.cons_ne_nil _ _) (slashFree_of_collected free found)
      (plain last (by simp)).2 path

/-- The address of a group or field leads through the identifiers around it to its own. Those of fewer than
three, and all sections, have none. The key of a node tells its kind and its position apart from those of
every other node. -/
theorem address?_and_key_of_standsAt {ids : List String} {n : Node} (here : StandsAt ids n)
    (plain : Plain ids) :
    (3 ≤ ids.length → ∃ steps, n.address? = some steps ∧
      steps.map AddressStep.tag = "section" :: (List.replicate (ids.length - 2) "group" ++ [n.kind.text]) ∧
      steps.map AddressStep.id = ids) ∧
    (ids.length < 3 → n.address? = none) ∧
    ∀ others m, StandsAt others m → Plain others → (m.key = n.key ↔ m.kind = n.kind ∧ others = ids) :=
  ⟨here.address?_of_long plain, here.address?_of_short plain,
    fun _ _ there plainThere => there.key_eq_iff here plainThere plain⟩

def titleField : ConfigField := ⟨"title", "shop/main/seo", some "text", none⟩

/-- A group in the place of a field. -/
def titleGroup : ConfigGroup := ⟨"title", "shop/main/seo", none⟩

def mainGroup : ConfigGroup := ⟨"main", "shop", none⟩

theorem address?_and_key_of_standsAt_title :
    StandsAt ["shop", "main", "seo", "title"] (.configField titleField) ∧
      StandsAt ["shop", "main", "seo", "title"] (.configGroup titleGroup) ∧
      StandsAt ["shop", "main"] (.configGroup mainGroup) ∧
      Plain ["shop", "main", "seo", "title"] ∧ Plain ["shop", "main"] ∧
      (∃ steps, (Node.configField titleField).address? = some steps ∧
        steps.map AddressStep.tag = ["section", "group", "group", "field"] ∧
        steps.map AddressStep.id = ["shop", "main", "seo", "title"]) ∧
      (Node.configGroup mainGroup).address? = none ∧
      (Node.configGroup titleGroup).key ≠ (Node.configField titleField).key ∧
      (Node.configGroup mainGroup).key ≠ (Node.configField titleField).key := by
  have inSeo : titleField.parent = Text.join '/' ["shop", "main", "seo"] := by decide
  have groupInSeo : titleGroup.parent = Text.join '/' ["shop", "main", "seo"] := by decide
  have inShop : mainGroup.parent = Text.join '/' ["shop"] := by decide
  have field : StandsAt ["shop", "main", "seo", "title"] (.configField titleField) := .configField _ inSeo
  have group : StandsAt ["shop", "main", "seo", "title"] (.configGroup titleGroup) :=
    .configGroup _ groupInSeo
  have outer : StandsAt ["shop", "main"] (.configGroup mainGroup) := .configGroup _ inShop
  have plain : Plain ["shop", "main", "seo", "title"] := by
    unfold Plain
    decide
  have plainMain : Plain ["shop", "main"] := by
    unfold Plain
    decide
  obtain ⟨long, -, keys⟩ := address?_and_key_of_standsAt field plain
  obtain ⟨-, short, -⟩ := address?_and_key_of_standsAt outer plainMain
  refine ⟨field, group, outer, plain, plainMain, long (by decide), short (by decide), fun same => ?_,
    fun same => ?_⟩
  · exact absurd ((keys _ _ group plain).mp same).1 (by decide)
  · exact absurd ((keys _ _ outer plainMain).mp same).2 (by decide)

end ReleaseImpact.Survey
