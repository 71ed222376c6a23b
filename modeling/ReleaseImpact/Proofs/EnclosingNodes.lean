import ReleaseImpact.Proofs.RemovedFiles
import ReleaseImpact.Proofs.TreeRuns

/-!
What the nodes of forms stand in. A document names a section or group before all that is in it, and a
registry keeps a node in the place of the first one of its key. Main statements:

- `grounded_formNodes`: in a document, what a node stands in comes before it.
- `grounded_flatMap`: so it does in the documents of several files, one after the other.
- `bucket_scanFiles`: a module holds the nodes of its files, in the order in which they are read.
- `exists_encloser` and `exists_encloser_before`: what a node stands in is in its module, and before it if
  no identifier has a slash.
- `scanFiles_enclosed`: both for the registry of any files.
-/

namespace ReleaseImpact

namespace Node

/-- A group stands in a section or group, and a field in a group, with the path that it gives for it. -/
def Encloses (a n : Node) : Prop :=
  n.parent? = some a.path ∧
    (n.kind = .configGroup ∧ (a.kind = .configSection ∨ a.kind = .configGroup) ∨
      n.kind = .configField ∧ a.kind = .configGroup)

variable {a b m n : Node}

theorem Encloses.isForm (around : a.Encloses n) : a.kind ≠ .virtualType := by
  rcases around.2 with ⟨-, level | level⟩ | ⟨-, level⟩ <;> simp [level]

/-- Only the kind and the path of a node tell what it encloses. -/
theorem Encloses.of_key_eq (around : a.Encloses n) (form : b.kind ≠ .virtualType) (same : b.key = a.key) :
    b.Encloses n := by
  obtain ⟨kinds, paths⟩ := (key_eq_iff_of_form form around.isForm).mp same
  rw [Encloses, kinds, paths]
  exact around

/-! ## Identifiers without a slash -/

/-- The path of a node tells the path of what it stands in, if it stands in anything. -/
theorem parent?_eq (form : n.kind ≠ .virtualType) (free : '/' ∉ n.name.toList) :
    n.parent? =
      if '/' ∈ n.path.toList then some (Text.join '/' (Text.split '/' n.path).dropLast) else none := by
  have cut (parent id : String) (free : '/' ∉ id.toList) :
      Text.join '/' (Text.split '/' (parent ++ "/" ++ id)).dropLast = parent := by
    rw [Text.split_append, Text.split_of_not_mem free, List.dropLast_concat, Text.join_split]
  cases n with
  | virtualType v => exact absurd rfl form
  | configSection s => exact (if_neg free).symm
  | configGroup g =>
    rw [if_pos (by simp [path])]
    exact congrArg some (cut g.parent g.id free).symm
  | configField f =>
    rw [if_pos (by simp [path])]
    exact congrArg some (cut f.parent f.id free).symm

theorem parent?_eq_of_key_eq (form : m.kind ≠ .virtualType) (form' : n.kind ≠ .virtualType)
    (free : '/' ∉ m.name.toList) (free' : '/' ∉ n.name.toList) (same : m.key = n.key) :
    m.parent? = n.parent? := by
  rw [parent?_eq form free, parent?_eq form' free', ((key_eq_iff_of_form form form').mp same).2]

/-- A node stands in at most one node. -/
theorem Encloses.key_eq (one : a.Encloses n) (other : b.Encloses n) (freeOne : '/' ∉ a.name.toList)
    (freeOther : '/' ∉ b.name.toList) : a.key = b.key := by
  have paths : a.path = b.path := Option.some.inj (one.1.symm.trans other.1)
  have parents : a.parent? = b.parent? := by
    rw [parent?_eq one.isForm freeOne, parent?_eq other.isForm freeOther, paths]
  refine (key_eq_iff_of_form one.isForm other.isForm).mpr ⟨?_, paths⟩
  -- of the two kinds around a group, only the section stands in nothing
  rcases one.2 with ⟨isGroup, level⟩ | ⟨isField, level⟩
  · cases a <;> cases b <;> simp_all [Encloses, kind, parent?]
  · rcases other.2 with ⟨isGroup, -⟩ | ⟨-, level'⟩
    · rw [isField] at isGroup
      cases isGroup
    · rw [level, level']

end Node

namespace Survey

open Xml (Element)
open FormComparison (formBytes shopForm ofBytes_formBytes)

/-! ## Nodes behind what they stand in -/

/-- Each of some nodes that stands in another one stands in a known one or in one before it. -/
inductive Grounded : List Node → List Node → Prop
  | nil (known : List Node) : Grounded known []
  | cons {known : List Node} {n : Node} {rest : List Node}
      (around : n.parent? ≠ none → ∃ a ∈ known, a.Encloses n) (later : Grounded (known ++ [n]) rest) :
      Grounded known (n :: rest)

variable {known more nodes others : List Node}

theorem grounded_cons_iff {n : Node} {rest : List Node} :
    Grounded known (n :: rest) ↔
      (n.parent? ≠ none → ∃ a ∈ known, a.Encloses n) ∧ Grounded (known ++ [n]) rest := by
  constructor
  · rintro (_ | ⟨around, later⟩)
    exact ⟨around, later⟩
  · rintro ⟨around, later⟩
    exact .cons around later

theorem grounded_append :
    Grounded known (nodes ++ others) ↔ Grounded known nodes ∧ Grounded (known ++ nodes) others := by
  induction nodes generalizing known with
  | nil => simp [Grounded.nil]
  | cons n rest ih => simp [grounded_cons_iff, ih, and_assoc]

theorem Grounded.mono (grounded : Grounded known nodes) (fewer : known ⊆ more) : Grounded more nodes := by
  induction grounded generalizing more with
  | nil known => exact .nil more
  | cons around later ih =>
    refine .cons (fun inside => ?_) (ih (List.append_subset.mpr ⟨?_, List.subset_append_right _ _⟩))
    · obtain ⟨a, member, around⟩ := around inside
      exact ⟨a, fewer member, around⟩
    · exact fun a member => List.mem_append_left _ (fewer member)

theorem Grounded.exists_encloser {front back : List Node} {n : Node}
    (grounded : Grounded known (front ++ n :: back)) (inside : n.parent? ≠ none) :
    ∃ a ∈ known ++ front, a.Encloses n :=
  (grounded_cons_iff.mp (grounded_append.mp grounded).2).1 inside

theorem grounded_of_forall (around : ∀ n ∈ nodes, ∃ a ∈ known, a.Encloses n) : Grounded known nodes := by
  induction nodes with
  | nil => exact .nil known
  | cons n rest ih =>
    obtain ⟨first, others⟩ := List.forall_mem_cons.mp around
    exact .cons (fun _ => first) ((ih others).mono (List.subset_append_left _ _))

theorem grounded_flatMap {α : Type} {items : List α} {f : α → List Node}
    (grounded : ∀ x ∈ items, Grounded known (f x)) : Grounded known (items.flatMap f) := by
  induction items generalizing known with
  | nil => exact .nil known
  | cons x rest ih =>
    obtain ⟨first, others⟩ := List.forall_mem_cons.mp grounded
    rw [List.flatMap_cons, grounded_append]
    exact ⟨first, ih fun y member => (others y member).mono (List.subset_append_left _ _)⟩

/-! ## Documents -/

theorem nodesAmong_flatMap {α : Type} (items : List α) (f : α → List Finding) :
    nodesAmong (items.flatMap f) = items.flatMap fun x => nodesAmong (f x) := List.filterMap_flatMap ..

theorem nodesAmong_node_cons (n : Node) (found others : List Finding) :
    nodesAmong (.node n :: found ++ others) = n :: (nodesAmong found ++ nodesAmong others) := by
  simp [nodesAmong]

theorem encloses_of_fieldFinding {g : ConfigGroup} {e : Element} {n : Node}
    (found : fieldFinding (Node.configGroup g).path e = .node n) : (Node.configGroup g).Encloses n := by
  unfold fieldFinding at found
  split at found
  · cases found
  · cases found
    exact ⟨rfl, .inr ⟨rfl, rfl⟩⟩

theorem grounded_groupsAmong {parent : String} {es : List Element}
    (grounded : ∀ e ∈ es, Grounded known (nodesAmong (groupFindings parent e))) :
    Grounded known (nodesAmong (groupsAmong parent es)) := by
  rw [groupsAmong_eq, nodesAmong_flatMap]
  refine grounded_flatMap fun e member => ?_
  split
  · exact grounded e member
  · exact .nil known

/-- A group comes after what it is in, and before all that is in it. -/
theorem grounded_groupFindings {known : List Node} {parent : String}
    (above : ∃ a ∈ known, a.path = parent ∧ (a.kind = .configSection ∨ a.kind = .configGroup))
    (e : Element) : Grounded known (nodesAmong (groupFindings parent e)) := by
  rw [groupFindings_eq]
  cases filled? "id" e with
  | none => exact .nil known
  | some id =>
    obtain ⟨a, member, rfl, level⟩ := above
    let group : Node := .configGroup ⟨id, a.path, label? e⟩
    have here : group ∈ known ++ [group] := List.mem_append_right _ (List.mem_singleton_self _)
    have fields : Grounded (known ++ [group])
        (nodesAmong ((e.childrenNamed "field").map (fieldFinding group.path))) := by
      refine grounded_of_forall fun n found => ⟨group, here, ?_⟩
      obtain ⟨f, -, same⟩ := List.mem_map.mp (mem_nodesAmong_iff.mp found)
      exact encloses_of_fieldFinding same
    have groups : Grounded (known ++ [group]) (nodesAmong (groupsAmong group.path e.children)) :=
      grounded_groupsAmong fun child below => grounded_groupFindings ⟨group, here, rfl, .inr rfl⟩ child
    have inner := grounded_append.mpr ⟨fields, groups.mono (List.subset_append_left _ _)⟩
    exact nodesAmong_node_cons group _ _ ▸ .cons (fun _ => ⟨a, member, rfl, .inl ⟨rfl, level⟩⟩) inner
termination_by sizeOf e
decreasing_by exact Nat.lt_trans (List.sizeOf_lt_of_mem below) e.sizeOf_children_lt

theorem grounded_sectionFindings (known : List Node) (e : Element) :
    Grounded known (nodesAmong (sectionFindings e)) := by
  unfold sectionFindings
  cases filled? "id" e with
  | none => exact .nil known
  | some id =>
    let top : Node := .configSection ⟨id, label? e⟩
    have here : top ∈ known ++ [top] := List.mem_append_right _ (List.mem_singleton_self _)
    have groups : Grounded (known ++ [top]) (nodesAmong (groupsAmong top.path e.children)) :=
      grounded_groupsAmong fun child _ => grounded_groupFindings ⟨top, here, rfl, .inl rfl⟩ child
    exact .cons (fun inside => absurd rfl inside) groups

theorem grounded_formNodes (known : List Node) (root : Element) :
    Grounded known (nodesAmong (formNodes root)) := by
  rw [formNodes, nodesAmong_flatMap]
  exact grounded_flatMap fun e _ => grounded_sectionFindings known e

theorem exists_id_of_groupsAmong {root : Element} {parent : String} {es : List Element} {n : Node}
    (inside : ∀ e ∈ es, e ∈ root.preorder) (found : .node n ∈ groupsAmong parent es) :
    ∃ e ∈ root.preorder, e.attribute? "id" = some n.name := by
  obtain ⟨e, member, -, id, filled, rfl | ⟨f, child, -, own, filledOwn, rfl⟩ | deeper⟩ :=
    mem_groupsAmong_iff.mp found
  · exact ⟨e, inside e member, (filled?_eq_some_iff.mp filled).1⟩
  · exact ⟨f, mem_preorder_trans (inside e member) (Element.mem_preorder_of_child child f.mem_preorder_self),
      (filled?_eq_some_iff.mp filledOwn).1⟩
  · refine exists_id_of_groupsAmong (fun child below => ?_) deeper
    exact mem_preorder_trans (inside e member) (Element.mem_preorder_of_child below child.mem_preorder_self)
termination_by sizeOf es
decreasing_by exact Nat.lt_trans e.sizeOf_children_lt (List.sizeOf_lt_of_mem member)

theorem slashFree_of_collected {root : Element} (free : SlashFree root) {n : Node}
    (found : .node n ∈ formNodes root) : '/' ∉ n.name.toList := by
  obtain ⟨e, member, -, id, filled, rfl | deeper⟩ := mem_formNodes_iff.mp found
  · exact free e member id (filled?_eq_some_iff.mp filled).1
  · have inside : ∀ child ∈ e.children, child ∈ root.preorder := fun child below =>
      mem_preorder_trans member (Element.mem_preorder_of_child below child.mem_preorder_self)
    obtain ⟨d, below, own⟩ := exists_id_of_groupsAmong inside deeper
    exact free d below n.name own

/-! ## Files, one after the other -/

/-- Reads files into one registry, whatever becomes of each of them. Each comes with the file system as it
is when the file is read. -/
def scanFiles (collector : Collector) (r : Registry) (reads : List (FileSystem × Path)) : Trail Registry :=
  Trail.fold (fun r read => do return (← scanFile read.1 collector read.2 r).registry) r reads

/-- The document that is read from a file of a module. -/
def formIn? (moduleName : String) (read : FileSystem × Path) : Option Element :=
  if moduleOfFile? read.2.text = some moduleName then
    match readDocument read.1 read.2.text with
    | .ok (.ok document) => some document
    | _ => none
  else none

/-- What a file adds to a module when it is read as a form. -/
def formNodesIn (moduleName : String) (read : FileSystem × Path) : List Node :=
  ((formIn? moduleName read).map fun document => nodesAmong (formNodes document)).getD []

variable {moduleName : String} {read : FileSystem × Path} {reads : List (FileSystem × Path)}

theorem formIn?_eq_some_iff {document : Element} :
    formIn? moduleName read = some document ↔
      moduleOfFile? read.2.text = some moduleName ∧
        readDocument read.1 read.2.text = .ok (.ok document) := by
  unfold formIn?
  split
  · next housed =>
    simp only [housed, true_and]
    split <;> simp_all
  · next elsewhere => simp [elsewhere]

theorem mem_formNodesIn_iff {n : Node} :
    n ∈ formNodesIn moduleName read ↔ ∃ document ∈ formIn? moduleName read, .node n ∈ formNodes document := by
  unfold formNodesIn
  cases formIn? moduleName read with
  | none => simp
  | some document => simp [mem_nodesAmong_iff]

theorem grounded_formNodesIn (known : List Node) (moduleName : String) (read : FileSystem × Path) :
    Grounded known (formNodesIn moduleName read) := by
  unfold formNodesIn
  cases formIn? moduleName read with
  | none => exact .nil known
  | some document => exact grounded_formNodes known document

theorem bucket_scanned (read : FileSystem × Path) (r : Registry) (moduleName : String) :
    (scanned read.1 .forms read.2 r).registry.bucket moduleName =
      (formNodesIn moduleName read).foldl Nodes.add (r.bucket moduleName) := by
  unfold scanned formNodesIn formIn?
  cases housed : moduleOfFile? read.2.text with
  | none => rfl
  | some other =>
    cases opened : readDocument read.1 read.2.text with
    | error f => simp
    | ok document =>
      cases document with
      | error reason => simp
      | ok root =>
        simp only [findings]
        by_cases same : other = moduleName
        · subst same
          rw [bucket_taken, bucket_register]
          simp
        · rw [bucket_taken_of_ne same, bucket_register]
          simp [same]

theorem bucket_scanFiles (r : Registry) (reads : List (FileSystem × Path)) :
    ∃ r', (scanFiles .forms r reads).outcome = .ok r' ∧ ∀ moduleName,
      r'.bucket moduleName = (reads.flatMap (formNodesIn moduleName)).foldl Nodes.add (r.bucket moduleName) := by
  induction reads generalizing r with
  | nil => exact ⟨r, rfl, fun _ => rfl⟩
  | cons read rest ih =>
    obtain ⟨r', ends, buckets⟩ := ih (scanned read.1 .forms read.2 r).registry
    refine ⟨r', ?_, fun moduleName => ?_⟩
    · have first : (do return (← scanFile read.1 .forms read.2 r).registry : Trail Registry).outcome =
          .ok (scanned read.1 .forms read.2 r).registry := by
        rw [Trail.outcome_bind, scanFile_outcome]
        rfl
      exact (Trail.outcome_bind_of_ok _ first).trans ends
    · rw [buckets, bucket_scanned, List.flatMap_cons, List.foldl_append]

/-! ## Modules -/

/-- Some nodes of forms, each after what it stands in, were put into a module one after the other. -/
structure Filled (r : Registry) (moduleName : String) (added : List Node) : Prop where
  bucket : r.bucket moduleName = added.foldl Nodes.add .empty
  forms : ∀ n ∈ added, n.kind ≠ .virtualType
  grounded : Grounded [] added

theorem filled_scanFiles (reportType : Option String) (reads : List (FileSystem × Path)) :
    ∃ r, (scanFiles .forms (.empty reportType) reads).outcome = .ok r ∧
      ∀ moduleName, Filled r moduleName (reads.flatMap (formNodesIn moduleName)) := by
  obtain ⟨r, ends, buckets⟩ := bucket_scanFiles (.empty reportType) reads
  refine ⟨r, ends, fun moduleName => ⟨buckets moduleName, fun n added => ?_, ?_⟩⟩
  · obtain ⟨read, -, inside⟩ := List.mem_flatMap.mp added
    obtain ⟨document, -, found⟩ := mem_formNodesIn_iff.mp inside
    exact isForm_of_collected found
  · exact grounded_flatMap fun read _ => grounded_formNodesIn [] moduleName read

theorem keys_addAll (added : List Node) :
    (added.foldl Nodes.add .empty).keys = (added.map Node.key).eraseDups := by
  have pairs : added.foldl Nodes.add .empty = OrderedMap.ofList (added.map fun n => (n.key, n)) := by
    rw [OrderedMap.ofList, List.foldl_map]
    rfl
  rw [pairs, OrderedMap.keys_ofList, List.map_map]
  rfl

namespace Filled

variable {r : Registry} {added : List Node} {n : Node}

theorem mem_added (filled : Filled r moduleName added) (member : n ∈ r.nodesOf moduleName) : n ∈ added := by
  rw [mem_nodesOf_iff, filled.bucket, get?_addAll, OrderedMap.get?_empty, Option.or_none] at member
  exact List.mem_reverse.mp (List.mem_of_find?_eq_some member)

theorem keys (filled : Filled r moduleName added) :
    (r.nodesOf moduleName).map Node.key = (added.map Node.key).eraseDups := by
  rw [← Registry.keys_bucket, filled.bucket, keys_addAll]

theorem exists_encloser (filled : Filled r moduleName added) (member : n ∈ r.nodesOf moduleName)
    (inside : n.parent? ≠ none) : ∃ a ∈ r.nodesOf moduleName, a.Encloses n := by
  obtain ⟨earlier, later, rfl⟩ := List.append_of_mem (filled.mem_added member)
  obtain ⟨a, before, around⟩ := filled.grounded.exists_encloser inside
  have known : a.key ∈ (r.nodesOf moduleName).map Node.key := by
    rw [filled.keys, List.mem_eraseDups]
    exact List.mem_map_of_mem (List.mem_append_left _ before)
  obtain ⟨b, here, same⟩ := List.mem_map.mp known
  exact ⟨b, here, around.of_key_eq (filled.forms b (filled.mem_added here)) same⟩

/-- What a node stands in comes before it, where identifiers have no slash. Later nodes under its key have
the place of the first one, and stand in the same. -/
theorem exists_encloser_before (filled : Filled r moduleName added)
    (free : ∀ n ∈ added, '/' ∉ n.name.toList) {front back : List Node}
    (listed : r.nodesOf moduleName = front ++ n :: back) (inside : n.parent? ≠ none) :
    ∃ a ∈ front, a.Encloses n := by
  have keys : (added.map Node.key).eraseDups = front.map Node.key ++ n.key :: back.map Node.key := by
    rw [← filled.keys, listed, List.map_append, List.map_cons]
  obtain ⟨_, _, cut, before⟩ := OrderedMap.exists_first keys
  obtain ⟨earlier, _, rfl, rfl, first⟩ := List.map_eq_append_iff.mp cut
  obtain ⟨m, later, rfl, same, -⟩ := List.map_eq_cons_iff.mp first
  have memberM : m ∈ earlier ++ m :: later := by simp
  have memberN : n ∈ earlier ++ m :: later := filled.mem_added (listed ▸ by simp)
  have formM := filled.forms m memberM
  have formN := filled.forms n memberN
  -- the first node under the key stands in the same as the one that has its place now
  have parents : m.parent? = n.parent? :=
    Node.parent?_eq_of_key_eq formM formN (free m memberM) (free n memberN) same
  have kinds : m.kind = n.kind := ((Node.key_eq_iff_of_form formM formN).mp same).1
  obtain ⟨a, inEarlier, around⟩ := filled.grounded.exists_encloser (parents ▸ inside)
  obtain ⟨b, inFront, sameKey⟩ := List.mem_map.mp (before a.key (List.mem_map_of_mem inEarlier))
  have aroundN : a.Encloses n := by
    rw [Node.Encloses, ← parents, ← kinds]
    exact around
  have listedB : b ∈ r.nodesOf moduleName := listed ▸ List.mem_append_left _ inFront
  exact ⟨b, inFront, aroundN.of_key_eq (filled.forms b (filled.mem_added listedB)) sameKey⟩

end Filled

/-- Files are read into one registry, whatever they hold. Of each field of a module there is the group that
it stands in, and of each group the section or group. If no identifier in the forms of the module has a
slash, each node comes after the one node that it stands in. -/
theorem scanFiles_enclosed (reportType : Option String) (reads : List (FileSystem × Path)) :
    ∃ r, (scanFiles .forms (.empty reportType) reads).outcome = .ok r ∧ ∀ moduleName,
      (∀ f, .configField f ∈ r.nodesOf moduleName →
        ∃ g, .configGroup g ∈ r.nodesOf moduleName ∧ (Node.configGroup g).path = f.parent) ∧
      (∀ g, .configGroup g ∈ r.nodesOf moduleName →
        ∃ a ∈ r.nodesOf moduleName,
          (a.kind = .configSection ∨ a.kind = .configGroup) ∧ a.path = g.parent) ∧
      ((∀ read ∈ reads, ∀ document ∈ formIn? moduleName read, SlashFree document) →
        ∀ front n back, r.nodesOf moduleName = front ++ n :: back → n.parent? ≠ none →
          ∃ a ∈ front, a.Encloses n ∧ ∀ b ∈ r.nodesOf moduleName, b.Encloses n → b = a) := by
  obtain ⟨r, ends, filled⟩ := filled_scanFiles reportType reads
  refine ⟨r, ends, fun moduleName => ⟨fun f member => ?_, fun g member => ?_, ?_⟩⟩
  · obtain ⟨a, here, parent, levels⟩ := (filled moduleName).exists_encloser member (by simp [Node.parent?])
    cases a <;> simp [Node.kind] at levels
    exact ⟨_, here, (Option.some.inj parent).symm⟩
  · obtain ⟨a, here, parent, levels⟩ := (filled moduleName).exists_encloser member (by simp [Node.parent?])
    exact ⟨a, here, by simpa [Node.kind] using levels, (Option.some.inj parent).symm⟩
  · intro slashFree front n back listed inside
    have free : ∀ n ∈ reads.flatMap (formNodesIn moduleName), '/' ∉ n.name.toList := by
      intro n added
      obtain ⟨read, member, declared⟩ := List.mem_flatMap.mp added
      obtain ⟨document, opened, found⟩ := mem_formNodesIn_iff.mp declared
      exact slashFree_of_collected (slashFree read member document opened) found
    obtain ⟨a, before, around⟩ := (filled moduleName).exists_encloser_before free listed inside
    have here : a ∈ r.nodesOf moduleName := listed ▸ List.mem_append_left _ before
    refine ⟨a, before, around, fun b member other => ?_⟩
    exact eq_of_key_eq member here
      (other.key_eq around (free b ((filled moduleName).mem_added member))
        (free a ((filled moduleName).mem_added here)))

/-- Two groups of one path, the first of which has a slash in its identifier. -/
def slashedForm : Element :=
  .mk "config" [] "" ""
    [.mk "section" [("id", "a")] "" "" [.mk "group" [("id", "b/c")] "" "" []],
      .mk "section" [("id", "a/b")] "" "" [.mk "group" [("id", "c")] "" "" []]]

-- the second group takes over the place of the first one, before the section that it stands in
example : ((nodesAmong (formNodes slashedForm)).foldl Nodes.add .empty).values =
    [.configSection ⟨"a", none⟩, .configGroup ⟨"c", "a/b", none⟩, .configSection ⟨"a/b", none⟩] := by
  decide +kernel

/-! ## Forms of one module -/

def labelledText : String := "<section id='s'><label>S</label><group id='h'/></section>"

/-- A form with a label for a section that another form may have without one, and with one more group. -/
def labelledForm : Element :=
  .mk "section" [("id", "s")] "" "S" [.mk "label" [] "S" "S" [], .mk "group" [("id", "h")] "" "" []]

theorem ofBytes_labelledText : Xml.ofBytes (asciiBytes labelledText) = .ok labelledForm := by
  have source : Xml.Source.ofBytes (asciiBytes labelledText) =
      .ok ⟨false, labelledText.toList, 0, Char.utf8Size⟩ := by rfl
  have cut : Xml.Markup.ofText? labelledText.toList = some
      [.startTag "section" [("id", [.written 's'])] false, .startTag "label" [] false, .text ['S'],
        .endTag "label", .startTag "group" [("id", [.written 'h'])] true, .endTag "section"] := by rfl
  exact ofBytes_of_items source rfl rfl cut (by cbv)

def labelledShop : FileSystem where
  root := .directory [("Acme", .directory [("Shop", .directory [("etc", .directory
    [("system.xml", .file formBytes),
      ("adminhtml", .directory [("system.xml", .file (asciiBytes labelledText))]),
      ("frontend", .directory [("system.xml", .file [60])])])])])]
  workingDirectory := []

/-- The forms of the shop, with one between them that is not well-formed. -/
def labelledReads : List (FileSystem × Path) :=
  [(labelledShop, .ofText "/Acme/Shop/etc/system.xml"),
    (labelledShop, .ofText "/Acme/Shop/etc/frontend/system.xml"),
    (labelledShop, .ofText "/Acme/Shop/etc/adminhtml/system.xml")]

theorem formIn_labelledReads :
    labelledReads.map (formIn? "Acme_Shop") = [some shopForm, none, some labelledForm] := by
  have first : formIn? "Acme_Shop" (labelledShop, .ofText "/Acme/Shop/etc/system.xml") = some shopForm :=
    formIn?_eq_some_iff.mpr
      ⟨by decide +kernel, readDocument_eq_ok_iff.mpr ⟨formBytes, by cbv, ofBytes_formBytes⟩⟩
  have last : formIn? "Acme_Shop" (labelledShop, .ofText "/Acme/Shop/etc/adminhtml/system.xml") =
      some labelledForm :=
    formIn?_eq_some_iff.mpr
      ⟨by decide +kernel, readDocument_eq_ok_iff.mpr ⟨asciiBytes labelledText, by cbv, ofBytes_labelledText⟩⟩
  have broken : formIn? "Acme_Shop" (labelledShop, .ofText "/Acme/Shop/etc/frontend/system.xml") = none := by
    rw [Option.eq_none_iff_forall_ne_some]
    intro document read
    obtain ⟨bytes, opened, parsed⟩ := readDocument_eq_ok_iff.mp (formIn?_eq_some_iff.mp read).2
    have held : labelledShop.read (Path.ofText "/Acme/Shop/etc/frontend/system.xml").text = .ok [60] := by
      cbv
    rw [held] at opened
    cases opened
    rw [ofBytes_open] at parsed
    cases parsed
  simp only [labelledReads, List.map_cons, List.map_nil, first, broken, last]

theorem scanFiles_enclosed_labelled :
    (∀ read ∈ labelledReads, ∀ document ∈ formIn? "Acme_Shop" read, SlashFree document) ∧
      ∃ r, (scanFiles .forms (.empty (some "system")) labelledReads).outcome = .ok r ∧
        r.nodesOf "Acme_Shop" =
          [.configSection ⟨"s", some "S"⟩, .configGroup ⟨"g", "s", none⟩,
            .configField ⟨"f", "s/g", none, none⟩, .configGroup ⟨"h", "s", none⟩] ∧
        (∃ g, .configGroup g ∈ r.nodesOf "Acme_Shop" ∧ (Node.configGroup g).path = "s/g") ∧
        (∃ a ∈ r.nodesOf "Acme_Shop", (a.kind = .configSection ∨ a.kind = .configGroup) ∧ a.path = "s") ∧
        ∃ a ∈ [Node.configSection ⟨"s", some "S"⟩], a.Encloses (.configGroup ⟨"g", "s", none⟩) := by
  have free : ∀ read ∈ labelledReads, ∀ document ∈ formIn? "Acme_Shop" read, SlashFree document := by
    intro read member document opened
    have listed := List.mem_map_of_mem (f := formIn? "Acme_Shop") member
    rw [formIn_labelledReads, Option.mem_def.mp opened] at listed
    have either : document = shopForm ∨ document = labelledForm := by simpa using listed
    unfold SlashFree
    rcases either with rfl | rfl <;> decide +kernel
  obtain ⟨r, ends, enclosed⟩ := scanFiles_enclosed (some "system") labelledReads
  obtain ⟨fields, groups, before⟩ := enclosed "Acme_Shop"
  have nodes : r.nodesOf "Acme_Shop" =
      [.configSection ⟨"s", some "S"⟩, .configGroup ⟨"g", "s", none⟩,
        .configField ⟨"f", "s/g", none, none⟩, .configGroup ⟨"h", "s", none⟩] := by
    obtain ⟨r', ends', filled⟩ := filled_scanFiles (some "system") labelledReads
    obtain rfl : r = r' := Except.ok.inj (ends.symm.trans ends')
    have added : labelledReads.flatMap (formNodesIn "Acme_Shop") =
        nodesAmong (formNodes shopForm) ++ nodesAmong (formNodes labelledForm) := by
      have each : labelledReads.flatMap (formNodesIn "Acme_Shop") =
          (labelledReads.map (formIn? "Acme_Shop")).flatMap fun form =>
            (form.map fun document => nodesAmong (formNodes document)).getD [] := (List.flatMap_map ..).symm
      rw [each, formIn_labelledReads]
      simp
    rw [Registry.nodesOf, (filled "Acme_Shop").bucket, added]
    decide +kernel
  refine ⟨free, r, ends, nodes, fields ⟨"f", "s/g", none, none⟩ (nodes ▸ by simp),
    groups ⟨"h", "s", none⟩ (nodes ▸ by simp), ?_⟩
  obtain ⟨a, first, around, -⟩ := before free [_] _ _ nodes (by simp [Node.parent?])
  exact ⟨a, first, around⟩

end Survey

end ReleaseImpact
