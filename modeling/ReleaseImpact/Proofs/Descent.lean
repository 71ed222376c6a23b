import ReleaseImpact.Proofs.Addresses
import ReleaseImpact.Proofs.Answers
import ReleaseImpact.Proofs.Copies
import ReleaseImpact.Proofs.TreeRegistry

/-!
What stands above a node in the forms of a tree. Nodes are compared by the texts of their paths alone, but
a document that declares a node declares everything above it, so what is gone takes with it all below.
Main statements:

- `Leads.exists_prefix`: where some steps lead somewhere, so do the first of them.
- `spelt_of_collected` and `spelt_of_mem_nodesOf`: above each node there is one at every level, in its
  document and in the registry of its tree.
- `missing_of_missing_above`: what is below a missing node is missing.
- `compareForms_closed`: what is below a removed section or group is reported as removed; what is below
  an added one is reported as added, where added nodes are not looked up.
-/

namespace ReleaseImpact

namespace Survey

open Xml (Element)
open Address (isAt)

theorem Leads.exists_prefix {es : List Element} {steps rest : Address} {x : Element}
    (led : Leads es (steps ++ rest) x) (nonempty : steps ≠ []) : ∃ y, Leads es steps y := by
  induction steps generalizing es with
  | nil => exact absurd rfl nonempty
  | cons s steps ih =>
    cases steps with
    | nil =>
      cases led with
      | last member here => exact ⟨_, .last member here⟩
      | step member here further => exact ⟨_, .last member here⟩
    | cons next steps =>
      rw [List.cons_append, leads_cons_iff (by simp)] at led
      obtain ⟨e, member, here, further⟩ := led
      obtain ⟨y, further⟩ := ih further (List.cons_ne_nil _ _)
      exact ⟨y, .step member here further⟩

/-! ## Levels -/

/-- What stands at the end of some identifiers that lead further down. -/
def levelKind : List String → Kind
  | [_] => .configSection
  | _ => .configGroup

/-- The path of a node is spelt by identifiers, at each of which a node of a list is found. -/
def Spelt (nodes : Node → Prop) (n : Node) (ids : List String) : Prop :=
  ids ≠ [] ∧ Plain ids ∧ n.path = Text.join '/' ids ∧ (n.kind = .configField ∨ n.kind = levelKind ids) ∧
    ∀ front back, ids = front ++ back → front ≠ [] → back ≠ [] →
      ∃ a, nodes a ∧ a.kind = levelKind front ∧ a.path = Text.join '/' front

theorem exists_collected_above {root : Element} {first last : String} {groups : List String} {kind : Kind}
    {x : Element} (led : Leads root.preorder (formAddress first groups kind last) x)
    (named : ∀ id ∈ first :: (groups ++ [last]), id ≠ "") {front back : List String}
    (parted : first :: (groups ++ [last]) = front ++ back) (nonempty : front ≠ []) (more : back ≠ []) :
    ∃ a, .node a ∈ formNodes root ∧ a.kind = levelKind front ∧ a.path = Text.join '/' front := by
  obtain ⟨e, member, here, further⟩ := (leads_cons_iff (groupSteps_ne_nil groups kind last)).mp led
  obtain ⟨tag, own⟩ := isAt_iff.mp here
  have filled := filled?_eq_some_iff.mpr ⟨own, named first List.mem_cons_self⟩
  obtain ⟨_, inner, rfl⟩ := List.exists_cons_of_ne_nil nonempty
  obtain ⟨rfl, rest⟩ : first = _ ∧ groups ++ [last] = inner ++ back := List.cons.inj parted
  have above : groups = inner ++ back.dropLast := by
    rw [← List.dropLast_append_of_ne_nil more, ← rest, List.dropLast_concat]
  rcases List.eq_nil_or_concat inner with rfl | ⟨outer, group, rfl⟩
  · exact ⟨_, mem_formNodes_iff.mpr ⟨e, member, tag, first, filled, .inl rfl⟩, rfl,
      (Text.join_singleton first).symm⟩
  · rw [List.concat_eq_append] at above ⊢
    have steps : groupSteps groups kind last =
        groupSteps outer .configGroup group ++ groupSteps back.dropLast kind last := by
      simp [above, groupSteps, Kind.text]
    rw [steps] at further
    obtain ⟨y, further⟩ := further.exists_prefix (groupSteps_ne_nil outer .configGroup group)
    have filledIds : ∀ id ∈ outer ++ [group], id ≠ "" := by
      intro id place
      refine named id (List.mem_cons_of_mem _ (List.mem_append_left _ ?_))
      rw [above]
      exact List.mem_append_left _ place
    obtain ⟨a, found, isGroup, path⟩ :=
      exists_collected (.inl rfl) further filledIds (fun field => by cases field) (List.cons_ne_nil first [])
    rw [Text.join_singleton] at found
    refine ⟨a, mem_formNodes_iff.mpr ⟨e, member, tag, first, filled, .inr found⟩, ?_, path⟩
    rw [isGroup]
    cases outer <;> rfl

theorem spelt_of_collected {root : Element} (free : SlashFree root) {n : Node}
    (found : .node n ∈ formNodes root) : ∃ ids, Spelt (fun a => .node a ∈ formNodes root) n ids := by
  rcases formLeads_of_collected found with
    ⟨e, member, id, here, full, rfl⟩ | ⟨first, groups, last, x, led, named, path, form⟩
  · have plain : Plain [id] := by
      intro other same
      cases List.mem_singleton.mp same
      exact ⟨full, free e member id (isAt_iff.mp here).2⟩
    refine ⟨[id], List.cons_ne_nil _ _, plain, (Text.join_singleton id).symm, .inr rfl, ?_⟩
    intro front back parted nonempty more
    rcases List.singleton_eq_append_iff.mp parted with ⟨none, -⟩ | ⟨-, none⟩
    · exact absurd none nonempty
    · exact absurd none more
  · refine ⟨first :: (groups ++ [last]), List.cons_ne_nil _ _, plain_of_leads free led named, path, ?_, ?_⟩
    · rcases form with group | ⟨field, -⟩
      · right
        rw [group]
        cases groups <;> rfl
      · exact .inl field
    · intro front back parted nonempty more
      exact exists_collected_above led named parted nonempty more

/-! ## Registries of trees -/

/-- No identifier in a form among some files holds the character that parts a path. -/
def SlashFreeForms (fs : FileSystem) (files : List Path) : Prop :=
  ∀ file ∈ files, file.name = "system.xml" → ∀ document,
    readDocument fs file.text = .ok (.ok document) → SlashFree document

theorem Holds.slashFree {fs : FileSystem} {settings : ScanSettings} {root : Path} {moduleName : String}
    {documents : List (Path × Element)} (holds : Holds fs settings root .system moduleName documents)
    (free : ∀ e ∈ documents, SlashFree e.2) :
    SlashFreeForms fs (fs.filesBelow settings.excludedDirs root) := by
  intro file listed named document read
  obtain ⟨known, member, opened⟩ := holds.exists_of_listed listed (.inr named)
  rw [opened] at read
  cases read
  exact free _ member

variable {fs : FileSystem} {files : List Path} {moduleName : String}

theorem mem_declaredIn_system_iff {file : Path} {n : Node} :
    n ∈ declaredIn fs .system moduleName file ↔
      ∃ document, documentIn? fs .system moduleName file = some document ∧ .node n ∈ formNodes document :=
  mem_declaredIn_iff

theorem isForm_of_mem_nodesOf {n : Node} (member : n ∈ (gathered fs .system files).nodesOf moduleName) :
    n.kind ≠ .virtualType := by
  obtain ⟨file, -, declared⟩ := exists_file_of_mem_nodesOf member
  obtain ⟨document, -, found⟩ := mem_declaredIn_system_iff.mp declared
  exact isForm_of_collected found

theorem spelt_of_mem_nodesOf (free : SlashFreeForms fs files) {n : Node}
    (member : n ∈ (gathered fs .system files).nodesOf moduleName) :
    ∃ ids, Spelt (· ∈ (gathered fs .system files).nodesOf moduleName) n ids := by
  obtain ⟨file, listed, declared⟩ := exists_file_of_mem_nodesOf member
  obtain ⟨document, read, found⟩ := mem_declaredIn_system_iff.mp declared
  obtain ⟨named, -, opened⟩ := documentIn?_eq_some_iff.mp read
  obtain ⟨ids, nonempty, plain, path, kind, above⟩ :=
    spelt_of_collected (free file listed named document opened) found
  refine ⟨ids, nonempty, plain, path, kind, fun front back parted some more => ?_⟩
  obtain ⟨a, inDocument, level, spelt⟩ := above front back parted some more
  obtain ⟨b, inModule, same⟩ :=
    exists_of_mem_declaredIn listed (mem_declaredIn_system_iff.mpr ⟨document, read, inDocument⟩)
  obtain ⟨kinds, paths⟩ :=
    (Node.key_eq_iff_of_form (isForm_of_mem_nodesOf inModule) (isForm_of_collected inDocument)).mp same
  exact ⟨b, inModule, kinds.trans level, paths.trans spelt⟩

end Survey

namespace FormComparison

open Survey Trail

/-- A node whose path starts with another path and a slash. -/
def Below (path : String) (n : Node) : Prop := (path ++ "/").toList <+: n.path.toList

theorem exists_parts_of_below {path : String} {n : Node} (below : Below path n) :
    ∃ rest, n.path = path ++ "/" ++ rest := by
  obtain ⟨rest, same⟩ := below
  refine ⟨String.ofList rest, String.toList_inj.mp ?_⟩
  rw [← same]
  simp

variable {fs fs' : FileSystem} {files files' : List Path} {moduleName : String}

theorem missing_of_missing_above (free : SlashFreeForms fs files) (free' : SlashFreeForms fs' files')
    {q n : Node}
    (gone : q ∈ missingNodes (gathered fs .system files) (gathered fs' .system files') moduleName)
    (level : q.kind ≠ .configField) (member : n ∈ (gathered fs .system files).nodesOf moduleName)
    (below : Below q.path n) :
    n ∈ missingNodes (gathered fs .system files) (gathered fs' .system files') moduleName := by
  obtain ⟨here, absent⟩ := List.mem_filter.mp gone
  have absent : q.key ∉ ((gathered fs' .system files').nodesOf moduleName).map Node.key := by
    simpa using absent
  refine List.mem_filter.mpr ⟨member, decide_eq_true fun known => absent ?_⟩
  obtain ⟨m, inOther, same⟩ := List.mem_map.mp known
  obtain ⟨-, paths⟩ :=
    (Node.key_eq_iff_of_form (isForm_of_mem_nodesOf inOther) (isForm_of_mem_nodesOf member)).mp same
  obtain ⟨front, nonempty, plain, path, kind, -⟩ := spelt_of_mem_nodesOf free here
  obtain ⟨ids, some, plainIds, pathIds, -, above⟩ := spelt_of_mem_nodesOf free' inOther
  obtain ⟨rest, longer⟩ := exists_parts_of_below below
  -- the identifiers of both paths are found again by cutting, so those of `q` stand before the others
  have parted : ids = front ++ Text.split '/' rest := by
    rw [← Text.split_join (fun id place => (plainIds id place).2) some, ← pathIds, paths, longer,
      Text.split_append, path, Text.split_join (fun id place => (plain id place).2) nonempty]
  have more : Text.split '/' rest ≠ [] := by
    simpa [Text.split] using Text.splitOn_ne_nil '/' rest.toList
  obtain ⟨a, inOther, levels, spelt⟩ := above front _ parted nonempty more
  refine List.mem_map.mpr ⟨a, inOther, ?_⟩
  rw [Node.key_eq_iff_of_form (isForm_of_mem_nodesOf inOther) (isForm_of_mem_nodesOf here)]
  exact ⟨levels.trans (kind.resolve_left level).symm, spelt.trans path.symm⟩

/-! ## Reports -/

section Reports

variable {δ : Type} {ask : δ → Inquiry → Reply δ} {rules : FormRules} {before after : Registry}
variable {answers : String → Node → Verdict}

theorem removed_closed (isBefore : before = gathered fs .system files)
    (isAfter : after = gathered fs' .system files') (freeBefore : SlashFreeForms fs files)
    (freeAfter : SlashFreeForms fs' files') (inBefore : moduleName ∈ before.modules)
    (inAfter : moduleName ∈ after.modules) {kind : ChangeKind} {path : String}
    (level : kind = .sectionRemoved ∨ kind = .groupRemoved)
    (reported : (systemDomain, ⟨kind, before.fileOf moduleName, path⟩) ∈
      answeredChanges rules before after answers)
    {n : Node} (member : n ∈ before.nodesOf moduleName) (below : Below path n) {own : ChangeKind}
    (isOwn : removedKind? n = some own) :
    (systemDomain, ⟨own, before.fileOf moduleName, n.path⟩) ∈
      answeredChanges rules before after answers := by
  subst isBefore isAfter
  have removal : IsRemoval kind := by rcases level with rfl | rfl <;> simp [IsRemoval]
  obtain ⟨m, inBefore', -, same, q, gone, found, rfl⟩ := (mem_removed_iff removal).mp reported
  obtain rfl := fileOf_injective inBefore inBefore' same
  have above : q.kind ≠ .configField := by
    intro field
    cases q <;> simp [removedKind?, Node.kind] at field found
    rcases level with rfl | rfl <;> cases found
  have missing := missing_of_missing_above freeBefore freeAfter gone above member below
  exact (mem_removed_iff (isRemoval_of_removedKind? isOwn)).mpr
    ⟨_, inBefore, inAfter, rfl, n, missing, isOwn, rfl⟩

theorem added_closed (isBefore : before = gathered fs .system files)
    (isAfter : after = gathered fs' .system files') (freeBefore : SlashFreeForms fs files)
    (freeAfter : SlashFreeForms fs' files') (inBefore : moduleName ∈ before.modules)
    (inAfter : moduleName ∈ after.modules)
    (fixture : ∃ marker ∈ rules.fixtureMarkers, marker.toList <:+: (after.fileOf moduleName).toList)
    {kind : ChangeKind} {path : String} (level : kind = .sectionAdded ∨ kind = .groupAdded)
    (reported : (systemDomain, ⟨kind, after.fileOf moduleName, path⟩) ∈
      answeredChanges rules before after answers)
    {n : Node} (member : n ∈ after.nodesOf moduleName) (below : Below path n) {own : ChangeKind}
    (isOwn : addedKind? n = some own) :
    (systemDomain, ⟨own, after.fileOf moduleName, n.path⟩) ∈
      answeredChanges rules before after answers := by
  subst isBefore isAfter
  have addition : IsAddition kind := by rcases level with rfl | rfl <;> simp [IsAddition]
  obtain ⟨m, -, inAfter', same, q, new, found, rfl⟩ := (mem_added_iff addition).mp reported
  obtain rfl := fileOf_injective inAfter inAfter' same
  rw [expectedAddedKind?, if_pos fixture] at found
  have above : q.kind ≠ .configField := by
    intro field
    cases q <;> simp [addedKind?, Node.kind] at field found
    rcases level with rfl | rfl <;> cases found
  have missing := missing_of_missing_above freeAfter freeBefore new above member below
  refine (mem_added_iff (isAddition_of_addedKind? isOwn)).mpr
    ⟨_, inBefore, inAfter, rfl, n, missing, ?_, rfl⟩
  rw [expectedAddedKind?, if_pos fixture]
  exact isOwn

/-- In a comparison of two trees, every group and field below a removed section or group is reported as
removed; where the added nodes of a module are not looked up, every group and field below an added
section or group is reported as added. -/
theorem compareForms_closed {settings settings' : ScanSettings} {root root' : Path}
    {as bs : List (ReportType × Registry)} (scanBefore : (scanTree fs settings root).outcome = .ok as)
    (scanAfter : (scanTree fs' settings' root').outcome = .ok bs) (isBefore : (.system, before) ∈ as)
    (isAfter : (.system, after) ∈ bs)
    (freeBefore : SlashFreeForms fs (fs.filesBelow settings.excludedDirs root))
    (freeAfter : SlashFreeForms fs' (fs'.filesBelow settings'.excludedDirs root')) {d d' : δ}
    (run : (compareForms ask rules d before after).outcome = .ok d')
    (inBefore : moduleName ∈ before.modules) (inAfter : moduleName ∈ after.modules) :
    (∀ kind path, kind = .sectionRemoved ∨ kind = .groupRemoved →
      (systemDomain, ⟨kind, before.fileOf moduleName, path⟩) ∈
        (compareForms ask rules d before after).changes →
      (∀ g, .configGroup g ∈ before.nodesOf moduleName → Below path (.configGroup g) →
        (systemDomain, ⟨.groupRemoved, before.fileOf moduleName, (Node.configGroup g).path⟩) ∈
          (compareForms ask rules d before after).changes) ∧
      ∀ f, .configField f ∈ before.nodesOf moduleName → Below path (.configField f) →
        (systemDomain, ⟨.fieldRemoved, before.fileOf moduleName, (Node.configField f).path⟩) ∈
          (compareForms ask rules d before after).changes) ∧
    ((∃ marker ∈ rules.fixtureMarkers, marker.toList <:+: (after.fileOf moduleName).toList) →
      ∀ kind path, kind = .sectionAdded ∨ kind = .groupAdded →
        (systemDomain, ⟨kind, after.fileOf moduleName, path⟩) ∈
          (compareForms ask rules d before after).changes →
        (∀ g, .configGroup g ∈ after.nodesOf moduleName → Below path (.configGroup g) →
          (systemDomain, ⟨.groupAdded, after.fileOf moduleName, (Node.configGroup g).path⟩) ∈
            (compareForms ask rules d before after).changes) ∧
        ∀ f, .configField f ∈ after.nodesOf moduleName → Below path (.configField f) →
          (systemDomain, ⟨.fieldAdded, after.fileOf moduleName, (Node.configField f).path⟩) ∈
            (compareForms ask rules d before after).changes) := by
  obtain ⟨-, isBefore⟩ := (mem_scanTree_iff scanBefore).mp isBefore
  obtain ⟨-, isAfter⟩ := (mem_scanTree_iff scanAfter).mp isAfter
  have sourcedBefore : before.Sourced := isBefore ▸ sourced_gathered _ _ _
  have sourcedAfter : after.Sourced := isAfter ▸ sourced_gathered _ _ _
  obtain ⟨-, answers, -, changes⟩ :=
    compareForms_answered (fun _ => True) (fun _ _ _ => trivial) sourcedBefore sourcedAfter trivial run
  rw [changes]
  constructor
  · intro kind path level reported
    constructor
    · intro g member below
      exact removed_closed isBefore isAfter freeBefore freeAfter inBefore inAfter level reported member below rfl
    · intro f member below
      exact removed_closed isBefore isAfter freeBefore freeAfter inBefore inAfter level reported member below rfl
  · intro fixture kind path level reported
    constructor
    · intro g member below
      exact added_closed isBefore isAfter freeBefore freeAfter inBefore inAfter fixture level reported member
        below rfl
    · intro f member below
      exact added_closed isBefore isAfter freeBefore freeAfter inBefore inAfter fixture level reported member
        below rfl

end Reports

/-! ## A form that is emptied -/

/-- The text of a section with a group with a field. -/
def formBytes : List UInt8 :=
  [60, 115, 101, 99, 116, 105, 111, 110, 32, 105, 100, 61, 39, 115, 39, 62, 60, 103, 114, 111, 117, 112, 32,
    105, 100, 61, 39, 103, 39, 62, 60, 102, 105, 101, 108, 100, 32, 105, 100, 61, 39, 102, 39, 47, 62, 60,
    47, 103, 114, 111, 117, 112, 62, 60, 47, 115, 101, 99, 116, 105, 111, 110, 62]

def shopForm : Xml.Element :=
  .mk "section" [("id", "s")] "" "" [.mk "group" [("id", "g")] "" "" [.mk "field" [("id", "f")] "" "" []]]

def formText : List Char := "<section id='s'><group id='g'><field id='f'/></group></section>".toList

theorem ofBytes_formBytes : Xml.ofBytes formBytes = .ok shopForm := by
  have source : Xml.Source.ofBytes formBytes = .ok ⟨false, formText, 0, Char.utf8Size⟩ := by rfl
  have cut : Xml.Markup.ofText? formText = some
      [.startTag "section" [("id", [.written 's'])] false, .startTag "group" [("id", [.written 'g'])] false,
        .startTag "field" [("id", [.written 'f'])] true, .endTag "group", .endTag "section"] := by rfl
  exact ofBytes_of_items source rfl rfl cut (by cbv)

def moduleTree (bytes : List UInt8) : Entry :=
  .directory [("Acme", .directory [("Shop", .directory [("etc", .directory [("system.xml", .file bytes)])])])]

def formTrees : FileSystem where
  root := .directory [("full", moduleTree formBytes), ("bare", moduleTree typeBytes)]
  workingDirectory := []

/-- The trees, each with the form of its module. -/
inductive IsFormTree : String → Xml.Element → Prop
  | full : IsFormTree "/full" shopForm
  | bare : IsFormTree "/bare" (.mk "virtualType" [("name", "A")] "" "" [])

def formFile (root : String) : Path := (Path.ofText root).below ["Acme", "Shop", "etc", "system.xml"]

def formRegistry (root : String) (form : Xml.Element) : Registry :=
  (formNodes form).foldl (take "Acme_Shop")
    ((Registry.empty (some "system")).register "Acme_Shop" (formFile root).text)

theorem holds_formTree {root : String} {form : Xml.Element} (isTree : IsFormTree root form) :
    Holds formTrees .initial (.ofText root) .system "Acme_Shop" [(formFile root, form)] where
  directory := by cases isTree <;> cbv
  listed := ⟨[], by cases isTree <;> cbv, List.forall_mem_nil _⟩
  read := by
    have place : (formFile root).name = "system.xml" ∧
        moduleOfFile? (formFile root).text = some "Acme_Shop" := by cases isTree <;> decide +kernel
    have opened : readDocument formTrees (formFile root).text = .ok (.ok form) := by
      cases isTree with
      | full => exact readDocument_eq_ok_iff.mpr ⟨formBytes, by cbv, ofBytes_formBytes⟩
      | bare => exact readDocument_eq_ok_iff.mpr ⟨typeBytes, by cbv, ofBytes_typeBytes⟩
    exact List.forall_mem_singleton.mpr (documentIn?_eq_some_iff.mpr ⟨place.1, place.2, opened⟩)

theorem scanTree_formTree {root : String} {form : Xml.Element} (isTree : IsFormTree root form) :
    ∃ registries, (scanTree formTrees .initial (.ofText root)).outcome = .ok registries ∧
      (.system, formRegistry root form) ∈ registries := by
  obtain ⟨registries, scan⟩ := (holds_formTree isTree).scanTree
  refine ⟨registries, scan, (mem_scanTree_iff scan).mpr ⟨by decide, ?_⟩⟩
  rw [(holds_formTree isTree).gathered_eq]
  rfl

theorem slashFree_formTree {root : String} {form : Xml.Element} (isTree : IsFormTree root form) :
    SlashFreeForms formTrees (formTrees.filesBelow ScanSettings.initial.excludedDirs (.ofText root)) := by
  refine (holds_formTree isTree).slashFree (List.forall_mem_singleton.mpr ?_)
  unfold SlashFree
  cases isTree <;> decide +kernel

theorem compareForms_closed_emptied :
    let full := formRegistry "/full" shopForm
    let bare := formRegistry "/bare" (.mk "virtualType" [("name", "A")] "" "" [])
    let ask : Unit → Inquiry → Reply Unit := fun d _ => .plain .unique d
    "Acme_Shop" ∈ full.modules ∧ "Acme_Shop" ∈ bare.modules ∧
      (∃ as, (scanTree formTrees .initial (.ofText "/full")).outcome = .ok as ∧ (.system, full) ∈ as) ∧
      (∃ bs, (scanTree formTrees .initial (.ofText "/bare")).outcome = .ok bs ∧ (.system, bare) ∈ bs) ∧
      (systemDomain, ⟨.sectionRemoved, "/full/Acme/Shop/etc/system.xml", "s"⟩) ∈
        (compareForms ask ⟨"system.xml", []⟩ () full bare).changes ∧
      (systemDomain, ⟨.fieldRemoved, "/full/Acme/Shop/etc/system.xml", "s/g/f"⟩) ∈
        (compareForms ask ⟨"system.xml", []⟩ () full bare).changes ∧
      (systemDomain, ⟨.sectionAdded, "/full/Acme/Shop/etc/system.xml", "s"⟩) ∈
        (compareForms ask ⟨"system.xml", ["full"]⟩ () bare full).changes ∧
      (systemDomain, ⟨.groupAdded, "/full/Acme/Shop/etc/system.xml", "s/g"⟩) ∈
        (compareForms ask ⟨"system.xml", ["full"]⟩ () bare full).changes := by
  intro full bare ask
  obtain ⟨as, scanFull, isFull⟩ := scanTree_formTree .full
  obtain ⟨bs, scanBare, isBare⟩ := scanTree_formTree .bare
  have freeFull := slashFree_formTree .full
  have freeBare := slashFree_formTree .bare
  have inFull : "Acme_Shop" ∈ full.modules := by decide +kernel
  have inBare : "Acme_Shop" ∈ bare.modules := by decide +kernel
  have file : full.fileOf "Acme_Shop" = "/full/Acme/Shop/etc/system.xml" := by decide +kernel
  have removed : (systemDomain, ⟨.sectionRemoved, full.fileOf "Acme_Shop", "s"⟩) ∈
      (compareForms ask ⟨"system.xml", []⟩ () full bare).changes := by decide +kernel
  have added : (systemDomain, ⟨.sectionAdded, full.fileOf "Acme_Shop", "s"⟩) ∈
      (compareForms ask ⟨"system.xml", ["full"]⟩ () bare full).changes := by decide +kernel
  have fixture : ∃ marker ∈ ["full"], marker.toList <:+: (full.fileOf "Acme_Shop").toList := by decide +kernel
  have group : .configGroup ⟨"g", "s", none⟩ ∈ full.nodesOf "Acme_Shop" := by decide +kernel
  have field : .configField ⟨"f", "s/g", none, none⟩ ∈ full.nodesOf "Acme_Shop" := by decide +kernel
  have groupBelow : Below "s" (.configGroup ⟨"g", "s", none⟩) := by unfold Below; decide
  have fieldBelow : Below "s" (.configField ⟨"f", "s/g", none, none⟩) := by unfold Below; decide
  have sourcedFull : full.Sourced := by decide +kernel
  have sourcedBare : bare.Sourced := by decide +kernel
  have answers : ∀ d q, (ask d q).verdict = .ok .unique := fun _ _ => rfl
  obtain ⟨_, toBare⟩ := compareForms_reports answers ⟨"system.xml", []⟩ sourcedFull sourcedBare ()
  obtain ⟨_, toFull⟩ := compareForms_reports answers ⟨"system.xml", ["full"]⟩ sourcedBare sourcedFull ()
  obtain ⟨gone, -⟩ := compareForms_closed scanFull scanBare isFull isBare freeFull freeBare toBare.outcome
    inFull inBare
  obtain ⟨-, new⟩ := compareForms_closed scanBare scanFull isBare isFull freeBare freeFull toFull.outcome
    inBare inFull
  have fieldGone := (gone _ "s" (.inl rfl) removed).2 _ field fieldBelow
  have groupNew := (new fixture _ "s" (.inl rfl) added).1 _ group groupBelow
  rw [file] at removed added fieldGone groupNew
  exact ⟨inFull, inBare, ⟨as, scanFull, isFull⟩, ⟨bs, scanBare, isBare⟩, removed, fieldGone, added, groupNew⟩

end FormComparison

end ReleaseImpact
