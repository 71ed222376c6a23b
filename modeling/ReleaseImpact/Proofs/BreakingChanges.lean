import ReleaseImpact.Proofs.Answers

/-!
Breaking changes of settings forms. No detector decides on them: they are read off the modules and keys
of the two snapshots, so they can be told of releases that follow each other. Main statements:

- `FormRun.firmChanges_eq`: what a detector has no say in is the same in every comparison.
- `FormRun.breaks_iff`: a comparison reports a breaking change just if a module or key was lost.
- `Registry.Keeps.trans` and `keeps_getLast`: what each release keeps, the last one has kept.
- `formRuns_compose`: a break between two releases shows in one of the steps between them.
-/

namespace ReleaseImpact

theorem Report.level?_eq_major_iff {r : Report} :
    r.level? none = some .major ↔ ∃ e ∈ r.entries, e.2.severity = .major := by
  have listed : r.level? none = heaviest? ((r.entries.map Prod.snd).map Change.severity) := by
    rw [level?, changes_none]
  constructor
  · intro level
    rw [listed] at level
    simpa using heaviest?_mem level
  · rintro ⟨e, member, major⟩
    have inside : Severity.major ∈ (r.entries.map Prod.snd).map Change.severity := by
      rw [List.map_map]
      exact List.mem_map.mpr ⟨e, member, major⟩
    cases found : heaviest? ((r.entries.map Prod.snd).map Change.severity) with
    | none =>
      rw [← listed, level?_eq_none_iff] at found
      rw [found] at member
      cases member
    | some s =>
      have heavy := rank_le_of_heaviest? found inside
      rw [listed, found]
      cases s with
      | major => rfl
      | minor => simp [Severity.rank] at heavy
      | patch => simp [Severity.rank] at heavy

namespace FormComparison

open Trail Registry

variable {rules : FormRules} {before after : Registry}

/-- The kinds of change on which no detector has a say. -/
def IsFirm (kind : ChangeKind) : Prop :=
  kind = .fileAdded ∨ kind = .fileRemoved ∨ kind = .sectionRemoved ∨ kind = .groupRemoved ∨
    kind = .fieldRemoved

instance (kind : ChangeKind) : Decidable (IsFirm kind) := inferInstanceAs (Decidable (_ ∨ _))

def firmChanges (found : List (String × Change)) : List (String × Change) :=
  found.filter fun e => IsFirm e.2.kind

def Breaks (found : List (String × Change)) : Prop := ∃ e ∈ found, e.2.severity = .major

instance (found : List (String × Change)) : Decidable (Breaks found) :=
  inferInstanceAs (Decidable (∃ e ∈ found, _))

/-- A comparison that comes to its end, with whatever detector. -/
structure FormRun (before after : Registry) where
  δ : Type
  ask : δ → Inquiry → Reply δ
  rules : FormRules
  first : δ
  last : δ
  ends : (compareForms ask rules first before after).outcome = .ok last

def FormRun.changes (run : FormRun before after) : List (String × Change) :=
  (compareForms run.ask run.rules run.first before after).changes

/-! ## Kinds of change -/

theorem isFirm_of_isRemoval {kind : ChangeKind} (removal : IsRemoval kind) : IsFirm kind :=
  .inr (.inr removal)

theorem not_isFirm_of_isAddition {kind : ChangeKind} (addition : IsAddition kind) : ¬IsFirm kind := by
  rcases addition with rfl | rfl | rfl | rfl <;> simp [IsFirm]

theorem severity_of_isRemoval {kind : ChangeKind} (removal : IsRemoval kind) : kind.severity = .major := by
  rcases removal with rfl | rfl | rfl <;> rfl

theorem severity_of_isAddition {kind : ChangeKind} (addition : IsAddition kind) :
    kind.severity = .minor := by
  rcases addition with rfl | rfl | rfl | rfl <;> rfl

theorem exists_of_mem_nodeChanges {kind? : Node → Option ChangeKind} {file : String} {nodes : List Node}
    {e : String × Change} (member : e ∈ nodeChanges kind? file nodes) :
    ∃ n ∈ nodes, kind? n = some e.2.kind := by
  obtain ⟨n, inside, same⟩ := List.mem_filterMap.mp member
  obtain ⟨kind, found, rfl⟩ := Option.map_eq_some_iff.mp same
  exact ⟨n, inside, found⟩

theorem firmChanges_append (found others : List (String × Change)) :
    firmChanges (found ++ others) = firmChanges found ++ firmChanges others := List.filter_append ..

theorem firmChanges_removed (file : String) (nodes : List Node) :
    firmChanges (nodeChanges removedKind? file nodes) = nodeChanges removedKind? file nodes := by
  apply List.filter_eq_self.mpr
  intro e member
  obtain ⟨n, -, found⟩ := exists_of_mem_nodeChanges member
  exact decide_eq_true (isFirm_of_isRemoval (isRemoval_of_removedKind? found))

theorem firmChanges_added (verdict : Inquiry → Verdict) (markers : List String) (file : String)
    (existing : Nodes) (nodes : List Node) :
    firmChanges (nodeChanges (expectedAddedKind? verdict markers file existing) file nodes) = [] := by
  apply List.filter_eq_nil_iff.mpr
  intro e member
  obtain ⟨n, -, found⟩ := exists_of_mem_nodeChanges member
  simpa using not_isFirm_of_isAddition (isAddition_of_expected found)

theorem firmChanges_files {kind : ChangeKind} (firm : IsFirm kind) (rules : FormRules) (r other : Registry) :
    firmChanges (fileChanges kind rules r other) = fileChanges kind rules r other := by
  apply List.filter_eq_self.mpr
  intro e member
  obtain ⟨m, -, rfl⟩ := List.mem_map.mp member
  exact decide_eq_true firm

/-- The files and the removed nodes of the expected changes. -/
def expectedFirmChanges (schemaFileName : String) (before after : Registry) : List (String × Change) :=
  fileChanges .fileAdded ⟨schemaFileName, []⟩ after before ++
    (fileChanges .fileRemoved ⟨schemaFileName, []⟩ before after ++
      (before.modules.filter (· ∈ after.modules)).flatMap fun m =>
        nodeChanges removedKind? (before.fileOf m) (missingNodes before after m))

theorem firmChanges_answered (answers : String → Node → Verdict) :
    firmChanges (answeredChanges rules before after answers) =
      expectedFirmChanges rules.schemaFileName before after := by
  have modules : firmChanges ((before.modules.filter (· ∈ after.modules)).flatMap fun m =>
        expectedModuleChanges (fun q => answers m q.node) rules before after m) =
      (before.modules.filter (· ∈ after.modules)).flatMap fun m =>
        nodeChanges removedKind? (before.fileOf m) (missingNodes before after m) := by
    rw [firmChanges, List.filter_flatMap]
    apply List.flatMap_congr
    intro m _
    rw [← firmChanges, expectedModuleChanges, firmChanges_append, firmChanges_removed, firmChanges_added,
      List.append_nil]
  rw [answeredChanges, firmChanges_append, firmChanges_append, modules, firmChanges_files (.inl rfl),
    firmChanges_files (.inr (.inl rfl))]
  rfl

theorem kind_of_mem_answeredChanges {answers : String → Node → Verdict} {e : String × Change}
    (member : e ∈ answeredChanges rules before after answers) :
    IsFirm e.2.kind ∨ IsAddition e.2.kind := by
  rw [answeredChanges, List.mem_append, List.mem_append, List.mem_flatMap] at member
  rcases member with file | file | ⟨m, -, node⟩
  · obtain ⟨_, -, rfl⟩ := List.mem_map.mp file
    exact .inl (.inl rfl)
  · obtain ⟨_, -, rfl⟩ := List.mem_map.mp file
    exact .inl (.inr (.inl rfl))
  · rw [expectedModuleChanges, List.mem_append] at node
    rcases node with removed | added
    · obtain ⟨n, -, found⟩ := exists_of_mem_nodeChanges removed
      exact .inl (isFirm_of_isRemoval (isRemoval_of_removedKind? found))
    · obtain ⟨n, -, found⟩ := exists_of_mem_nodeChanges added
      exact .inr (isAddition_of_expected found)

theorem breaks_firmChanges_iff {found : List (String × Change)}
    (kinds : ∀ e ∈ found, IsFirm e.2.kind ∨ IsAddition e.2.kind) :
    Breaks (firmChanges found) ↔ Breaks found := by
  constructor
  · rintro ⟨e, member, major⟩
    exact ⟨e, (List.mem_filter.mp member).1, major⟩
  · rintro ⟨e, member, major⟩
    refine ⟨e, List.mem_filter.mpr ⟨member, decide_eq_true ?_⟩, major⟩
    apply (kinds e member).resolve_right
    intro addition
    rw [Change.severity, severity_of_isAddition addition] at major
    cases major

/-! ## What a detector has no say in -/

theorem exists_ends {δ : Type} {ask : δ → Inquiry → Reply δ}
    (answers : ∀ d q, ∃ v, (ask d q).verdict = .ok v) (rules : FormRules) (sourcedBefore : before.Sourced)
    (sourcedAfter : after.Sourced) (d : δ) :
    ∃ last, (compareForms ask rules d before after).outcome = .ok last := by
  have answering (m : String) : Answering ask (fun _ => True) rules before after m :=
    fun n _ _ d _ => answers d _
  obtain ⟨last, ends, -⟩ := compareForms_ends (fun _ => True) (fun _ _ _ => trivial) sourcedBefore
    sourcedAfter (d := d) trivial fun m _ _ => answering m
  exact ⟨last, ends⟩

theorem FormRun.exists_answers (run : FormRun before after) (sourcedBefore : before.Sourced)
    (sourcedAfter : after.Sourced) :
    ∃ answers, run.changes = answeredChanges run.rules before after answers := by
  obtain ⟨-, answers, -, changes⟩ := compareForms_answered (fun _ => True) (fun _ _ _ => trivial)
    sourcedBefore sourcedAfter trivial run.ends
  exact ⟨answers, changes⟩

theorem FormRun.firmChanges_eq (run : FormRun before after) (sourcedBefore : before.Sourced)
    (sourcedAfter : after.Sourced) :
    firmChanges run.changes = expectedFirmChanges run.rules.schemaFileName before after := by
  obtain ⟨answers, changes⟩ := run.exists_answers sourcedBefore sourcedAfter
  rw [changes, firmChanges_answered]

theorem FormRun.breaks_firmChanges (run : FormRun before after) (sourcedBefore : before.Sourced)
    (sourcedAfter : after.Sourced) : Breaks (firmChanges run.changes) ↔ Breaks run.changes := by
  obtain ⟨answers, changes⟩ := run.exists_answers sourcedBefore sourcedAfter
  apply breaks_firmChanges_iff
  intro e member
  rw [changes] at member
  exact kind_of_mem_answeredChanges member

/-- The comparison by a detector that gives one verdict on all nodes. -/
def FormRun.ofVerdict (v : Verdict) (rules : FormRules) (sourcedBefore : before.Sourced)
    (sourcedAfter : after.Sourced) : FormRun before after where
  δ := Unit
  ask d _ := .plain v d
  rules := rules
  first := ()
  last := ()
  ends := (exists_ends (fun _ _ => ⟨v, rfl⟩) rules sourcedBefore sourcedAfter ()).elim fun _ ends => ends

end FormComparison

/-! ## What is lost from one release to the next -/

open FormComparison

namespace Registry

/-- Each module has a source file and declares nothing but sections, groups and fields. -/
structure OfForms (r : Registry) : Prop where
  sourced : r.Sourced
  forms : ∀ m ∈ r.modules, ∀ n ∈ r.nodesOf m, n.kind ≠ .virtualType

instance (r : Registry) : Decidable r.OfForms :=
  decidable_of_iff (r.Sourced ∧ ∀ m ∈ r.modules, ∀ n ∈ r.nodesOf m, n.kind ≠ .virtualType)
    ⟨fun h => ⟨h.1, h.2⟩, fun h => ⟨h.sourced, h.forms⟩⟩

/-- All modules of a registry, and all keys in them, are in another one too. -/
def Keeps (r other : Registry) : Prop :=
  ∀ m ∈ r.modules, m ∈ other.modules ∧
    ∀ n ∈ r.nodesOf m, n.key ∈ (other.nodesOf m).map Node.key

instance (r other : Registry) : Decidable (r.Keeps other) :=
  inferInstanceAs (Decidable (∀ m ∈ r.modules, _ ∧ ∀ n ∈ r.nodesOf m, _))

theorem Keeps.refl (r : Registry) : r.Keeps r :=
  fun _ member => ⟨member, fun _ inside => List.mem_map_of_mem inside⟩

theorem Keeps.trans {r s t : Registry} (first : r.Keeps s) (second : s.Keeps t) : r.Keeps t := by
  intro m member
  obtain ⟨inside, keys⟩ := first m member
  obtain ⟨further, others⟩ := second m inside
  refine ⟨further, fun n declared => ?_⟩
  obtain ⟨x, found, same⟩ := List.mem_map.mp (keys n declared)
  rw [← same]
  exact others x found

end Registry

namespace FormComparison

open Registry

theorem exists_removedKind? {n : Node} (form : n.kind ≠ .virtualType) :
    ∃ kind, removedKind? n = some kind := by
  cases n with
  | virtualType v => exact absurd rfl form
  | configSection s => exact ⟨_, rfl⟩
  | configGroup g => exact ⟨_, rfl⟩
  | configField f => exact ⟨_, rfl⟩

theorem breaks_expectedFirm_iff {schemaFileName : String} {before after : Registry} (forms : before.OfForms) :
    Breaks (expectedFirmChanges schemaFileName before after) ↔ ¬before.Keeps after := by
  constructor
  · rintro ⟨e, member, major⟩ keeps
    rw [expectedFirmChanges, List.mem_append, List.mem_append, List.mem_flatMap] at member
    rcases member with file | file | ⟨m, common, node⟩
    · obtain ⟨_, -, rfl⟩ := List.mem_map.mp file
      cases major
    · obtain ⟨m, lost, rfl⟩ := List.mem_map.mp file
      obtain ⟨member, gone⟩ := List.mem_filter.mp lost
      exact of_decide_eq_true gone (keeps m member).1
    · obtain ⟨n, missing, -⟩ := exists_of_mem_nodeChanges node
      obtain ⟨declared, gone⟩ := List.mem_filter.mp missing
      exact of_decide_eq_true gone ((keeps m (List.mem_filter.mp common).1).2 n declared)
  · intro loses
    rw [Keeps] at loses
    push Not at loses
    obtain ⟨m, member, lost⟩ := loses
    by_cases common : m ∈ after.modules
    · obtain ⟨n, declared, gone⟩ := lost common
      obtain ⟨kind, found⟩ := exists_removedKind? (forms.forms m member n declared)
      refine ⟨(systemDomain, ⟨kind, before.fileOf m, n.path⟩), ?_,
        severity_of_isRemoval (isRemoval_of_removedKind? found)⟩
      rw [expectedFirmChanges, List.mem_append, List.mem_append, List.mem_flatMap]
      refine .inr (.inr ⟨m, List.mem_filter.mpr ⟨member, decide_eq_true common⟩, ?_⟩)
      rw [mem_nodeChanges_iff]
      exact ⟨rfl, n, List.mem_filter.mpr ⟨declared, decide_eq_true gone⟩, found, rfl⟩
    · refine ⟨(systemDomain, ⟨.fileRemoved, before.fileOf m, schemaFileName⟩), ?_, rfl⟩
      rw [expectedFirmChanges, List.mem_append, List.mem_append]
      exact .inr (.inl (List.mem_map.mpr ⟨m, List.mem_filter.mpr ⟨member, decide_eq_true common⟩, rfl⟩))

theorem FormRun.breaks_iff {before after : Registry} (run : FormRun before after) (forms : before.OfForms)
    (sourcedAfter : after.Sourced) : Breaks run.changes ↔ ¬before.Keeps after := by
  rw [← run.breaks_firmChanges forms.sourced sourcedAfter, run.firmChanges_eq forms.sourced sourcedAfter]
  exact breaks_expectedFirm_iff forms

/-! ## Releases that follow each other -/

/-- Some comparison of two releases reports no breaking change. -/
def Harmless (before after : Registry) : Prop := ∃ run : FormRun before after, ¬Breaks run.changes

theorem keeps_getLast {first : Registry} {rest : List Registry}
    (forms : ∀ r ∈ first :: rest, r.OfForms) (chain : List.IsChain Harmless (first :: rest)) :
    first.Keeps ((first :: rest).getLast (List.cons_ne_nil first rest)) := by
  -- What is lost in a step is a break there, even if a later step brings it back, so nothing is ever lost.
  induction rest generalizing first with
  | nil => exact Keeps.refl first
  | cons next rest ih =>
    obtain ⟨⟨run, harmless⟩, others⟩ := List.isChain_cons_cons.mp chain
    obtain ⟨here, later⟩ := List.forall_mem_cons.mp forms
    have sourced := (later next List.mem_cons_self).sourced
    have step : first.Keeps next := not_not.mp (mt (run.breaks_iff here sourced).mpr harmless)
    rw [List.getLast_cons (List.cons_ne_nil next rest)]
    exact step.trans (ih later others)

theorem formRuns_compose :
    (∀ {before middle after : Registry}, before.OfForms → middle.OfForms → after.OfForms →
      ∀ (whole : FormRun before after) (one : FormRun before middle) (two : FormRun middle after),
        Breaks whole.changes → Breaks one.changes ∨ Breaks two.changes) ∧
    ∀ {first : Registry} {rest : List Registry}, (∀ r ∈ first :: rest, r.OfForms) →
      List.IsChain Harmless (first :: rest) →
        ∀ run : FormRun first ((first :: rest).getLast (List.cons_ne_nil first rest)),
          ¬Breaks run.changes := by
  constructor
  · intro before middle after here between there whole one two breaks
    rw [whole.breaks_iff here there.sourced] at breaks
    rw [one.breaks_iff here between.sourced, two.breaks_iff between there.sourced]
    by_contra! kept
    exact breaks (kept.1.trans kept.2)
  · intro first rest forms chain run
    have sourced := (forms _ (List.getLast_mem (List.cons_ne_nil first rest))).sourced
    rw [run.breaks_iff (forms first List.mem_cons_self) sourced, not_not]
    exact keeps_getLast forms chain

def shopForms (groups : List String) : Registry := .ofModules
  [("Acme_Shop", "shop/etc/system.xml",
    .configSection ⟨"shop", none⟩ :: groups.map fun id => .configGroup ⟨id, "shop", none⟩)]

theorem formRuns_compose_shop :
    (∀ groups ∈ [[], ["main"], ["main", "seo"], ["seo"]], (shopForms groups).OfForms) ∧
      List.IsChain Harmless [shopForms [], shopForms ["main"], shopForms ["main", "seo"]] ∧
      (∀ run : FormRun (shopForms []) (shopForms ["main", "seo"]), ¬Breaks run.changes) ∧
      ∃ (whole : FormRun (shopForms ["main"]) (shopForms ["seo"]))
        (one : FormRun (shopForms ["main"]) (shopForms ["main", "seo"]))
        (two : FormRun (shopForms ["main", "seo"]) (shopForms ["seo"])),
        Breaks whole.changes ∧ ¬Breaks one.changes ∧ Breaks two.changes := by
  have forms : ∀ groups ∈ [[], ["main"], ["main", "seo"], ["seo"]], (shopForms groups).OfForms := by
    decide +kernel
  have empty := forms [] (by simp)
  have main := forms ["main"] (by simp)
  have both := forms ["main", "seo"] (by simp)
  have seo := forms ["seo"] (by simp)
  have run (before after : List String) (here : (shopForms before).OfForms)
      (there : (shopForms after).OfForms) : FormRun (shopForms before) (shopForms after) :=
    .ofVerdict .unique ⟨"system.xml", []⟩ here.sourced there.sourced
  have opened : ¬Breaks (run _ _ empty main).changes := by
    rw [FormRun.breaks_iff _ empty main.sourced]
    decide +kernel
  have grown : ¬Breaks (run _ _ main both).changes := by
    rw [FormRun.breaks_iff _ main both.sourced]
    decide +kernel
  have lost : Breaks (run _ _ main seo).changes := by
    rw [FormRun.breaks_iff _ main seo.sourced]
    decide +kernel
  have chain : List.IsChain Harmless [shopForms [], shopForms ["main"], shopForms ["main", "seo"]] :=
    .cons_cons ⟨_, opened⟩ (.cons_cons ⟨_, grown⟩ (.singleton _))
  have known : ∀ r ∈ [shopForms [], shopForms ["main"], shopForms ["main", "seo"]], r.OfForms := by
    simp [empty, main, both]
  have split := formRuns_compose.1 main both seo _ (run _ _ main both) (run _ _ both seo) lost
  exact ⟨forms, chain, formRuns_compose.2 known chain, _, _, _, lost, grown, split.resolve_left grown⟩

end FormComparison

end ReleaseImpact
