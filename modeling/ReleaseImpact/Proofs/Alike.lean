import ReleaseImpact.Comparison.Trees
import ReleaseImpact.Proofs.Survey

/-!
Registries that hold the same nodes. Registries know the nodes of the modules and the paths of their
files; of the same files below two directories only the paths differ. Main statements:

- `alike_readOne` and `alike_readAll`: the same files give registries with the same nodes.
- `compareRegistries_quiet`: nothing is reported of registries with the same nodes.
-/

namespace ReleaseImpact

open Trail

namespace Survey

/-! ## Registries with the same nodes -/

theorem nodes_take {r s : Registry} (same : r.nodes = s.nodes) (moduleName : String) (f : Finding) :
    (take moduleName r f).nodes = (take moduleName s f).nodes := by
  cases f <;> simp [take, Registry.put, Registry.bucket, same]

theorem nodes_taken {r s : Registry} (same : r.nodes = s.nodes) (moduleName : String)
    (found : List Finding) :
    (found.foldl (take moduleName) r).nodes = (found.foldl (take moduleName) s).nodes := by
  induction found generalizing r s with
  | nil => exact same
  | cons f rest ih => exact ih (nodes_take same moduleName f)

theorem nodes_register {r s : Registry} (same : r.nodes = s.nodes) (moduleName file other : String) :
    (r.register moduleName file).nodes = (s.register moduleName other).nodes := by
  simp [Registry.register, same]

/-- Registries of one kind of file with the same nodes. -/
structure Alike (a b : ReportType × Registry) : Prop where
  type : a.1 = b.1
  nodes : a.2.nodes = b.2.nodes

/-- A file that is read as a document says the same at two places. -/
def SamePlace (type : ReportType) (f g : Path) : Prop :=
  moduleOfFile? f.text = moduleOfFile? g.text ∧ (type = .di → areaScope f = areaScope g)

theorem findings_of_type (type : ReportType) {f g : Path} (place : type = .di → areaScope f = areaScope g)
    (document : Xml.Element) :
    ∃ found, findings type.collector f document = .ok found ∧
      findings type.collector g document = .ok found := by
  cases type with
  | di =>
    refine ⟨virtualTypes (areaScope f) document, rfl, ?_⟩
    rw [place rfl]
    rfl
  | system => exact ⟨_, rfl, rfl⟩

theorem nodes_scanned {fs : FileSystem} {type : ReportType} {f g : Path}
    (read : readDocument fs f.text = readDocument fs g.text)
    (place : ∀ document, readDocument fs f.text = .ok (.ok document) → SamePlace type f g)
    {r s : Registry} (same : r.nodes = s.nodes) :
    (scanned fs type.collector f r).registry.nodes = (scanned fs type.collector g s).registry.nodes := by
  by_cases unread : ∀ document, readDocument fs f.text ≠ .ok (.ok document)
  · rw [registry_scanned_of_unread unread, registry_scanned_of_unread (read ▸ unread), same]
  · obtain ⟨document, found⟩ := not_forall_not.1 unread
    obtain ⟨module, area⟩ := place document found
    obtain ⟨all, findingsF, findingsG⟩ := findings_of_type type area document
    unfold scanned
    rw [← module, ← read, found]
    cases moduleOfFile? f.text with
    | none => exact same
    | some moduleName =>
      simp only [findingsF, findingsG]
      exact nodes_taken (nodes_register same ..) ..

theorem alike_readOne {fs : FileSystem} {f g : Path} (name : f.name = g.name)
    (read : readDocument fs f.text = readDocument fs g.text)
    (place : ∀ type document, matchesAny (ReportType.patterns type) f.name = true →
      readDocument fs f.text = .ok (.ok document) → SamePlace type f g)
    {a b a' b' : ReportType × Registry} (alike : Alike a b) (readA : readOne fs f a = .ok a')
    (readB : readOne fs g b = .ok b') : Alike a' b' := by
  obtain ⟨type, r⟩ := a
  obtain ⟨_, s⟩ := b
  obtain ⟨rfl, same⟩ := alike
  dsimp only at same readB
  rw [eq_of_readOne readA, eq_of_readOne readB, ← name]
  by_cases wanted : matchesAny type.patterns f.name = true
  · have nodes := nodes_scanned read (fun document => place type document wanted) same
    rw [if_pos wanted, if_pos wanted]
    constructor
    · rfl
    · dsimp only
      exact nodes
  · rw [if_neg wanted, if_neg wanted]
    exact ⟨rfl, same⟩

theorem alike_mapM {f g : ReportType × Registry → Except Failure (ReportType × Registry)}
    (step : ∀ a b a' b', Alike a b → f a = .ok a' → g b = .ok b' → Alike a' b')
    {as bs as' bs' : List (ReportType × Registry)} (alike : List.Forall₂ Alike as bs)
    (runA : as.mapM f = .ok as') (runB : bs.mapM g = .ok bs') : List.Forall₂ Alike as' bs' := by
  have resultsA := forall₂_of_mapM runA
  have resultsB := forall₂_of_mapM runB
  clear runA runB
  induction alike generalizing as' bs' with
  | nil =>
    cases resultsA
    cases resultsB
    exact .nil
  | cons first _ ih =>
    cases resultsA with
    | cons firstA restA =>
      cases resultsB with
      | cons firstB restB => exact .cons (step _ _ _ _ first firstA firstB) (ih restA restB)

theorem alike_readAll {fs : FileSystem} {before after : Path}
    {files : List (Location × Except PathFault (List UInt8))}
    (readBefore : ∀ e ∈ files, fs.read (before.below e.1).text = e.2)
    (readAfter : ∀ e ∈ files, fs.read (after.below e.1).text = e.2)
    (place : ∀ e ∈ files, ∀ type document,
      matchesAny (ReportType.patterns type) (before.below e.1).name = true →
        readDocument fs (before.below e.1).text = .ok (.ok document) →
          SamePlace type (before.below e.1) (after.below e.1))
    (named : ∀ e ∈ files, e.1 ≠ [])
    {as bs as' bs' : List (ReportType × Registry)} (alike : List.Forall₂ Alike as bs)
    (runA : readAll fs as (files.map fun e => before.below e.1) = .ok as')
    (runB : readAll fs bs (files.map fun e => after.below e.1) = .ok bs') :
    List.Forall₂ Alike as' bs' := by
  induction files generalizing as bs with
  | nil =>
    cases runA
    cases runB
    exact alike
  | cons e rest ih =>
    obtain ⟨firstBefore, restBefore⟩ := List.forall_mem_cons.1 readBefore
    obtain ⟨firstAfter, restAfter⟩ := List.forall_mem_cons.1 readAfter
    obtain ⟨firstPlace, restPlace⟩ := List.forall_mem_cons.1 place
    obtain ⟨firstNamed, restNamed⟩ := List.forall_mem_cons.1 named
    obtain ⟨midA, stepA, runA⟩ := bind_eq_ok_iff.1 runA
    obtain ⟨midB, stepB, runB⟩ := bind_eq_ok_iff.1 runB
    have name : (before.below e.1).name = (after.below e.1).name := by
      simp [Path.name, Path.below, List.getLast?_append_of_ne_nil _ firstNamed]
    have read : readDocument fs (before.below e.1).text = readDocument fs (after.below e.1).text := by
      rw [readDocument, readDocument, firstBefore, firstAfter]
    have mid := alike_mapM (fun _ _ _ _ => alike_readOne name read firstPlace) alike stepA stepB
    exact ih restBefore restAfter restPlace restNamed mid runA runB

end Survey

/-! ## Comparing registries with the same nodes -/

open Survey

theorem sameIndex_self {α : Type} [DecidableEq α] (index : OrderedMap String (OrderedMap String α)) :
    sameIndex index index = true := OrderedMap.agreesBy_self OrderedMap.agrees_self index

variable {fs : FileSystem} {isFile : String → Bool} {settings : AnalysisSettings}

variable (fs isFile settings) in
theorem compareType_quiet {before after : Registry} (same : before.nodes = after.nodes)
    (type : ReportType) :
    (RegistryComparison.compareType fs isFile settings before after type).Quiet () := by
  have index {α : Type} (pick : Node → Option α) : before.index pick = after.index pick := by
    rw [Registry.index, Registry.index, same]
  cases type with
  | di =>
    rw [RegistryComparison.compareType, compareVirtualTypes, index, if_pos (sameIndex_self _)]
    exact quiet_pure ()
  | system =>
    rw [RegistryComparison.compareType, compareForms, index]
    simp only [sameIndex_self, if_true]
    exact (quiet_pure _).bind (quiet_pure ())

theorem ReportType.name_injective {s t : ReportType} (same : s.name = t.name) : s = t := by
  have found := ReportType.ofName?_name s
  rw [same, ReportType.ofName?_name] at found
  exact (Option.some.inj found).symm

theorem find?_named {as bs : List (ReportType × Registry)} (alike : List.Forall₂ Alike as bs)
    (distinct : (as.map Prod.fst).Nodup) {e : ReportType × Registry} (member : e ∈ as) :
    ∃ r, ((TreeComparison.named bs).find? (·.1 = e.1.name)).map Prod.snd = some r ∧
      e.2.nodes = r.nodes := by
  induction alike with
  | nil => cases member
  | @cons a b as bs first rest ih =>
    obtain ⟨fresh, distinct⟩ := List.nodup_cons.1 distinct
    rw [TreeComparison.named, List.map_cons, List.find?_cons]
    rcases List.mem_cons.1 member with rfl | later
    · exact ⟨b.2, by simp [first.type], first.nodes⟩
    · have other : b.1.name ≠ e.1.name := by
        intro same
        have types : a.1 = e.1 := first.type.trans (ReportType.name_injective same)
        exact fresh (types ▸ List.mem_map_of_mem later)
      simp only [other, decide_false]
      exact ih distinct later

variable (fs isFile settings) in
theorem compareRegistries_quiet {as bs : List (ReportType × Registry)}
    (alike : List.Forall₂ Alike as bs) (distinct : (as.map Prod.fst).Nodup) (found : Nat) :
    ∃ n, (compareRegistries fs isFile settings found (TreeComparison.named as)
      (TreeComparison.named bs)).Quiet n := by
  refine quiet_fold (fun found e member => ?_) found
  obtain ⟨a, inside, rfl⟩ := List.mem_map.1 member
  obtain ⟨r, here, same⟩ := find?_named alike distinct inside
  have run := compareType_quiet fs isFile settings same a.1
  simp only [RegistryComparison.compareNamed, here, ReportType.ofName?_name]
  exact ⟨_, run.bind ((quiet_log ..).bind (quiet_pure _))⟩

end ReleaseImpact
