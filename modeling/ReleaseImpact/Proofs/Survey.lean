import ReleaseImpact.Proofs.Registry
import ReleaseImpact.Proofs.Reports
import ReleaseImpact.Survey.Tree
import Mathlib.Data.List.Forall2

/-!
What the findings of a file make of a registry, and the files of a tree of the registries for it. Main
statements:

- `addFindings_reports`: a module with a source file takes all findings.
- `mem_nodesOf_taken`: the nodes of the module are older ones or found ones.
- `exists_taken`: a found node, or one found later under its key, is a node of the module.
- `scanDirectory_outcome`: the registries of a tree come from its files, one after the other.
-/

namespace ReleaseImpact

namespace Registry

@[simp] theorem bucket_put (r : Registry) (moduleName : String) (n : Node) :
    (r.put moduleName n).bucket moduleName = (r.bucket moduleName).insert n.key n := by
  simp [put, bucket]

end Registry

namespace Survey

open Trail

/-- What a registry is after a finding in a module. -/
def take (moduleName : String) (r : Registry) : Finding → Registry
  | .node n => r.put moduleName n
  | .nameless _ => r

theorem addNode_reports {r : Registry} {moduleName file : String} (n : Node)
    (sourced : r.files.get? moduleName = some file) :
    (r.addNode moduleName n).Reports (r.put moduleName n) [] := by
  simp only [Registry.addNode, sourced]
  cases (r.bucket moduleName).get? n.key with
  | none => exact reports_pure _
  | some old =>
    dsimp only
    split
    · exact (reports_log ..).bind_silent (reports_pure _)
    · exact reports_pure _

theorem addFinding_reports (c : Collector) (path : String) {r : Registry} {moduleName file : String}
    (sourced : r.files.get? moduleName = some file) (f : Finding) :
    (addFinding c moduleName path r f).Reports (take moduleName r f) [] := by
  cases f with
  | node n => exact addNode_reports n sourced
  | nameless tag => cases c <;> exact (reports_log ..).bind_silent (reports_pure r)

theorem files_take (moduleName : String) (r : Registry) (f : Finding) :
    (take moduleName r f).files = r.files := by cases f <;> rfl

theorem addFindings_reports (c : Collector) (path : String) {r : Registry} {moduleName file : String}
    (sourced : r.files.get? moduleName = some file) (found : List Finding) :
    (fold (addFinding c moduleName path) r found).Reports (found.foldl (take moduleName) r) [] := by
  induction found generalizing r with
  | nil => exact reports_pure r
  | cons f rest ih =>
    have first := addFinding_reports c path sourced f
    exact first.bind_silent (ih (files_take moduleName r f ▸ sourced))

/-! ## The nodes of the module -/

theorem mem_nodesOf_put {r : Registry} {moduleName : String} {n m : Node}
    (member : m ∈ (r.put moduleName n).nodesOf moduleName) : m = n ∨ m ∈ r.nodesOf moduleName := by
  rw [Registry.nodesOf, Registry.bucket_put] at member
  obtain ⟨e, here, rfl⟩ := List.mem_map.1 member
  rcases OrderedMap.mem_entries_insert here with rfl | old
  · exact .inl rfl
  · exact .inr (List.mem_map_of_mem old)

theorem mem_nodesOf_taken {moduleName : String} {n : Node} {found : List Finding} {r : Registry}
    (member : n ∈ (found.foldl (take moduleName) r).nodesOf moduleName) :
    n ∈ r.nodesOf moduleName ∨ .node n ∈ found := by
  induction found generalizing r with
  | nil => exact .inl member
  | cons f rest ih =>
    rcases ih member with old | later
    · cases f with
      | nameless tag => exact .inl old
      | node m =>
        rcases mem_nodesOf_put old with rfl | old
        · exact .inr List.mem_cons_self
        · exact .inl old
    · exact .inr (List.mem_cons_of_mem _ later)

theorem mem_keys_take {moduleName key : String} {r : Registry} (f : Finding)
    (member : key ∈ (r.bucket moduleName).keys) :
    key ∈ ((take moduleName r f).bucket moduleName).keys := by
  cases f with
  | nameless tag => exact member
  | node n =>
    rw [take, Registry.bucket_put, OrderedMap.keys_insert]
    split
    · exact member
    · exact List.mem_append_left _ member

theorem mem_keys_taken {moduleName key : String} {r : Registry} (found : List Finding)
    (member : key ∈ (r.bucket moduleName).keys) :
    key ∈ ((found.foldl (take moduleName) r).bucket moduleName).keys := by
  induction found generalizing r with
  | nil => exact member
  | cons f rest ih => exact ih (mem_keys_take f member)

theorem mem_nodesOf_put_self (r : Registry) (moduleName : String) (n : Node) :
    n ∈ (r.put moduleName n).nodesOf moduleName := by
  have here : ((r.put moduleName n).bucket moduleName).get? n.key = some n := by
    rw [Registry.bucket_put, OrderedMap.get?_insert, if_pos rfl]
  exact List.mem_map_of_mem (f := Prod.snd) (OrderedMap.get?_eq_some_iff.1 here)

theorem eq_of_key_eq {r : Registry} {moduleName : String} {m n : Node} (hm : m ∈ r.nodesOf moduleName)
    (hn : n ∈ r.nodesOf moduleName) (same : m.key = n.key) : m = n := by
  have found := OrderedMap.get?_keyOf (r.keyed_bucket moduleName) hm
  rw [same, OrderedMap.get?_keyOf (r.keyed_bucket moduleName) hn] at found
  exact (Option.some.inj found).symm

theorem exists_taken {n : Node} {found : List Finding} (here : .node n ∈ found) (r : Registry)
    (moduleName : String) :
    ∃ m, .node m ∈ found ∧ m ∈ (found.foldl (take moduleName) r).nodesOf moduleName ∧ m.key = n.key := by
  obtain ⟨earlier, later, rfl⟩ := List.append_of_mem here
  rw [List.foldl_append, List.foldl_cons, take]
  have put := mem_nodesOf_put_self (earlier.foldl (take moduleName) r) moduleName n
  have kept := mem_keys_taken later (Registry.keys_bucket _ _ ▸ List.mem_map_of_mem put)
  rw [Registry.keys_bucket] at kept
  obtain ⟨m, member, same⟩ := List.mem_map.1 kept
  refine ⟨m, ?_, member, same⟩
  -- what is read later under the key takes the place of the node, and nothing older does
  rcases mem_nodesOf_taken member with now | afterwards
  · rw [eq_of_key_eq now put same]
    exact here
  · exact List.mem_append_right _ (List.mem_cons_of_mem _ afterwards)

/-! ## Files -/

/-- What reading a file makes of a registry. -/
def scanned (fs : FileSystem) (c : Collector) (file : Path) (r : Registry) : Scan :=
  match moduleOfFile? file.text with
  | none => ⟨r, .ok false⟩
  | some moduleName =>
    match readDocument fs file.text with
    | .error f => ⟨r, .error f⟩
    | .ok (.error _) => ⟨r, .ok false⟩
    | .ok (.ok root) =>
      let registered := r.register moduleName file.text
      match findings c file root with
      | .error f => ⟨registered, .error f⟩
      | .ok found => ⟨found.foldl (take moduleName) registered, .ok true⟩

theorem scanFile_reports (fs : FileSystem) (c : Collector) (file : Path) (r : Registry) :
    (scanFile fs c file r).Reports (scanned fs c file r) [] := by
  unfold scanFile scanned
  cases moduleOfFile? file.text with
  | none => exact (reports_log ..).bind_silent (reports_pure _)
  | some moduleName =>
    dsimp only
    cases readDocument fs file.text with
    | error f => exact reports_pure _
    | ok document =>
      cases document with
      | error reason => exact (reports_log ..).bind_silent (reports_pure _)
      | ok root =>
        dsimp only
        cases findings c file root with
        | error f => exact reports_pure _
        | ok found =>
          have sourced : (r.register moduleName file.text).files.get? moduleName = some file.text := by
            simp [Registry.register]
          exact (addFindings_reports c file.text sourced found).bind_silent (reports_pure _)

theorem scanFile_outcome (fs : FileSystem) (c : Collector) (file : Path) (r : Registry) :
    (scanFile fs c file r).outcome = pure (scanned fs c file r) := (scanFile_reports ..).outcome

theorem registry_scanned_of_unread {fs : FileSystem} {file : Path}
    (unread : ∀ document, readDocument fs file.text ≠ .ok (.ok document)) (c : Collector)
    (r : Registry) : (scanned fs c file r).registry = r := by
  unfold scanned
  split
  · rfl
  · split <;> first | rfl | exact absurd ‹_› (unread _)

theorem readDocument_eq_ok_iff {fs : FileSystem} {file : String} {document : Xml.Element} :
    readDocument fs file = .ok (.ok document) ↔
      ∃ bytes, fs.read file = .ok bytes ∧ Xml.ofBytes bytes = .ok document := by
  unfold readDocument
  cases fs.read file with
  | error fault => cases fault <;> simp
  | ok bytes =>
    simp only [Except.ok.injEq, exists_eq_left']
    cases Xml.ofBytes bytes with
    | ok root => simp
    | error fault => cases fault <;> simp

/-- A document with neither a declaration nor a document type is cut into items and then put together. -/
theorem ofBytes_of_items {bytes : List UInt8} {chars : List Char} {items : List Xml.Markup}
    {root : Xml.Element} (source : Xml.Source.ofBytes bytes = .ok ⟨false, chars, 0, Char.utf8Size⟩)
    (plain : Xml.dropMisc? chars.length chars = some chars)
    (noType : Xml.cutAt "<!DOCTYPE".toList (chars.take 9) = none)
    (cut : Xml.Markup.ofText? chars = some items)
    (built : Xml.rootOf? Xml.Doctype.none false items = some root) : Xml.ofBytes bytes = .ok root := by
  have read : Xml.Source.root? ⟨false, chars, 0, Char.utf8Size⟩ = some root := by
    simp only [Xml.Source.root?, plain, noType, Option.bind_eq_bind, Option.bind_some, cut, built]
    rfl
  rw [Xml.ofBytes, source, Xml.ofSource, read]

/-- What reading a file makes of the registry for a kind of file. -/
def readOne (fs : FileSystem) (file : Path) (e : ReportType × Registry) :
    Except Failure (ReportType × Registry) :=
  if matchesAny e.1.patterns file.name then do
    let scan := scanned fs e.1.collector file e.2
    let _ ← scan.outcome
    return (e.1, scan.registry)
  else return e

theorem eq_of_readOne {fs : FileSystem} {file : Path} {e e' : ReportType × Registry}
    (read : readOne fs file e = .ok e') :
    e' = if matchesAny e.1.patterns file.name then
        (e.1, (scanned fs e.1.collector file e.2).registry)
      else e := by
  unfold readOne at read
  split at read
  · next wanted =>
    obtain ⟨_, -, same⟩ := bind_eq_ok_iff.1 read
    rw [if_pos wanted]
    exact (Except.ok.inj same).symm
  · next unwanted =>
    rw [if_neg unwanted]
    exact (Except.ok.inj read).symm

theorem readOne_of_unwanted {fs : FileSystem} {file : Path} {e : ReportType × Registry}
    (unwanted : matchesAny e.1.patterns file.name = false) : readOne fs file e = .ok e := by
  simp [readOne, unwanted, pure, Except.pure]

theorem readOne_of_document {fs : FileSystem} {file : Path} {e : ReportType × Registry}
    {moduleName : String} {document : Xml.Element} {found : List Finding}
    (wanted : matchesAny e.1.patterns file.name = true)
    (housed : moduleOfFile? file.text = some moduleName)
    (read : readDocument fs file.text = .ok (.ok document))
    (reads : findings e.1.collector file document = .ok found) :
    readOne fs file e =
      .ok (e.1, found.foldl (take moduleName) (e.2.register moduleName file.text)) := by
  simp [readOne, scanned, wanted, housed, read, reads, pure, Except.pure, bind, Except.bind]

/-- What reading some files makes of the registries for some kinds of files. -/
def readAll (fs : FileSystem) (registries : List (ReportType × Registry)) (files : List Path) :
    Except Failure (List (ReportType × Registry)) :=
  files.foldlM (fun registries file => registries.mapM (readOne fs file)) registries

theorem registries_readInto (fs : FileSystem) (file : Path) (taken : Nat)
    (registries : List (ReportType × Registry)) :
    Progress.registries <$> (readInto fs file taken registries).outcome =
      registries.mapM (readOne fs file) := by
  induction registries generalizing taken with
  | nil => rfl
  | cons e rest ih =>
    obtain ⟨type, r⟩ := e
    rw [List.mapM_cons, readInto, readOne]
    split
    · simp only [outcome_bind, scanFile_outcome, outcome_ofExcept, outcome_pure, map_bind, map_pure,
        bind_assoc, pure_bind]
      refine bind_congr fun new => ?_
      rw [← ih (if new = true then taken + 1 else taken)]
      simp only [bind_map_left]
    · simp only [outcome_bind, outcome_pure, map_bind, map_pure, pure_bind, ← ih taken, bind_map_left]

theorem registries_fold (fs : FileSystem) (files : List Path) (p : Progress) :
    Progress.registries <$>
        (fold (fun p file => readInto fs file p.taken p.registries) p files).outcome =
      readAll fs p.registries files := by
  rw [outcome_fold, readAll]
  induction files generalizing p with
  | nil => rfl
  | cons file rest ih =>
    rw [List.foldlM_cons, List.foldlM_cons, ← registries_readInto fs file p.taken p.registries]
    simp only [map_bind, bind_map_left, ih]

theorem scanDirectory_outcome (fs : FileSystem) (settings : ScanSettings) (root : Path) :
    (scanDirectory fs settings root).outcome =
      readAll fs (start (ReportType.all.filter (· ∈ settings.reportTypes))).registries
        (fs.filesBelow settings.excludedDirs root) := by
  unfold scanDirectory
  rw [← registries_fold, outcome_bind, map_eq_pure_bind]
  rfl

theorem scanTree_eq_ok {fs : FileSystem} {settings : ScanSettings} {root : Path}
    {registries : List (ReportType × Registry)}
    (scan : (scanTree fs settings root).outcome = .ok registries) :
    readAll fs (start (ReportType.all.filter (· ∈ settings.reportTypes))).registries
      (fs.filesBelow settings.excludedDirs root) = .ok registries := by
  rw [← scanDirectory_outcome, ← scan]
  unfold scanTree at scan ⊢
  split at scan <;> first | rfl | cases scan

/-! ## Kinds of files -/

theorem wanted_iff {type : ReportType} {name : String} :
    matchesAny type.patterns name = true ↔ name = type.name ++ ".xml" := by
  cases type with
  | di => exact ReportType.accepts_iff.1
  | system => exact ReportType.accepts_iff.2

theorem forall₂_of_mapM {α β : Type} {f : α → Except Failure β} {as : List α} {bs : List β}
    (run : as.mapM f = .ok bs) : List.Forall₂ (fun a b => f a = .ok b) as bs := by
  induction as generalizing bs with
  | nil =>
    cases run
    exact .nil
  | cons a rest ih =>
    rw [List.mapM_cons] at run
    obtain ⟨b, first, run⟩ := bind_eq_ok_iff.1 run
    obtain ⟨others, later, same⟩ := bind_eq_ok_iff.1 run
    cases same
    exact .cons first (ih later)

theorem types_start (types : List ReportType) : (start types).registries.map Prod.fst = types := by
  rw [start, List.map_map]
  exact List.map_id types

theorem types_mapM {fs : FileSystem} {file : Path} {as as' : List (ReportType × Registry)}
    (run : as.mapM (readOne fs file) = .ok as') : as'.map Prod.fst = as.map Prod.fst := by
  have results := forall₂_of_mapM run
  clear run
  induction results with
  | nil => rfl
  | cons first _ ih =>
    rw [List.map_cons, List.map_cons, ih, eq_of_readOne first]
    split <;> rfl

theorem types_readAll {fs : FileSystem} {files : List Path} {as as' : List (ReportType × Registry)}
    (run : readAll fs as files = .ok as') : as'.map Prod.fst = as.map Prod.fst := by
  induction files generalizing as with
  | nil =>
    cases run
    rfl
  | cons file rest ih =>
    obtain ⟨mid, step, run⟩ := bind_eq_ok_iff.1 run
    rw [ih run, types_mapM step]

end Survey

end ReleaseImpact
