import ReleaseImpact.Proofs.TreeRegistry
import Mathlib

/-!
Files that a scan skips. A file of a wanted kind that is in no module, cannot be opened or is malformed gives
one warning for each kind, and leaves nothing else behind. Main statements:

- `scanFile_skips`: the warning that a file gives.
- `scanTree_tells`: the warnings of a scan, and what it tells at its end.
- `warned_of_unusable`: an unusable file is warned of once for each kind that has its name, and not counted.
- `readOne_of_uncounted`: what is not counted leaves the registries as they are.
-/

namespace ReleaseImpact

namespace Trail

variable {α β γ : Type}

theorem filterMap_bind_of_ok {t : Trail α} {a : α} (g : Step → Option γ) (next : α → Trail β)
    (ends : t.outcome = .ok a) :
    (t >>= next).steps.filterMap g = t.steps.filterMap g ++ (next a).steps.filterMap g := by
  rw [steps_bind_of_ok next ends, List.filterMap_append]

end Trail

namespace Survey

open Trail

/-! ## Warnings -/

def unresolved (file : Path) : Event :=
  ⟨.warning, logger, "module_unresolved", [("file", .text file.text)]⟩

def unreadable (file : Path) (reason : String) : Event :=
  ⟨.warning, logger, "xml_unreadable", [("file", .text file.text), ("error", .text reason)]⟩

/-- The event, if a step tells that a file is skipped. -/
def skip? (s : Step) : Option Event :=
  s.event?.filter fun e => e.message = "module_unresolved" ∨ e.message = "xml_unreadable"

/-- The warning that a file gives, if it is skipped. -/
def warning? (fs : FileSystem) (file : Path) : Option Event :=
  match moduleOfFile? file.text with
  | none => some (unresolved file)
  | some _ =>
    match readDocument fs file.text with
    | .ok (.error reason) => some (unreadable file reason)
    | _ => none

/-- No file is skipped in a step. -/
def SkipsNone (s : Step) : Prop := skip? s = none

theorem every_addNode (r : Registry) (moduleName : String) (n : Node) :
    Every SkipsNone (r.addNode moduleName n) := by
  unfold Registry.addNode
  split
  · exact ⟨List.forall_mem_nil _⟩
  · dsimp only
    split
    · split
      · exact Every.bind (every_step rfl) fun _ => every_pure _
      · exact every_pure _
    · exact every_pure _

theorem every_addFinding (c : Collector) (moduleName file : String) (r : Registry) (f : Finding) :
    Every SkipsNone (addFinding c moduleName file r f) := by
  cases f with
  | node n => exact every_addNode r moduleName n
  | nameless tag => cases c <;> exact Every.bind (every_step rfl) fun _ => every_pure r

theorem scanFile_skips (fs : FileSystem) (c : Collector) (file : Path) (r : Registry) :
    (scanFile fs c file r).steps.filterMap skip? = (warning? fs file).toList := by
  unfold scanFile warning?
  cases moduleOfFile? file.text with
  | none => rfl
  | some moduleName =>
    dsimp only
    cases readDocument fs file.text with
    | error f => rfl
    | ok document =>
      cases document with
      | error reason => rfl
      | ok root =>
        dsimp only
        cases findings c file root with
        | error f => rfl
        | ok found =>
          have filled : Every SkipsNone
              (fold (addFinding c moduleName file.text) (r.register moduleName file.text) found) :=
            every_fold (fun f _ r => every_addFinding c moduleName file.text r f) _
          exact List.filterMap_eq_nil_iff.mpr (filled.bind fun _ => every_pure _).holds

theorem eq_isNone_of_scanned {fs : FileSystem} {c : Collector} {file : Path} {r : Registry} {new : Bool}
    (ended : (scanned fs c file r).outcome = .ok new) : new = (warning? fs file).isNone := by
  revert ended
  unfold scanned warning?
  cases moduleOfFile? file.text with
  | none => simp
  | some moduleName =>
    dsimp only
    cases readDocument fs file.text with
    | error f => simp
    | ok document =>
      cases document with
      | error reason => simp
      | ok root =>
        dsimp only
        cases findings c file root <;> simp

/-! ## Files of several kinds -/

/-- The kinds that have the name of a file. -/
def kindsOf (types : List ReportType) (file : Path) : List ReportType :=
  types.filter fun type => matchesAny type.patterns file.name

/-- The warnings of a file, one for each of its kinds if it is skipped. -/
def warned (fs : FileSystem) (types : List ReportType) (file : Path) : List Event :=
  (kindsOf types file).flatMap fun _ => (warning? fs file).toList

/-- How often a file is counted. -/
def counted (fs : FileSystem) (types : List ReportType) (file : Path) : Nat :=
  (kindsOf types file).countP fun _ => (warning? fs file).isNone

section Cons

variable {fs : FileSystem} {file : Path} {type : ReportType}

theorem kindsOf_cons_of_wanted (wanted : matchesAny type.patterns file.name = true) (types : List ReportType) :
    kindsOf (type :: types) file = type :: kindsOf types file := List.filter_cons_of_pos wanted

theorem kindsOf_cons_of_unwanted (unwanted : ¬matchesAny type.patterns file.name = true)
    (types : List ReportType) : kindsOf (type :: types) file = kindsOf types file :=
  List.filter_cons_of_neg unwanted

theorem warned_cons_of_wanted (wanted : matchesAny type.patterns file.name = true) (types : List ReportType) :
    warned fs (type :: types) file = (warning? fs file).toList ++ warned fs types file := by
  rw [warned, kindsOf_cons_of_wanted wanted, List.flatMap_cons, warned]

theorem counted_cons_of_wanted (wanted : matchesAny type.patterns file.name = true) (types : List ReportType) :
    counted fs (type :: types) file =
      counted fs types file + if (warning? fs file).isNone = true then 1 else 0 := by
  rw [counted, kindsOf_cons_of_wanted wanted, List.countP_cons, counted]

theorem warned_cons_of_unwanted (unwanted : ¬matchesAny type.patterns file.name = true)
    (types : List ReportType) : warned fs (type :: types) file = warned fs types file := by
  rw [warned, kindsOf_cons_of_unwanted unwanted, warned]

theorem counted_cons_of_unwanted (unwanted : ¬matchesAny type.patterns file.name = true)
    (types : List ReportType) : counted fs (type :: types) file = counted fs types file := by
  rw [counted, kindsOf_cons_of_unwanted unwanted, counted]

end Cons

theorem readInto_tells {fs : FileSystem} {file : Path} {taken : Nat}
    {registries : List (ReportType × Registry)} {p : Progress}
    (ends : (readInto fs file taken registries).outcome = .ok p) :
    (readInto fs file taken registries).steps.filterMap skip? =
        warned fs (registries.map Prod.fst) file ∧
      p.taken = taken + counted fs (registries.map Prod.fst) file := by
  induction registries generalizing taken p with
  | nil =>
    cases ends
    exact ⟨rfl, rfl⟩
  | cons e rest ih =>
    obtain ⟨type, r⟩ := e
    unfold readInto at ends ⊢
    rw [List.map_cons]
    by_cases wanted : matchesAny type.patterns file.name = true
    · rw [if_pos wanted] at ends ⊢
      rw [outcome_bind] at ends
      obtain ⟨scan, looked, ends⟩ := bind_eq_ok_iff.1 ends
      rw [outcome_bind] at ends
      obtain ⟨new, told, ends⟩ := bind_eq_ok_iff.1 ends
      rw [outcome_bind] at ends
      obtain ⟨others, later, ends⟩ := bind_eq_ok_iff.1 ends
      obtain ⟨warnings, number⟩ := ih later
      have same : scanned fs type.collector file r = scan :=
        Except.ok.inj ((scanFile_outcome ..).symm.trans looked)
      have ended : (scanned fs type.collector file r).outcome = .ok new := by
        rw [same, ← outcome_ofExcept scan.outcome, told]
      have fresh := eq_isNone_of_scanned ended
      have last : p.taken = others.taken := by rw [← Except.ok.inj ends]
      rw [filterMap_bind_of_ok _ _ looked, scanFile_skips, filterMap_bind_of_ok _ _ told,
        filterMap_bind_of_ok _ _ later, warnings, warned_cons_of_wanted wanted, counted_cons_of_wanted wanted,
        last, number, fresh]
      refine ⟨congrArg _ (List.append_nil _), ?_⟩
      split <;> omega
    · rw [if_neg wanted] at ends ⊢
      rw [outcome_bind] at ends
      obtain ⟨others, later, ends⟩ := bind_eq_ok_iff.1 ends
      obtain ⟨warnings, number⟩ := ih later
      have last : p.taken = others.taken := by rw [← Except.ok.inj ends]
      rw [filterMap_bind_of_ok _ _ later, warnings, last, number, warned_cons_of_unwanted wanted,
        counted_cons_of_unwanted wanted]
      exact ⟨List.append_nil _, rfl⟩

theorem readFiles_tell {fs : FileSystem} {files : List Path} {p p' : Progress} {types : List ReportType}
    (kinds : p.registries.map Prod.fst = types)
    (ends : (fold (fun p file => readInto fs file p.taken p.registries) p files).outcome = .ok p') :
    (fold (fun p file => readInto fs file p.taken p.registries) p files).steps.filterMap skip? =
        files.flatMap (warned fs types) ∧
      p'.taken = p.taken + (files.map (counted fs types)).sum := by
  induction files generalizing p with
  | nil =>
    cases ends
    exact ⟨rfl, rfl⟩
  | cons file rest ih =>
    have whole : fold (fun p file => readInto fs file p.taken p.registries) p (file :: rest) =
        readInto fs file p.taken p.registries >>= fun p =>
          fold (fun p file => readInto fs file p.taken p.registries) p rest := rfl
    rw [whole] at ends ⊢
    rw [outcome_bind] at ends
    obtain ⟨next, first, later⟩ := bind_eq_ok_iff.1 ends
    have kept : next.registries.map Prod.fst = types := by
      have read := registries_readInto fs file p.taken p.registries
      rw [first] at read
      exact (types_mapM read.symm).trans kinds
    obtain ⟨warnings, number⟩ := readInto_tells first
    obtain ⟨others, rest⟩ := ih kept later
    rw [filterMap_bind_of_ok _ _ first, warnings, others, rest, number, kinds, List.flatMap_cons,
      List.map_cons, List.sum_cons, Nat.add_assoc]
    exact ⟨rfl, rfl⟩

/-! ## Files that are of no use -/

/-- A file that no scan for some kinds takes anything from: it has no name of theirs, it is in no module, the
system refuses to open it, or it is malformed. -/
inductive Unusable (fs : FileSystem) (types : List ReportType) (file : Path) : Prop
  | foreign (unwanted : ∀ type ∈ types, matchesAny type.patterns file.name = false)
  | homeless (nowhere : moduleOfFile? file.text = none)
  | refused {fault : PathFault} (closed : fs.read file.text = .error fault) (path : fault ≠ .containsNul)
  | malformed {bytes : List UInt8} (opened : fs.read file.text = .ok bytes)
      (rejected : Xml.ofBytes bytes = .error .malformed)

theorem readDocument_of_refused {fs : FileSystem} {file : String} {fault : PathFault}
    (closed : fs.read file = .error fault) (path : fault ≠ .containsNul) :
    readDocument fs file = .ok (.error fault.text) := by
  unfold readDocument
  rw [closed]
  cases fault <;> first | rfl | exact absurd rfl path

theorem Unusable.cases {fs : FileSystem} {types : List ReportType} {file : Path}
    (unusable : Unusable fs types file) :
    kindsOf types file = [] ∨ moduleOfFile? file.text = none ∨
      ∃ reason, readDocument fs file.text = .ok (.error reason) := by
  cases unusable with
  | foreign unwanted =>
    refine .inl (List.filter_eq_nil_iff.mpr fun type member => ?_)
    rw [unwanted type member]
    exact Bool.false_ne_true
  | homeless nowhere => exact .inr (.inl nowhere)
  | refused closed path => exact .inr (.inr ⟨_, readDocument_of_refused closed path⟩)
  | malformed opened rejected =>
    refine .inr (.inr ⟨"not well-formed", ?_⟩)
    simp only [readDocument, opened, rejected]

theorem warned_of_warning {fs : FileSystem} {file : Path} {w : Event} (warns : warning? fs file = some w)
    (types : List ReportType) :
    warned fs types file = (kindsOf types file).map (fun _ => w) ∧ counted fs types file = 0 := by
  unfold warned counted
  rw [warns, List.map_eq_flatMap]
  exact ⟨rfl, List.countP_eq_zero.mpr fun _ _ => Bool.false_ne_true⟩

theorem Unusable.warning {fs : FileSystem} {types : List ReportType} {file : Path}
    (unusable : Unusable fs types file) :
    kindsOf types file = [] ∨
      ∃ w, (w = unresolved file ∨ ∃ reason, w = unreadable file reason) ∧ warning? fs file = some w := by
  rcases unusable.cases with none | nowhere | ⟨reason, unread⟩
  · exact .inl none
  · exact .inr ⟨_, .inl rfl, by simp only [warning?, nowhere]⟩
  · right
    cases housed : moduleOfFile? file.text with
    | none => exact ⟨_, .inl rfl, by simp only [warning?, housed]⟩
    | some moduleName => exact ⟨_, .inr ⟨reason, rfl⟩, by simp only [warning?, housed, unread]⟩

theorem warned_of_unusable {fs : FileSystem} {types : List ReportType} {file : Path}
    (unusable : Unusable fs types file) :
    (∃ w, (w = unresolved file ∨ ∃ reason, w = unreadable file reason) ∧
        warned fs types file = (kindsOf types file).map fun _ => w) ∧
      counted fs types file = 0 := by
  rcases unusable.warning with none | ⟨w, kind, warns⟩
  · unfold warned counted
    rw [none]
    exact ⟨⟨unresolved file, .inl rfl, rfl⟩, rfl⟩
  · obtain ⟨warnings, number⟩ := warned_of_warning warns types
    exact ⟨⟨w, kind, warnings⟩, number⟩

theorem counted_eq_zero_iff {fs : FileSystem} {types : List ReportType} {file : Path} :
    counted fs types file = 0 ↔ kindsOf types file = [] ∨ (warning? fs file).isSome = true := by
  unfold counted
  cases kindsOf types file with
  | nil => simp
  | cons type rest => cases warning? fs file <;> simp

theorem readOne_of_uncounted {fs : FileSystem} {types : List ReportType} {file : Path}
    (uncounted : counted fs types file = 0) {e : ReportType × Registry} (known : e.1 ∈ types) :
    readOne fs file e = .ok e := by
  by_cases wanted : matchesAny e.1.patterns file.name = true
  · have some : (warning? fs file).isSome = true := by
      refine (counted_eq_zero_iff.mp uncounted).resolve_left fun none => ?_
      exact absurd (List.mem_filter.mpr ⟨known, wanted⟩) (none ▸ List.not_mem_nil)
    have unread : scanned fs e.1.collector file e.2 = ⟨e.2, .ok false⟩ := by
      unfold warning? at some
      unfold scanned
      cases housed : moduleOfFile? file.text with
      | none => rfl
      | some moduleName =>
        rw [housed] at some
        dsimp only at some ⊢
        cases read : readDocument fs file.text with
        | error f =>
          rw [read] at some
          cases some
        | ok document =>
          rw [read] at some
          cases document with
          | error reason => rfl
          | ok root => cases some
    rw [readOne, if_pos wanted, unread]
    rfl
  · exact readOne_of_unwanted (Bool.eq_false_iff.mpr wanted)

/-! ## Whole scans -/

def treeScanned (root : Path) (files : Nat) (registries : List (ReportType × Registry)) : Event :=
  ⟨.info, "bumpcheck.scanner.factory", "tree_scanned",
    [("root", .text root.text), ("files", .nat files), ("registries", summaries registries)]⟩

/-- What a scan looks for. -/
def wantedTypes (settings : ScanSettings) : List ReportType := ReportType.all.filter (· ∈ settings.reportTypes)

theorem scanTree_tells {fs : FileSystem} {settings : ScanSettings} {root : Path}
    {registries : List (ReportType × Registry)}
    (scan : (scanTree fs settings root).outcome = .ok registries) :
    let files := fs.filesBelow settings.excludedDirs root
    (scanTree fs settings root).steps.filterMap skip? = files.flatMap (warned fs (wantedTypes settings)) ∧
      (scanTree fs settings root).steps.getLast? =
        some (.event (treeScanned root (files.map (counted fs (wantedTypes settings))).sum registries)) := by
  intro files
  have whole : scanTree fs settings root = scanDirectory fs settings root := by
    unfold scanTree at scan ⊢
    split at scan <;> first | rfl | cases scan
  rw [whole] at scan ⊢
  unfold scanDirectory at scan ⊢
  rw [outcome_bind] at scan
  obtain ⟨progress, read, scan⟩ := bind_eq_ok_iff.1 scan
  cases scan
  obtain ⟨warnings, number⟩ := readFiles_tell (types_start _) read
  constructor
  · rw [filterMap_bind_of_ok _ _ read, warnings]
    exact List.append_nil _
  · rw [steps_bind_of_ok _ read]
    rw [number, start, Nat.zero_add]
    exact List.getLast?_concat

end Survey

end ReleaseImpact
