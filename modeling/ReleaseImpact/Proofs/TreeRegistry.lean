import ReleaseImpact.Proofs.Survey
import Mathlib.Data.List.Induction

/-!
The registry of a tree, told from its files. A file that is read belongs to one module; the files of a
module give it their declarations one after the other, and the last of them is its source file. Main
statements:

- `eq_of_readAll` and `scanTree_registries`: each registry is gathered from the files in their order.
- `get?_bucket_gathered`: a key leads to what was declared last under it.
- `mem_modules_gathered_iff` and `file_gathered`: the modules are those of the files that are read, and
  the source file of a module is the last of its files.
- `sourced_gathered`: every module that is read has a source file.
- `Holds.scanTree` and `Holds.gathered_eq`: what a scan gives of a directory with the files of one module.
-/

namespace ReleaseImpact

def Nodes.add (nodes : Nodes) (n : Node) : Nodes := OrderedMap.insert nodes n.key n

namespace Survey

open Trail Xml

/-! ## Files that are read -/

/-- The document in a file, if it is of the kind and in the module and can be read. -/
def documentIn? (fs : FileSystem) (type : ReportType) (moduleName : String) (file : Path) : Option Element :=
  if matchesAny type.patterns file.name = true ∧ moduleOfFile? file.text = some moduleName then
    match readDocument fs file.text with
    | .ok (.ok document) => some document
    | _ => none
  else none

theorem documentIn?_eq_some_iff {fs : FileSystem} {type : ReportType} {moduleName : String} {file : Path}
    {document : Element} :
    documentIn? fs type moduleName file = some document ↔
      file.name = type.name ++ ".xml" ∧ moduleOfFile? file.text = some moduleName ∧
        readDocument fs file.text = .ok (.ok document) := by
  rw [← wanted_iff, documentIn?]
  split
  · next here =>
    simp only [here, true_and]
    split <;> simp_all
  · next elsewhere =>
    constructor
    · intro found
      cases found
    · rintro ⟨wanted, housed, -⟩
      exact absurd ⟨wanted, housed⟩ elsewhere

def findingsOf (type : ReportType) (file : Path) (document : Element) : List Finding :=
  match type with
  | .di => virtualTypes (areaScope file) document
  | .system => formNodes document

theorem findings_collector (type : ReportType) (file : Path) (document : Element) :
    findings type.collector file document = .ok (findingsOf type file document) := by
  cases type <;> rfl

def nodesAmong (found : List Finding) : List Node :=
  found.filterMap fun
    | .node n => some n
    | .nameless _ => none

theorem mem_nodesAmong_iff {found : List Finding} {n : Node} : n ∈ nodesAmong found ↔ .node n ∈ found := by
  rw [nodesAmong, List.mem_filterMap]
  constructor
  · rintro ⟨f, member, same⟩
    cases f with
    | node m =>
      cases same
      exact member
    | nameless tag => cases same
  · intro member
    exact ⟨_, member, rfl⟩

/-- What a file declares in a module, in document order. -/
def declaredIn (fs : FileSystem) (type : ReportType) (moduleName : String) (file : Path) : List Node :=
  ((documentIn? fs type moduleName file).map fun document => nodesAmong (findingsOf type file document)).getD []

theorem mem_declaredIn_iff {fs : FileSystem} {type : ReportType} {moduleName : String} {file : Path}
    {n : Node} :
    n ∈ declaredIn fs type moduleName file ↔
      ∃ document, documentIn? fs type moduleName file = some document ∧
        .node n ∈ findingsOf type file document := by
  unfold declaredIn
  cases documentIn? fs type moduleName file with
  | none => simp
  | some document => simp [mem_nodesAmong_iff]

/-! ## One file after the other -/

/-- What one more file makes of the registry for a kind of file. -/
def gather (fs : FileSystem) (type : ReportType) (r : Registry) (file : Path) : Registry :=
  if matchesAny type.patterns file.name then (scanned fs type.collector file r).registry else r

theorem gather_of_document {fs : FileSystem} {type : ReportType} {moduleName : String} {file : Path}
    {document : Element} (read : documentIn? fs type moduleName file = some document) (r : Registry) :
    gather fs type r file =
      (findingsOf type file document).foldl (take moduleName) (r.register moduleName file.text) := by
  obtain ⟨named, housed, opened⟩ := documentIn?_eq_some_iff.1 read
  rw [gather, if_pos (wanted_iff.2 named)]
  simp only [scanned, housed, opened, findings_collector]

theorem gather_of_unread {fs : FileSystem} {type : ReportType} {file : Path}
    (unread : ∀ moduleName, documentIn? fs type moduleName file = none) (r : Registry) :
    gather fs type r file = r := by
  unfold gather
  split
  · next wanted =>
    cases housed : moduleOfFile? file.text with
    | none => simp [scanned, housed]
    | some moduleName =>
      refine registry_scanned_of_unread (fun document opened => ?_) _ _
      have read := documentIn?_eq_some_iff.2 ⟨wanted_iff.1 wanted, housed, opened⟩
      rw [unread moduleName] at read
      cases read
  · rfl

theorem foldl_gather_of_unread {fs : FileSystem} {type : ReportType} {files : List Path}
    (unread : ∀ file ∈ files, ∀ moduleName, documentIn? fs type moduleName file = none) (r : Registry) :
    files.foldl (gather fs type) r = r := by
  induction files with
  | nil => rfl
  | cons file rest ih =>
    obtain ⟨first, others⟩ := List.forall_mem_cons.1 unread
    rw [List.foldl_cons, gather_of_unread first, ih others]

theorem module_unique {fs : FileSystem} {type : ReportType} {m m' : String} {file : Path} {d d' : Element}
    (here : documentIn? fs type m file = some d) (there : documentIn? fs type m' file = some d') : m = m' := by
  have housed := (documentIn?_eq_some_iff.1 here).2.1
  rw [(documentIn?_eq_some_iff.1 there).2.1] at housed
  exact (Option.some.inj housed).symm

theorem eq_of_mapM_readOne {fs : FileSystem} {file : Path} {as as' : List (ReportType × Registry)}
    (run : as.mapM (readOne fs file) = .ok as') : as' = as.map fun e => (e.1, gather fs e.1 e.2 file) := by
  have results := forall₂_of_mapM run
  clear run
  induction results with
  | nil => rfl
  | @cons a b as bs first _ ih =>
    rw [List.map_cons, ← ih, eq_of_readOne first, gather]
    split <;> rfl

theorem eq_of_readAll {fs : FileSystem} {files : List Path} {as as' : List (ReportType × Registry)}
    (run : readAll fs as files = .ok as') : as' = as.map fun e => (e.1, files.foldl (gather fs e.1) e.2) := by
  induction files generalizing as with
  | nil =>
    cases run
    exact (List.map_id _).symm
  | cons file rest ih =>
    obtain ⟨mid, step, run⟩ := bind_eq_ok_iff.1 run
    rw [ih run, eq_of_mapM_readOne step, List.map_map]
    rfl

/-- The registry that the files of a kind give. -/
def gathered (fs : FileSystem) (type : ReportType) (files : List Path) : Registry :=
  files.foldl (gather fs type) (.empty (some type.name))

theorem scanTree_registries {fs : FileSystem} {settings : ScanSettings} {root : Path}
    {registries : List (ReportType × Registry)} (scan : (scanTree fs settings root).outcome = .ok registries) :
    registries = (ReportType.all.filter (· ∈ settings.reportTypes)).map fun type =>
      (type, gathered fs type (fs.filesBelow settings.excludedDirs root)) := by
  rw [eq_of_readAll (scanTree_eq_ok scan), start, List.map_map]
  rfl

theorem mem_scanTree_iff {fs : FileSystem} {settings : ScanSettings} {root : Path}
    {registries : List (ReportType × Registry)} (scan : (scanTree fs settings root).outcome = .ok registries)
    {type : ReportType} {r : Registry} :
    (type, r) ∈ registries ↔
      type ∈ settings.reportTypes ∧ r = gathered fs type (fs.filesBelow settings.excludedDirs root) := by
  have any : type ∈ ReportType.all := by cases type <;> decide
  rw [scanTree_registries scan]
  simp only [List.mem_map, List.mem_filter, decide_eq_true_eq, Prod.mk.injEq]
  constructor
  · rintro ⟨_, ⟨-, wanted⟩, rfl, rfl⟩
    exact ⟨wanted, rfl⟩
  · rintro ⟨wanted, rfl⟩
    exact ⟨type, ⟨any, wanted⟩, rfl, rfl⟩

/-! ## Scans that come to their end -/

theorem scanned_ends_iff {fs : FileSystem} {type : ReportType} {file : Path} {r : Registry} :
    (∃ new, (scanned fs type.collector file r).outcome = .ok new) ↔
      (moduleOfFile? file.text ≠ none → ¬∃ f, readDocument fs file.text = .error f) := by
  unfold scanned
  cases moduleOfFile? file.text with
  | none => exact iff_of_true ⟨false, rfl⟩ fun housed => absurd rfl housed
  | some moduleName =>
    rw [forall_prop_of_true (Option.some_ne_none moduleName)]
    dsimp only
    cases readDocument fs file.text with
    | error f => exact iff_of_false nofun fun never => never ⟨f, rfl⟩
    | ok reading =>
      refine iff_of_true ?_ nofun
      cases reading with
      | error reason => exact ⟨false, rfl⟩
      | ok document =>
        dsimp only
        rw [findings_collector]
        exact ⟨true, rfl⟩

/-- A file does not stop the reader of its kind. -/
def Readable (fs : FileSystem) (file : Path) : Prop :=
  file.name = "di.xml" ∨ file.name = "system.xml" → ∀ f, readDocument fs file.text ≠ .error f

theorem readOne_of_readable {fs : FileSystem} {file : Path} (readable : Readable fs file)
    (e : ReportType × Registry) : readOne fs file e = .ok (e.1, gather fs e.1 e.2 file) := by
  obtain ⟨type, r⟩ := e
  unfold readOne gather
  dsimp only
  split
  · next wanted =>
    have named : file.name = "di.xml" ∨ file.name = "system.xml" := by
      have name := wanted_iff.1 wanted
      cases type with
      | di => exact .inl name
      | system => exact .inr name
    obtain ⟨new, ended⟩ := (scanned_ends_iff (r := r)).mpr fun _ ⟨f, failed⟩ => readable named f failed
    exact bind_eq_ok_iff.2 ⟨new, ended, rfl⟩
  · rfl

theorem readAll_of_readable {fs : FileSystem} {files : List Path}
    (readable : ∀ file ∈ files, Readable fs file) (as : List (ReportType × Registry)) :
    readAll fs as files = .ok (as.map fun e => (e.1, files.foldl (gather fs e.1) e.2)) := by
  induction files generalizing as with
  | nil =>
    rw [readAll, List.foldlM_nil]
    exact congrArg Except.ok (List.map_id as).symm
  | cons file rest ih =>
    obtain ⟨first, others⟩ := List.forall_mem_cons.1 readable
    have step : as.mapM (readOne fs file) = .ok (as.map fun e => (e.1, gather fs e.1 e.2 file)) := by
      rw [funext (readOne_of_readable first)]
      exact List.mapM_pure
    have rest := ih others (as.map fun e => (e.1, gather fs e.1 e.2 file))
    rw [List.map_map] at rest
    exact bind_eq_ok_iff.2 ⟨_, step, rest⟩

theorem scanTree_of_readable {fs : FileSystem} {settings : ScanSettings} {root : Path}
    (directory : fs.hasDirectory root.text = .ok true)
    (readable : ∀ file ∈ fs.filesBelow settings.excludedDirs root, Readable fs file) :
    (scanTree fs settings root).outcome =
      .ok ((ReportType.all.filter (· ∈ settings.reportTypes)).map fun type =>
        (type, gathered fs type (fs.filesBelow settings.excludedDirs root))) := by
  rw [scanTree, directory]
  dsimp only
  rw [scanDirectory_outcome, readAll_of_readable readable, start, List.map_map]
  rfl

/-! ## What the modules hold -/

theorem bucket_put_of_ne (r : Registry) {moduleName other : String} (apart : moduleName ≠ other) (n : Node) :
    (r.put moduleName n).bucket other = r.bucket other := by
  simp [Registry.bucket, Registry.put, apart]

theorem bucket_register (r : Registry) (moduleName file other : String) :
    (r.register moduleName file).bucket other = r.bucket other := by
  unfold Registry.bucket Registry.register
  dsimp only
  split
  · rfl
  · next fresh =>
    rw [OrderedMap.get?_insert]
    split
    · next same =>
      subst same
      have absent : r.nodes.get? moduleName = none := by simpa [OrderedMap.contains] using fresh
      rw [absent]
      rfl
    · rfl

theorem bucket_taken (moduleName : String) (r : Registry) (found : List Finding) :
    (found.foldl (take moduleName) r).bucket moduleName =
      (nodesAmong found).foldl Nodes.add (r.bucket moduleName) := by
  induction found generalizing r with
  | nil => rfl
  | cons f rest ih =>
    rw [List.foldl_cons, ih]
    cases f with
    | node n =>
      rw [take, Registry.bucket_put]
      rfl
    | nameless tag => rfl

theorem bucket_taken_of_ne {moduleName other : String} (apart : moduleName ≠ other) (r : Registry)
    (found : List Finding) : (found.foldl (take moduleName) r).bucket other = r.bucket other := by
  induction found generalizing r with
  | nil => rfl
  | cons f rest ih =>
    rw [List.foldl_cons, ih]
    cases f with
    | node n => exact bucket_put_of_ne r apart n
    | nameless tag => rfl

theorem bucket_gather (fs : FileSystem) (type : ReportType) (r : Registry) (file : Path) (moduleName : String) :
    (gather fs type r file).bucket moduleName =
      (declaredIn fs type moduleName file).foldl Nodes.add (r.bucket moduleName) := by
  by_cases unread : ∀ other, documentIn? fs type other file = none
  · rw [gather_of_unread unread, declaredIn, unread moduleName]
    rfl
  · obtain ⟨other, found⟩ := not_forall.1 unread
    obtain ⟨document, read⟩ := Option.ne_none_iff_exists'.1 found
    rw [gather_of_document read]
    by_cases same : other = moduleName
    · subst same
      rw [bucket_taken, bucket_register, declaredIn, read]
      rfl
    · have elsewhere : documentIn? fs type moduleName file = none := by
        cases read' : documentIn? fs type moduleName file with
        | none => rfl
        | some d => exact absurd (module_unique read read') same
      rw [bucket_taken_of_ne same, bucket_register, declaredIn, elsewhere]
      rfl

theorem bucket_gathered (fs : FileSystem) (type : ReportType) (files : List Path) (moduleName : String) :
    (gathered fs type files).bucket moduleName =
      (files.flatMap (declaredIn fs type moduleName)).foldl Nodes.add .empty := by
  induction files using List.reverseRecOn with
  | nil => rfl
  | append_singleton files file ih =>
    rw [gathered, List.foldl_append, List.foldl_cons, List.foldl_nil, bucket_gather, ← gathered, ih]
    simp

theorem get?_addAll (nodes : Nodes) (added : List Node) (key : String) :
    (added.foldl Nodes.add nodes).get? key =
      (added.reverse.find? (·.key = key)).or (nodes.get? key) := by
  induction added generalizing nodes with
  | nil => rfl
  | cons n rest ih =>
    rw [List.foldl_cons, ih, Nodes.add, OrderedMap.get?_insert, List.reverse_cons, List.find?_append]
    by_cases same : n.key = key <;> simp [same]

theorem get?_bucket_gathered (fs : FileSystem) (type : ReportType) (files : List Path)
    (moduleName key : String) :
    ((gathered fs type files).bucket moduleName).get? key =
      (files.flatMap (declaredIn fs type moduleName)).reverse.find? (·.key = key) := by
  rw [bucket_gathered, get?_addAll, OrderedMap.get?_empty, Option.or_none]

theorem mem_nodesOf_iff {r : Registry} {moduleName : String} {n : Node} :
    n ∈ r.nodesOf moduleName ↔ (r.bucket moduleName).get? n.key = some n := by
  constructor
  · exact OrderedMap.get?_keyOf (r.keyed_bucket moduleName)
  · intro found
    exact List.mem_map_of_mem (f := Prod.snd) (OrderedMap.get?_eq_some_iff.1 found)

theorem exists_file_of_mem_nodesOf {fs : FileSystem} {type : ReportType} {files : List Path}
    {moduleName : String} {n : Node} (member : n ∈ (gathered fs type files).nodesOf moduleName) :
    ∃ file ∈ files, n ∈ declaredIn fs type moduleName file := by
  rw [mem_nodesOf_iff, get?_bucket_gathered] at member
  exact List.mem_flatMap.1 (List.mem_reverse.1 (List.mem_of_find?_eq_some member))

theorem exists_of_mem_declaredIn {fs : FileSystem} {type : ReportType} {files : List Path} {file : Path}
    (listed : file ∈ files) {moduleName : String} {n : Node}
    (declared : n ∈ declaredIn fs type moduleName file) :
    ∃ m ∈ (gathered fs type files).nodesOf moduleName, m.key = n.key := by
  have inside : n ∈ (files.flatMap (declaredIn fs type moduleName)).reverse :=
    List.mem_reverse.2 (List.mem_flatMap.2 ⟨file, listed, declared⟩)
  cases found : (files.flatMap (declaredIn fs type moduleName)).reverse.find? (·.key = n.key) with
  | none =>
    have other : n.key ≠ n.key := by simpa using List.find?_eq_none.1 found n inside
    exact absurd rfl other
  | some m =>
    have same : m.key = n.key := by simpa using List.find?_some found
    refine ⟨m, ?_, same⟩
    rw [mem_nodesOf_iff, get?_bucket_gathered, same]
    exact found

/-! ## Modules and their files -/

theorem modules_taken {moduleName : String} {r : Registry} (member : moduleName ∈ r.modules)
    (found : List Finding) : (found.foldl (take moduleName) r).modules = r.modules := by
  induction found generalizing r with
  | nil => rfl
  | cons f rest ih =>
    have kept : (take moduleName r f).modules = r.modules := by
      cases f with
      | node n => exact (OrderedMap.keys_insert ..).trans (if_pos member)
      | nameless tag => rfl
    rw [List.foldl_cons, ih (kept ▸ member), kept]

theorem files_taken (moduleName : String) (r : Registry) (found : List Finding) :
    (found.foldl (take moduleName) r).files = r.files := by
  induction found generalizing r with
  | nil => rfl
  | cons f rest ih => rw [List.foldl_cons, ih, files_take]

theorem mem_modules_gather_iff {fs : FileSystem} {type : ReportType} {r : Registry} {file : Path}
    {moduleName : String} :
    moduleName ∈ (gather fs type r file).modules ↔
      moduleName ∈ r.modules ∨ (documentIn? fs type moduleName file).isSome = true := by
  by_cases unread : ∀ other, documentIn? fs type other file = none
  · simp [gather_of_unread unread, unread]
  · obtain ⟨other, found⟩ := not_forall.1 unread
    obtain ⟨document, read⟩ := Option.ne_none_iff_exists'.1 found
    have registered : ∀ m, m ∈ (r.register other file.text).modules ↔ m ∈ r.modules ∨ other = m := by
      intro m
      rw [Registry.modules_register]
      split
      · next known => exact ⟨.inl, fun either => either.elim id fun same => same ▸ known⟩
      · simp [eq_comm]
    rw [gather_of_document read, modules_taken ((registered other).2 (.inr rfl)), registered]
    refine or_congr_right ⟨?_, ?_⟩
    · rintro rfl
      simp [read]
    · intro some
      obtain ⟨d, read'⟩ := Option.isSome_iff_exists.1 some
      exact module_unique read read'

theorem mem_modules_gathered_iff {fs : FileSystem} {type : ReportType} {files : List Path}
    {moduleName : String} :
    moduleName ∈ (gathered fs type files).modules ↔
      ∃ file ∈ files, (documentIn? fs type moduleName file).isSome = true := by
  induction files using List.reverseRecOn with
  | nil => simp [gathered, Registry.empty, Registry.modules, OrderedMap.keys, OrderedMap.empty]
  | append_singleton files file ih =>
    rw [gathered, List.foldl_append, List.foldl_cons, List.foldl_nil, mem_modules_gather_iff, ← gathered, ih]
    simp [or_and_right, exists_or]

theorem file_gather (fs : FileSystem) (type : ReportType) (r : Registry) (file : Path) (moduleName : String) :
    (gather fs type r file).files.get? moduleName =
      if (documentIn? fs type moduleName file).isSome then some file.text else r.files.get? moduleName := by
  by_cases unread : ∀ other, documentIn? fs type other file = none
  · simp [gather_of_unread unread, unread]
  · obtain ⟨other, found⟩ := not_forall.1 unread
    obtain ⟨document, read⟩ := Option.ne_none_iff_exists'.1 found
    rw [gather_of_document read, files_taken]
    show (r.files.insert other file.text).get? moduleName = _
    rw [OrderedMap.get?_insert]
    by_cases same : other = moduleName
    · subst same
      simp [read]
    · have elsewhere : documentIn? fs type moduleName file = none := by
        cases read' : documentIn? fs type moduleName file with
        | none => rfl
        | some d => exact absurd (module_unique read read') same
      simp [same, elsewhere]

theorem file_gathered (fs : FileSystem) (type : ReportType) (files : List Path) (moduleName : String) :
    (gathered fs type files).files.get? moduleName =
      ((files.filter fun file => (documentIn? fs type moduleName file).isSome).getLast?).map Path.text := by
  induction files using List.reverseRecOn with
  | nil => rfl
  | append_singleton files file ih =>
    rw [gathered, List.foldl_append, List.foldl_cons, List.foldl_nil, file_gather, ← gathered, ih,
      List.filter_append]
    by_cases read : (documentIn? fs type moduleName file).isSome = true <;> simp [read]

theorem sourced_gathered (fs : FileSystem) (type : ReportType) (files : List Path) :
    (gathered fs type files).Sourced := by
  intro moduleName member
  obtain ⟨file, listed, read⟩ := mem_modules_gathered_iff.1 member
  rw [file_gathered, Option.isSome_map, Option.isSome_iff_ne_none, Ne, List.getLast?_eq_none_iff]
  exact List.ne_nil_of_mem (List.mem_filter.2 ⟨listed, read⟩)

theorem exists_sourceFile {fs : FileSystem} {type : ReportType} {files : List Path} {moduleName : String}
    (member : moduleName ∈ (gathered fs type files).modules) :
    ∃ file ∈ files, (documentIn? fs type moduleName file).isSome = true ∧
      (gathered fs type files).fileOf moduleName = file.text := by
  obtain ⟨text, found⟩ := Option.isSome_iff_exists.1 (sourced_gathered fs type files moduleName member)
  rw [Registry.fileOf, found]
  rw [file_gathered, Option.map_eq_some_iff] at found
  obtain ⟨file, last, rfl⟩ := found
  obtain ⟨listed, read⟩ := List.mem_filter.1 (List.mem_of_getLast? last)
  exact ⟨file, listed, read, rfl⟩

theorem fileOf_injective {fs : FileSystem} {type : ReportType} {files : List Path} {m m' : String}
    (member : m ∈ (gathered fs type files).modules) (member' : m' ∈ (gathered fs type files).modules)
    (same : (gathered fs type files).fileOf m = (gathered fs type files).fileOf m') : m = m' := by
  have housed {m : String} (member : m ∈ (gathered fs type files).modules) :
      moduleOfFile? ((gathered fs type files).fileOf m) = some m := by
    obtain ⟨file, -, read, text⟩ := exists_sourceFile member
    obtain ⟨document, read⟩ := Option.isSome_iff_exists.1 read
    rw [text]
    exact (documentIn?_eq_some_iff.1 read).2.1
  have both := housed member
  rw [same, housed member'] at both
  exact (Option.some.inj both).symm

/-! ## Directories with one module -/

/-- The files below a directory are of other kinds, or they are listed with their documents. -/
structure Holds (fs : FileSystem) (settings : ScanSettings) (root : Path) (type : ReportType)
    (moduleName : String) (documents : List (Path × Element)) : Prop where
  directory : fs.hasDirectory root.text = .ok true
  listed : ∃ others, fs.filesBelow settings.excludedDirs root = others ++ documents.map Prod.fst ∧
    ∀ file ∈ others, file.name ≠ "di.xml" ∧ file.name ≠ "system.xml"
  read : ∀ e ∈ documents, documentIn? fs type moduleName e.1 = some e.2

section Holds

variable {fs : FileSystem} {settings : ScanSettings} {root : Path} {type : ReportType}
variable {moduleName : String} {documents : List (Path × Element)}

theorem Holds.exists_of_listed (holds : Holds fs settings root type moduleName documents) {file : Path}
    (listed : file ∈ fs.filesBelow settings.excludedDirs root)
    (kind : file.name = "di.xml" ∨ file.name = "system.xml") :
    ∃ document, (file, document) ∈ documents ∧ readDocument fs file.text = .ok (.ok document) := by
  obtain ⟨others, same, foreign⟩ := holds.listed
  rw [same] at listed
  rcases List.mem_append.1 listed with other | listed
  · obtain ⟨notTypes, notForms⟩ := foreign file other
    exact absurd kind (not_or.2 ⟨notTypes, notForms⟩)
  · obtain ⟨e, member, rfl⟩ := List.mem_map.1 listed
    exact ⟨e.2, member, (documentIn?_eq_some_iff.1 (holds.read e member)).2.2⟩

theorem Holds.scanTree (holds : Holds fs settings root type moduleName documents) :
    ∃ registries, (scanTree fs settings root).outcome = .ok registries := by
  refine ⟨_, scanTree_of_readable holds.directory fun file listed kind f failed => ?_⟩
  obtain ⟨document, -, opened⟩ := holds.exists_of_listed listed kind
  rw [opened] at failed
  cases failed

theorem Holds.gathered_eq (holds : Holds fs settings root type moduleName documents) :
    gathered fs type (fs.filesBelow settings.excludedDirs root) =
      documents.foldl (fun r e => (findingsOf type e.1 e.2).foldl (take moduleName)
        (r.register moduleName e.1.text)) (.empty (some type.name)) := by
  obtain ⟨others, same, foreign⟩ := holds.listed
  have unread : ∀ file ∈ others, ∀ m, documentIn? fs type m file = none := by
    intro file other m
    refine Option.eq_none_iff_forall_ne_some.2 fun document read => ?_
    have named := (documentIn?_eq_some_iff.1 read).1
    cases type with
    | di => exact (foreign file other).1 named
    | system => exact (foreign file other).2 named
  rw [same, gathered, List.foldl_append, foldl_gather_of_unread unread, List.foldl_map]
  exact List.foldl_ext _ _ _ fun r e member => gather_of_document (holds.read e member) r

end Holds

end Survey

end ReleaseImpact
