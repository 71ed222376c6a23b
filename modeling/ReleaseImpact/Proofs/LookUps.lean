import ReleaseImpact.Proofs.MissingFiles
import ReleaseImpact.Proofs.RegistryCalls

/-!
The look-ups of the comparisons. The comparisons are told once more with look-ups that fail where a key is
missing, with whatever failure, and these are the same runs: no key is ever missing. Main statements:

- `fold_require` and `each_require`: looking up known keys one by one, as the run goes.
- `compareForms_eq_strictly` and `compareVirtualTypesBy_eq_strictly`: the comparisons find every key.
- `Registry.addNode_eq_strictly`: so does the registry that gets a node.
- `built_registries_serve_comparisons`: registries that were filled by calls give the comparisons all they
  need.
-/

namespace ReleaseImpact

/-! ## Look-ups that fail -/

namespace OrderedMap

variable {κ α : Type} [DecidableEq κ]

/-- The value of a key, which is to be there. -/
def require (onMissing : Failure) (m : OrderedMap κ α) (key : κ) : Except Failure α :=
  match m.get? key with
  | some value => .ok value
  | none => .error onMissing

theorem require_of_get? {onMissing : Failure} {m : OrderedMap κ α} {key : κ} {value : α}
    (found : m.get? key = some value) : m.require onMissing key = .ok value := by
  rw [require, found]

end OrderedMap

namespace Trail

variable {κ α β : Type} [DecidableEq κ]

theorem fold_require {map : OrderedMap κ α} {keys : List κ} (known : ∀ key ∈ keys, key ∈ map.keys)
    (onMissing : Failure) (body : β → α → Trail β) (b : β) :
    fold (fun b key => do body b (← .ofExcept (map.require onMissing key))) b keys =
      fold body b (keys.filterMap map.get?) := by
  induction keys generalizing b with
  | nil => rfl
  | cons key rest ih =>
    obtain ⟨here, later⟩ := List.forall_mem_cons.mp known
    obtain ⟨value, found⟩ := OrderedMap.mem_keys_iff.mp here
    rw [List.filterMap_cons_some found, fold, fold, OrderedMap.require_of_get? found, funext (ih later)]
    exact congrArg (andThen · _) (pure_bind value (body b))

theorem each_require {map : OrderedMap κ α} {keys : List κ} (known : ∀ key ∈ keys, key ∈ map.keys)
    (onMissing : Failure) (body : α → Trail Unit) :
    each keys (fun key => do body (← .ofExcept (map.require onMissing key))) =
      each (keys.filterMap map.get?) body := by
  rw [← fold_unit _ keys (), ← fold_unit _ (keys.filterMap map.get?) ()]
  exact fold_require known onMissing (fun _ => body) ()

end Trail

open Trail Registry

namespace Registry

/-- Adds a node to the nodes of its module, which are to be there. -/
def addNodeStrictly (onMissing : Failure) (r : Registry) (moduleName : String) (node : Node) :
    Trail Registry :=
  match r.files.get? moduleName with
  | none => .fail (.problem (.missingSourceFile moduleName))
  | some file => do
    let nodes ← .ofExcept (r.nodes.require onMissing moduleName)
    match nodes.get? node.key with
    | some old =>
      if old ≠ node then
        .log .warning logger "duplicate_unique_key"
          [("module", .text moduleName), ("key", .text node.key), ("source_file", .text file)]
    | none => pure ()
    return r.put moduleName node

theorem addNode_eq_strictly {r : Registry} (aligned : r.Aligned) (onMissing : Failure) (m : String)
    (n : Node) : r.addNodeStrictly onMissing m n = r.addNode m n := by
  unfold addNodeStrictly addNode
  cases found : r.files.get? m with
  | none => rfl
  | some file =>
    have known : m ∈ r.modules := (aligned m).mpr (OrderedMap.mem_keys_iff.mpr ⟨file, found⟩)
    obtain ⟨nodes, here⟩ := OrderedMap.mem_keys_iff.mp known
    dsimp only
    rw [OrderedMap.require_of_get? here, bucket, here]
    rfl

end Registry

/-! ## Forms -/

namespace FormComparison

variable {δ : Type} (onMissing : Failure) (ask : δ → Inquiry → Reply δ) (rules : FormRules)

def reportLostStrictly (before : Registry) (nodes : Nodes) (m : String) (keys : List String) : Trail Unit :=
  if keys.isEmpty then pure ()
  else do
    let file ← .ofExcept (before.sourceFile m)
    Trail.each keys fun key => do
      reportNode ChangeKind.removed? (← .ofExcept (nodes.require onMissing key)) file

def compareGainedStrictly (after : Registry) (existing nodes : Nodes) (d : δ) (m : String)
    (keys : List String) : Trail δ :=
  if keys.isEmpty then pure d
  else do
    let file ← .ofExcept (after.sourceFile m)
    Trail.fold (fun d key => do
      compareAdded ask (looksUp rules file) existing file d (← .ofExcept (nodes.require onMissing key)))
      d keys

/-- Compares a module whose nodes are to be there in both indexes, as are those of the paired keys. -/
def compareModuleStrictly (before after : Registry) (d : δ) (pairing : String × KeyMatch) : Trail δ := do
  let nodesBefore ← .ofExcept ((before.index some).require onMissing pairing.1)
  let nodesAfter ← .ofExcept ((after.index some).require onMissing pairing.1)
  reportLostStrictly onMissing before nodesBefore pairing.1 pairing.2.removed
  compareGainedStrictly onMissing ask rules after nodesBefore nodesAfter d pairing.1 pairing.2.added

/-- The keys of a module of both indexes, side by side. -/
def pairKeys (before after : OrderedMap String Nodes) (m : String) : Except Failure (String × KeyMatch) := do
  return (m, .ofKeys (← before.require onMissing m).keys (← after.require onMissing m).keys)

def compareFormsStrictly (d : δ) (registryBefore registryAfter : Registry) : Trail δ :=
  let before := registryBefore.index some
  let after := registryAfter.index some
  if sameIndex before after then pure d
  else do
    let common ← .ofExcept ((before.keys.filter (· ∈ after.keys)).mapM (pairKeys onMissing before after))
    reportFiles .fileAdded rules registryAfter (after.keys.filter (· ∉ before.keys))
    reportFiles .fileRemoved rules registryBefore (before.keys.filter (· ∉ after.keys))
    Trail.fold (compareModuleStrictly onMissing ask rules registryBefore registryAfter) d
      (common.filter (!·.2.unchanged))

variable {onMissing ask rules} {before after : Registry}

theorem require_index {r : Registry} {m : String} (member : m ∈ r.modules) :
    (r.index some).require onMissing m = .ok (r.bucket m) := by
  rw [OrderedMap.require_of_get? (get?_index member some)]
  simp [OrderedMap.filterMap]

theorem reportLost_eq_strictly (before : Registry) (m : String) {keys : List String}
    (known : ∀ key ∈ keys, key ∈ (before.bucket m).keys) :
    reportLostStrictly onMissing before (before.bucket m) m keys = reportLost before m keys := by
  simp only [reportLostStrictly, reportLost, each_require known]

theorem compareGained_eq_strictly (before after : Registry) (d : δ) (m : String) {keys : List String}
    (known : ∀ key ∈ keys, key ∈ (after.bucket m).keys) :
    compareGainedStrictly onMissing ask rules after (before.bucket m) (after.bucket m) d m keys =
      compareGained ask rules before after d m keys := by
  simp only [compareGainedStrictly, compareGained, fold_require known]

theorem compareModule_eq_strictly {m : String} (inBefore : m ∈ before.modules) (inAfter : m ∈ after.modules)
    (d : δ) :
    compareModuleStrictly onMissing ask rules before after d
        (m, .ofKeys (before.bucket m).keys (after.bucket m).keys) =
      compareModule ask rules before after d
        (m, .ofKeys (before.bucket m).keys (after.bucket m).keys) := by
  let keys := KeyMatch.ofKeys (before.bucket m).keys (after.bucket m).keys
  have lost : reportLostStrictly onMissing before (before.bucket m) m keys.removed =
      reportLost before m keys.removed :=
    reportLost_eq_strictly before m fun _ member => (KeyMatch.mem_removed_iff.mp member).1
  have gained : compareGainedStrictly onMissing ask rules after (before.bucket m) (after.bucket m) d m
      keys.added = compareGained ask rules before after d m keys.added :=
    compareGained_eq_strictly before after d m fun _ member => (KeyMatch.mem_added_iff.mp member).1
  rw [compareModule_eq_parts, ← lost, ← gained, compareModuleStrictly, require_index inBefore,
    require_index inAfter]
  rfl

theorem mapM_eq_ok {α β : Type} {f : α → Except Failure β} {g : α → β} {items : List α}
    (each : ∀ a ∈ items, f a = .ok (g a)) : items.mapM f = .ok (items.map g) := by
  induction items with
  | nil => rfl
  | cons a rest ih =>
    obtain ⟨here, later⟩ := List.forall_mem_cons.mp each
    rw [List.mapM_cons, here, ih later]
    rfl

theorem pairKeys_eq {m : String} (inBefore : m ∈ before.modules) (inAfter : m ∈ after.modules) :
    pairKeys onMissing (before.index some) (after.index some) m =
      .ok (m, .ofKeys (before.bucket m).keys (after.bucket m).keys) := by
  rw [pairKeys, require_index inBefore, require_index inAfter]
  rfl

theorem compareForms_eq_strictly (onMissing : Failure) (ask : δ → Inquiry → Reply δ) (rules : FormRules)
    (d : δ) (before after : Registry) :
    compareFormsStrictly onMissing ask rules d before after = compareForms ask rules d before after := by
  have paired : (before.modules.filter (· ∈ after.modules)).mapM
        (pairKeys onMissing (before.index some) (after.index some)) =
      .ok ((before.modules.filter (· ∈ after.modules)).map fun m =>
        (m, .ofKeys (before.bucket m).keys (after.bucket m).keys)) :=
    mapM_eq_ok fun m member => pairKeys_eq (List.mem_filter.mp member).1
      (of_decide_eq_true (List.mem_filter.mp member).2)
  have modules (d : δ) :
      fold (compareModuleStrictly onMissing ask rules before after) d
          (((before.modules.filter (· ∈ after.modules)).map fun m =>
            (m, .ofKeys (before.bucket m).keys (after.bucket m).keys)).filter (!·.2.unchanged)) =
        fold (fun d m => compareModule ask rules before after d
          (m, .ofKeys (before.bucket m).keys (after.bucket m).keys)) d (changedModules before after) := by
    rw [List.filter_map, fold_map]
    refine fold_congr (fun m member d => ?_) d
    obtain ⟨inBefore, inAfter⟩ := mem_of_mem_changed member
    exact compareModule_eq_strictly inBefore inAfter d
  simp only [compareForms_eq, compareFormsStrictly, keys_index, paired, ← modules]
  rfl

end FormComparison

/-! ## Virtual types -/

namespace VirtualTypeComparison

variable {σ : Type} (onMissing : Failure) (test : FileTest σ) (extension : String)

/-- Compares a virtual type with the one of its key in the same module, which is to be there unless the
key was removed. -/
def compareTypeStrictly (index : Index) (m : String) (typesAfter : OrderedMap String VirtualType)
    (removed : List String) (fileBefore fileAfter : String) (s : σ) (e : String × VirtualType) : Trail σ :=
  if e.1 ∈ removed then compareTypeBy test extension index m .empty fileBefore fileAfter s e.2
  else do
    let same ← .ofExcept (typesAfter.require onMissing e.1)
    if e.2 = same then pure s
    else do
      reportChanged e.2 same fileBefore
      return s

/-- Compares the virtual types of a module, which is to be in the later index if the later snapshot has
it. -/
def compareModuleStrictly (before after : Registry) (index : Index) (s : σ)
    (e : String × OrderedMap String VirtualType) : Trail σ :=
  if after.hasModule e.1 then do
    let fileBefore ← .ofExcept (before.sourceFile e.1)
    let fileAfter ← .ofExcept (after.sourceFile e.1)
    let typesAfter ← .ofExcept (index.require onMissing e.1)
    let removed := (KeyMatch.ofKeys e.2.keys typesAfter.keys).removed
    .fold (compareTypeStrictly onMissing test extension index e.1 typesAfter removed fileBefore fileAfter) s
      e.2.entries
  else pure s

def compareVirtualTypesStrictly (s : σ) (registryBefore registryAfter : Registry) : Trail σ :=
  let before := registryBefore.index Node.virtualType?
  let after := registryAfter.index Node.virtualType?
  if sameIndex before after then pure s
  else .fold (compareModuleStrictly onMissing test extension registryBefore registryAfter after) s
    before.entries

variable {onMissing test extension} {before after : Registry}

theorem compareTypeBy_of_missing {index : Index} {m fileBefore fileAfter : String}
    {types : OrderedMap String VirtualType} {s : σ} {v : VirtualType} (missing : types.get? v.name = none) :
    compareTypeBy test extension index m types fileBefore fileAfter s v =
      compareTypeBy test extension index m .empty fileBefore fileAfter s v := by
  simp only [compareTypeBy, compareType, missing, OrderedMap.get?_empty]

theorem compareTypeBy_of_found {index : Index} {m fileBefore fileAfter : String}
    {types : OrderedMap String VirtualType} {s : σ} {v same : VirtualType}
    (found : types.get? v.name = some same) :
    compareTypeBy test extension index m types fileBefore fileAfter s v =
      if v = same then pure s
      else do
        reportChanged v same fileBefore
        return s := by
  simp only [compareTypeBy, compareType, found]
  split
  · rfl
  · rw [probes_reportChanged]
    rfl

theorem compareTypeBy_eq_strictly (before : Registry) (index : Index) (m : String)
    (types : OrderedMap String VirtualType) (fileBefore fileAfter : String) (s : σ)
    {e : String × VirtualType} (member : e ∈ (before.types m).entries) :
    compareTypeStrictly onMissing test extension index m types
        (KeyMatch.ofKeys (before.types m).keys types.keys).removed fileBefore fileAfter s e =
      compareTypeBy test extension index m types fileBefore fileAfter s e.2 := by
  have name : e.2.name = e.1 := before.named_types m e member
  have removed : e.1 ∈ (KeyMatch.ofKeys (before.types m).keys types.keys).removed ↔
      types.get? e.1 = none := by
    rw [KeyMatch.mem_removed_iff, OrderedMap.get?, OrderedMap.lookup_eq_none_iff]
    exact and_iff_right (List.mem_map_of_mem member)
  rw [compareTypeStrictly]
  cases found : types.get? e.1 with
  | none => rw [if_pos (removed.mpr found), ← compareTypeBy_of_missing (name ▸ found)]
  | some same =>
    rw [if_neg (by simp [removed, found]), OrderedMap.require_of_get? found,
      compareTypeBy_of_found (name ▸ found)]
    rfl

theorem compareModuleBy_eq_strictly (before after : Registry) (s : σ) (m : String) :
    compareModuleStrictly onMissing test extension before after (after.index Node.virtualType?) s
        (m, before.types m) =
      compareModuleBy test extension before after (after.index Node.virtualType?) s (m, before.types m) := by
  unfold compareModuleStrictly compareModuleBy
  dsimp only
  by_cases known : m ∈ after.modules
  · have found : (after.index Node.virtualType?).get? m = some (after.types m) := get?_index known _
    have present : after.hasModule m = true := OrderedMap.contains_iff.mpr known
    have each (fileBefore fileAfter : String) (s : σ) :
        fold (compareTypeStrictly onMissing test extension (after.index Node.virtualType?) m
            (after.types m) (KeyMatch.ofKeys (before.types m).keys (after.types m).keys).removed fileBefore
            fileAfter) s (before.types m).entries =
          fold (compareTypeBy test extension (after.index Node.virtualType?) m (after.types m) fileBefore
            fileAfter) s (before.types m).values := by
      rw [OrderedMap.values, fold_map]
      refine fold_congr (fun e member s => ?_) s
      exact compareTypeBy_eq_strictly before _ m (after.types m) fileBefore fileAfter s member
    rw [if_pos present, OrderedMap.require_of_get? found, found]
    simp only [← each]
    rfl
  · have missing : (after.index Node.virtualType?).get? m = none := by
      rw [← keys_index after Node.virtualType?] at known
      exact OrderedMap.lookup_eq_none_iff.mpr known
    have absent : ¬after.hasModule m = true := mt OrderedMap.contains_iff.mp known
    rw [if_neg absent, missing]

theorem compareVirtualTypesBy_eq_strictly (onMissing : Failure) (test : FileTest σ) (extension : String)
    (s : σ) (before after : Registry) :
    compareVirtualTypesStrictly onMissing test extension s before after =
      compareVirtualTypesBy test extension s before after := by
  unfold compareVirtualTypesStrictly compareVirtualTypesBy
  dsimp only
  rw [entries_index, fold_map, fold_map]
  congr 1
  exact fold_congr (fun m _ s => compareModuleBy_eq_strictly before after s m) s

end VirtualTypeComparison

/-! ## Registries that were filled by calls -/

open FormComparison VirtualTypeComparison

/-- After any calls, a registry has a file for each module and each node under its own key, and refuses
only nodes of modules that were never registered. Two such registries can be compared: the comparison of
virtual types comes to its end, the one of forms fails with its detector alone, and both find every key
they look up. -/
theorem built_registries_serve_comparisons :
    (∀ (reportType : Option String) (calls : List Call) (m : String),
      let r := built reportType calls
      (m ∈ r.modules ↔ m ∈ r.files.keys) ∧ (m ∈ r.modules ↔ ∃ file, .register m file ∈ calls) ∧
      (∀ key n, (r.bucket m).get? key = some n → n.key = key) ∧
      ∀ n, (∀ onMissing, r.addNodeStrictly onMissing m n = r.addNode m n) ∧
        ((∃ f, (r.addNode m n).outcome = .error f) ↔ m ∉ r.modules) ∧
        ∀ f, (r.addNode m n).outcome = .error f →
          f = .problem (.missingSourceFile m) ∧ (∀ file, .register m file ∉ calls) ∧
            (r.addNode m n).steps = [] ∧ r.after (.add m n) = r) ∧
    ∀ (reportType reportType' : Option String) (calls calls' : List Call),
      let before := built reportType calls
      let after := built reportType' calls'
      (∀ {σ : Type} (test : FileTest σ) (extension : String) (s : σ),
        (∃ last, (compareVirtualTypesBy test extension s before after).outcome = .ok last) ∧
        ∀ onMissing, compareVirtualTypesStrictly onMissing test extension s before after =
          compareVirtualTypesBy test extension s before after) ∧
      ∀ {δ : Type} (ask : δ → Inquiry → Reply δ) (rules : FormRules) (d : δ),
        (∀ f, (compareForms ask rules d before after).outcome = .error f → FailsWith ask d f) ∧
        ((∀ earlier q, ∃ v, (ask (afterAsking ask d earlier) q).verdict = .ok v) →
          ∃ last, (compareForms ask rules d before after).outcome = .ok last) ∧
        ∀ onMissing, compareFormsStrictly onMissing ask rules d before after =
          compareForms ask rules d before after := by
  constructor
  · intro reportType calls m r
    have aligned : r.Aligned := aligned_built reportType calls
    refine ⟨aligned m, mem_modules_built_iff, fun _ _ => key_eq_of_get?, fun n => ⟨?_, ?_, ?_⟩⟩
    · exact fun onMissing => addNode_eq_strictly aligned onMissing m n
    · rw [addNode_eq_fail_iff, aligned m, OrderedMap.keys, ← OrderedMap.lookup_eq_none_iff]
      rfl
    · exact fun _ => addNode_built_fails
  · intro reportType reportType' calls calls' before after
    have sourcedBefore : before.Sourced := (aligned_built reportType calls).sourced
    have sourcedAfter : after.Sourced := (aligned_built reportType' calls').sourced
    constructor
    · intro σ test extension s
      exact ⟨compareVirtualTypesBy_ends test extension sourcedBefore sourcedAfter s,
        fun onMissing => compareVirtualTypesBy_eq_strictly onMissing test extension s before after⟩
    · intro δ ask rules d
      exact ⟨fun _ => failsWith_of_sourced sourcedBefore sourcedAfter,
        fun answers => ends_of_answers answers sourcedBefore sourcedAfter,
        fun onMissing => compareForms_eq_strictly onMissing ask rules d before after⟩

def shopCalls : List Call :=
  [.add "Acme_Shop" (.configSection ⟨"early", none⟩), .register "Acme_Shop" "shop/etc/system.xml",
    .add "Acme_Shop" (.configSection ⟨"shop", none⟩), .register "Acme_Blog" "blog.xml",
    .register "Acme_Shop" "shop/etc/adminhtml/system.xml"]

def laterCalls : List Call :=
  shopCalls ++ [.add "Acme_Shop" (.configField ⟨"name", "shop/main", none, none⟩),
    .register "Acme_New" "new.xml"]

theorem built_registries_serve_comparisons_shop :
    "Acme_Shop" ∈ (built none shopCalls).modules ∧
      ((built none shopCalls).nodesOf "Acme_Shop").map Node.path = ["shop"] ∧
      ((built none shopCalls).addNode "Acme_New" (.configSection ⟨"new", none⟩)).outcome =
        .error (.problem (.missingSourceFile "Acme_New")) ∧
      (∃ last, (compareForms askForms ⟨"system.xml", []⟩ () (built none shopCalls)
        (built none laterCalls)).outcome = .ok last) ∧
      (compareForms askForms ⟨"system.xml", []⟩ () (built none shopCalls)
        (built none laterCalls)).changes.map (fun e => (e.2.code, e.2.location)) =
          [("M300", "new.xml"), ("M306", "shop/etc/adminhtml/system.xml")] := by
  obtain ⟨registries, comparisons⟩ := built_registries_serve_comparisons
  obtain ⟨-, registered, -⟩ := registries none shopCalls "Acme_Shop"
  obtain ⟨-, -, -, adds⟩ := registries none shopCalls "Acme_New"
  obtain ⟨-, refused, failure⟩ := adds (.configSection ⟨"new", none⟩)
  obtain ⟨-, forms⟩ := comparisons none none shopCalls laterCalls
  refine ⟨registered.mpr ⟨"shop/etc/system.xml", by simp [shopCalls]⟩, by decide, ?_, ?_, by decide +kernel⟩
  · obtain ⟨f, fails⟩ := refused.mpr (by decide)
    rw [fails, (failure f fails).1]
  · exact (forms askForms ⟨"system.xml", []⟩ ()).2.1 fun _ _ => ⟨_, rfl⟩

end ReleaseImpact
