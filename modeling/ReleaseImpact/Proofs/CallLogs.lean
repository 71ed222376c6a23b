import ReleaseImpact.Proofs.OrderedMap
import ReleaseImpact.Proofs.RegistryCalls
import ReleaseImpact.Proofs.TreeRegistry
import Mathlib

/-!
A registry as it follows from the log of all calls that were made on it. Main statements:

- `files_built` and `bucket_built`: the files and the nodes of modules after any calls.
- `steps_perform_built`: what a call writes to the log, from the calls before it.
- `exists_replacement`: a node that is lost gave way to another one, in sight of the log.
- `built_follows`: all of a registry from the calls.
-/

namespace ReleaseImpact

namespace Registry

/-! ## What calls say -/

namespace Call

def registration? : Call → Option (String × String)
  | .register m file => some (m, file)
  | .add _ _ => none

def registers (m : String) (call : Call) : Bool := call.registration?.any (·.1 = m)

def nodeFor? (m : String) : Call → Option Node
  | .register _ _ => none
  | .add other n => if other = m then some n else none

end Call

def registrations (calls : List Call) : List (String × String) := calls.filterMap Call.registration?

/-- The file of the last registration of a module. -/
def lastFile? (m : String) (calls : List Call) : Option String := OrderedMap.last? m (registrations calls)

/-- The nodes that were added to a module after its first registration, under their keys. Nodes added
before that were refused. -/
def additions (m : String) (calls : List Call) : List (String × Node) :=
  ((calls.dropWhile fun call => !call.registers m).filterMap (Call.nodeFor? m)).map fun n => (n.key, n)

/-- The node that was last added to a module under a key. -/
def lastNode? (m key : String) (calls : List Call) : Option Node := OrderedMap.last? key (additions m calls)

/-- The line in the log on a node in place of which another one is put. -/
def replacedLine (m key file : String) : Event :=
  ⟨.warning, logger, "duplicate_unique_key", [("module", .text m), ("key", .text key), ("source_file", .text file)]⟩

/-- The line that a call after some others leaves in the log: one on a node that is added in place of a
different one. -/
def line? (calls : List Call) : Call → Option Event
  | .register _ _ => none
  | .add m n =>
    match lastFile? m calls, lastNode? m n.key calls with
    | some file, some old => if old = n then none else some (replacedLine m n.key file)
    | _, _ => none

variable {calls : List Call} {m : String} {n : Node} {reportType : Option String}

/-! ## Files and nodes after calls -/

theorem built_concat (reportType : Option String) (calls : List Call) (call : Call) :
    built reportType (calls ++ [call]) = (built reportType calls).after call := by
  simp [built, List.foldl_append]

theorem files_built (reportType : Option String) (calls : List Call) :
    (built reportType calls).files = .ofList (registrations calls) := by
  induction calls using List.reverseRecOn with
  | nil => rfl
  | append_singleton calls call ih =>
    rw [built_concat, registrations, List.filterMap_append]
    cases call with
    | register m file =>
      rw [after_register, show List.filterMap _ [Call.register m file] = [(m, file)] from rfl,
        OrderedMap.ofList_concat]
      simp only [register, ih, registrations]
    | add m n =>
      rw [show List.filterMap _ [Call.add m n] = [] from rfl, List.append_nil, ← registrations, ← ih]
      rcases addNode_cases (built reportType calls) m n with ⟨-, refused⟩ | ⟨file, -, ends⟩
      · rw [after_add_of_fails (congrArg Trail.outcome refused)]
      · rw [after, perform, ends]
        rfl

theorem get?_files_built (reportType : Option String) (m : String) :
    (built reportType calls).files.get? m = lastFile? m calls := by
  rw [files_built, OrderedMap.get?_ofList, lastFile?]

theorem lastFile?_isSome_iff : (lastFile? m calls).isSome = true ↔ ∃ call ∈ calls, call.registers m = true := by
  rw [← get?_files_built none, Option.isSome_iff_exists, ← OrderedMap.mem_keys_iff,
    ← aligned_built, mem_modules_built_iff]
  constructor
  · rintro ⟨file, member⟩
    exact ⟨_, member, by simp [Call.registers, Call.registration?]⟩
  · rintro ⟨call, member, registers⟩
    cases call with
    | register other file =>
      obtain rfl : other = m := by simpa [Call.registers, Call.registration?] using registers
      exact ⟨file, member⟩
    | add other n => simp [Call.registers, Call.registration?] at registers

theorem modules_built (reportType : Option String) (calls : List Call) :
    (built reportType calls).modules = ((registrations calls).map Prod.fst).eraseDups := by
  induction calls using List.reverseRecOn with
  | nil => rfl
  | append_singleton calls call ih =>
    rw [built_concat, registrations, List.filterMap_append, ← registrations]
    cases call with
    | register m file =>
      rw [after_register, modules_register, ih, show List.filterMap _ [Call.register m file] = [(m, file)] from rfl,
        List.map_append, List.map_singleton, OrderedMap.eraseDups_concat]
      simp only [List.mem_eraseDups]
    | add m n =>
      rw [show List.filterMap _ [Call.add m n] = [] from rfl, List.append_nil, ← ih]
      rcases addNode_cases (built reportType calls) m n with ⟨-, refused⟩ | ⟨file, found, ends⟩
      · rw [after_add_of_fails (congrArg Trail.outcome refused)]
      · have known := (aligned_built reportType calls m).mpr (OrderedMap.mem_keys_iff.mpr ⟨file, found⟩)
        rw [after, perform, ends]
        exact modules_put known

/-- An addition counts if the module was registered by then. -/
theorem additions_concat (calls : List Call) (call : Call) :
    additions m (calls ++ [call]) =
      additions m calls ++
        if (lastFile? m calls).isSome then ((call.nodeFor? m).map fun n => (n.key, n)).toList else [] := by
  unfold additions
  by_cases known : ∃ call ∈ calls, call.registers m = true
  · have stops : (calls.dropWhile fun call => !call.registers m) ≠ [] := by
      obtain ⟨call, member, registers⟩ := known
      intro all
      simpa [registers] using List.dropWhile_eq_nil_iff.mp all call member
    rw [if_pos (lastFile?_isSome_iff.mpr known), List.dropWhile_append,
      if_neg (by simpa using stops), List.filterMap_append, List.map_append]
    cases kept : call.nodeFor? m <;> simp [kept]
  · rw [if_neg (mt lastFile?_isSome_iff.mp known), List.append_nil]
    have all : (calls.dropWhile fun call => !call.registers m) = [] := by
      apply List.dropWhile_eq_nil_iff.mpr
      intro call member
      simpa using fun registers => known ⟨call, member, registers⟩
    rw [List.dropWhile_append, all]
    cases call with
    | register other file => cases named : Call.registers m (.register other file) <;> simp [named, Call.nodeFor?]
    | add other n => simp [Call.registers, Call.registration?]

theorem bucket_built (reportType : Option String) (calls : List Call) (m : String) :
    (built reportType calls).bucket m = .ofList (additions m calls) := by
  induction calls using List.reverseRecOn with
  | nil => rfl
  | append_singleton calls call ih =>
    rw [built_concat, additions_concat, ← get?_files_built reportType]
    cases call with
    | register other file =>
      rw [after_register, Survey.bucket_register, ih]
      simp [Call.nodeFor?]
    | add other n =>
      rcases addNode_cases (built reportType calls) other n with ⟨missing, refused⟩ | ⟨file, found, ends⟩
      · rw [after_add_of_fails (congrArg Trail.outcome refused), ih]
        by_cases same : other = m
        · subst same
          simp [missing]
        · simp [Call.nodeFor?, same]
      · have after : (built reportType calls).after (.add other n) = (built reportType calls).put other n := by
          rw [Registry.after, perform, ends]
          rfl
        rw [after]
        by_cases same : other = m
        · subst same
          rw [bucket_put, ih, found, Call.nodeFor?, if_pos rfl]
          exact (OrderedMap.ofList_concat (additions other calls) (n.key, n)).symm
        · rw [Survey.bucket_put_of_ne _ same, ih]
          simp [Call.nodeFor?, same]

theorem get?_bucket_built (reportType : Option String) (m key : String) :
    ((built reportType calls).bucket m).get? key = lastNode? m key calls := by
  rw [bucket_built, OrderedMap.get?_ofList, lastNode?]

theorem nodeCount_eq (r : Registry) :
    r.nodeCount = (r.modules.map fun m => (r.bucket m).entries.length).sum := by
  have counted : ∀ (buckets : List Nodes) (k : Nat),
      buckets.foldl (fun n nodes => n + nodes.size) k = k + (buckets.map OrderedMap.size).sum := by
    intro buckets
    induction buckets with
    | nil => simp
    | cons nodes rest ih =>
      intro k
      rw [List.foldl_cons, ih, List.map_cons, List.sum_cons, Nat.add_assoc]
  rw [nodeCount, counted, Nat.zero_add, OrderedMap.values, modules, OrderedMap.keys, List.map_map, List.map_map]
  congr 1
  apply List.map_congr_left
  intro e member
  simp only [Function.comp_apply, bucket_of_mem member, OrderedMap.size]

/-! ## What the log is told -/

theorem steps_perform_built (reportType : Option String) (calls : List Call) (call : Call) :
    ((built reportType calls).perform call).steps = ((line? calls call).map Step.event).toList := by
  cases call with
  | register m file => rfl
  | add m n =>
    rw [perform, addNode, line?, get?_files_built, get?_bucket_built]
    cases lastFile? m calls with
    | none => rfl
    | some file =>
      cases lastNode? m n.key calls with
      | none => rfl
      | some old =>
        by_cases same : old = n
        · subst same
          simp [pure, Trail.done]
        · simp [same, bind, Trail.andThen, pure, Trail.done, Trail.log, Trail.step, replacedLine]

/-- One call leaves a node where it is, or puts another one in its place and says so. -/
theorem lastNode?_concat_cases {key : String} (bound : lastNode? m key calls = some n) (call : Call) :
    lastNode? m key (calls ++ [call]) = some n ∨
      ∃ n' file, call = .add m n' ∧ n'.key = key ∧ n' ≠ n ∧ lastFile? m calls = some file ∧
        line? calls call = some (replacedLine m key file) := by
  rw [lastNode?] at bound ⊢
  rw [additions_concat]
  cases found : lastFile? m calls with
  | none => simp [bound]
  | some file =>
    cases call with
    | register other file => simp [Call.nodeFor?, bound]
    | add other n' =>
      by_cases same : other = m
      · subst same
        simp only [Option.isSome_some, if_true, Call.nodeFor?, Option.map_some, Option.toList_some,
          OrderedMap.last?_concat]
        by_cases here : n'.key = key ∧ n' ≠ n
        · obtain ⟨rfl, different⟩ := here
          refine .inr ⟨n', file, rfl, rfl, different, rfl, ?_⟩
          simp [line?, lastNode?, found, bound, Ne.symm different]
        · left
          split
          · next keyed => exact congrArg some (not_not.mp fun different => here ⟨keyed, different⟩)
          · exact bound
      · simp [Call.nodeFor?, same, bound]

theorem exists_replacement {key : String} (bound : lastNode? m key calls = some n) {later : List Call}
    (lost : lastNode? m key (calls ++ later) ≠ some n) :
    ∃ between n' rest file, later = between ++ .add m n' :: rest ∧ n'.key = key ∧ n' ≠ n ∧
      lastNode? m key (calls ++ between) = some n ∧ lastFile? m (calls ++ between) = some file ∧
      line? (calls ++ between) (.add m n') = some (replacedLine m key file) := by
  induction later generalizing calls with
  | nil => exact absurd (by rwa [List.append_nil]) lost
  | cons call rest ih =>
    rcases lastNode?_concat_cases bound call with kept | ⟨n', file, rfl, keyed, different, found, line⟩
    · obtain ⟨between, n', rest', file, rfl, keyed, different, held, found, line⟩ :=
        ih kept (by rwa [List.append_assoc])
      rw [List.append_assoc] at held found line
      exact ⟨call :: between, n', rest', file, rfl, keyed, different, held, found, line⟩
    · exact ⟨[], n', rest, file, rfl, keyed, different, by rwa [List.append_nil], by rwa [List.append_nil],
        by rwa [List.append_nil]⟩

/-! ## All of a registry -/

theorem entries_built (reportType : Option String) (calls : List Call) :
    (built reportType calls).nodes.entries.map (fun e => (e.1, e.2.entries)) =
      ((registrations calls).map Prod.fst).eraseDups.map fun m => (m, OrderedMap.latest (additions m calls)) := by
  rw [← modules_built reportType, modules, OrderedMap.keys, List.map_map]
  apply List.map_congr_left
  intro e member
  rw [Function.comp_apply, ← OrderedMap.entries_ofList, ← bucket_built reportType, bucket_of_mem member]

theorem entries_index_built {α : Type} (pick : Node → Option α) (reportType : Option String) (calls : List Call) :
    ((built reportType calls).index pick).entries.map (fun e => (e.1, e.2.entries)) =
      ((registrations calls).map Prod.fst).eraseDups.map fun m =>
        (m, (OrderedMap.latest (additions m calls)).filterMap fun e => (pick e.2).map (e.1, ·)) := by
  rw [entries_index, modules_built, List.map_map]
  apply List.map_congr_left
  intro m _
  rw [Function.comp_apply, ← OrderedMap.entries_ofList, ← bucket_built reportType]
  rfl

theorem filterMap_ofKinds (kinds : List Kind) (entries : List (String × Node)) :
    entries.filterMap (fun e => (ofKinds kinds e.2).map (e.1, ·)) = entries.filter fun e => e.2.kind ∈ kinds := by
  rw [← List.filterMap_eq_filter]
  apply List.filterMap_congr
  intro e _
  by_cases wanted : e.2.kind ∈ kinds <;> simp [ofKinds, Option.guard, wanted]

theorem filterMap_bucket_eq_ofList (r : Registry) (m : String) (wanted : Node → Bool) :
    (r.bucket m).filterMap (fun n => if wanted n then some n else none) =
      .ofList (((r.nodesOf m).filter wanted).map fun n => (n.key, n)) := by
  rw [← OrderedMap.ofList_entries (OrderedMap.filterMap _ _)]
  congr 1
  have keyed := r.keyed_bucket m
  show ((r.bucket m).entries.filterMap fun e => _) = (((r.bucket m).entries.map Prod.snd).filter wanted).map _
  rw [List.filter_map, List.map_map, ← List.filterMap_eq_map, List.filterMap_filter]
  apply List.filterMap_congr
  intro e member
  by_cases taken : wanted e.2 <;> simp [taken, keyed e member]

/-- The modules of a registry, their files and nodes, its indexes and what it wrote to the log are those
that follow from some calls. -/
structure Follows (r : Registry) (calls : List Call) : Prop where
  modules : r.modules = ((registrations calls).map Prod.fst).eraseDups
  file : ∀ m, r.sourceFile m =
    match lastFile? m calls with
    | some file => .ok file
    | none => .error (.problem (.missingSourceFile m))
  nodes : r.nodes.entries.map (fun e => (e.1, e.2.entries)) =
    r.modules.map fun m => (m, OrderedMap.latest (additions m calls))
  count : r.nodeCount = (r.modules.map fun m => (OrderedMap.latest (additions m calls)).length).sum
  index : (r.index some).entries.map (fun e => (e.1, e.2.entries)) =
    r.modules.map fun m => (m, OrderedMap.latest (additions m calls))
  indexOf : ∀ kinds, (r.index (ofKinds kinds)).entries.map (fun e => (e.1, e.2.entries)) =
    r.modules.map fun m => (m, (OrderedMap.latest (additions m calls)).filter fun e => e.2.kind ∈ kinds)
  anew : ∀ kinds, ∀ m ∈ r.modules, (r.index (ofKinds kinds)).get? m =
    some (.ofList (((r.nodesOf m).filter fun n => n.kind ∈ kinds).map fun n => (n.key, n)))
  told : ∀ call, (r.perform call).steps = ((line? calls call).map Step.event).toList
  replaced : ∀ earlier m n later, calls = earlier ++ .add m n :: later →
    (lastFile? m earlier).isSome = true → n ∉ r.nodesOf m →
    ∃ between n' rest file, later = between ++ .add m n' :: rest ∧ n'.key = n.key ∧ n' ≠ n ∧
      lastNode? m n.key (earlier ++ .add m n :: between) = some n ∧
      line? (earlier ++ .add m n :: between) (.add m n') = some (replacedLine m n.key file)

theorem replaced_built {earlier later : List Call} (whole : calls = earlier ++ .add m n :: later)
    (known : (lastFile? m earlier).isSome = true) (lost : n ∉ (built reportType calls).nodesOf m) :
    ∃ between n' rest file, later = between ++ .add m n' :: rest ∧ n'.key = n.key ∧ n' ≠ n ∧
      lastNode? m n.key (earlier ++ .add m n :: between) = some n ∧
      line? (earlier ++ .add m n :: between) (.add m n') = some (replacedLine m n.key file) := by
  have bound : lastNode? m n.key (earlier ++ [.add m n]) = some n := by
    rw [lastNode?, additions_concat, if_pos known, Call.nodeFor?, if_pos rfl, Option.map_some,
      Option.toList_some, OrderedMap.last?_concat, if_pos rfl]
  have gone : lastNode? m n.key ((earlier ++ [.add m n]) ++ later) ≠ some n := by
    intro found
    rw [List.append_assoc, List.singleton_append, ← whole, ← get?_bucket_built reportType] at found
    exact lost (List.mem_map_of_mem (f := Prod.snd) (OrderedMap.get?_eq_some_iff.mp found))
  obtain ⟨between, n', rest, file, rfl, keyed, different, held, -, line⟩ := exists_replacement bound gone
  rw [List.append_assoc, List.singleton_append] at held line
  exact ⟨between, n', rest, file, rfl, keyed, different, held, line⟩

theorem built_follows (reportType : Option String) (calls : List Call) :
    (built reportType calls).Follows calls where
  modules := modules_built reportType calls
  file m := by
    cases known : lastFile? m calls <;> simp only [sourceFile, get?_files_built, known]
  nodes := by rw [entries_built, modules_built]
  count := by
    rw [nodeCount_eq]
    simp only [bucket_built, OrderedMap.entries_ofList]
  index := by
    rw [entries_index_built, modules_built]
    simp
  indexOf kinds := by
    rw [entries_index_built, modules_built]
    simp only [filterMap_ofKinds]
  anew kinds m member := by
    rw [get?_index member, ← filterMap_bucket_eq_ofList]
    simp only [decide_eq_true_eq]
    rfl
  told := steps_perform_built reportType calls
  replaced _ _ _ _ := replaced_built

/-- A type is declared twice in other words, after it was declared once too early. -/
def shopCalls : List Call :=
  [.add "Acme_Shop" (.virtualType ⟨"Cart", "Basket", globalScope, none⟩),
   .register "Acme_Shop" "etc/di.xml",
   .add "Acme_Shop" (.virtualType ⟨"Cart", "Basket", globalScope, none⟩),
   .register "Acme_Mail" "mail/etc/di.xml",
   .register "Acme_Shop" "etc/frontend/di.xml",
   .add "Acme_Shop" (.virtualType ⟨"Cart", "Trolley", "frontend", none⟩)]

theorem built_follows_shop :
    (built none shopCalls).modules = ["Acme_Shop", "Acme_Mail"] ∧
      (built none shopCalls).sourceFile "Acme_Shop" = .ok "etc/frontend/di.xml" ∧
      ∃ between n' rest file, shopCalls.drop 3 = between ++ .add "Acme_Shop" n' :: rest ∧
        line? (shopCalls.take 3 ++ between) (.add "Acme_Shop" n') =
          some (replacedLine "Acme_Shop" "Cart" file) := by
  have follows := built_follows none shopCalls
  refine ⟨follows.modules, follows.file "Acme_Shop", ?_⟩
  obtain ⟨between, n', rest, file, later, -, -, -, line⟩ :=
    follows.replaced (shopCalls.take 2) "Acme_Shop" (.virtualType ⟨"Cart", "Basket", globalScope, none⟩)
      (shopCalls.drop 3) rfl rfl (by decide)
  exact ⟨between, n', rest, file, later, line⟩

end Registry

end ReleaseImpact
