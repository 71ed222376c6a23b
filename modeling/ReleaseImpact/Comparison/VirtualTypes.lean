import ReleaseImpact.ClassPath
import ReleaseImpact.Report
import ReleaseImpact.Snapshot
import ReleaseImpact.Text.Blank

/-!
Changes to virtual types. A virtual type of the earlier snapshot is compared with the one of its name
in the same module, else with the first one of its name in any module. If there is none, it was
removed, unless a class file now stands where its name leads. Main statements:

- `changedProperties_self`: a declaration has not changed against itself.
- `changedProperties_of_global`: widening to the global scope is no change.
- `normalizedType_of_clean`: a type without leading or trailing marks stays as it is.
-/

namespace ReleaseImpact

/-- A type without blanks around it and without namespace marks in front. -/
def normalizedType (type : String) : String :=
  String.ofList ((Text.trimmed type.toList).dropWhile (· = '\\'))

/-- The properties that changed from one declaration to another. A type is compared in normal form;
the scope counts unless only it changed, and to the global one. -/
def changedProperties (before after : VirtualType) : List String :=
  let sameType := normalizedType before.type = normalizedType after.type
  if sameType ∧ after.scope = globalScope then []
  else
    (if sameType then [] else ["type"]) ++ (if before.scope = after.scope then [] else ["scope"])

theorem changedProperties_self (v : VirtualType) : changedProperties v v = [] := by
  simp [changedProperties]

theorem changedProperties_of_global {before after : VirtualType}
    (h : normalizedType before.type = normalizedType after.type) (hs : after.scope = globalScope) :
    changedProperties before after = [] := by
  simp [changedProperties, h, hs]

theorem normalizedType_of_clean {type : String} (h : Text.trimmed type.toList = type.toList)
    (hf : type.toList.head? ≠ some '\\') : normalizedType type = type := by
  have same : type.toList.dropWhile (· = '\\') = type.toList := by
    cases ht : type.toList with
    | nil => rfl
    | cons c rest =>
      have : c ≠ '\\' := by simpa [ht] using hf
      simp [this]
  rw [normalizedType, h, same, String.ofList_toList]

namespace VirtualTypeComparison

def logger : String := "bumpcheck.analysis.di"

abbrev Index := OrderedMap String (OrderedMap String VirtualType)

def firstNamed? (index : Index) (name : String) : Option VirtualType :=
  (index.values.flatMap OrderedMap.values).find? (·.name = name)

def reportChanged (before after : VirtualType) (file : String) : Trail Unit :=
  .each (changedProperties before after) fun property => do
    .log .debug logger "virtual_type_changed"
      [("name", .text before.name), ("field", .text property)]
    .report diDomain ⟨.virtualTypeChanged property, file, before.name⟩

/-- Reports a virtual type that has no declaration any more. -/
def reportGone (isFile : String → Bool) (extension : String) (before : VirtualType)
    (fileBefore fileAfter : String) : Trail Unit := do
  let removed : Change := ⟨.virtualTypeRemoved, fileBefore, before.name⟩
  match ClassPath.candidate? fileAfter before.name extension with
  | none =>
    .log .info logger "class_path_unresolved"
      [("name", .text before.name), ("file", .text fileAfter)]
    .report diDomain removed
  | some candidate =>
    .step (.probe candidate)
    .report diDomain
      (if isFile candidate then ⟨.virtualTypeToType, fileBefore, before.name⟩ else removed)

def compareType (isFile : String → Bool) (extension : String) (after : Index) (moduleName : String)
    (typesAfter : OrderedMap String VirtualType) (fileBefore fileAfter : String)
    (before : VirtualType) : Trail Unit :=
  match typesAfter.get? before.name with
  | some same => if before = same then pure () else reportChanged before same fileBefore
  | none =>
    match firstNamed? after before.name with
    | some moved => do
      .log .debug logger "virtual_type_moved"
        [("name", .text before.name), ("module", .text moduleName)]
      reportChanged before moved fileBefore
    | none => reportGone isFile extension before fileBefore fileAfter

/-- Compares the virtual types of one module, if the later snapshot has the module. -/
def compareModule (isFile : String → Bool) (extension : String) (registryBefore registryAfter : Registry)
    (after : Index) (moduleName : String) (types : OrderedMap String VirtualType) : Trail Unit :=
  match after.get? moduleName with
  | none => pure ()
  | some typesAfter => do
    let fileBefore ← .ofExcept (registryBefore.sourceFile moduleName)
    let fileAfter ← .ofExcept (registryAfter.sourceFile moduleName)
    .each types.values
      (compareType isFile extension after moduleName typesAfter fileBefore fileAfter)

end VirtualTypeComparison

open VirtualTypeComparison in
/-- Reports what happened to the virtual types of a snapshot. -/
def compareVirtualTypes (isFile : String → Bool) (extension : String)
    (registryBefore registryAfter : Registry) : Trail Unit :=
  let before := registryBefore.index Node.virtualType?
  let after := registryAfter.index Node.virtualType?
  if sameIndex before after then pure ()
  else .each before.entries fun e =>
    compareModule isFile extension registryBefore registryAfter after e.1 e.2

end ReleaseImpact
