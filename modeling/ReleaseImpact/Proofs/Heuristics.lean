import ReleaseImpact.Proofs.BreakingChanges
import ReleaseImpact.Proofs.LostTypes
import Mathlib.Data.List.Forall2

/-!
What the heuristics of a comparison have a say in: the detectors of duplicates, and the tests for class
files, which may remember what they were asked. Main statements:

- `forall₂_fold`: runs whose steps report alike report alike.
- `length_probes_compareType`: of a virtual type at most one file is asked for.
- `compareVirtualTypesBy_of_function`: a test without a memory makes the comparison that has none.
- `forall₂_compareVirtualTypesBy`: tests decide no more than what became of a lost virtual type.
- `heuristics_keep_breaks`: detectors and tests leave the breaking changes of forms, and all but the fate
  of lost virtual types, as they are.
-/

namespace ReleaseImpact

namespace Trail

variable {α β γ : Type}

theorem fold_unit (body : α → Trail Unit) (items : List α) (u : Unit) :
    fold (fun _ a => body a) u items = each items body := by
  induction items with
  | nil => rfl
  | cons a rest ih =>
    rw [fold, each]
    exact congrArg (andThen (body a)) (funext fun _ => ih)

theorem probes_bind {t : Trail α} {a : α} (next : α → Trail β) (ends : t.outcome = .ok a) :
    (t >>= next).probes = t.probes ++ (next a).probes := by
  rw [probes, steps_bind_of_ok next ends, List.filterMap_append]
  rfl

theorem probes_each_of_silent {items : List α} {body : α → Trail Unit}
    (silent : ∀ a ∈ items, (body a).outcome = .ok () ∧ (body a).probes = []) :
    (each items body).probes = [] := by
  induction items with
  | nil => rfl
  | cons a rest ih =>
    obtain ⟨⟨ends, first⟩, others⟩ := List.forall_mem_cons.mp silent
    have both := probes_bind (fun _ => each rest body) ends
    rw [first, ih others] at both
    exact both

theorem forall₂_fold {like : String × Change → String × Change → Prop} {items : List α}
    {body : β → α → Trail β} {body' : γ → α → Trail γ}
    (step : ∀ a ∈ items, ∀ b c, ∃ b' c' found others,
      (body b a).Reports b' found ∧ (body' c a).Reports c' others ∧ List.Forall₂ like found others)
    (b : β) (c : γ) :
    ∃ b' c' found others, (fold body b items).Reports b' found ∧ (fold body' c items).Reports c' others ∧
      List.Forall₂ like found others := by
  induction items generalizing b c with
  | nil => exact ⟨b, c, [], [], reports_pure b, reports_pure c, .nil⟩
  | cons a rest ih =>
    obtain ⟨b₁, c₁, found, others, one, two, alike⟩ := step a List.mem_cons_self b c
    obtain ⟨b₂, c₂, more, further, one', two', alike'⟩ :=
      ih (fun x member => step x (List.mem_cons_of_mem a member)) b₁ c₁
    exact ⟨b₂, c₂, found ++ more, others ++ further, one.bind one', two.bind two',
      List.rel_append alike alike'⟩

end Trail

namespace VirtualTypeComparison

open Trail Registry

variable {σ σ' : Type}

/-! ## Tests with a memory -/

/-- A test whether a file is there, with the one that is asked next. -/
abbrev FileTest (σ : Type) := σ → String → Bool × σ

def FileTest.ofFunction (isFile : String → Bool) : FileTest Unit := fun _ path => (isFile path, ())

def FileTest.after (test : FileTest σ) (s : σ) (paths : List String) : σ :=
  paths.foldl (fun s path => (test s path).2) s

/-- Compares one virtual type, of which at most one file is asked for. -/
def compareTypeBy (test : FileTest σ) (extension : String) (after : Index) (moduleName : String)
    (typesAfter : OrderedMap String VirtualType) (fileBefore fileAfter : String) (s : σ)
    (v : VirtualType) : Trail σ :=
  let run := compareType (fun path => (test s path).1) extension after moduleName typesAfter fileBefore
    fileAfter v
  do
    run
    return test.after s run.probes

def compareModuleBy (test : FileTest σ) (extension : String) (registryBefore registryAfter : Registry)
    (after : Index) (s : σ) (e : String × OrderedMap String VirtualType) : Trail σ :=
  match after.get? e.1 with
  | none => pure s
  | some typesAfter => do
    let fileBefore ← .ofExcept (registryBefore.sourceFile e.1)
    let fileAfter ← .ofExcept (registryAfter.sourceFile e.1)
    .fold (compareTypeBy test extension after e.1 typesAfter fileBefore fileAfter) s e.2.values

/-- The comparison of virtual types by a test that may remember what it was asked. -/
def compareVirtualTypesBy (test : FileTest σ) (extension : String) (s : σ)
    (registryBefore registryAfter : Registry) : Trail σ :=
  let before := registryBefore.index Node.virtualType?
  let after := registryAfter.index Node.virtualType?
  if sameIndex before after then pure s
  else .fold (compareModuleBy test extension registryBefore registryAfter after) s before.entries

theorem probes_reportChanged (v w : VirtualType) (file : String) : (reportChanged v w file).probes = [] :=
  probes_each_of_silent fun _ _ => ⟨rfl, rfl⟩

theorem length_probes_compareType (isFile : String → Bool) (extension : String) (after : Index)
    (moduleName : String) (typesAfter : OrderedMap String VirtualType) (fileBefore fileAfter : String)
    (v : VirtualType) :
    (compareType isFile extension after moduleName typesAfter fileBefore fileAfter v).probes.length ≤ 1 := by
  unfold compareType
  cases typesAfter.get? v.name with
  | some same =>
    dsimp only
    split
    · exact Nat.zero_le 1
    · simp [probes_reportChanged]
  | none =>
    cases firstNamed? after v.name with
    | some moved =>
      dsimp only
      rw [probes_bind _ rfl, probes_reportChanged]
      exact Nat.zero_le 1
    | none =>
      unfold reportGone
      cases ClassPath.candidate? fileAfter v.name extension with
      | none => exact Nat.zero_le 1
      | some candidate => exact Nat.le_refl 1

theorem compareVirtualTypesBy_of_function (isFile : String → Bool) (extension : String)
    (before after : Registry) :
    compareVirtualTypesBy (.ofFunction isFile) extension () before after =
      compareVirtualTypes isFile extension before after := by
  have types (index : Index) (m : String) (typesAfter : OrderedMap String VirtualType)
      (fileBefore fileAfter : String) :
      compareTypeBy (.ofFunction isFile) extension index m typesAfter fileBefore fileAfter =
        fun _ v => compareType isFile extension index m typesAfter fileBefore fileAfter v := by
    funext u v
    exact bind_pure (compareType isFile extension index m typesAfter fileBefore fileAfter v)
  have modules (index : Index) :
      compareModuleBy (.ofFunction isFile) extension before after index =
        fun _ e => compareModule isFile extension before after index e.1 e.2 := by
    funext u e
    unfold compareModuleBy compareModule
    cases index.get? e.1 with
    | none => rfl
    | some typesAfter => simp only [types, fold_unit]
  unfold compareVirtualTypesBy compareVirtualTypes
  simp only [modules, fold_unit]

/-! ## What a test decides -/

/-- Two changes are the same but for what became of a lost virtual type: it may be removed in one of them
and made a class in the other. -/
def SameButFate (e e' : String × Change) : Prop :=
  e = e' ∨ IsGone e.2.kind ∧ IsGone e'.2.kind ∧ e.1 = e'.1 ∧ e.2.location = e'.2.location ∧
    e.2.target = e'.2.target

theorem forall₂_sameButFate_self (found : List (String × Change)) : List.Forall₂ SameButFate found found :=
  List.forall₂_same.mpr fun _ _ => .inl rfl

theorem forall₂_expectedKinds (isFile isFile' : String → Bool) (extension extension' : String)
    (after : Registry) (moduleName file : String) (v : VirtualType) :
    List.Forall₂ SameButFate
      ((expectedKinds isFile extension after moduleName v).map fun kind => (diDomain, ⟨kind, file, v.name⟩))
      ((expectedKinds isFile' extension' after moduleName v).map fun kind =>
        (diDomain, ⟨kind, file, v.name⟩)) := by
  unfold expectedKinds
  cases (after.typesOf moduleName).find? (·.name = v.name) with
  | some same => exact forall₂_sameButFate_self _
  | none =>
    cases firstOfName? after v.name with
    | some moved => exact forall₂_sameButFate_self _
    | none =>
      refine .cons (.inr ⟨isGone_goneKind .., isGone_goneKind .., rfl, rfl, rfl⟩) .nil

theorem compareTypeBy_reports (test : FileTest σ) (extension : String) (after : Registry)
    (moduleName fileBefore : String) (s : σ) (v : VirtualType) :
    ∃ s', (compareTypeBy test extension (after.index Node.virtualType?) moduleName
        (after.types moduleName) fileBefore (after.fileOf moduleName) s v).Reports s'
      ((expectedKinds (fun path => (test s path).1) extension after moduleName v).map fun kind =>
        (diDomain, ⟨kind, fileBefore, v.name⟩)) :=
  ⟨_, (compareType_reports _ extension after moduleName fileBefore v).bind_return _⟩

variable {before after : Registry}

theorem forall₂_compareModuleBy (test : FileTest σ) (test' : FileTest σ') (extension extension' : String)
    (sourcedBefore : before.Sourced) (sourcedAfter : after.Sourced) {moduleName : String}
    (member : moduleName ∈ before.modules) (s : σ) (s' : σ') :
    ∃ t t' found others,
      (compareModuleBy test extension before after (after.index Node.virtualType?) s
        (moduleName, before.types moduleName)).Reports t found ∧
      (compareModuleBy test' extension' before after (after.index Node.virtualType?) s'
        (moduleName, before.types moduleName)).Reports t' others ∧
      List.Forall₂ SameButFate found others := by
  unfold compareModuleBy
  -- A test is asked only about modules that both snapshots have; nothing is reported of the others.
  by_cases common : moduleName ∈ after.modules
  · rw [get?_index common]
    have fileBefore := reports_ofExcept (sourceFile_of_sourced sourcedBefore member)
    have fileAfter := reports_ofExcept (sourceFile_of_sourced sourcedAfter common)
    have step : ∀ v ∈ (before.types moduleName).values, ∀ (s : σ) (s' : σ'), ∃ t t' found others,
        (compareTypeBy test extension (after.index Node.virtualType?) moduleName
          (after.types moduleName) (before.fileOf moduleName) (after.fileOf moduleName) s v).Reports t
          found ∧
        (compareTypeBy test' extension' (after.index Node.virtualType?) moduleName
          (after.types moduleName) (before.fileOf moduleName) (after.fileOf moduleName) s' v).Reports t'
          others ∧
        List.Forall₂ SameButFate found others := by
      intro v _ s s'
      obtain ⟨t, one⟩ := compareTypeBy_reports test extension after moduleName (before.fileOf moduleName) s v
      obtain ⟨t', two⟩ := compareTypeBy_reports test' extension' after moduleName
        (before.fileOf moduleName) s' v
      exact ⟨t, t', _, _, one, two, forall₂_expectedKinds ..⟩
    obtain ⟨t, t', found, others, one, two, alike⟩ := forall₂_fold step s s'
    exact ⟨t, t', found, others, fileBefore.bind_silent (fileAfter.bind_silent one),
      fileBefore.bind_silent (fileAfter.bind_silent two), alike⟩
  · have missing : (after.index Node.virtualType?).get? moduleName = none := by
      rw [← keys_index after Node.virtualType?] at common
      exact OrderedMap.lookup_eq_none_iff.mpr common
    rw [missing]
    exact ⟨s, s', [], [], reports_pure s, reports_pure s', .nil⟩

theorem forall₂_compareVirtualTypesBy (test : FileTest σ) (test' : FileTest σ')
    (extension extension' : String) (sourcedBefore : before.Sourced) (sourcedAfter : after.Sourced) (s : σ)
    (s' : σ') :
    ∃ t t' found others,
      (compareVirtualTypesBy test extension s before after).Reports t found ∧
      (compareVirtualTypesBy test' extension' s' before after).Reports t' others ∧
      List.Forall₂ SameButFate found others := by
  unfold compareVirtualTypesBy
  dsimp only
  split
  · exact ⟨s, s', [], [], reports_pure s, reports_pure s', .nil⟩
  · rw [entries_index, fold_map, fold_map]
    apply forall₂_fold
    intro moduleName member s s'
    exact forall₂_compareModuleBy test test' extension extension' sourcedBefore sourcedAfter member s s'

end VirtualTypeComparison

open FormComparison VirtualTypeComparison

theorem heuristics_keep_breaks {before after : Registry} (sourcedBefore : before.Sourced)
    (sourcedAfter : after.Sourced) :
    (∀ {δ : Type} (ask : δ → Inquiry → Reply δ) (rules : FormRules) (d : δ),
      (∀ d q, ∃ v, (ask d q).verdict = .ok v) →
        ∃ last, (compareForms ask rules d before after).outcome = .ok last) ∧
    (∀ run run' : FormRun before after, run.rules.schemaFileName = run'.rules.schemaFileName →
      firmChanges run.changes = firmChanges run'.changes ∧
        (Report.level? ⟨run.changes⟩ none = some .major ↔
          Report.level? ⟨run'.changes⟩ none = some .major)) ∧
    (∀ (isFile isFile' : String → Bool) (extension extension' : String),
      (compareVirtualTypes isFile extension before after).outcome = .ok () ∧
        List.Forall₂ SameButFate (compareVirtualTypes isFile extension before after).changes
          (compareVirtualTypes isFile' extension' before after).changes) ∧
    ∀ {σ σ' : Type} (test : FileTest σ) (test' : FileTest σ') (extension extension' : String) (s : σ)
      (s' : σ'), ∃ t t',
        (compareVirtualTypesBy test extension s before after).outcome = .ok t ∧
        (compareVirtualTypesBy test' extension' s' before after).outcome = .ok t' ∧
        List.Forall₂ SameButFate (compareVirtualTypesBy test extension s before after).changes
          (compareVirtualTypesBy test' extension' s' before after).changes := by
  have tests {σ σ' : Type} (test : FileTest σ) (test' : FileTest σ') (extension extension' : String)
      (s : σ) (s' : σ') : ∃ t t',
        (compareVirtualTypesBy test extension s before after).outcome = .ok t ∧
        (compareVirtualTypesBy test' extension' s' before after).outcome = .ok t' ∧
        List.Forall₂ SameButFate (compareVirtualTypesBy test extension s before after).changes
          (compareVirtualTypesBy test' extension' s' before after).changes := by
    obtain ⟨t, t', found, others, ⟨ends, rfl⟩, ⟨ends', rfl⟩, alike⟩ :=
      forall₂_compareVirtualTypesBy test test' extension extension' sourcedBefore sourcedAfter s s'
    exact ⟨t, t', ends, ends', alike⟩
  refine ⟨?_, ?_, ?_, tests⟩
  · intro δ ask rules d answers
    exact exists_ends answers rules sourcedBefore sourcedAfter d
  · intro run run' names
    have same : firmChanges run.changes = firmChanges run'.changes := by
      rw [run.firmChanges_eq sourcedBefore sourcedAfter, run'.firmChanges_eq sourcedBefore sourcedAfter,
        names]
    refine ⟨same, ?_⟩
    rw [Report.level?_eq_major_iff, Report.level?_eq_major_iff]
    show Breaks run.changes ↔ Breaks run'.changes
    rw [← run.breaks_firmChanges sourcedBefore sourcedAfter,
      ← run'.breaks_firmChanges sourcedBefore sourcedAfter, same]
  · intro isFile isFile' extension extension'
    obtain ⟨t, -, ends, -, alike⟩ :=
      tests (.ofFunction isFile) (.ofFunction isFile') extension extension' () ()
    simp only [compareVirtualTypesBy_of_function] at ends alike
    exact ⟨ends, alike⟩

def mixedBefore : Registry := .ofModules
  [("Acme_Shop", "code/Acme/Shop/etc/di.xml",
    [.configSection ⟨"shop", none⟩, .configGroup ⟨"main", "shop", none⟩,
      .configField ⟨"name", "shop/main", none, none⟩,
      .virtualType ⟨"Acme\\Shop\\Made", "T", "global", none⟩])]

def mixedAfter : Registry := .ofModules
  [("Acme_Shop", "code/Acme/Shop/etc/di.xml",
    [.configSection ⟨"shop", none⟩, .configGroup ⟨"main", "shop", none⟩,
      .configField ⟨"title", "shop/main", none, none⟩])]

theorem heuristics_keep_breaks_mixed :
    mixedBefore.Sourced ∧ mixedAfter.Sourced ∧
      (∃ run run' : FormRun mixedBefore mixedAfter,
        run.rules = ⟨"system.xml", []⟩ ∧ run'.rules = ⟨"system.xml", ["Shop"]⟩ ∧
          firmChanges run.changes = firmChanges run'.changes) ∧
      SameButFate ("di", ⟨.virtualTypeToType, "code/Acme/Shop/etc/di.xml", "Acme\\Shop\\Made"⟩)
        ("di", ⟨.virtualTypeRemoved, "code/Acme/Shop/etc/di.xml", "Acme\\Shop\\Made"⟩) := by
  have sourcedBefore : mixedBefore.Sourced := by decide
  have sourcedAfter : mixedAfter.Sourced := by decide
  obtain ⟨-, runs, tests, -⟩ := heuristics_keep_breaks sourcedBefore sourcedAfter
  have steady := runs (.ofVerdict .duplicate ⟨"system.xml", []⟩ sourcedBefore sourcedAfter)
    (.ofVerdict .unique ⟨"system.xml", ["Shop"]⟩ sourcedBefore sourcedAfter) rfl
  have alike := (tests (· == "code/Acme/Shop/Made.php") (fun _ => false) ".php" ".inc").2
  have made : (compareVirtualTypes (· == "code/Acme/Shop/Made.php") ".php" mixedBefore mixedAfter).changes =
      [("di", ⟨.virtualTypeToType, "code/Acme/Shop/etc/di.xml", "Acme\\Shop\\Made"⟩)] := by decide +kernel
  have gone : (compareVirtualTypes (fun _ => false) ".inc" mixedBefore mixedAfter).changes =
      [("di", ⟨.virtualTypeRemoved, "code/Acme/Shop/etc/di.xml", "Acme\\Shop\\Made"⟩)] := by decide +kernel
  rw [made, gone] at alike
  exact ⟨sourcedBefore, sourcedAfter, ⟨_, _, rfl, rfl, steady.1⟩, (List.forall₂_cons.mp alike).1⟩

end ReleaseImpact
