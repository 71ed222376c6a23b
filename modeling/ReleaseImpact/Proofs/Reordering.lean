import ReleaseImpact.Proofs.Answers
import ReleaseImpact.Proofs.Questions
import ReleaseImpact.Proofs.VirtualTypes
import ReleaseImpact.Version
import Mathlib.Data.List.Perm.Basic

/-!
What becomes of a comparison when modules and nodes are declared in another order. The indexes are walked
in order, so the order of what is reported may change, and nothing else. Main statements:

- `Reordered.bucket`: the nodes of a module, under their keys, in another order.
- `answeredChanges_perm`: the expected changes of forms, in another order.
- `compareForms_reordered`: a comparison of forms, with a detector that is blind to the order.
- `compareForms_ends_of_judges`: it comes to its end if the detector has an answer to each question.
- `firstOfName?_eq`: the first virtual type of a name, where no other module declares the name.
- `comparisons_reordered`: both comparisons, with the level of a report and the version after it.
-/

namespace ReleaseImpact

/-! ## Levels -/

theorem heaviest?_perm {severities others : List Severity} (same : severities.Perm others) :
    heaviest? severities = heaviest? others := by
  cases found : heaviest? severities with
  | none =>
    cases severities with
    | nil =>
      rw [← same.nil_eq]
      rfl
    | cons s rest => cases found
  | some s =>
    cases found' : heaviest? others with
    | none =>
      cases others with
      | nil =>
        rw [same.eq_nil] at found
        cases found
      | cons t rest => cases found'
    | some t =>
      have here := rank_le_of_heaviest? found (same.mem_iff.mpr (heaviest?_mem found'))
      have there := rank_le_of_heaviest? found' (same.mem_iff.mp (heaviest?_mem found))
      rw [Severity.rank_injective (Nat.le_antisymm there here)]

theorem Report.level?_perm {r r' : Report} (same : r.entries.Perm r'.entries) (domain : Option String) :
    r.level? domain = r'.level? domain :=
  heaviest?_perm (((same.filter _).map Prod.snd).map Change.severity)

/-- Runs of which one ends just if the other does, and which then report the same, in some order. Whatever
was reported before, the level is the same and so is the version to release. -/
structure SameOutcome {α β : Type} (t : Trail α) (t' : Trail β) : Prop where
  ends : (∃ a, t.outcome = .ok a) ↔ ∃ b, t'.outcome = .ok b
  changes : (∃ a, t.outcome = .ok a) → t.changes.Perm t'.changes
  level : (∃ a, t.outcome = .ok a) → ∀ (report : Report) (domain : Option String),
    (report.append t.changes).level? domain = (report.append t'.changes).level? domain
  version : (∃ a, t.outcome = .ok a) → ∀ (report : Report) (current : String),
    nextVersion current (report.append t.changes) = nextVersion current (report.append t'.changes)

theorem SameOutcome.of_perm {α β : Type} {t : Trail α} {t' : Trail β}
    (ends : (∃ a, t.outcome = .ok a) ↔ ∃ b, t'.outcome = .ok b)
    (changes : (∃ a, t.outcome = .ok a) → t.changes.Perm t'.changes) : SameOutcome t t' := by
  have level (ended : ∃ a, t.outcome = .ok a) (report : Report) (domain : Option String) :
      (report.append t.changes).level? domain = (report.append t'.changes).level? domain :=
    Report.level?_perm ((changes ended).append_left report.entries) domain
  refine ⟨ends, changes, level, fun ended report current => ?_⟩
  rw [nextVersion, nextVersion, level ended report none]

namespace Registry

/-- The same modules with the same files and nodes, of which each may stand in another place. -/
structure Reordered (r r' : Registry) : Prop where
  modules : r.modules.Perm r'.modules
  files : ∀ m ∈ r.modules, r.files.get? m = r'.files.get? m
  nodes : ∀ m ∈ r.modules, (r.nodesOf m).Perm (r'.nodesOf m)

instance (r r' : Registry) : Decidable (Reordered r r') :=
  decidable_of_iff
    (r.modules.Perm r'.modules ∧ (∀ m ∈ r.modules, r.files.get? m = r'.files.get? m) ∧
      ∀ m ∈ r.modules, (r.nodesOf m).Perm (r'.nodesOf m))
    ⟨fun ⟨modules, files, nodes⟩ => ⟨modules, files, nodes⟩, fun h => ⟨h.modules, h.files, h.nodes⟩⟩

namespace Reordered

variable {r r' other other' : Registry} {m : String}

theorem refl (r : Registry) : Reordered r r := ⟨.refl _, fun _ _ => rfl, fun _ _ => .refl _⟩

theorem symm (same : Reordered r r') : Reordered r' r where
  modules := same.modules.symm
  files m member := (same.files m (same.modules.mem_iff.mpr member)).symm
  nodes m member := (same.nodes m (same.modules.mem_iff.mpr member)).symm

theorem sourced (same : Reordered r r') (sourced : r.Sourced) : r'.Sourced := by
  intro m member
  have inside := same.modules.mem_iff.mpr member
  rw [← same.files m inside]
  exact sourced m inside

theorem fileOf (same : Reordered r r') (member : m ∈ r.modules) : r.fileOf m = r'.fileOf m :=
  congrArg (·.getD "") (same.files m member)

theorem bucket (same : Reordered r r') (member : m ∈ r.modules) :
    (r.bucket m).entries.Perm (r'.bucket m).entries := by
  have told (r : Registry) : (r.bucket m).entries = (r.nodesOf m).map fun n => (n.key, n) := by
    rw [nodesOf, OrderedMap.values, List.map_map]
    conv_lhs => rw [← List.map_id (r.bucket m).entries]
    refine List.map_congr_left fun e inside => ?_
    exact Prod.ext (r.keyed_bucket m e inside).symm rfl
  rw [told r, told r']
  exact (same.nodes m member).map _

theorem typesOf (same : Reordered r r') (member : m ∈ r.modules) : (r.typesOf m).Perm (r'.typesOf m) :=
  (same.nodes m member).filterMap _

theorem missingNodes (same : Reordered r r') (sameOther : Reordered other other') (member : m ∈ r.modules)
    (inOther : m ∈ other.modules) :
    (FormComparison.missingNodes r other m).Perm (FormComparison.missingNodes r' other' m) := by
  have keys (n : Node) :
      (n.key ∉ (other.nodesOf m).map Node.key) = (n.key ∉ (other'.nodesOf m).map Node.key) := by
    rw [((sameOther.nodes m inOther).map Node.key).mem_iff]
  simp only [FormComparison.missingNodes, keys]
  exact (same.nodes m member).filter _

end Reordered

end Registry

open Registry Trail

/-! ## Forms -/

namespace FormComparison

variable {δ δ' : Type} {ask : δ → Inquiry → Reply δ} {ask' : δ' → Inquiry → Reply δ'}
variable {rules : FormRules} {before before' after after' : Registry} {d : δ} {d' : δ'}

theorem expectedAddedKind?_congr {verdict verdict' : Inquiry → Verdict} {file : String}
    {existing existing' : Nodes} {n : Node}
    (same : IsAsked rules file n → verdict ⟨n, file, existing⟩ = verdict' ⟨n, file, existing'⟩) :
    expectedAddedKind? verdict rules.fixtureMarkers file existing n =
      expectedAddedKind? verdict' rules.fixtureMarkers file existing' n := by
  by_cases form : n.kind = .virtualType
  · cases n with
    | virtualType v => rw [expectedAddedKind?_virtualType, expectedAddedKind?_virtualType]
    | _ => cases form
  · unfold expectedAddedKind?
    split
    · rfl
    · next noMarker =>
      split
      · rfl
      · next long =>
        have up : looksUp rules file = true := by
          rw [← Bool.not_eq_false]
          exact mt looksUp_eq_false_iff.mp noMarker
        rw [same ⟨form, up, mt (address?_eq_none_iff form).mp long⟩]

theorem nodeChanges_congr {kind? kind?' : Node → Option ChangeKind} {file : String} {nodes : List Node}
    (same : ∀ n ∈ nodes, kind? n = kind?' n) : nodeChanges kind? file nodes = nodeChanges kind?' file nodes :=
  List.filterMap_congr fun n member => by rw [same n member]

theorem fileChanges_perm (kind : ChangeKind) (rules : FormRules) {r r' other other' : Registry}
    (same : Reordered r r') (sameOther : Reordered other other') :
    (fileChanges kind rules r other).Perm (fileChanges kind rules r' other') := by
  have kept : (r.modules.filter (· ∉ other.modules)).Perm (r'.modules.filter (· ∉ other'.modules)) := by
    simp only [sameOther.modules.mem_iff]
    exact same.modules.filter _
  have files : fileChanges kind rules r other = (r.modules.filter (· ∉ other.modules)).map fun m =>
      (systemDomain, ⟨kind, r'.fileOf m, rules.schemaFileName⟩) := by
    refine List.map_congr_left fun m member => ?_
    rw [same.fileOf (List.mem_filter.mp member).1]
  rw [files]
  exact kept.map _

theorem common_perm {r r' other other' : Registry} (same : Reordered r r')
    (sameOther : Reordered other other') :
    (r.modules.filter (· ∈ other.modules)).Perm (r'.modules.filter (· ∈ other'.modules)) := by
  simp only [sameOther.modules.mem_iff]
  exact same.modules.filter _

theorem answeredChanges_perm (sameBefore : Reordered before before') (sameAfter : Reordered after after')
    {answers answers' : String → Node → Verdict}
    (agree : ∀ m ∈ before.modules, m ∈ after.modules → ∀ n ∈ missingNodes after before m,
      IsAsked rules (after.fileOf m) n → answers m n = answers' m n) :
    (answeredChanges rules before after answers).Perm (answeredChanges rules before' after' answers') := by
  have module (m : String) (member : m ∈ before.modules.filter (· ∈ after.modules)) :
      (expectedModuleChanges (fun q => answers m q.node) rules before after m).Perm
        (expectedModuleChanges (fun q => answers' m q.node) rules before' after' m) := by
    obtain ⟨inBefore, inAfter⟩ := List.mem_filter.mp member
    have inAfter := of_decide_eq_true inAfter
    have kinds (n : Node) (new : n ∈ missingNodes after before m) :
        expectedAddedKind? (fun q => answers m q.node) rules.fixtureMarkers (after.fileOf m)
            (before.bucket m) n =
          expectedAddedKind? (fun q => answers' m q.node) rules.fixtureMarkers (after.fileOf m)
            (before'.bucket m) n :=
      expectedAddedKind?_congr fun asked => agree m inBefore inAfter n new asked
    unfold expectedModuleChanges
    rw [nodeChanges_congr kinds, sameBefore.fileOf inBefore, sameAfter.fileOf inAfter]
    apply List.Perm.append
    · exact (sameBefore.missingNodes sameAfter inBefore inAfter).filterMap _
    · exact (sameAfter.missingNodes sameBefore inAfter inBefore).filterMap _
  apply List.Perm.append
  · exact fileChanges_perm .fileAdded rules sameAfter sameBefore
  · apply List.Perm.append
    · exact fileChanges_perm .fileRemoved rules sameBefore sameAfter
    · exact (List.Perm.flatMap_left _ module).trans
        (List.Perm.flatMap_right _ (common_perm sameBefore sameAfter))

/-- The order of the nodes that were there before does not bear on the answers. -/
def OrderBlind (verdict : Inquiry → Except Failure Verdict) : Prop :=
  ∀ n file (existing existing' : Nodes), existing.entries.Perm existing'.entries →
    verdict ⟨n, file, existing⟩ = verdict ⟨n, file, existing'⟩

theorem orderBlind_likeness : OrderBlind fun q => .ok (likeness q) := by
  intro n file existing existing' same
  have alike : Detector.isAlike existing n = Detector.isAlike existing' n :=
    congrArg (_ && ·) same.any_eq
  simp only [likeness, alike]

/-- A comparison that ends has had an answer to each question, so it ends in any other order. -/
theorem ends_of_reordered {verdict : Inquiry → Except Failure Verdict} (blind : OrderBlind verdict)
    (judges : Judges ask verdict d) (judges' : Judges ask' verdict d') (sourcedBefore : before.Sourced)
    (sourcedAfter : after.Sourced) (sameBefore : Reordered before before')
    (sameAfter : Reordered after after')
    (ends : ∃ last, (compareForms ask rules d before after).outcome = .ok last) :
    (∃ last, (compareForms ask' rules d' before' after').outcome = .ok last) ∧
      (compareForms ask rules d before after).changes.Perm
        (compareForms ask' rules d' before' after').changes := by
  obtain ⟨last, ends⟩ := ends
  have kept (d : δ) (q : Inquiry) (judges : Judges ask verdict d) := judges.next q
  have kept' (d : δ') (q : Inquiry) (judges : Judges ask' verdict d) := judges.next q
  obtain ⟨-, answers, given, reported⟩ :=
    compareForms_answered (Judges ask verdict) kept sourcedBefore sourcedAfter judges ends
  -- The questions of both runs are the same up to the order of the nodes, and the first run had answers.
  have told (m : String) (inBefore : m ∈ before.modules) (inAfter : m ∈ after.modules) (n : Node)
      (new : n ∈ missingNodes after before m) (asked : IsAsked rules (after.fileOf m) n) :
      verdict ⟨n, after'.fileOf m, before'.bucket m⟩ = .ok (answers m n) := by
    obtain ⟨d, judges, answer⟩ := given m inBefore inAfter n new asked
    rw [← blind n _ _ _ (sameBefore.bucket inBefore), ← sameAfter.fileOf inAfter, ← judges.answer]
    exact answer
  have answering (m : String) (inBefore : m ∈ before'.modules) (inAfter : m ∈ after'.modules) :
      Answering ask' (Judges ask' verdict) rules before' after' m := by
    intro n new asked d judges
    have inBefore := sameBefore.modules.mem_iff.mpr inBefore
    have inAfter := sameAfter.modules.mem_iff.mpr inAfter
    rw [← sameAfter.fileOf inAfter] at asked
    have new := (sameAfter.missingNodes sameBefore inAfter inBefore).mem_iff.mpr new
    exact ⟨_, (judges.answer _).trans (told m inBefore inAfter n new asked)⟩
  obtain ⟨last', ends', -⟩ := compareForms_ends (Judges ask' verdict) kept' (sameBefore.sourced sourcedBefore)
    (sameAfter.sourced sourcedAfter) judges' answering
  obtain ⟨-, answers', given', reported'⟩ := compareForms_answered (Judges ask' verdict) kept'
    (sameBefore.sourced sourcedBefore) (sameAfter.sourced sourcedAfter) judges' ends'
  refine ⟨⟨last', ends'⟩, ?_⟩
  rw [reported, reported']
  refine answeredChanges_perm sameBefore sameAfter fun m inBefore inAfter n new asked => ?_
  have new' := (sameAfter.missingNodes sameBefore inAfter inBefore).mem_iff.mp new
  have asked' := asked
  rw [sameAfter.fileOf inAfter] at asked'
  obtain ⟨d, judges, answer⟩ := given' m (sameBefore.modules.mem_iff.mp inBefore)
    (sameAfter.modules.mem_iff.mp inAfter) n new' asked'
  rw [judges.answer, told m inBefore inAfter n new asked] at answer
  exact Except.ok.inj answer

theorem compareForms_reordered {verdict : Inquiry → Except Failure Verdict} (blind : OrderBlind verdict)
    (judges : Judges ask verdict d) (judges' : Judges ask' verdict d') (sourcedBefore : before.Sourced)
    (sourcedAfter : after.Sourced) (sameBefore : Reordered before before')
    (sameAfter : Reordered after after') (rules : FormRules) :
    SameOutcome (compareForms ask rules d before after) (compareForms ask' rules d' before' after') := by
  apply SameOutcome.of_perm
  · constructor
    · intro ends
      exact (ends_of_reordered blind judges judges' sourcedBefore sourcedAfter sameBefore sameAfter ends).1
    · intro ends
      exact (ends_of_reordered blind judges' judges (sameBefore.sourced sourcedBefore)
        (sameAfter.sourced sourcedAfter) sameBefore.symm sameAfter.symm ends).1
  · intro ends
    exact (ends_of_reordered blind judges judges' sourcedBefore sourcedAfter sameBefore sameAfter ends).2

theorem compareForms_ends_of_judges {verdict : Inquiry → Except Failure Verdict}
    (judges : Judges ask verdict d) (told : ∀ q, ∃ v, verdict q = .ok v) (sourcedBefore : before.Sourced)
    (sourcedAfter : after.Sourced) (rules : FormRules) :
    ∃ last, (compareForms ask rules d before after).outcome = .ok last := by
  have answering (m : String) (_ : m ∈ before.modules) (_ : m ∈ after.modules) :
      Answering ask (Judges ask verdict) rules before after m := by
    intro n _ _ d judges
    obtain ⟨v, answer⟩ := told ⟨n, after.fileOf m, before.bucket m⟩
    exact ⟨v, (judges.answer _).trans answer⟩
  obtain ⟨last, ends, -⟩ := compareForms_ends _ (fun _ q judges => judges.next q) sourcedBefore sourcedAfter
    judges answering
  exact ⟨last, ends⟩

end FormComparison

/-! ## Virtual types -/

namespace VirtualTypeComparison

variable {before before' after after' : Registry} {m : String}

theorem find?_perm {α : Type} {p : α → Bool} {l l' : List α}
    (single : ∀ a ∈ l, ∀ b ∈ l, p a → p b → a = b) (same : l.Perm l') : l.find? p = l'.find? p := by
  cases found : l.find? p with
  | none =>
    symm
    rw [List.find?_eq_none] at found ⊢
    intro a member
    exact found a (same.mem_iff.mpr member)
  | some a =>
    have here := List.mem_of_find?_eq_some found
    have some' : (l'.find? p).isSome := by
      rw [List.find?_isSome]
      exact ⟨a, same.mem_iff.mp here, List.find?_some found⟩
    obtain ⟨b, found'⟩ := Option.isSome_iff_exists.mp some'
    have there := same.mem_iff.mpr (List.mem_of_find?_eq_some found')
    rw [found', single a here b there (List.find?_some found) (List.find?_some found')]

/-- No two modules declare a virtual type of one name. -/
def SoleNames (r : Registry) : Prop :=
  ∀ m ∈ r.modules, ∀ m' ∈ r.modules, ∀ v ∈ r.typesOf m, ∀ w ∈ r.typesOf m', v.name = w.name → m = m'

instance (r : Registry) : Decidable (SoleNames r) :=
  inferInstanceAs (Decidable (∀ m ∈ r.modules, ∀ m' ∈ r.modules, _))

theorem eq_of_name_eq {r : Registry} {v w : VirtualType} (hv : v ∈ r.typesOf m) (hw : w ∈ r.typesOf m)
    (same : v.name = w.name) : v = w := by
  rw [← r.values_types] at hv hw
  have one := OrderedMap.get?_keyOf (r.named_types m) hv
  have two := OrderedMap.get?_keyOf (r.named_types m) hw
  rw [← same, one] at two
  exact Option.some.inj two

theorem find?_typesOf_eq (same : Reordered after after') (member : m ∈ after.modules) (name : String) :
    (after.typesOf m).find? (·.name = name) = (after'.typesOf m).find? (·.name = name) := by
  refine find?_perm (fun v hv w hw first second => ?_) (same.typesOf member)
  exact eq_of_name_eq hv hw ((of_decide_eq_true first).trans (of_decide_eq_true second).symm)

theorem firstOfName?_eq (sole : SoleNames after) (same : Reordered after after') (name : String) :
    firstOfName? after name = firstOfName? after' name := by
  -- The first of a name is walked for in all modules, so all their types have to be seen as one list.
  have all : (after.modules.flatMap after.typesOf).Perm (after'.modules.flatMap after'.typesOf) :=
    (List.Perm.flatMap_left _ fun m member => same.typesOf member).trans
      (List.Perm.flatMap_right _ same.modules)
  refine find?_perm (fun v hv w hw first second => ?_) all
  obtain ⟨m, inside, hv⟩ := List.mem_flatMap.mp hv
  obtain ⟨m', inside', hw⟩ := List.mem_flatMap.mp hw
  have names : v.name = w.name := (of_decide_eq_true first).trans (of_decide_eq_true second).symm
  obtain rfl := sole m inside m' inside' v hv w hw names
  exact eq_of_name_eq hv hw names

theorem expectedKinds_eq (sole : SoleNames after) (same : Reordered after after') (member : m ∈ after.modules)
    (isFile : String → Bool) (extension : String) (v : VirtualType) :
    expectedKinds isFile extension after m v = expectedKinds isFile extension after' m v := by
  unfold expectedKinds
  rw [find?_typesOf_eq same member, firstOfName?_eq sole same, same.fileOf member]

theorem expectedTypeChanges_perm {isFile : String → Bool} {extension : String}
    (sameBefore : Reordered before before') (sameAfter : Reordered after after')
    (kinds : ∀ m ∈ after.modules, ∀ v,
      expectedKinds isFile extension after m v = expectedKinds isFile extension after' m v) :
    (expectedTypeChanges isFile extension before after).Perm
      (expectedTypeChanges isFile extension before' after') := by
  refine .trans (List.Perm.flatMap_left _ fun m member => ?_)
    (List.Perm.flatMap_right _ (FormComparison.common_perm sameBefore sameAfter))
  obtain ⟨inBefore, inAfter⟩ := List.mem_filter.mp member
  simp only [kinds m (of_decide_eq_true inAfter), sameBefore.fileOf inBefore]
  exact List.Perm.flatMap_right _ (sameBefore.typesOf inBefore)

theorem compareVirtualTypes_reordered {isFile : String → Bool} {extension : String}
    (sourcedBefore : before.Sourced) (sourcedAfter : after.Sourced) (sameBefore : Reordered before before')
    (sameAfter : Reordered after after')
    (kinds : ∀ m ∈ after.modules, ∀ v,
      expectedKinds isFile extension after m v = expectedKinds isFile extension after' m v) :
    SameOutcome (compareVirtualTypes isFile extension before after)
      (compareVirtualTypes isFile extension before' after') := by
  have one := compareVirtualTypes_reports isFile extension sourcedBefore sourcedAfter
  have two := compareVirtualTypes_reports isFile extension (sameBefore.sourced sourcedBefore)
    (sameAfter.sourced sourcedAfter)
  apply SameOutcome.of_perm
  · exact ⟨fun _ => ⟨(), two.outcome⟩, fun _ => ⟨(), one.outcome⟩⟩
  · intro _
    rw [one.changes, two.changes]
    exact expectedTypeChanges_perm sameBefore sameAfter kinds

end VirtualTypeComparison

/-! ## Both comparisons -/

open FormComparison VirtualTypeComparison

/-- The order of the declarations does not bear on what is reported, but for the first virtual type of a
name where several modules of the later snapshot declare one. -/
theorem comparisons_reordered {before before' after after' : Registry} (sourcedBefore : before.Sourced)
    (sourcedAfter : after.Sourced) (sameBefore : Reordered before before')
    (sameAfter : Reordered after after') (rules : FormRules) (isFile : String → Bool) (extension : String) :
    (∀ {δ δ' : Type} (ask : δ → Inquiry → Reply δ) (ask' : δ' → Inquiry → Reply δ') (d : δ) (d' : δ')
        (verdict : Inquiry → Except Failure Verdict), OrderBlind verdict → Judges ask verdict d →
        Judges ask' verdict d' →
        ((∀ q, ∃ v, verdict q = .ok v) →
          ∃ last, (compareForms ask rules d before after).outcome = .ok last) ∧
        SameOutcome (compareForms ask rules d before after) (compareForms ask' rules d' before' after')) ∧
      (∀ fs fs' : FileSystem,
        (∃ last, (compareForms (Detector.ask fs) rules .structural before after).outcome = .ok last) ∧
        SameOutcome (compareForms (Detector.ask fs) rules .structural before after)
          (compareForms (Detector.ask fs') rules .structural before' after')) ∧
      (compareVirtualTypes isFile extension before after).outcome = .ok () ∧
      SameOutcome (compareVirtualTypes isFile extension before after)
        (compareVirtualTypes isFile extension before' after) ∧
      (SoleNames after → SameOutcome (compareVirtualTypes isFile extension before after)
        (compareVirtualTypes isFile extension before' after')) := by
  refine ⟨?_, ?_, ?_, ?_, ?_⟩
  · intro δ δ' ask ask' d d' verdict blind judges judges'
    constructor
    · intro told
      exact compareForms_ends_of_judges judges told sourcedBefore sourcedAfter rules
    · exact compareForms_reordered blind judges judges' sourcedBefore sourcedAfter sameBefore sameAfter rules
  · intro fs fs'
    constructor
    · exact compareForms_ends_of_judges (structural_judges fs) (fun _ => ⟨_, rfl⟩) sourcedBefore
        sourcedAfter rules
    · exact compareForms_reordered orderBlind_likeness (structural_judges fs) (structural_judges fs')
        sourcedBefore sourcedAfter sameBefore sameAfter rules
  · exact (compareVirtualTypes_reports isFile extension sourcedBefore sourcedAfter).outcome
  · exact compareVirtualTypes_reordered sourcedBefore sourcedAfter sameBefore (.refl after) fun _ _ _ => rfl
  · intro sole
    exact compareVirtualTypes_reordered sourcedBefore sourcedAfter sameBefore sameAfter
      fun m member v => expectedKinds_eq sole sameAfter member isFile extension v

def orderedBefore : Registry := .ofModules
  [("Acme_Shop", "shop/etc/system.xml",
    [.configSection ⟨"shop", none⟩, .configField ⟨"name", "shop/main", none, none⟩,
      .virtualType ⟨"Kept", "T", "global", none⟩, .virtualType ⟨"Gone", "T", "global", none⟩]),
   ("Acme_Blog", "blog/etc/system.xml",
    [.configField ⟨"lost", "blog/main", none, none⟩, .virtualType ⟨"Moved", "T", "global", none⟩])]

def shuffledBefore : Registry := .ofModules
  [("Acme_Blog", "blog/etc/system.xml",
    [.virtualType ⟨"Moved", "T", "global", none⟩, .configField ⟨"lost", "blog/main", none, none⟩]),
   ("Acme_Shop", "shop/etc/system.xml",
    [.virtualType ⟨"Gone", "T", "global", none⟩, .configField ⟨"name", "shop/main", none, none⟩,
      .virtualType ⟨"Kept", "T", "global", none⟩, .configSection ⟨"shop", none⟩])]

def orderedAfter : Registry := .ofModules
  [("Acme_Shop", "shop/etc/system.xml",
    [.configSection ⟨"shop", none⟩, .configField ⟨"title", "shop/main", none, none⟩,
      .configField ⟨"code", "shop/other", none, none⟩, .virtualType ⟨"Kept", "U", "global", none⟩,
      .virtualType ⟨"Moved", "U", "frontend", none⟩]),
   ("Acme_Blog", "blog/etc/system.xml", [])]

def shuffledAfter : Registry := .ofModules
  [("Acme_Blog", "blog/etc/system.xml", []),
   ("Acme_Shop", "shop/etc/system.xml",
    [.virtualType ⟨"Moved", "U", "frontend", none⟩, .configField ⟨"code", "shop/other", none, none⟩,
      .virtualType ⟨"Kept", "U", "global", none⟩, .configField ⟨"title", "shop/main", none, none⟩,
      .configSection ⟨"shop", none⟩])]

theorem comparisons_reordered_shop :
    orderedBefore.Sourced ∧ orderedAfter.Sourced ∧ Reordered orderedBefore shuffledBefore ∧
      Reordered orderedAfter shuffledAfter ∧ SoleNames orderedAfter ∧
      (OrderBlind fun q => .ok (likeness q)) ∧
      SameOutcome
        (compareForms (fun (_ : Unit) q => .plain (likeness q) ()) ⟨"system.xml", []⟩ () orderedBefore
          orderedAfter)
        (compareForms (fun (_ : Unit) q => .plain (likeness q) ()) ⟨"system.xml", []⟩ () shuffledBefore
          shuffledAfter) ∧
      SameOutcome (compareVirtualTypes (fun _ => false) ".php" orderedBefore orderedAfter)
        (compareVirtualTypes (fun _ => false) ".php" shuffledBefore shuffledAfter) ∧
      (compareForms (fun (_ : Unit) q => .plain (likeness q) ()) ⟨"system.xml", []⟩ () orderedBefore
          orderedAfter).changes.map (fun e => (e.2.code, e.2.target)) =
        [("M307", "shop/main/name"), ("M308", "shop/main/title"), ("M306", "shop/other/code"),
          ("M307", "blog/main/lost")] ∧
      (compareVirtualTypes (fun _ => false) ".php" shuffledBefore shuffledAfter).changes.map
          (fun e => (e.2.code, e.2.target)) =
        [("M201", "Moved"), ("M201", "Moved"), ("M200", "Gone"), ("M201", "Kept")] := by
  have sourcedBefore : orderedBefore.Sourced := by decide
  have sourcedAfter : orderedAfter.Sourced := by decide
  have sameBefore : Reordered orderedBefore shuffledBefore := by decide
  have sameAfter : Reordered orderedAfter shuffledAfter := by decide
  have sole : SoleNames orderedAfter := by decide
  have judges : Judges (fun (_ : Unit) q => .plain (likeness q) ()) (fun q => .ok (likeness q)) () :=
    fun _ _ => rfl
  obtain ⟨forms, -, -, -, types⟩ := comparisons_reordered sourcedBefore sourcedAfter sameBefore sameAfter
    ⟨"system.xml", []⟩ (fun _ => false) ".php"
  refine ⟨sourcedBefore, sourcedAfter, sameBefore, sameAfter, sole, orderBlind_likeness, ?_, types sole,
    ?_, ?_⟩
  · exact (forms _ _ () () _ orderBlind_likeness judges judges).2
  · decide +kernel
  · decide +kernel

end ReleaseImpact
