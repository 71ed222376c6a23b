import ReleaseImpact.Trail
import Mathlib.Data.List.Basic

/-!
Runs that come to their end, by what they report on the way. Main statements:

- `Reports.bind`: a run reports what its parts report, one after the other.
- `reports_each` and `reports_fold`: a run over some items reports what it reports of each of them.
- `Reports.exists_of_bind` and `exists_choice_of_reports`: a run that ends is taken apart again.
- `Every.bind` and `every_fold`: a property of all steps, part by part.
-/

namespace ReleaseImpact.Trail

variable {α β : Type}

/-- The run ends with a value after it has reported some changes. -/
structure Reports (t : Trail α) (a : α) (found : List (String × Change)) : Prop where
  outcome : t.outcome = .ok a
  changes : t.changes = found

theorem flatMap_filter (items : List α) (kept : α → Bool) (f : α → List β) :
    (items.filter kept).flatMap f = items.flatMap fun a => if kept a then f a else [] := by
  induction items with
  | nil => rfl
  | cons a rest ih => cases h : kept a <;> simp [h, ih]

theorem reports_pure (a : α) : (pure a : Trail α).Reports a [] := ⟨rfl, rfl⟩

theorem reports_ofExcept {outcome : Except Failure α} {a : α} (h : outcome = .ok a) :
    (ofExcept outcome).Reports a [] := ⟨h, rfl⟩

theorem reports_step {s : Step} (h : s.change? = none) : (step s).Reports () [] :=
  ⟨rfl, by simp [changes, step, h]⟩

theorem reports_log (level : Level) (logger message : String) (fields : List (String × Value)) :
    (log level logger message fields).Reports () [] := ⟨rfl, rfl⟩

theorem reports_report (domain : String) (c : Change) : (report domain c).Reports () [(domain, c)] :=
  ⟨rfl, rfl⟩

theorem Reports.bind {t : Trail α} {next : α → Trail β} {a : α} {b : β}
    {found others : List (String × Change)} (first : t.Reports a found)
    (rest : (next a).Reports b others) : (t >>= next).Reports b (found ++ others) where
  outcome := (outcome_bind_of_ok next first.outcome).trans rest.outcome
  changes := by
    show (t >>= next).steps.filterMap Step.change? = found ++ others
    rw [steps_bind_of_ok next first.outcome, List.filterMap_append]
    exact congr (congrArg _ first.changes) rest.changes

theorem Reports.bind_silent {t : Trail α} {next : α → Trail β} {a : α} {b : β}
    {found : List (String × Change)} (first : t.Reports a []) (rest : (next a).Reports b found) :
    (t >>= next).Reports b found := first.bind rest

theorem Reports.bind_return {t : Trail α} {a : α} {found : List (String × Change)}
    (first : t.Reports a found) (b : β) : (t >>= fun _ => pure b).Reports b found := by
  have both : (t >>= fun _ => pure b).Reports b (found ++ []) := first.bind (reports_pure b)
  rwa [List.append_nil] at both

theorem each_map {γ : Type} (g : γ → α) (items : List γ) (body : α → Trail Unit) :
    each (items.map g) body = each items fun c => body (g c) := by
  induction items with
  | nil => rfl
  | cons c rest ih => simp only [List.map_cons, each, ih]

theorem reports_each {items : List α} {body : α → Trail Unit} {found : α → List (String × Change)}
    (h : ∀ a ∈ items, (body a).Reports () (found a)) :
    (each items body).Reports () (items.flatMap found) := by
  induction items with
  | nil => exact reports_pure ()
  | cons a rest ih =>
    obtain ⟨first, others⟩ := List.forall_mem_cons.1 h
    rw [List.flatMap_cons]
    exact first.bind (ih others)

theorem reports_fold {items : List α} {body : β → α → Trail β} {found : α → List (String × Change)}
    (h : ∀ b, ∀ a ∈ items, ∃ b', (body b a).Reports b' (found a)) (b : β) :
    ∃ b', (fold body b items).Reports b' (items.flatMap found) := by
  induction items generalizing b with
  | nil => exact ⟨b, reports_pure b⟩
  | cons a rest ih =>
    obtain ⟨b', first⟩ := h b a List.mem_cons_self
    obtain ⟨b'', others⟩ := ih (fun b a member => h b a (List.mem_cons_of_mem _ member)) b'
    refine ⟨b'', ?_⟩
    rw [List.flatMap_cons]
    exact first.bind others

/-! ## Runs taken apart -/

theorem Reports.unique {t : Trail α} {a b : α} {found others : List (String × Change)}
    (one : t.Reports a found) (two : t.Reports b others) : a = b ∧ found = others := by
  constructor
  · exact Except.ok.inj (one.outcome.symm.trans two.outcome)
  · exact one.changes.symm.trans two.changes

theorem Reports.exists_of_bind {t : Trail α} {next : α → Trail β} {b : β} {all : List (String × Change)}
    (run : (t >>= next).Reports b all) :
    ∃ a found others, t.Reports a found ∧ (next a).Reports b others ∧ all = found ++ others := by
  have outcome := run.outcome
  cases ended : t.outcome with
  | error f =>
    rw [outcome_bind_of_error next ended] at outcome
    cases outcome
  | ok a =>
    rw [outcome_bind_of_ok next ended] at outcome
    have first : t.Reports a t.changes := ⟨ended, rfl⟩
    have rest : (next a).Reports b (next a).changes := ⟨outcome, rfl⟩
    exact ⟨a, _, _, first, rest, (run.unique (first.bind rest)).2⟩

theorem exists_of_ends {t : Trail α} {a : α} (ends : t.outcome = .ok a) : ∃ found, t.Reports a found :=
  ⟨t.changes, ends, rfl⟩

theorem fold_map {γ : Type} (g : γ → α) (items : List γ) (body : β → α → Trail β) (b : β) :
    fold body b (items.map g) = fold (fun b c => body b (g c)) b items := by
  induction items generalizing b with
  | nil => rfl
  | cons c rest ih => simp only [List.map_cons, fold, ih]

theorem exists_fold_of_ends {items : List α} {body : β → α → Trail β} {inv : β → Prop}
    (step : ∀ a ∈ items, ∀ b, inv b → ∃ b', (body b a).outcome = .ok b' ∧ inv b') {b : β}
    (holds : inv b) : ∃ b', (fold body b items).outcome = .ok b' ∧ inv b' := by
  induction items generalizing b with
  | nil => exact ⟨b, rfl, holds⟩
  | cons a rest ih =>
    obtain ⟨middle, ends, kept⟩ := step a List.mem_cons_self b holds
    obtain ⟨b', others, kept⟩ := ih (fun x member => step x (List.mem_cons_of_mem a member)) kept
    exact ⟨b', (outcome_bind_of_ok (fun b => fold body b rest) ends).trans others, kept⟩

theorem Reports.of_fold {items : List α} {body : β → α → Trail β} {fact : α → Prop}
    {found : α → List (String × Change)}
    (step : ∀ a ∈ items, ∀ b b' reported, (body b a).Reports b' reported → fact a ∧ reported = found a)
    {b b' : β} {reported : List (String × Change)} (run : (fold body b items).Reports b' reported) :
    (∀ a ∈ items, fact a) ∧ reported = items.flatMap found := by
  induction items generalizing b reported with
  | nil =>
    obtain ⟨-, rfl⟩ := run.unique (reports_pure b)
    exact ⟨List.forall_mem_nil _, rfl⟩
  | cons a rest ih =>
    obtain ⟨middle, first, others, one, more, rfl⟩ := Reports.exists_of_bind run
    obtain ⟨here, rfl⟩ := step a List.mem_cons_self b middle first one
    obtain ⟨facts, rfl⟩ := ih (fun x member => step x (List.mem_cons_of_mem a member)) more
    exact ⟨List.forall_mem_cons.2 ⟨here, facts⟩, rfl⟩

/-- Where what is reported of an item depends on something that only the run decides, a choice of that
for each item says what the whole run reports. -/
theorem exists_choice_of_reports {γ : Type} [DecidableEq α] [Nonempty γ] {items : List α}
    (distinct : items.Nodup) {body : β → α → Trail β} {inv : β → Prop} {fact : α → γ → Prop}
    {found : α → γ → List (String × Change)}
    (step : ∀ a ∈ items, ∀ b b' reported, inv b → (body b a).Reports b' reported →
      inv b' ∧ ∃ c, fact a c ∧ reported = found a c)
    {b b' : β} {reported : List (String × Change)} (holds : inv b)
    (run : (fold body b items).Reports b' reported) :
    inv b' ∧ ∃ choice : α → γ, (∀ a ∈ items, fact a (choice a)) ∧
      reported = items.flatMap fun a => found a (choice a) := by
  induction items generalizing b reported with
  | nil =>
    obtain ⟨rfl, rfl⟩ := run.unique (reports_pure b)
    exact ⟨holds, fun _ => Classical.ofNonempty, List.forall_mem_nil _, rfl⟩
  | cons a rest ih =>
    obtain ⟨fresh, distinct⟩ := List.nodup_cons.1 distinct
    obtain ⟨middle, first, others, one, more, rfl⟩ := Reports.exists_of_bind run
    obtain ⟨holds, c, here, rfl⟩ := step a List.mem_cons_self b middle first holds one
    obtain ⟨holds, choice, facts, rfl⟩ :=
      ih distinct (fun x member => step x (List.mem_cons_of_mem a member)) holds more
    have apart (x : α) (member : x ∈ rest) : Function.update choice a c x = choice x := by
      have other : x ≠ a := fun same => fresh (same ▸ member)
      exact Function.update_of_ne other c choice
    refine ⟨holds, Function.update choice a c, ?_, ?_⟩
    · intro x member
      rcases List.mem_cons.1 member with rfl | later
      · rw [Function.update_self]
        exact here
      · rw [apart x later]
        exact facts x later
    · rw [List.flatMap_cons, Function.update_self]
      refine congrArg (found a c ++ ·) (List.flatMap_congr fun x member => ?_)
      rw [apart x member]

/-! ## Outcomes -/

@[simp] theorem outcome_pure (a : α) : (pure a : Trail α).outcome = pure a := rfl

@[simp] theorem outcome_ofExcept (outcome : Except Failure α) : (ofExcept outcome).outcome = outcome := rfl

theorem outcome_bind (t : Trail α) (next : α → Trail β) :
    (t >>= next).outcome = t.outcome >>= fun a => (next a).outcome := by
  cases h : t.outcome with
  | ok a => exact outcome_bind_of_ok next h
  | error f => exact outcome_bind_of_error next h

theorem outcome_fold (body : β → α → Trail β) (b : β) (items : List α) :
    (fold body b items).outcome = items.foldlM (fun b a => (body b a).outcome) b := by
  induction items generalizing b with
  | nil => rfl
  | cons a rest ih =>
    rw [List.foldlM_cons, ← funext ih]
    exact outcome_bind (body b a) fun b => fold body b rest

theorem bind_eq_ok_iff {t : Except Failure α} {next : α → Except Failure β} {b : β} :
    t >>= next = .ok b ↔ ∃ a, t = .ok a ∧ next a = .ok b := by
  cases t <;> simp [bind, Except.bind]

/-! ## Runs that report nothing -/

/-- The run ends with a value and tells no one but the log. -/
structure Quiet (t : Trail α) (a : α) : Prop where
  outcome : t.outcome = .ok a
  events : ∀ s ∈ t.steps, ∃ e, s = .event e

theorem quiet_pure (a : α) : (pure a : Trail α).Quiet a :=
  ⟨rfl, fun _ member => absurd member List.not_mem_nil⟩

theorem quiet_log (level : Level) (logger message : String) (fields : List (String × Value)) :
    (log level logger message fields).Quiet () :=
  ⟨rfl, fun _ member => ⟨_, List.mem_singleton.1 member⟩⟩

theorem Quiet.bind {t : Trail α} {next : α → Trail β} {a : α} {b : β} (first : t.Quiet a)
    (rest : (next a).Quiet b) : (t >>= next).Quiet b where
  outcome := (outcome_bind_of_ok next first.outcome).trans rest.outcome
  events := by
    intro s member
    rw [steps_bind_of_ok next first.outcome] at member
    exact (List.mem_append.1 member).elim (first.events s) (rest.events s)

theorem quiet_fold {items : List α} {body : β → α → Trail β}
    (h : ∀ b, ∀ a ∈ items, ∃ b', (body b a).Quiet b') (b : β) :
    ∃ b', (fold body b items).Quiet b' := by
  induction items generalizing b with
  | nil => exact ⟨b, quiet_pure b⟩
  | cons a rest ih =>
    obtain ⟨b', first⟩ := h b a List.mem_cons_self
    obtain ⟨b'', others⟩ := ih (fun b a member => h b a (List.mem_cons_of_mem _ member)) b'
    exact ⟨b'', first.bind others⟩

theorem Quiet.changes_eq_nil {t : Trail α} {a : α} (quiet : t.Quiet a) : t.changes = [] := by
  refine List.filterMap_eq_nil_iff.2 fun s member => ?_
  obtain ⟨e, rfl⟩ := quiet.events s member
  rfl

theorem Quiet.probes_eq_nil {t : Trail α} {a : α} (quiet : t.Quiet a) : t.probes = [] := by
  refine List.filterMap_eq_nil_iff.2 fun s member => ?_
  obtain ⟨e, rfl⟩ := quiet.events s member
  rfl

/-! ## Runs whose steps are all of a kind -/

/-- Each step of a run has a property, however the run ends. -/
structure Every (P : Step → Prop) (t : Trail α) : Prop where
  holds : ∀ s ∈ t.steps, P s

variable {P : Step → Prop}

theorem every_pure (a : α) : Every P (pure a : Trail α) := ⟨List.forall_mem_nil _⟩

theorem every_ofExcept (outcome : Except Failure α) : Every P (ofExcept outcome) := ⟨List.forall_mem_nil _⟩

theorem every_step {s : Step} (holds : P s) : Every P (step s) := ⟨List.forall_mem_singleton.mpr holds⟩

theorem Every.bind {t : Trail α} {next : α → Trail β} (first : Every P t) (rest : ∀ a, Every P (next a)) :
    Every P (t >>= next) := by
  constructor
  cases outcome : t.outcome with
  | error f =>
    rw [steps_bind_of_error next outcome]
    exact first.holds
  | ok a =>
    rw [steps_bind_of_ok next outcome]
    exact List.forall_mem_append.mpr ⟨first.holds, (rest a).holds⟩

theorem every_fold {items : List α} {body : β → α → Trail β} (each : ∀ a ∈ items, ∀ b, Every P (body b a))
    (b : β) : Every P (fold body b items) := by
  induction items generalizing b with
  | nil => exact every_pure b
  | cons a rest ih =>
    obtain ⟨here, later⟩ := List.forall_mem_cons.mp each
    exact (here b).bind (ih later)

end ReleaseImpact.Trail
