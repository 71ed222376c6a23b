import ReleaseImpact.Proofs.Reports
import Mathlib.Data.List.Forall2

/-!
Runs that account for some items. Each item has one step of the run that is due to it, in the same order,
and all other steps may stand beside those. Main statements:

- `Accounts.forall₂_filter`: items and the steps due to them, one to one.
- `Settles.bind`: a run accounts for what its parts account for, one after the other.
- `settles_fold`: so does a run over a list, where what is due may depend on what the run hands on.
-/

namespace ReleaseImpact

/-- Which steps are due to an item, which ones may stand beside those, and what may end a run. -/
structure Ledger (ι : Type) where
  due : ι → Step → Prop
  beside : Step → Prop
  fault : Failure → Prop

namespace Ledger

variable {ι : Type}

/-- Each item has one step that is due to it, in the same order, and there are no other steps but those
that may stand beside them. -/
inductive Accounts (l : Ledger ι) : List ι → List Step → Prop
  | nil : Accounts l [] []
  | entry {i : ι} {s : Step} {items : List ι} {steps : List Step} :
      l.due i s → Accounts l items steps → Accounts l (i :: items) (s :: steps)
  | other {s : Step} {items : List ι} {steps : List Step} :
      l.beside s → Accounts l items steps → Accounts l items (s :: steps)

variable {l : Ledger ι} {items others : List ι} {steps more : List Step}

theorem Accounts.append (first : l.Accounts items steps) (rest : l.Accounts others more) :
    l.Accounts (items ++ others) (steps ++ more) := by
  induction first with
  | nil => exact rest
  | entry due _ ih => exact .entry due ih
  | other beside _ ih => exact .other beside ih

theorem Accounts.due_or_beside {s : Step} (accounts : l.Accounts items steps) (member : s ∈ steps) :
    (∃ i ∈ items, l.due i s) ∨ l.beside s := by
  induction accounts with
  | nil => cases member
  | entry due _ ih =>
    rcases List.mem_cons.mp member with rfl | later
    · exact .inl ⟨_, List.mem_cons_self, due⟩
    · exact (ih later).imp_left fun ⟨i, inside, due⟩ => ⟨i, List.mem_cons_of_mem _ inside, due⟩
  | other beside _ ih =>
    rcases List.mem_cons.mp member with rfl | later
    · exact .inr beside
    · exact ih later

/-- Where the steps that are due can be told from the others, they stand one to one with the items. -/
theorem Accounts.forall₂_filter {kept : Step → Bool} (dues : ∀ i s, l.due i s → kept s = true)
    (others : ∀ s, l.beside s → kept s = false) (accounts : l.Accounts items steps) :
    List.Forall₂ l.due items (steps.filter kept) := by
  induction accounts with
  | nil => exact .nil
  | entry due _ ih =>
    rw [List.filter_cons_of_pos (dues _ _ due)]
    exact .cons due ih
  | other beside _ ih =>
    rw [List.filter_cons_of_neg (by simp [others _ beside])]
    exact ih

end Ledger

namespace Trail

variable {ι α β : Type} {l : Ledger ι} {items others : List ι}

/-- The run ends with a value and accounts for some items. If it fails, it accounts for the first ones. -/
structure Settles (l : Ledger ι) (t : Trail α) (a : α) (items : List ι) : Prop where
  ended : ∀ b, t.outcome = .ok b → b = a ∧ l.Accounts items t.steps
  failed : ∀ f, t.outcome = .error f →
    l.fault f ∧ ∃ settled, settled <+: items ∧ l.Accounts settled t.steps

theorem Settles.exists_accounts {t : Trail α} {a : α} (settles : Settles l t a items) :
    ∃ settled, settled <+: items ∧ l.Accounts settled t.steps := by
  cases outcome : t.outcome with
  | ok b => exact ⟨items, List.prefix_rfl, (settles.ended b outcome).2⟩
  | error f => exact (settles.failed f outcome).2

theorem settles_of_ok {t : Trail α} {a : α} (ends : t.outcome = .ok a) (accounts : l.Accounts items t.steps) :
    Settles l t a items where
  ended b same := ⟨Except.ok.inj (same.symm.trans ends), accounts⟩
  failed f fails := by
    rw [ends] at fails
    cases fails

theorem settles_pure (a : α) : Settles l (pure a) a [] := settles_of_ok rfl .nil

theorem settles_fail {f : Failure} (fault : l.fault f) (a : α) : Settles l (fail f) a items where
  ended _ ends := nomatch ends
  failed f' fails := by
    obtain rfl := Except.error.inj fails
    exact ⟨fault, [], List.nil_prefix, .nil⟩

theorem settles_step {i : ι} {s : Step} (due : l.due i s) : Settles l (step s) () [i] :=
  settles_of_ok rfl (.entry due .nil)

theorem settles_beside {s : Step} (beside : l.beside s) : Settles l (step s) () [] :=
  settles_of_ok rfl (.other beside .nil)

theorem Settles.bind {t : Trail α} {next : α → Trail β} {a : α} {b : β} (first : Settles l t a items)
    (rest : Settles l (next a) b others) : Settles l (t >>= next) b (items ++ others) where
  ended b' ends := by
    cases outcome : t.outcome with
    | error f =>
      rw [outcome_bind_of_error next outcome] at ends
      cases ends
    | ok a' =>
      obtain ⟨rfl, accounts⟩ := first.ended a' outcome
      rw [outcome_bind_of_ok next outcome] at ends
      obtain ⟨same, more⟩ := rest.ended b' ends
      rw [steps_bind_of_ok next outcome]
      exact ⟨same, accounts.append more⟩
  failed f fails := by
    cases outcome : t.outcome with
    | error f' =>
      rw [outcome_bind_of_error next outcome] at fails
      obtain rfl := Except.error.inj fails
      obtain ⟨fault, settled, part, accounts⟩ := first.failed f' outcome
      rw [steps_bind_of_error next outcome]
      exact ⟨fault, settled, part.trans (List.prefix_append items others), accounts⟩
    | ok a' =>
      obtain ⟨rfl, accounts⟩ := first.ended a' outcome
      rw [outcome_bind_of_ok next outcome] at fails
      obtain ⟨fault, settled, part, more⟩ := rest.failed f fails
      rw [steps_bind_of_ok next outcome]
      exact ⟨fault, items ++ settled, (List.prefix_append_right_inj items).mpr part, accounts.append more⟩

theorem settles_each {body : α → Trail Unit} {list : List α} (each : ∀ a ∈ list, Settles l (body a) () []) :
    Settles l (Trail.each list body) () [] := by
  induction list with
  | nil => exact settles_pure ()
  | cons a rest ih =>
    obtain ⟨here, later⟩ := List.forall_mem_cons.mp each
    exact here.bind (ih later)

/-! ## Runs over a list -/

/-- The parts of some items, each by the value that is handed on to it. -/
def scan (next : β → α → β) (part : β → α → List ι) : β → List α → List ι
  | _, [] => []
  | b, a :: rest => part b a ++ scan next part (next b a) rest

theorem scan_append (next : β → α → β) (part : β → α → List ι) (b : β) (list list' : List α) :
    scan next part b (list ++ list') = scan next part b list ++ scan next part (list.foldl next b) list' := by
  induction list generalizing b with
  | nil => rfl
  | cons a rest ih => rw [List.cons_append, scan, scan, ih, List.append_assoc, List.foldl_cons]

theorem scan_flatMap {γ : Type} (next : β → α → β) (part : β → α → List ι) (b : β) (f : γ → List α)
    (list : List γ) :
    scan next part b (list.flatMap f) =
      scan (fun b c => (f c).foldl next b) (fun b c => scan next part b (f c)) b list := by
  induction list generalizing b with
  | nil => rfl
  | cons c rest ih => rw [List.flatMap_cons, scan_append, scan, ih]

theorem settles_fold {body : β → α → Trail β} {next : β → α → β} {part : β → α → List ι} {inv : β → Prop}
    (kept : ∀ b a, inv b → inv (next b a)) {list : List α}
    (each : ∀ a ∈ list, ∀ b, inv b → Settles l (body b a) (next b a) (part b a)) {b : β} (holds : inv b) :
    Settles l (fold body b list) (list.foldl next b) (scan next part b list) := by
  induction list generalizing b with
  | nil => exact settles_pure b
  | cons a rest ih =>
    obtain ⟨here, later⟩ := List.forall_mem_cons.mp each
    exact (here b holds).bind (ih later (kept b a holds))

end Trail

end ReleaseImpact
