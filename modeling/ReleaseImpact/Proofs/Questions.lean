import ReleaseImpact.Duplicate.Detector

/-!
Detectors that are asked one question after the other. Main statements:

- `judges_of_kept`: what each answer preserves decides all the answers.
- `structural_judges`: likeness answers a question in one way, whatever was asked before.
-/

namespace ReleaseImpact

variable {δ : Type} {ask : δ → Inquiry → Reply δ} {verdict : Inquiry → Except Failure Verdict} {d : δ}

/-- The detector that is there after some questions. -/
def afterAsking (ask : δ → Inquiry → Reply δ) (d : δ) (earlier : List Inquiry) : δ :=
  earlier.foldl (fun d q => (ask d q).next) d

/-- Whatever a detector was asked before, a question alone decides on the answer to it. -/
def Judges (ask : δ → Inquiry → Reply δ) (verdict : Inquiry → Except Failure Verdict) (d : δ) : Prop :=
  ∀ earlier q, (ask (afterAsking ask d earlier) q).verdict = verdict q

theorem Judges.answer (judges : Judges ask verdict d) (q : Inquiry) : (ask d q).verdict = verdict q :=
  judges [] q

theorem Judges.next (judges : Judges ask verdict d) (q : Inquiry) : Judges ask verdict (ask d q).next :=
  fun earlier => judges (q :: earlier)

theorem kept_afterAsking (inv : δ → Prop) (kept : ∀ d q, inv d → inv (ask d q).next) (holds : inv d)
    (earlier : List Inquiry) : inv (afterAsking ask d earlier) := by
  induction earlier generalizing d with
  | nil => exact holds
  | cons q rest ih => exact ih (kept d q holds)

theorem judges_of_kept {inv : δ → Prop} (kept : ∀ d q, inv d → inv (ask d q).next)
    (told : ∀ d q, inv d → (ask d q).verdict = verdict q) (holds : inv d) : Judges ask verdict d := by
  intro earlier q
  exact told _ q (kept_afterAsking inv kept holds earlier)

/-- The answer by likeness. -/
def likeness (q : Inquiry) : Verdict := if Detector.isAlike q.existing q.node then .duplicate else .unique

theorem structural_judges (fs : FileSystem) :
    Judges (Detector.ask fs) (fun q => .ok (likeness q)) .structural := by
  have kept (d : Detector) (q : Inquiry) (is : d = .structural) : (d.ask fs q).next = .structural := by
    subst is
    rfl
  refine judges_of_kept kept (fun d q is => ?_) rfl
  subst is
  rfl

end ReleaseImpact
