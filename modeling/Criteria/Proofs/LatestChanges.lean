import Criteria.Statement

namespace Criteria

namespace Change

/-- The changes from the last one on that does not keep what is there; all, if each one does. -/
def latest (keeps : Change → Bool) : List Change → List Change
  | [] => []
  | change :: rest => if rest.all keeps then change :: rest else latest keeps rest

theorem latest_of_all {keeps : Change → Bool} {changes : List Change} (h : changes.all keeps) :
    latest keeps changes = changes := by
  cases changes with
  | nil => rfl
  | cons change rest =>
    rw [List.all_cons, Bool.and_eq_true] at h
    rw [latest, if_pos h.2]

/-- What each change puts into a part, after clearing it or not, has been put in after a run if that
was done since the part was cleared last. -/
theorem foldl_latest_of_extend {σ κ α : Type} {step : σ → Change → σ} {view : σ → κ} {start : κ}
    {keeps : Change → Bool} {given : Change → List α} (extend : κ → List α → κ)
    (hnil : ∀ k, extend k [] = k)
    (happend : ∀ k as bs, extend k (as ++ bs) = extend (extend k as) bs)
    (h : ∀ s change, view (step s change) =
      extend (if keeps change then view s else start) (given change))
    (s : σ) (changes : List Change) :
    view (changes.foldl step s) =
      extend (if changes.all keeps then view s else start)
        ((latest keeps changes).flatMap given) := by
  induction changes generalizing s with
  | nil => exact (hnil _).symm
  | cons change rest ih =>
    rw [List.foldl_cons, ih, h, latest, List.all_cons]
    -- where the part is cleared again later, nothing is left of this change
    by_cases hr : rest.all keeps
    · simp only [hr, latest_of_all hr, Bool.and_true, ↓reduceIte, List.flatMap_cons, happend]
    · simp only [hr, Bool.and_false, Bool.false_eq_true, ↓reduceIte]

theorem foldl_latest {σ α : Type} {step : σ → Change → σ} {view : σ → List α}
    {keeps : Change → Bool} {given : Change → List α}
    (h : ∀ s change, view (step s change) = (if keeps change then view s else []) ++ given change)
    (s : σ) (changes : List Change) :
    view (changes.foldl step s) =
      (if changes.all keeps then view s else []) ++ (latest keeps changes).flatMap given :=
  foldl_latest_of_extend (· ++ ·) List.append_nil
    (fun k as bs => (List.append_assoc k as bs).symm) h s changes

end Change

end Criteria
