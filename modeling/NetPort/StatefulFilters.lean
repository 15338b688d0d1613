import Mathlib.Data.List.Basic

/-! Filters whose test has a state that it goes on with. -/
namespace StatefulFilters

variable {σ α : Type}

/-- The test says whether an element is kept, and with what state the next one is tested. -/
def sieve (test : σ → α → Bool × σ) : σ → List α → List α
  | _, [] => []
  | s, a :: rest =>
    if (test s a).1 then a :: sieve test (test s a).2 rest else sieve test (test s a).2 rest

def after (test : σ → α → Bool × σ) (s : σ) (xs : List α) : σ :=
  xs.foldl (fun s a => (test s a).2) s

variable {test : σ → α → Bool × σ} {s : σ} {xs ys : List α}

theorem sieve_sublist : (sieve test s xs).Sublist xs := by
  induction xs generalizing s with
  | nil => exact .slnil
  | cons a rest ih =>
    rw [sieve]
    split
    · exact ih.cons_cons a
    · exact ih.cons a

theorem sieve_append :
    sieve test s (xs ++ ys) = sieve test s xs ++ sieve test (after test s xs) ys := by
  induction xs generalizing s with
  | nil => rfl
  | cons a rest ih =>
    rw [List.cons_append, sieve, sieve, ih]
    split <;> rfl

def Forgets (test : σ → α → Bool × σ) : Prop := ∀ s a, (test s a).1 = false → (test s a).2 = s

theorem sieve_sieve (forgets : Forgets test) :
    sieve test s (sieve test s xs) = sieve test s xs := by
  induction xs generalizing s with
  | nil => rfl
  | cons a rest ih =>
    rw [sieve]
    split
    case isTrue kept => rw [sieve, if_pos kept, ih]
    case isFalse dropped =>
      rw [forgets s a (eq_false_of_ne_true dropped)]
      exact ih

end StatefulFilters
