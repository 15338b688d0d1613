import Mathlib.Data.List.Basic

/-! Lists of threads in the order of their creation, where only the last may be alive. -/
namespace LastAlive

variable {α : Type} {dead p q : α} {l : List α} {i j : ℕ}

def Retired (dead : α) (l : List α) : Prop := ∀ p ∈ l.dropLast, p = dead

theorem retired_nil : Retired dead [] := by simp [Retired]

theorem getLastD_of_all {P : α → Prop} (none : P dead) (all : ∀ p ∈ l, P p) :
    P (l.getLastD dead) := by
  rcases List.eq_nil_or_concat l with rfl | ⟨earlier, last, rfl⟩
  · exact none
  · rw [List.concat_eq_append, List.getLastD_concat]
    exact all last (by simp)

namespace Retired

theorem split (h : Retired dead l) (here : l[i]? = some p) (alive : p ≠ dead) :
    ∃ earlier, l = earlier ++ [p] ∧ i = earlier.length ∧ ∀ q ∈ earlier, q = dead := by
  rcases List.eq_nil_or_concat l with rfl | ⟨earlier, last, rfl⟩
  · simp at here
  · simp only [List.concat_eq_append] at here h ⊢
    have ended : ∀ q ∈ earlier, q = dead := by simpa [Retired] using h
    obtain ⟨lt, _⟩ := List.getElem?_eq_some_iff.1 here
    simp only [List.length_append, List.length_singleton] at lt
    have atEnd : i = earlier.length := by
      by_contra other
      rw [List.getElem?_append_left (by omega)] at here
      exact alive (ended p (List.mem_of_getElem? here))
    subst atEnd
    have same : last = p := by simpa using here
    subst same
    exact ⟨earlier, rfl, rfl, ended⟩

theorem getLastD (h : Retired dead l) (here : l[i]? = some p) (alive : p ≠ dead) :
    l.getLastD dead = p := by
  obtain ⟨earlier, rfl, -, -⟩ := h.split here alive
  exact List.getLastD_concat ..

theorem set (h : Retired dead l) (here : l[i]? = some p) (alive : p ≠ dead) :
    Retired dead (l.set i q) ∧ (l.set i q).getLastD dead = q := by
  obtain ⟨earlier, rfl, rfl, ended⟩ := h.split here alive
  have after : (earlier ++ [p]).set earlier.length q = earlier ++ [q] := by simp
  rw [after]
  exact ⟨by simpa [Retired] using ended, List.getLastD_concat ..⟩

theorem all_dead (h : Retired dead l) (last : l.getLastD dead = dead) : ∀ p ∈ l, p = dead := by
  rcases List.eq_nil_or_concat l with rfl | ⟨earlier, last', rfl⟩
  · simp
  · simp only [List.concat_eq_append] at last h ⊢
    rw [List.getLastD_concat] at last
    have ended : ∀ q ∈ earlier, q = dead := by simpa [Retired] using h
    intro p hp
    rcases List.mem_append.1 hp with old | new
    · exact ended p old
    · exact (List.mem_singleton.1 new).trans last

theorem countP [DecidableEq α] (h : Retired dead l) : l.countP (fun p => p ≠ dead) ≤ 1 := by
  rcases List.eq_nil_or_concat l with rfl | ⟨earlier, last, rfl⟩
  · simp
  · simp only [List.concat_eq_append] at h ⊢
    have none : earlier.countP (fun p => p ≠ dead) = 0 := by
      rw [List.countP_eq_zero]
      intro p hp
      simpa using h p (by simpa using hp)
    rw [List.countP_append, none, Nat.zero_add]
    exact List.countP_le_length

end Retired

theorem retired_append (h : ∀ p ∈ l, p = dead) : Retired dead (l ++ [q]) := by
  simpa [Retired] using h

end LastAlive
