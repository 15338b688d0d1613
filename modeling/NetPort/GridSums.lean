import Mathlib.Algebra.BigOperators.Group.List.Basic
import Mathlib.Algebra.GroupWithZero.Nat
import Mathlib.Algebra.Order.Group.Nat
import Mathlib.Algebra.Order.Monoid.Canonical.Defs
import Mathlib.Data.List.Nodup

/-! Items that are gathered in the cells of a grid, each in one cell, and sums that run along
the cells. -/
namespace GridSums

section Cells

variable {ι κ M : Type} [DecidableEq κ] [AddCommMonoid M] {key : ι → κ} {weight : ι → M}

def cell (key : ι → κ) (weight : ι → M) (items : List ι) (k : κ) : M :=
  ((items.filter fun a => key a = k).map weight).sum

theorem cell_nil : cell key weight [] = fun _ => 0 := rfl

theorem cell_cons (a : ι) (items : List ι) (k : κ) :
    cell key weight (a :: items) k = (if key a = k then weight a else 0) +
      cell key weight items k := by
  by_cases same : key a = k <;> simp [cell, same]

theorem cell_append (items items' : List ι) (k : κ) :
    cell key weight (items ++ items') k = cell key weight items k + cell key weight items' k := by
  unfold cell
  rw [List.filter_append, List.map_append, List.sum_append]

/-- The item at a place, what stands before and behind it, and the list with another item there or
without it. -/
theorem split_at {items : List ι} {i : ℕ} {a : ι} (at_ : items[i]? = some a) :
    ∃ before after, items = before ++ a :: after ∧
      (∀ a', items.set i a' = before ++ a' :: after) ∧ items.eraseIdx i = before ++ after := by
  obtain ⟨inside, rfl⟩ := List.getElem?_eq_some_iff.1 at_
  refine ⟨items.take i, items.drop (i + 1), ?_, fun a' => ?_, List.eraseIdx_eq_take_drop_succ ..⟩
  · rw [List.getElem_cons_drop, List.take_append_drop]
  · rw [List.set_eq_take_append_cons_drop, if_pos inside]

theorem cell_set {items : List ι} {i : ℕ} {a a' : ι} (at_ : items[i]? = some a)
    (same : key a' = key a) (k : κ) :
    cell key weight (items.set i a') k + (if key a = k then weight a else 0) =
      cell key weight items k + (if key a = k then weight a' else 0) := by
  obtain ⟨before, after, whole, set, -⟩ := split_at at_
  rw [set, whole, cell_append, cell_append, cell_cons, cell_cons, same]
  ac_rfl

theorem cell_eraseIdx {items : List ι} {i : ℕ} {a : ι} (at_ : items[i]? = some a) (k : κ) :
    cell key weight (items.eraseIdx i) k + (if key a = k then weight a else 0) =
      cell key weight items k := by
  obtain ⟨before, after, whole, -, erase⟩ := split_at at_
  rw [erase, whole, cell_append, cell_append, cell_cons]
  ac_rfl

/-- A grid without repetitions has one cell for an item at most. -/
theorem sum_single {grid : List κ} (nodup : grid.Nodup) (k : κ) (m : M) :
    (grid.map fun c => if k = c then m else 0).sum = if k ∈ grid then m else 0 := by
  induction grid with
  | nil => simp
  | cons c grid ih =>
    obtain ⟨new, nodup⟩ := List.nodup_cons.1 nodup
    rw [List.map_cons, List.sum_cons, ih nodup]
    by_cases here : k = c
    · subst here
      simp [new]
    · simp [here]

/-- The cells of a grid hold the items that belong to it, each of them once. -/
theorem sum_cells {grid : List κ} {inside : ι → Prop} [DecidablePred inside]
    (nodup : grid.Nodup) (belongs : ∀ a, key a ∈ grid ↔ inside a) (items : List ι) :
    (grid.map (cell key weight items)).sum =
      ((items.filter fun a => inside a).map weight).sum := by
  induction items with
  | nil => simp [cell_nil]
  | cons a items ih =>
    have split : (grid.map (cell key weight (a :: items))).sum =
        (grid.map fun c => if key a = c then weight a else 0).sum +
          (grid.map (cell key weight items)).sum := by
      rw [← List.sum_map_add]
      exact congrArg List.sum (List.map_congr_left fun k _ => cell_cons a items k)
    rw [split, sum_single nodup, ih, List.filter_cons]
    by_cases here : inside a <;> simp [here, belongs a]

theorem cell_map_bump {bump : ι → ι} {k c : κ} {m : M} {items : List ι}
    (unique : (items.map key).Nodup) (present : k ∈ items.map key)
    (same : ∀ a, key (bump a) = key a) (adds : ∀ a, weight (bump a) = m + weight a) :
    cell key weight (items.map fun a => if key a = k then bump a else a) c =
      (if k = c then m else 0) + cell key weight items c := by
  induction items with
  | nil => cases present
  | cons a items ih =>
    obtain ⟨new, unique⟩ := List.nodup_cons.1 unique
    rw [List.map_cons, cell_cons, cell_cons]
    by_cases here : key a = k
    · have untouched : (items.map fun a => if key a = k then bump a else a) = items := by
        refine (List.map_congr_left fun x mem => if_neg fun hx => new ?_).trans (List.map_id _)
        rw [here, ← hx]
        exact List.mem_map_of_mem mem
      rw [untouched, if_pos here, same, adds, here]
      split
      · rw [add_assoc]
      · simp only [zero_add]
    · have later : k ∈ items.map key := (List.mem_cons.1 present).resolve_left (Ne.symm here)
      rw [if_neg here, ih unique later, ← add_assoc, ← add_assoc, add_comm (if k = c then m else 0)]

end Cells

section Running

variable {M : Type} [AddCommMonoid M] {acc : M} {xs : List M}

def running (acc : M) : List M → List M
  | [] => []
  | a :: rest => (acc + a) :: running (acc + a) rest

theorem getLast?_running (x : M) (mem : x ∈ (running acc xs).getLast?) : x = acc + xs.sum := by
  induction xs generalizing acc with
  | nil => cases mem
  | cons a rest ih =>
    cases rest with
    | nil =>
      have last : acc + a = x := Option.some.inj mem
      rw [← last, List.sum_singleton]
    | cons b rest =>
      rw [running, running, List.getLast?_cons_cons, ← running] at mem
      rw [ih mem, @List.sum_cons _ _ _ a, add_assoc]

variable [PartialOrder M] [CanonicallyOrderedAdd M]

theorem le_running (x : M) (mem : x ∈ running acc xs) : acc ≤ x := by
  induction xs generalizing acc with
  | nil => cases mem
  | cons a rest ih =>
    rcases List.mem_cons.1 mem with rfl | later
    · exact le_self_add
    · exact le_self_add.trans (ih later)

theorem running_nondecreasing : (running acc xs).Pairwise (· ≤ ·) := by
  induction xs generalizing acc with
  | nil => exact .nil
  | cons a rest ih => exact .cons le_running ih

end Running

/-- The points from `t` on, up to the last one that is no later than `last`. -/
def points (step last : ℤ) : ℕ → ℤ → List ℤ
  | 0, _ => []
  | fuel + 1, t => if t ≤ last then t :: points step last fuel (t + step) else []

variable {step last t k : ℤ} {fuel : ℕ}

theorem le_of_mem_points (forward : 0 < step) (mem : k ∈ points step last fuel t) : t ≤ k := by
  induction fuel generalizing t with
  | zero => cases mem
  | succ fuel ih =>
    rw [points] at mem
    split at mem
    · rcases List.mem_cons.1 mem with rfl | later
      · exact le_rfl
      · have := ih later
        omega
    · cases mem

theorem nodup_points (forward : 0 < step) : (points step last fuel t).Nodup := by
  induction fuel generalizing t with
  | zero => exact List.nodup_nil
  | succ fuel ih =>
    rw [points]
    split
    · refine List.nodup_cons.2 ⟨fun mem => ?_, ih⟩
      have := le_of_mem_points forward mem
      omega
    · exact List.nodup_nil

/-- The points are all multiples of the step from `t` to `last`, if there is fuel for them. -/
theorem mem_points (forward : 0 < step) (enough : last - t < fuel) :
    k ∈ points step last fuel t ↔ t ≤ k ∧ k ≤ last ∧ step ∣ k - t := by
  induction fuel generalizing t with
  | zero =>
    refine iff_of_false List.not_mem_nil fun inside => ?_
    omega
  | succ fuel ih =>
    rw [points]
    split
    · have rest := @ih (t + step) (by omega)
      rw [List.mem_cons, rest]
      constructor
      · rintro (rfl | ⟨from_, to_, divides⟩)
        · refine ⟨le_rfl, by omega, ?_⟩
          rw [sub_self]
          exact Int.dvd_zero step
        · refine ⟨by omega, to_, ?_⟩
          have := Int.dvd_add divides (Int.dvd_refl step)
          rwa [show k - (t + step) + step = k - t by omega] at this
      · rintro ⟨from_, to_, divides⟩
        by_cases first : k = t
        · exact .inl first
        · have far : step ≤ k - t := Int.le_of_dvd (by omega) divides
          refine .inr ⟨by omega, to_, ?_⟩
          have := Int.dvd_sub divides (Int.dvd_refl step)
          rwa [show k - t - step = k - (t + step) by omega] at this
    · refine iff_of_false List.not_mem_nil fun inside => ?_
      omega

/-- A window of `n` steps that begins with a point has one point for each step. -/
theorem points_window {a : ℤ} {n : ℕ} (forward : 0 < step) (enough : last - t < fuel)
    (begins : t ≤ a) (divides : step ∣ a - t) (ends : a + n * step ≤ last + step) :
    ((points step last fuel t).filter fun k => a ≤ k ∧ k < a + n * step).length = n := by
  have nodup : ((List.range n).map fun i : ℕ => a + i * step).Nodup := by
    refine List.Nodup.map_on (fun i _ j _ same => ?_) List.nodup_range
    have scaled := Int.eq_of_mul_eq_mul_right forward.ne' (Int.add_left_cancel same)
    omega
  have perm : ((points step last fuel t).filter fun k => a ≤ k ∧ k < a + n * step).Perm
      ((List.range n).map fun i : ℕ => a + i * step) := by
    refine (List.perm_ext_iff_of_nodup ((nodup_points forward).filter _) nodup).2 fun k => ?_
    simp only [List.mem_filter, mem_points forward enough, decide_eq_true_eq, List.mem_map,
      List.mem_range]
    constructor
    · rintro ⟨⟨-, -, multiple⟩, lower, upper⟩
      obtain ⟨c, hc⟩ : step ∣ k - a := by
        have := Int.dvd_sub multiple divides
        rwa [show k - t - (a - t) = k - a by omega] at this
      have nonneg : 0 ≤ c := by
        by_contra negative
        have := Int.mul_le_mul_of_nonneg_left (show c ≤ -1 by omega) forward.le
        omega
      have small : c < n := by
        by_contra large
        have := Int.mul_le_mul_of_nonneg_left (show (n : ℤ) ≤ c by omega) forward.le
        rw [Int.mul_comm step n] at this
        omega
      refine ⟨c.toNat, by omega, ?_⟩
      rw [Int.toNat_of_nonneg nonneg, Int.mul_comm]
      omega
    · rintro ⟨i, lt, rfl⟩
      have lower := Int.mul_nonneg (Int.natCast_nonneg i) forward.le
      have upper := Int.mul_le_mul_of_nonneg_right (show (i : ℤ) + 1 ≤ n by omega) forward.le
      rw [Int.add_mul, Int.one_mul] at upper
      refine ⟨⟨by omega, by omega, ?_⟩, by omega, by omega⟩
      have := Int.dvd_add divides (Int.dvd_mul_left (i : ℤ) step)
      rwa [show a - t + i * step = a + i * step - t by omega] at this
  simpa using perm.length_eq

end GridSums
