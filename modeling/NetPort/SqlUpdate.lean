import Mathlib.Algebra.BigOperators.Group.List.Basic
import Mathlib.Algebra.GroupWithZero.Nat
import Mathlib.Data.List.Nodup
import Mathlib.Data.List.Perm.Basic

/-! `UPDATE … SET … WHERE …` on a table kept as a list of rows, and on a table kept as
a function of its primary key. -/
namespace SqlUpdate

variable {α β : Type} {κ ρ : Type}

def updateRows (cond : α → Bool) (set : α → α) (rows : List α) : List α :=
  rows.map fun r => if cond r then set r else r

theorem mem_updateRows {cond : α → Bool} {set : α → α} {rows : List α} {r : α} :
    r ∈ updateRows cond set rows ↔
      (∃ q ∈ rows, cond q = true ∧ set q = r) ∨ (r ∈ rows ∧ cond r = false) := by
  simp only [updateRows, List.mem_map]
  constructor
  · rintro ⟨q, hq, rfl⟩
    by_cases h : cond q = true
    · exact .inl ⟨q, hq, h, by simp [h]⟩
    · exact .inr ⟨by simpa [h] using hq, by simp [h]⟩
  · rintro (⟨q, hq, h, rfl⟩ | ⟨hr, h⟩)
    · exact ⟨q, hq, by simp [h]⟩
    · exact ⟨r, hr, by simp [h]⟩

/-- A column that the `SET` clause leaves alone. -/
theorem map_updateRows {cond : α → Bool} {set : α → α} {column : α → β}
    (keep : ∀ r, column (set r) = column r) (rows : List α) :
    (updateRows cond set rows).map column = rows.map column := by
  simp only [updateRows, List.map_map, List.map_inj_left, Function.comp]
  intro r _
  split
  · exact keep r
  · rfl

def updateKeyed (cond : κ → ρ → Bool) (set : κ → ρ → ρ) (table : κ → ρ) : κ → ρ :=
  fun k => if cond k (table k) then set k (table k) else table k

theorem eq_of_key {key : α → β} {rows : List α} (h : (rows.map key).Nodup) {r q : α}
    (hr : r ∈ rows) (hq : q ∈ rows) (e : key r = key q) : r = q :=
  List.inj_on_of_nodup_map h hr hq e

/-- A condition that fixes a unique key selects one row at most. -/
theorem filter_unique {key : α → β} {cond : α → Bool} {k : β} (only : ∀ r, cond r = true → key r = k)
    {rows : List α} (nodup : (rows.map key).Nodup) :
    rows.filter cond = (rows.find? cond).toList := by
  induction rows with
  | nil => rfl
  | cons r rows ih =>
    obtain ⟨fresh, nodup⟩ := List.nodup_cons.1 nodup
    by_cases hit : cond r = true
    · have rest : rows.filter cond = [] := by
        apply List.filter_eq_nil_iff.2
        intro q hq hitQ
        apply fresh
        rw [only r hit, ← only q hitQ]
        exact List.mem_map_of_mem hq
      simp [hit, rest]
    · simp [hit, ih nodup]

section Total

variable {M : Type} [AddCommMonoid M] [DecidableEq κ]

/-- `SELECT SUM(column) … WHERE key = k` -/
def total (key : α → κ) (column : α → M) (k : κ) (rows : List α) : M :=
  ((rows.filter fun r => key r = k).map column).sum

variable {key : α → κ} {column : α → M} {k : κ} {rows : List α}

theorem total_append (rows more : List α) :
    total key column k (rows ++ more) = total key column k rows + total key column k more := by
  simp [total]

theorem total_cons (r : α) (rows : List α) :
    total key column k (r :: rows) =
      (if key r = k then column r else 0) + total key column k rows := by
  by_cases h : key r = k <;> simp [total, h]

theorem total_eq_zero {rows : List α} (h : ∀ r ∈ rows, column r = 0) :
    total key column k rows = 0 := by
  induction rows with
  | nil => rfl
  | cons r rows ih =>
    rw [total_cons, h r List.mem_cons_self, ih fun q hq => h q (List.mem_cons_of_mem r hq)]
    simp

theorem total_updateRows {cond : α → Bool} {set : α → α} (sameKey : ∀ r, key (set r) = key r)
    (sameColumn : ∀ r, column (set r) = column r) (rows : List α) :
    total key column k (updateRows cond set rows) = total key column k rows := by
  induction rows with
  | nil => rfl
  | cons r rows ih =>
    have row : key (if cond r then set r else r) = key r ∧
        column (if cond r then set r else r) = column r := by
      split
      · exact ⟨sameKey r, sameColumn r⟩
      · exact ⟨rfl, rfl⟩
    change total key column k ((if cond r then set r else r) :: updateRows cond set rows) = _
    rw [total_cons, total_cons, ih, row.1, row.2]

/-- An update that adds to the column adds once for each row it hits. -/
theorem total_updateRows_add {cond : α → Bool} {set : α → α} {amount : M}
    (sameKey : ∀ r, key (set r) = key r) (adds : ∀ r, column (set r) = column r + amount)
    (rows : List α) :
    total key column k (updateRows cond set rows) = total key column k rows +
      (rows.countP fun r => decide (key r = k) && cond r) • amount := by
  induction rows with
  | nil => simp [total, updateRows]
  | cons r rows ih =>
    change total key column k ((if cond r then set r else r) :: updateRows cond set rows) = _
    rw [total_cons, total_cons, ih, List.countP_cons]
    by_cases hit : cond r = true
    · by_cases same : key r = k
      · simp only [hit, if_true, sameKey, same, adds, decide_true, Bool.and_self, succ_nsmul]
        ac_rfl
      · simp [hit, sameKey, same]
    · simp [hit, add_assoc]

end Total

end SqlUpdate
