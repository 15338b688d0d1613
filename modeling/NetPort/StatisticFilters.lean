import Mathlib.Data.List.Basic
import Mathlib.Data.Int.Notation
import Mathlib.Data.Nat.Notation
import Mathlib.Data.Option.Basic
import NetPort.Doubles
import NetPort.StatefulFilters

/-! The clean-up of statistic rows in `statistics.helpers.js`, as `getByServerAndTimeRange`
applies it. -/
namespace StatisticFilters

open Doubles StatefulFilters

/-- A row of `statistic`, with counters that are read as texts; the time is
`new Date(row.timestamp).getTime()`, if it is finite. -/
structure StatisticRow where
  bytesReceived : ℕ
  bytesSent : ℕ
  connectionsCount : ℕ
  timestamp : Option ℤ
  deriving DecidableEq

def isEmptyStatisticRow (row : StatisticRow) : Bool :=
  row.bytesReceived = 0 ∧ row.bytesSent = 0 ∧ row.connectionsCount = 0

structure Maxima where
  maxReceived : ℕ
  maxSent : ℕ
  deriving DecidableEq

/-- The callback of `filterRegressiveStatisticSnapshots`, in doubles. -/
def regressiveTest (m : Maxima) (row : StatisticRow) : Bool × Maxima :=
  let received := whole row.bytesReceived
  let sent := whole row.bytesSent
  if whole (received + sent) = 0 then (true, m)
  else if whole (received + 1024) < m.maxReceived ∧ whole (sent + 1024) < m.maxSent then (false, m)
  else (true, ⟨max m.maxReceived received, max m.maxSent sent⟩)

def filterRegressiveStatisticSnapshots (rows : List StatisticRow) : List StatisticRow :=
  sieve regressiveTest ⟨0, 0⟩ rows

def Nearby (ts : ℤ) (other : StatisticRow) : Prop :=
  ∃ otherTs ∈ other.timestamp, (otherTs - ts).natAbs ≤ 5000

instance (ts : ℤ) (other : StatisticRow) : Decidable (Nearby ts other) := by
  dsimp only [Nearby]
  infer_instance

/-- The callback of `filterEmptyStatisticSnapshots`. -/
def emptyTest (all : List StatisticRow) (row : StatisticRow) (index : ℕ) : Bool :=
  if !isEmptyStatisticRow row then true
  else match row.timestamp with
    | none => true
    | some ts =>
      let hasNearbyData := all.zipIdx.any fun (other, otherIndex) =>
        if otherIndex = index ∨ isEmptyStatisticRow other then false
        else Nearby ts other
      !hasNearbyData

def filterEmptyStatisticSnapshots (rows : List StatisticRow) : List StatisticRow :=
  (rows.zipIdx.filter fun (row, index) => emptyTest rows row index).map Prod.fst

/-- The rows that `getByServerAndTimeRange` answers with. -/
def cleanUp (rows : List StatisticRow) : List StatisticRow :=
  filterRegressiveStatisticSnapshots (filterEmptyStatisticSnapshots rows)

variable {all before later : List StatisticRow} {row : StatisticRow}

def Redundant (all : List StatisticRow) (row : StatisticRow) : Prop :=
  isEmptyStatisticRow row ∧ ∃ ts ∈ row.timestamp, ∃ other ∈ all,
    isEmptyStatisticRow other = false ∧ Nearby ts other

instance (all : List StatisticRow) (row : StatisticRow) : Decidable (Redundant all row) := by
  dsimp only [Redundant]
  infer_instance

/-- A row that is tested is all-zero itself, so its index makes no difference. -/
theorem emptyTest_eq {index : ℕ} (here : all[index]? = some row) :
    emptyTest all row index = !decide (Redundant all row) := by
  rw [Bool.eq_iff_iff, Bool.not_eq_true', decide_eq_false_iff_not]
  unfold emptyTest Redundant
  cases empty : isEmptyStatisticRow row with
  | false => simp
  | true =>
    cases row.timestamp with
    | none => simp
    | some ts =>
      have other_index (other : StatisticRow) (otherIndex : ℕ)
          (there : all[otherIndex]? = some other) (data : isEmptyStatisticRow other = false) :
          otherIndex ≠ index := by
        rintro rfl
        cases here.symm.trans there
        rw [empty] at data
        cases data
      simp only [Bool.not_true, Bool.false_eq_true, if_false, Bool.not_eq_true',
        List.any_eq_false, Option.mem_some_iff, exists_eq_left', true_and, not_exists, not_and]
      constructor
      · intro nothing other mem data near
        obtain ⟨otherIndex, there⟩ := List.mem_iff_getElem?.1 mem
        refine nothing (other, otherIndex) (List.mk_mem_zipIdx_iff_getElem?.2 there) ?_
        simp [other_index other otherIndex there data, data, near]
      · rintro nothing ⟨other, otherIndex⟩ mem
        have there := List.mk_mem_zipIdx_iff_getElem?.1 mem
        cases data : isEmptyStatisticRow other with
        | true => simp
        | false =>
          simpa [data] using fun _ => nothing other (List.mem_iff_getElem?.2 ⟨_, there⟩) data

theorem filterEmptyStatisticSnapshots_eq :
    filterEmptyStatisticSnapshots all = all.filter fun row => !decide (Redundant all row) := by
  have tested : ∀ x ∈ all.zipIdx, emptyTest all x.1 x.2 = !decide (Redundant all x.1) :=
    fun _ mem => emptyTest_eq (List.mem_zipIdx_iff_getElem?.1 mem)
  calc filterEmptyStatisticSnapshots all
      = (all.zipIdx.filter fun x => !decide (Redundant all x.1)).map Prod.fst :=
        congrArg (List.map Prod.fst) (List.filter_congr tested)
    _ = (all.zipIdx.map Prod.fst).filter fun row => !decide (Redundant all row) :=
        (@List.filter_map _ _ Prod.fst (fun row => !decide (Redundant all row)) _).symm
    _ = _ := by rw [List.zipIdx_map_fst]

def keptOf (all firstRows : List StatisticRow) : List StatisticRow :=
  filterRegressiveStatisticSnapshots (firstRows.filter fun row => !decide (Redundant all row))

theorem keptOf_all : keptOf all all = cleanUp all := by
  rw [cleanUp, filterEmptyStatisticSnapshots_eq, keptOf]

theorem cleanUp_sublist : (cleanUp all).Sublist all := by
  rw [← keptOf_all]
  exact sieve_sublist.trans List.filter_sublist

/-- Both counters of a row with traffic are computed to be more than 1024 below the maxima. -/
def Regressive (m : Maxima) (row : StatisticRow) : Prop :=
  0 < row.bytesReceived + row.bytesSent ∧
    whole (whole row.bytesReceived + 1024) < m.maxReceived ∧
    whole (whole row.bytesSent + 1024) < m.maxSent

theorem whole_add_eq_zero {m n : ℕ} : whole (whole m + whole n) = 0 ↔ m + n = 0 := by
  have zero : whole 0 = 0 := whole_exact (Nat.zero_le _)
  constructor
  · intro silent
    by_contra traffic
    have some_ : 0 < whole m + whole n := by
      rcases Nat.eq_zero_or_pos m with rfl | positive
      · exact Nat.add_pos_right _ (roundBits_pos (by omega))
      · exact Nat.add_pos_left (roundBits_pos positive) _
    exact absurd silent (roundBits_pos some_).ne'
  · intro silent
    obtain ⟨rfl, rfl⟩ := Nat.add_eq_zero_iff.1 silent
    rw [zero, zero]

theorem regressiveTest_cases (m : Maxima) (row : StatisticRow) :
    (Regressive m row ∧ regressiveTest m row = (false, m)) ∨
      (¬Regressive m row ∧ regressiveTest m row =
        (true, ⟨max m.maxReceived (whole row.bytesReceived),
          max m.maxSent (whole row.bytesSent)⟩)) := by
  dsimp only [regressiveTest, Regressive]
  by_cases silent : row.bytesReceived + row.bytesSent = 0
  · have zero : whole 0 = 0 := whole_exact (Nat.zero_le _)
    obtain ⟨received, sent⟩ := Nat.add_eq_zero_iff.1 silent
    rw [if_pos (whole_add_eq_zero.2 silent), received, sent, zero, Nat.max_zero, Nat.max_zero]
    exact .inr ⟨fun regressive => by omega, rfl⟩
  · rw [if_neg fun rounded => silent (whole_add_eq_zero.1 rounded)]
    split_ifs with below
    · exact .inl ⟨⟨by omega, below⟩, rfl⟩
    · exact .inr ⟨fun regressive => below regressive.2, rfl⟩

theorem regressiveTest_forgets : Forgets regressiveTest := by
  intro m row dropped
  rcases regressiveTest_cases m row with ⟨_, tested⟩ | ⟨_, tested⟩
  · rw [tested]
  · rw [tested] at dropped
    cases dropped

theorem cleanUp_cleanUp : cleanUp (cleanUp all) = cleanUp all := by
  have sublist := @cleanUp_sublist all
  have kept : (cleanUp all).filter (fun row => !decide (Redundant (cleanUp all) row)) =
      cleanUp all := by
    refine List.filter_eq_self.2 fun row mem => ?_
    rw [Bool.not_eq_true', decide_eq_false_iff_not]
    rintro ⟨empty, ts, time, other, there, near⟩
    have tested : row ∈ all.filter fun row => !decide (Redundant all row) := by
      rw [← keptOf_all] at mem
      exact sieve_sublist.subset mem
    have := (List.mem_filter.1 tested).2
    rw [Bool.not_eq_true', decide_eq_false_iff_not] at this
    exact this ⟨empty, ts, time, other, sublist.subset there, near⟩
  conv_lhs => rw [cleanUp, filterEmptyStatisticSnapshots_eq, kept]
  exact sieve_sieve regressiveTest_forgets

section Maxima

variable {counter : StatisticRow → ℕ} {rows : List StatisticRow} {m : ℕ}

/-- The largest value of a counter, from `m` on. -/
def maxFrom (counter : StatisticRow → ℕ) (m : ℕ) (rows : List StatisticRow) : ℕ :=
  rows.foldl (fun m row => max m (counter row)) m

theorem le_maxFrom_init : m ≤ maxFrom counter m rows := by
  induction rows generalizing m with
  | nil => exact Nat.le_refl m
  | cons row rest ih => exact Nat.le_trans (Nat.le_max_left m _) ih

theorem le_maxFrom (mem : row ∈ rows) : counter row ≤ maxFrom counter m rows := by
  induction rows generalizing m with
  | nil => cases mem
  | cons first rest ih =>
    rcases List.mem_cons.1 mem with rfl | mem
    · exact Nat.le_trans (Nat.le_max_right m _) le_maxFrom_init
    · exact ih mem

def received (row : StatisticRow) : ℕ := whole row.bytesReceived

def sent (row : StatisticRow) : ℕ := whole row.bytesSent

theorem after_regressiveTest (start : Maxima) : after regressiveTest start rows =
    ⟨maxFrom received start.maxReceived (sieve regressiveTest start rows),
      maxFrom sent start.maxSent (sieve regressiveTest start rows)⟩ := by
  induction rows generalizing start with
  | nil => rfl
  | cons row rest ih =>
    have step : after regressiveTest start (row :: rest) =
      after regressiveTest (regressiveTest start row).2 rest := rfl
    rw [step, ih, sieve]
    rcases regressiveTest_cases start row with ⟨_, tested⟩ | ⟨_, tested⟩ <;> rw [tested] <;> rfl

end Maxima

def maximaOf (kept : List StatisticRow) : Maxima := ⟨maxFrom received 0 kept, maxFrom sent 0 kept⟩

/-- The clean-up of `all` comes to `row` after the rows `before`, and drops it. -/
def Drops (all before : List StatisticRow) (row : StatisticRow) : Prop :=
  keptOf all (before ++ [row]) = keptOf all before

def Keeps (all before : List StatisticRow) (row : StatisticRow) : Prop :=
  keptOf all (before ++ [row]) = keptOf all before ++ [row]

theorem keptOf_append : keptOf all (before ++ later) = keptOf all before ++
    sieve regressiveTest (maximaOf (keptOf all before))
      (later.filter fun row => !decide (Redundant all row)) := by
  unfold keptOf filterRegressiveStatisticSnapshots
  rw [List.filter_append, sieve_append, after_regressiveTest]
  rfl

/-- A row is dropped for what lies beside it, or for what was kept before it. -/
def Unwanted (all before : List StatisticRow) (row : StatisticRow) : Prop :=
  Redundant all row ∨ Regressive (maximaOf (keptOf all before)) row

theorem drops_of_unwanted (unwanted : Unwanted all before row) : Drops all before row := by
  rw [Drops, keptOf_append]
  by_cases redundant : Redundant all row
  · simp [redundant, sieve]
  · have regressive := unwanted.resolve_left redundant
    rcases regressiveTest_cases (maximaOf (keptOf all before)) row with ⟨_, tested⟩ | ⟨fine, _⟩
    · simp [redundant, sieve, tested]
    · exact absurd regressive fine

theorem keeps_of_not_unwanted (wanted : ¬Unwanted all before row) : Keeps all before row := by
  obtain ⟨apart, fine⟩ := not_or.1 wanted
  rw [Keeps, keptOf_append]
  rcases regressiveTest_cases (maximaOf (keptOf all before)) row with ⟨regressive, _⟩ | ⟨_, tested⟩
  · exact absurd regressive fine
  · simp [apart, sieve, tested]

theorem not_keeps_of_drops (drops : Drops all before row) : ¬Keeps all before row := by
  intro keeps
  have := congrArg List.length (drops.symm.trans keeps)
  rw [List.length_append, List.length_singleton] at this
  omega

theorem drops_iff : Drops all before row ↔ Unwanted all before row :=
  ⟨fun drops => by_contra fun wanted => not_keeps_of_drops drops (keeps_of_not_unwanted wanted),
    drops_of_unwanted⟩

theorem keeps_iff : Keeps all before row ↔ ¬Unwanted all before row :=
  ⟨fun keeps unwanted => not_keeps_of_drops (drops_of_unwanted unwanted) keeps,
    keeps_of_not_unwanted⟩

def Exact (rows : List StatisticRow) : Prop :=
  ∀ row ∈ rows, row.bytesReceived ≤ 2 ^ 53 ∧ row.bytesSent ≤ 2 ^ 53

structure SoundAt (all before : List StatisticRow) (row : StatisticRow) : Prop where
  part : keptOf all before <+: cleanUp all
  drops_or_keeps : Drops all before row ∨ Keeps all before row
  dropped_traffic : Exact all → 0 < row.bytesReceived + row.bytesSent → Drops all before row →
    row.bytesReceived + 1024 < maxFrom StatisticRow.bytesReceived 0 (keptOf all before) ∧
      row.bytesSent + 1024 < maxFrom StatisticRow.bytesSent 0 (keptOf all before)
  kept_traffic : Exact all → 0 < row.bytesReceived + row.bytesSent → Keeps all before row →
    ∀ earlier ∈ keptOf all before, ¬(row.bytesReceived + 1024 < earlier.bytesReceived ∧
      row.bytesSent + 1024 < earlier.bytesSent)
  dropped_empty : isEmptyStatisticRow row → Drops all before row →
    ∃ ts ∈ row.timestamp, ∃ other ∈ all, isEmptyStatisticRow other = false ∧ Nearby ts other

section Comparisons

variable {n limit : ℕ} {rows : List StatisticRow} {counter counter' : StatisticRow → ℕ}

/-- Against a number that a double has, the rounded sum compares as the sum. -/
theorem whole_add_lt (small : limit ≤ 2 ^ 53) :
    whole (n + 1024) < limit ↔ n + 1024 < limit := by
  by_cases exact_ : n + 1024 ≤ 2 ^ 53
  · rw [whole_exact exact_]
  · have top := @whole_exact (2 ^ 53) le_rfl
    have above := whole_mono (show 2 ^ 53 ≤ n + 1024 by omega)
    omega

theorem maxFrom_congr (same : ∀ row ∈ rows, counter row = counter' row) {m : ℕ} :
    maxFrom counter m rows = maxFrom counter' m rows := by
  induction rows generalizing m with
  | nil => rfl
  | cons row rest ih =>
    have later := @ih (fun row mem => same row (List.mem_cons_of_mem _ mem)) (max m (counter' row))
    rw [maxFrom, List.foldl_cons, same row List.mem_cons_self]
    exact later

theorem maxFrom_le {m : ℕ} (start : m ≤ limit) (bounded : ∀ row ∈ rows, counter row ≤ limit) :
    maxFrom counter m rows ≤ limit := by
  induction rows generalizing m with
  | nil => exact start
  | cons row rest ih =>
    exact ih (Nat.max_le.2 ⟨start, bounded row List.mem_cons_self⟩)
      fun row mem => bounded row (List.mem_cons_of_mem _ mem)

end Comparisons

theorem keptOf_subset (part : before ⊆ all) : keptOf all before ⊆ all := fun _ mem =>
  part (List.filter_sublist.subset (sieve_sublist.subset mem))

/-- With counters that a double has, the test is about the counters themselves. -/
theorem regressive_exact (exact_ : Exact all) (part : before ⊆ all) (mem : row ∈ all) :
    Regressive (maximaOf (keptOf all before)) row ↔
      0 < row.bytesReceived + row.bytesSent ∧
        row.bytesReceived + 1024 < maxFrom StatisticRow.bytesReceived 0 (keptOf all before) ∧
        row.bytesSent + 1024 < maxFrom StatisticRow.bytesSent 0 (keptOf all before) := by
  have kept (r : StatisticRow) (mem : r ∈ keptOf all before) := exact_ r (keptOf_subset part mem)
  have receivedMax : maxFrom received 0 (keptOf all before) =
      maxFrom StatisticRow.bytesReceived 0 (keptOf all before) :=
    maxFrom_congr fun r mem => whole_exact (kept r mem).1
  have sentMax : maxFrom sent 0 (keptOf all before) =
      maxFrom StatisticRow.bytesSent 0 (keptOf all before) :=
    maxFrom_congr fun r mem => whole_exact (kept r mem).2
  have receivedLe := maxFrom_le (m := 0) (Nat.zero_le _) fun r mem => (kept r mem).1
  have sentLe := maxFrom_le (m := 0) (Nat.zero_le _) fun r mem => (kept r mem).2
  rw [Regressive, maximaOf, receivedMax, sentMax, whole_exact (exact_ row mem).1,
    whole_exact (exact_ row mem).2, whole_add_lt receivedLe, whole_add_lt sentLe]

theorem soundAt (here : all = before ++ row :: later) : SoundAt all before row := by
  have part : before ⊆ all := here ▸ List.subset_append_left _ _
  have mem : row ∈ all := here ▸ List.mem_append_right _ List.mem_cons_self
  constructor
  · have whole := @keptOf_append all before (row :: later)
    rw [← here, keptOf_all] at whole
    exact ⟨_, whole.symm⟩
  · by_cases unwanted : Unwanted all before row
    · exact .inl (drops_iff.2 unwanted)
    · exact .inr (keeps_iff.2 unwanted)
  · intro exact_ traffic drops
    rcases drops_iff.1 drops with redundant | regressive
    · have empty := redundant.1
      simp only [isEmptyStatisticRow, decide_eq_true_eq] at empty
      omega
    · exact ((regressive_exact exact_ part mem).1 regressive).2
  · rintro exact_ traffic keeps earlier kept below
    refine keeps_iff.1 keeps (.inr ((regressive_exact exact_ part mem).2 ⟨traffic, ?_, ?_⟩))
    · exact Nat.lt_of_lt_of_le below.1 (le_maxFrom kept)
    · exact Nat.lt_of_lt_of_le below.2 (le_maxFrom kept)
  · intro empty drops
    rcases drops_iff.1 drops with redundant | regressive
    · exact redundant.2
    · have traffic := regressive.1
      simp only [isEmptyStatisticRow, decide_eq_true_eq] at empty
      omega

structure SoundFilter (rows : List StatisticRow) : Prop where
  sublist : (cleanUp rows).Sublist rows
  idempotent : cleanUp (cleanUp rows) = cleanUp rows
  places : ∀ before row later, rows = before ++ row :: later → SoundAt rows before row

theorem statistics_cleanup_sound (rows : List StatisticRow) :
    keptOf rows rows = cleanUp rows ∧ SoundFilter rows :=
  ⟨keptOf_all, cleanUp_sublist, cleanUp_cleanUp, fun _ _ _ here => soundAt here⟩

def highRow : StatisticRow := ⟨9007199254740993, 9007199254740993, 1, none⟩

def lowRow : StatisticRow := ⟨9007199254739968, 9007199254739968, 1, none⟩

/-- The second row is 1025 below the first one, and is computed to be 1024 below it. -/
theorem rounded_row_is_kept : cleanUp [highRow, lowRow] = [highRow, lowRow] ∧
    lowRow.bytesReceived + 1024 < highRow.bytesReceived ∧
    lowRow.bytesSent + 1024 < highRow.bytesSent := by
  decide +kernel

end StatisticFilters
