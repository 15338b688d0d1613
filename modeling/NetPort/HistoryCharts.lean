import Mathlib.Algebra.Field.Rat
import Mathlib.Algebra.Group.Prod
import Mathlib.Algebra.Order.BigOperators.Group.List
import Mathlib.Algebra.Order.Monoid.Prod
import Mathlib.Algebra.Order.Ring.Rat
import NetPort.SampleCharts

/-! The chart of a device from its hourly rows in `device_statistics`: when its speeds are the
hourly rates, which are the means of what the chart from the samples shows in the hour. -/
namespace HistoryCharts

open Doubles Double GridSums SampleCharts

/-- A row of `device_statistics`; the time is what `parseDbTimestamp` makes of it. -/
structure HistoryRow where
  periodStart : Option ℤ
  bytesReceived : ℕ
  bytesSent : ℕ
  peakConnections : ℕ
  deriving DecidableEq

def hourMs : ℤ := 60 * 60 * 1000

theorem hourMs_pos : 0 < hourMs := by decide

def hourOf (row : HistoryRow) : Option ℤ := row.periodStart.map (bucketOf hourMs)

/-- The rows of a device in any order; `unique_device_period` leaves one for an hour. So many bytes
are exact in a double, and their quotients by 3600 are told apart. -/
structure History where
  rows : List HistoryRow
  unique : (rows.filterMap hourOf).Nodup
  exact : ∀ r ∈ rows, ∀ _ ∈ hourOf r, r.bytesReceived ≤ 2 ^ 51 ∧ r.bytesSent ≤ 2 ^ 51

/-- One turn of `history.forEach`. -/
def setHour (bucketMap : ℤ → Option HistoryRow) (item : HistoryRow) : ℤ → Option HistoryRow :=
  match item.periodStart with
  | none => bucketMap
  | some date => Function.update bucketMap (bucketOf hourMs date) (some item)

/-- `prevBytesReceived`, `prevBytesSent` and `prevTime`. -/
structure Previous where
  bytesReceived : ℕ
  bytesSent : ℕ
  time : Option ℤ

def speedSince (prevTime : Option ℤ) (t : ℤ) (bytes prevBytes : ℕ) : Double :=
  match prevTime with
  | none => zero
  | some prevTime =>
    let dt := seconds (t - prevTime)
    if dt > 0 then nearest (((bytes : ℚ) - prevBytes) / dt) else zero

def historyRow (bucketMap : ℤ → Option HistoryRow) (prev : Previous) (t : ℤ) : Row :=
  let item := bucketMap t
  let bytesReceived := (item.map (·.bytesReceived)).getD 0
  let bytesSent := (item.map (·.bytesSent)).getD 0
  ⟨bytesReceived, bytesSent, (item.map (·.peakConnections)).getD 0,
    speedSince prev.time t bytesReceived prev.bytesReceived,
    speedSince prev.time t bytesSent prev.bytesSent⟩

/-- The loop over the hours, of `fuel` turns at most. A row comes with its date. -/
def historyLoop (bucketMap : ℤ → Option HistoryRow) (endMs : ℤ) :
    ℕ → Previous → ℤ → List (Row × ℤ)
  | 0, _, _ => []
  | fuel + 1, prev, t =>
    if t ≤ endMs then
      let row := historyRow bucketMap prev t
      (row, t) ::
        historyLoop bucketMap endMs fuel ⟨row.bytesReceived, row.bytesSent, some t⟩ (t + hourMs)
    else []

/-- `startMs` and `endMs`, which are whole hours. -/
def hourBounds (b : Bounds) : Bounds :=
  ⟨bucketOf hourMs b.startTime, bucketOf hourMs b.endTime, hourMs⟩

def buildDeviceChartFromHistory (host : LocalTime) (now : ℤ) (history : List HistoryRow)
    (timeRange : String) : List (Row × ℤ) :=
  let b := hourBounds (getChartRangeBounds host now timeRange)
  let bucketMap := history.foldl setHour fun _ => none
  historyLoop bucketMap b.endTime b.turns ⟨0, 0, none⟩ b.startTime

/-- What the `ON CONFLICT` makes of the row of the hour. -/
def HistoryRow.add (r : HistoryRow) (s : Sample) : HistoryRow :=
  { r with
    bytesReceived := r.bytesReceived + s.bytesReceivedDelta
    bytesSent := r.bytesSent + s.bytesSentDelta
    peakConnections := max r.peakConnections s.activeConnections }

/-- What `aggregate_device_hourly_statistics` makes of the rows at the time of a sample with the
same amounts. -/
def aggregateHourly (rows : List HistoryRow) (s : Sample) : List HistoryRow :=
  match s.recordedAt with
  | none => rows
  | some date =>
    if s.bytesSentDelta = 0 ∧ s.bytesReceivedDelta = 0 ∧ s.activeConnections = 0 then rows
    else
      let periodStart := bucketOf hourMs date
      if rows.any (·.periodStart = some periodStart) then
        rows.map fun r => if r.periodStart = some periodStart then r.add s else r
      else
        rows ++
          [⟨some periodStart, s.bytesReceivedDelta, s.bytesSentDelta, s.activeConnections⟩]

def HistoryRow.traffic (r : HistoryRow) : ℕ × ℕ := (r.bytesReceived, r.bytesSent)

def History.amount (h : History) (t : ℤ) : ℕ × ℕ :=
  cell hourOf HistoryRow.traffic h.rows (some t)

def sampled (samples : List Sample) (t : ℤ) : ℕ × ℕ := sampledIn hourMs samples t

def inHour (t k : ℤ) : Bool := t ≤ k ∧ k < t + hourMs

/-- The rates of a chart from samples, from `t` on for an hour. -/
def hourRates (part : ℕ × ℕ →+ ℕ) (b : Bounds) (samples : List Sample) (t : ℤ) : List ℚ :=
  ((rates part b samples).filter fun r => inHour t r.2).map Prod.fst

/-- In the hour from `t` on, the rows of the chart from samples show its rates, and `shown` is the
mean of these. -/
structure HourlyMean (speed : Row → Double) (part : ℕ × ℕ →+ ℕ) (b : Bounds)
    (samples : List Sample) (rows : List (Row × ℤ)) (t : ℤ) (shown : Double) : Prop where
  rates : ((rows.filter fun r => inHour t r.2).map fun r => speed r.1) =
    (hourRates part b samples t).map nearest
  mean : shown = nearest ((hourRates part b samples t).sum / (hourRates part b samples t).length)

/-- The chart from the history shows the rates of the hours, and in an hour that the chart from its
samples shows whole, the mean of the rates there. -/
structure HourlyRates (host : LocalTime) (now : ℤ) (h : History) (timeRange : String) : Prop where
  nonneg : ∀ r ∈ buildDeviceChartFromHistory host now h.rows timeRange,
    lt r.1.avgReceiveSpeed zero = false ∧ lt r.1.avgSendSpeed zero = false
  rate : ∀ r ∈ buildDeviceChartFromHistory host now h.rows timeRange,
    r.1.avgReceiveSpeed = nearest ((h.amount r.2).1 / 3600) ∧
      r.1.avgSendSpeed = nearest ((h.amount r.2).2 / 3600)
  mean : ∀ r ∈ buildDeviceChartFromHistory host now h.rows timeRange, ∀ samples,
    h.amount r.2 = sampled samples r.2 → getChartBucketMs timeRange ∣ hourMs →
    (getChartRangeBounds host now timeRange).startTime ≤ r.2 →
    r.2 + hourMs ≤ (getChartRangeBounds host now timeRange).endTime + getChartBucketMs timeRange →
    HourlyMean Row.avgReceiveSpeed (AddMonoidHom.fst ℕ ℕ) (getChartRangeBounds host now timeRange)
        samples (buildDeviceChartFromSamples host now samples timeRange) r.2 r.1.avgReceiveSpeed ∧
      HourlyMean Row.avgSendSpeed (AddMonoidHom.snd ℕ ℕ) (getChartRangeBounds host now timeRange)
        samples (buildDeviceChartFromSamples host now samples timeRange) r.2 r.1.avgSendSpeed

def hours (b : Bounds) : List ℤ :=
  points hourMs (hourBounds b).endTime (hourBounds b).turns (hourBounds b).startTime

/-- Only the last hour of the chart has bytes, and a single hour has none. -/
def OnlyLast (b : Bounds) (h : History) : Prop :=
  ∀ t ∈ hours b, t < (hourBounds b).endTime ∨ t = (hourBounds b).startTime → h.amount t = (0, 0)

instance (b : Bounds) (h : History) : Decidable (OnlyLast b h) :=
  inferInstanceAs (Decidable (∀ t ∈ hours b, _))

section Aggregation

variable {rows : List HistoryRow} {samples : List Sample} {s : Sample} {t : ℤ}

/-- The rows that the samples so far have been aggregated to. -/
structure Aggregated (rows : List HistoryRow) (samples : List Sample) : Prop where
  whole : ∀ r ∈ rows, hourOf r = r.periodStart
  unique : (rows.map hourOf).Nodup
  amounts : ∀ t, cell hourOf HistoryRow.traffic rows (some t) = sampled samples t

theorem bucketOf_bucketOf (date : ℤ) : bucketOf hourMs (bucketOf hourMs date) =
    bucketOf hourMs date := by
  unfold bucketOf
  rw [Int.mul_ediv_cancel _ (by decide)]

theorem sampled_append_singleton : sampled (samples ++ [s]) t =
    (if bucketOfSample hourMs s = some t then s.traffic else 0) + sampled samples t := by
  rw [sampled, sampledIn, cell_append, cell_cons, cell_nil, add_zero, add_comm, ← sampledIn,
    ← sampled]

/-- A sample without bytes, or without a time, leaves the rows as they are. -/
theorem Aggregated.skip (so_far : Aggregated rows samples)
    (nothing : ∀ t, (if bucketOfSample hourMs s = some t then s.traffic else 0) = 0) :
    Aggregated rows (samples ++ [s]) := by
  refine ⟨so_far.whole, so_far.unique, fun t => ?_⟩
  rw [sampled_append_singleton, nothing, zero_add, so_far.amounts]

theorem Aggregated.conflict (so_far : Aggregated rows samples) {hour : ℤ}
    (bucket : bucketOfSample hourMs s = some hour)
    (known : rows.any (·.periodStart = some hour)) :
    Aggregated (rows.map fun r => if r.periodStart = some hour then r.add s else r)
      (samples ++ [s]) := by
  have present : some hour ∈ rows.map hourOf := by
    obtain ⟨r, mem, start⟩ := List.any_eq_true.1 known
    exact List.mem_map.2 ⟨r, mem, (so_far.whole r mem).trans (of_decide_eq_true start)⟩
  have same (r : HistoryRow) : hourOf (r.add s) = hourOf r := rfl
  have rows_eq : (rows.map fun r => if r.periodStart = some hour then r.add s else r) =
      rows.map fun r => if hourOf r = some hour then r.add s else r :=
    List.map_congr_left fun r mem => by rw [so_far.whole r mem]
  rw [rows_eq]
  constructor
  · intro r mem
    obtain ⟨r', known, rfl⟩ := List.mem_map.1 mem
    split
    · exact so_far.whole r' known
    · exact so_far.whole r' known
  · rw [List.map_map]
    convert so_far.unique using 1
    refine List.map_congr_left fun r _ => ?_
    dsimp only [Function.comp]
    split
    · exact same r
    · rfl
  · intro t
    rw [cell_map_bump so_far.unique present same fun r => ?_, so_far.amounts,
      sampled_append_singleton, bucket]
    exact Prod.ext (Nat.add_comm _ _) (Nat.add_comm _ _)

theorem Aggregated.insert (so_far : Aggregated rows samples) {hour : ℤ}
    (bucket : bucketOfSample hourMs s = some hour) (whole : bucketOf hourMs hour = hour)
    (new : ¬rows.any (·.periodStart = some hour)) :
    Aggregated (rows ++ [⟨some hour, s.bytesReceivedDelta, s.bytesSentDelta, s.activeConnections⟩])
      (samples ++ [s]) := by
  have fresh : some hour ∉ rows.map hourOf := by
    intro mem
    obtain ⟨r, mem, start⟩ := List.mem_map.1 mem
    refine new (List.any_eq_true.2 ⟨r, mem, decide_eq_true ?_⟩)
    rw [← so_far.whole r mem, start]
  have own : hourOf ⟨some hour, s.bytesReceivedDelta, s.bytesSentDelta, s.activeConnections⟩ =
      some hour := congrArg some whole
  constructor
  · intro r mem
    rcases List.mem_append.1 mem with mem | mem
    · exact so_far.whole r mem
    · rw [List.mem_singleton.1 mem]
      exact own
  · rw [List.map_append, List.map_singleton, own]
    exact so_far.unique.append (List.nodup_singleton _) (List.disjoint_singleton.2 fresh)
  · intro t
    rw [cell_append, cell_cons, own, cell_nil, so_far.amounts, sampled_append_singleton, bucket,
      add_zero, add_comm]
    rfl

theorem Aggregated.step (so_far : Aggregated rows samples) :
    Aggregated (aggregateHourly rows s) (samples ++ [s]) := by
  unfold aggregateHourly
  split
  · rename_i missing
    refine so_far.skip fun t => if_neg ?_
    simp [bucketOfSample, missing]
  · rename_i date dated
    have bucket : bucketOfSample hourMs s = some (bucketOf hourMs date) := by
      simp [bucketOfSample, dated]
    split
    · rename_i idle
      have nothing : s.traffic = 0 := Prod.ext idle.2.1 idle.1
      exact so_far.skip fun t => by rw [nothing, ite_self]
    · dsimp only
      split
      · rename_i known
        exact so_far.conflict bucket known
      · rename_i new
        exact so_far.insert bucket (bucketOf_bucketOf date) new

theorem Aggregated.run (so_far : Aggregated rows samples) (later : List Sample) :
    Aggregated (later.foldl aggregateHourly rows) (samples ++ later) := by
  induction later generalizing rows samples with
  | nil => rwa [List.append_nil]
  | cons s later ih =>
    have := ih (so_far.step (s := s))
    rwa [List.append_assoc, List.singleton_append] at this

theorem aggregated (samples : List Sample) :
    Aggregated (samples.foldl aggregateHourly []) samples :=
  @Aggregated.run [] []
    ⟨fun _ mem => absurd mem List.not_mem_nil, List.nodup_nil, fun _ => rfl⟩ samples

def History.ofSamples (samples : List Sample)
    (bounded : ∀ t, sampled samples t ≤ (2 ^ 51, 2 ^ 51)) : History where
  rows := samples.foldl aggregateHourly []
  unique := by
    have hours := (aggregated samples).unique.filterMap
      fun (_ : Option ℤ) _ _ h h' => h.trans h'.symm
    rwa [List.filterMap_map] at hours
  exact := by
    intro r mem t hour
    have part : r.traffic ≤ cell hourOf HistoryRow.traffic (samples.foldl aggregateHourly [])
        (some t) :=
      List.le_sum_of_mem (List.mem_map_of_mem (List.mem_filter.2 ⟨mem, decide_eq_true hour⟩))
    rw [(aggregated samples).amounts] at part
    exact part.trans (bounded t)

theorem History.amount_ofSamples {bounded : ∀ t, sampled samples t ≤ (2 ^ 51, 2 ^ 51)} :
    (History.ofSamples samples bounded).amount t = sampled samples t :=
  (aggregated samples).amounts t

end Aggregation

section Rows

variable {rows : List HistoryRow} {bucketMap : ℤ → Option HistoryRow} {r : HistoryRow} {t : ℤ}

def shown (item : Option HistoryRow) : ℕ × ℕ :=
  ((item.map (·.bytesReceived)).getD 0, (item.map (·.bytesSent)).getD 0)

theorem setHour_apply : setHour bucketMap r t = if hourOf r = some t then some r
    else bucketMap t := by
  unfold setHour hourOf
  cases r.periodStart with
  | none => simp
  | some date =>
    by_cases here : bucketOf hourMs date = t
    · subst here
      simp
    · simp [here, Function.update_of_ne (Ne.symm here)]

theorem shown_foldl (unique : (rows.filterMap hourOf).Nodup) :
    shown (rows.foldl setHour bucketMap t) = cell hourOf HistoryRow.traffic rows (some t) +
      if t ∈ rows.filterMap hourOf then 0 else shown (bucketMap t) := by
  induction rows generalizing bucketMap with
  | nil => simp [cell_nil]
  | cons r rest ih =>
    rw [List.foldl_cons, cell_cons]
    cases hour : hourOf r with
    | none =>
      rw [List.filterMap_cons_none hour] at unique ⊢
      simp [ih unique, setHour_apply, hour]
    | some k =>
      rw [List.filterMap_cons_some hour] at unique ⊢
      obtain ⟨new, unique⟩ := List.nodup_cons.1 unique
      rw [ih unique, setHour_apply, hour]
      by_cases here : k = t
      · subst here
        simp [new, shown, HistoryRow.traffic, add_comm]
      · simp [here, Ne.symm here]

theorem shown_amount (h : History) (t : ℤ) :
    shown (h.rows.foldl setHour (fun _ => none) t) = h.amount t := by
  rw [shown_foldl h.unique, History.amount]
  split <;> exact add_zero _

theorem mem_foldl_setHour (found : rows.foldl setHour bucketMap t = some r) :
    (r ∈ rows ∧ hourOf r = some t) ∨ bucketMap t = some r := by
  induction rows generalizing bucketMap with
  | nil => exact .inr found
  | cons first rest ih =>
    rcases ih found with ⟨mem, hour⟩ | earlier
    · exact .inl ⟨List.mem_cons_of_mem _ mem, hour⟩
    · rw [setHour_apply] at earlier
      split at earlier
      · rename_i here
        cases earlier
        exact .inl ⟨List.mem_cons_self, here⟩
      · exact .inr earlier

theorem History.amount_le (h : History) (t : ℤ) :
    (h.amount t).1 ≤ 2 ^ 51 ∧ (h.amount t).2 ≤ 2 ^ 51 := by
  rw [← shown_amount]
  cases found : h.rows.foldl setHour (fun _ => none) t with
  | none => exact ⟨Nat.zero_le _, Nat.zero_le _⟩
  | some r =>
    rcases mem_foldl_setHour found with ⟨mem, hour⟩ | earlier
    · exact h.exact r mem t hour
    · cases earlier

end Rows

section Loop

variable {bucketMap : ℤ → Option HistoryRow} {endMs start t : ℤ} {fuel : ℕ} {prev : Previous}

def before (bucketMap : ℤ → Option HistoryRow) (t : ℤ) : Previous :=
  ⟨(shown (bucketMap (t - hourMs))).1, (shown (bucketMap (t - hourMs))).2, some (t - hourMs)⟩

theorem historyLoop_eq : historyLoop bucketMap endMs fuel prev t =
    (points hourMs endMs fuel t).map fun k =>
      (historyRow bucketMap (if k = t then prev else before bucketMap k) k, k) := by
  induction fuel generalizing prev t with
  | zero => rfl
  | succ fuel ih =>
    rw [historyLoop, points]
    split
    · dsimp only
      rw [List.map_cons, if_pos rfl, ih]
      refine congrArg _ (List.map_congr_left fun k mem => ?_)
      have later := le_of_mem_points hourMs_pos mem
      have positive := hourMs_pos
      have past : k ≠ t := by omega
      rw [if_neg past]
      split
      · rename_i same
        rw [same, before, show t + hourMs - hourMs = t by omega]
        rfl
      · rfl
    · rfl

theorem speed_later (bytes prevBytes : ℕ) :
    speedSince (some (t - hourMs)) t bytes prevBytes =
      nearest (((bytes : ℚ) - prevBytes) / 3600) := by
  have dt : seconds (t - (t - hourMs)) = 3600 := by
    rw [show t - (t - hourMs) = 3600000 by rw [hourMs]; omega]
    decide +kernel
  simp only [speedSince, dt]
  rw [if_pos (by decide)]

end Loop

section Charts

variable {host : LocalTime} {now : ℤ} {timeRange : String} {b : Bounds} {h : History} {t : ℤ}
  {r : Row × ℤ}

theorem mem_hours : t ∈ hours b ↔ (hourBounds b).startTime ≤ t ∧ t ≤ (hourBounds b).endTime ∧
    hourMs ∣ t - (hourBounds b).startTime :=
  mem_points hourMs_pos (hourBounds b).turns_enough

theorem dvd_of_mem_hours (mem : t ∈ hours b) : hourMs ∣ t := by
  have multiple := (mem_hours.1 mem).2.2
  have first : hourMs ∣ (hourBounds b).startTime := dvd_bucketOf
  have := Int.dvd_add multiple first
  rwa [Int.sub_add_cancel] at this

theorem next_mem_hours (mem : t ∈ hours b) (early : t < (hourBounds b).endTime) :
    t + hourMs ∈ hours b := by
  have ⟨start, _, multiple⟩ := mem_hours.1 mem
  have whole : hourMs ∣ (hourBounds b).endTime - (hourBounds b).startTime :=
    Int.dvd_sub dvd_bucketOf dvd_bucketOf
  have left : hourMs ∣ (hourBounds b).endTime - t := by
    have := Int.dvd_sub whole multiple
    rwa [show (hourBounds b).endTime - (hourBounds b).startTime - (t - (hourBounds b).startTime) =
      (hourBounds b).endTime - t by omega] at this
  have enough := Int.le_of_dvd (by omega) left
  have positive := hourMs_pos
  refine mem_hours.2 ⟨by omega, by omega, ?_⟩
  have := Int.dvd_add multiple (Int.dvd_refl hourMs)
  rwa [show t - (hourBounds b).startTime + hourMs = t + hourMs - (hourBounds b).startTime by omega]
    at this

theorem previous_mem_hours (mem : t ∈ hours b) (later : t ≠ (hourBounds b).startTime) :
    t - hourMs ∈ hours b ∧ t - hourMs < (hourBounds b).endTime := by
  have ⟨start, last, multiple⟩ := mem_hours.1 mem
  have enough := Int.le_of_dvd (by omega) multiple
  have positive := hourMs_pos
  refine ⟨mem_hours.2 ⟨by omega, by omega, ?_⟩, by omega⟩
  have := Int.dvd_sub multiple (Int.dvd_refl hourMs)
  rwa [show t - (hourBounds b).startTime - hourMs = t - hourMs - (hourBounds b).startTime by omega]
    at this

/-- What the code computes as the speed at `t` from the bytes of the hours. -/
def difference (start t : ℤ) (bytes : ℤ → ℕ) : Double :=
  if t = start then zero else nearest (((bytes t : ℚ) - bytes (t - hourMs)) / 3600)

def rowAt (b : Bounds) (h : History) (t : ℤ) : Row :=
  let bucketMap := h.rows.foldl setHour fun _ => none
  historyRow bucketMap (if t = (hourBounds b).startTime then ⟨0, 0, none⟩ else before bucketMap t) t

theorem buildDeviceChartFromHistory_eq : buildDeviceChartFromHistory host now h.rows timeRange =
    (hours (getChartRangeBounds host now timeRange)).map fun t =>
      (rowAt (getChartRangeBounds host now timeRange) h t, t) := historyLoop_eq

theorem rowAt_speeds : (rowAt b h t).avgReceiveSpeed =
      difference (hourBounds b).startTime t (fun t => (h.amount t).1) ∧
    (rowAt b h t).avgSendSpeed =
      difference (hourBounds b).startTime t (fun t => (h.amount t).2) := by
  unfold rowAt difference
  split
  · exact ⟨rfl, rfl⟩
  · simp only [← shown_amount]
    exact ⟨speed_later _ _, speed_later _ _⟩

theorem nearest_zero : nearest 0 = zero := by
  change ofRatio _ (0 * one) 1 = zero
  rw [Nat.zero_mul, ofRatio_zero]

theorem difference_eq_rate {start : ℤ} {bytes : ℤ → ℕ} (exact_ : ∀ t, bytes t ≤ 2 ^ 51) :
    difference start t bytes = nearest (bytes t / 3600) ↔
      if t = start then bytes t = 0 else bytes (t - hourMs) = 0 := by
  have now_ := exact_ t
  have before_ := exact_ (t - hourMs)
  have apart {x y : ℤ} (small : x.natAbs ≤ 2 ^ 51) (small' : y.natAbs ≤ 2 ^ 51) :
      nearest ((x : ℚ) / 3600) = nearest ((y : ℚ) / 3600) ↔ x = y := by
    have := @nearest_div_inj x y 3600 (by decide) (by decide) small small'
    rwa [Nat.cast_ofNat] at this
  unfold difference
  split
  · have none_ := @apart 0 (bytes t) (by decide) (by omega)
    rw [Int.cast_zero, zero_div, nearest_zero, Int.cast_natCast] at none_
    rw [none_]
    omega
  · have change := @apart ((bytes t : ℤ) - bytes (t - hourMs)) (bytes t) (by omega) (by omega)
    rw [Int.cast_sub, Int.cast_natCast, Int.cast_natCast] at change
    rw [change]
    omega

/-- The rates are shown exactly if only the last hour has bytes. -/
theorem rates_iff : (∀ t ∈ hours b,
    (rowAt b h t).avgReceiveSpeed = nearest ((h.amount t).1 / 3600) ∧
      (rowAt b h t).avgSendSpeed = nearest ((h.amount t).2 / 3600)) ↔ OnlyLast b h := by
  have exact_ (t : ℤ) : ((rowAt b h t).avgReceiveSpeed = nearest ((h.amount t).1 / 3600) ∧
      (rowAt b h t).avgSendSpeed = nearest ((h.amount t).2 / 3600)) ↔
      if t = (hourBounds b).startTime then h.amount t = (0, 0) else
        h.amount (t - hourMs) = (0, 0) := by
    rw [rowAt_speeds.1, rowAt_speeds.2,
      @difference_eq_rate _ _ (fun t => (h.amount t).1) fun t => (h.amount_le t).1,
      @difference_eq_rate _ _ (fun t => (h.amount t).2) fun t => (h.amount_le t).2]
    split <;> exact (Prod.ext_iff (y := (0, 0))).symm
  simp only [exact_]
  constructor
  · rintro rates t mem (early | first)
    · have := rates (t + hourMs) (next_mem_hours mem early)
      have positive := hourMs_pos
      have start := (mem_hours.1 mem).1
      rwa [if_neg (by omega), show t + hourMs - hourMs = t by omega] at this
    · have := rates t mem
      rwa [if_pos first] at this
  · intro only t mem
    split
    · rename_i first
      exact only t mem (.inr first)
    · rename_i later
      obtain ⟨mem, early⟩ := previous_mem_hours mem later
      exact only _ mem (.inl early)

end Charts

section Means

variable {host : LocalTime} {now : ℤ} {timeRange : String} {b : Bounds} {samples : List Sample}
  {t : ℤ} {n : ℕ} {speed : Row → Double} {part : ℕ × ℕ →+ ℕ}

/-- The buckets of a chart that begin in the hour from `t` on. -/
def window (b : Bounds) (t : ℤ) : List ℤ :=
  (points b.bucketMs b.endTime b.turns b.startTime).filter fun k => t ≤ k ∧ k < t + hourMs

theorem hourRates_eq : hourRates part b samples t = (window b t).map fun k =>
    (part (sampledIn b.bucketMs samples k) : ℚ) / seconds b.bucketMs := by
  rw [hourRates, rates, List.filter_map, List.map_map]
  rfl

/-- The chart shows the whole hour, in buckets that divide it. -/
structure Whole (b : Bounds) (t : ℤ) : Prop where
  aligned : Aligned b
  hour : hourMs ∣ t
  divides : b.bucketMs ∣ hourMs
  begins : b.startTime ≤ t
  ends : t + hourMs ≤ b.endTime + b.bucketMs

theorem Whole.dvd (whole : Whole b t) : b.bucketMs ∣ t := Int.dvd_trans whole.divides whole.hour

theorem Whole.length (whole : Whole b t) (count : hourMs = n * b.bucketMs) :
    (window b t).length = n := by
  have divides : b.bucketMs ∣ t - b.startTime := Int.dvd_sub whole.dvd whole.aligned.start_dvd
  have ends := whole.ends
  rw [count] at ends
  have length := points_window whole.aligned.pos b.turns_enough whole.begins divides ends
  rwa [← count] at length

theorem Whole.mem_window (whole : Whole b t) (s : Sample) :
    bucketOfSample b.bucketMs s ∈ (window b t).map some ↔ bucketOfSample hourMs s = some t := by
  have pos := whole.aligned.pos
  unfold window bucketOfSample
  cases s.recordedAt with
  | none => simp
  | some date =>
    have lower := @le_bucketOf_iff b.bucketMs date t pos whole.dvd
    have upper := @le_bucketOf_iff b.bucketMs date (t + hourMs) pos
      (Int.dvd_add whole.dvd whole.divides)
    have last := @bucketOf_le_iff b.bucketMs date b.endTime pos whole.aligned.end_dvd
    have from_ := @le_bucketOf_iff hourMs date t hourMs_pos whole.hour
    have to_ := @bucketOf_le_iff hourMs date t hourMs_pos whole.hour
    have multiple : b.bucketMs ∣ bucketOf b.bucketMs date - b.startTime :=
      Int.dvd_sub dvd_bucketOf whole.aligned.start_dvd
    have begins := whole.begins
    have ends := whole.ends
    simp only [Option.map_some, List.mem_map, List.mem_filter, decide_eq_true_eq,
      mem_points pos b.turns_enough, Option.some.injEq, exists_eq_right, multiple, and_true]
    omega

theorem Whole.sum (whole : Whole b t) :
    ((window b t).map (sampledIn b.bucketMs samples)).sum = sampled samples t := by
  have nodup : ((window b t).map some).Nodup :=
    ((nodup_points whole.aligned.pos).filter _).map (Option.some_injective ℤ)
  have cells := @sum_cells _ _ _ _ _ (bucketOfSample b.bucketMs) Sample.traffic _ _ _ nodup
    whole.mem_window samples
  rw [List.map_map] at cells
  exact cells

/-- The mean of the rates of an hour is the rate of its samples. -/
theorem Whole.mean (whole : Whole b t) (part : ℕ × ℕ →+ ℕ) :
    (hourRates part b samples t).sum / (hourRates part b samples t).length =
      part (sampled samples t) / 3600 := by
  have pos := whole.aligned.pos
  obtain ⟨c, hc⟩ := whole.divides
  have nonneg : 0 ≤ c := by
    by_contra negative
    have := Int.mul_le_mul_of_nonneg_left (show c ≤ -1 by omega) pos.le
    have := hourMs_pos
    omega
  have count : hourMs = c.toNat * b.bucketMs := by
    rw [hc, Int.toNat_of_nonneg nonneg, Int.mul_comm]
  have hour : seconds b.bucketMs * c.toNat = 3600 := by
    have cast : (b.bucketMs : ℚ) * c.toNat = 3600000 := by
      rw [mul_comm]
      exact_mod_cast count.symm
    rw [seconds, div_mul_eq_mul_div, cast]
    decide +kernel
  have sum := sum_rates part (seconds b.bucketMs) (sampledIn b.bucketMs samples) (window b t)
  rw [hourRates_eq, List.length_map, sum, whole.sum, whole.length count, div_div, hour]

/-- An hour of the history with the rate of its samples shows their mean. -/
theorem Whole.hourlyMean (whole : Whole b t) (shows : Shows speed part) {shown : Double}
    (rate : shown = nearest (part (sampled samples t) / 3600)) :
    HourlyMean speed part b samples (chartBetween b samples) t shown := by
  refine ⟨?_, by rw [rate, whole.mean part]⟩
  have speeds := congrArg (fun rows => (rows.filter fun r => inHour t r.2).map Prod.fst)
    (shows.chartBetween samples whole.aligned)
  simp only [List.filter_map, List.map_map] at speeds
  rw [hourRates, List.map_map]
  exact speeds

end Means

/-- The speeds are the hourly rates exactly in charts where no hour before the last has bytes. -/
theorem history_speed_exactly (host : LocalTime) (now : ℤ) (h : History) (timeRange : String) :
    HourlyRates host now h timeRange ↔ OnlyLast (getChartRangeBounds host now timeRange) h := by
  rw [← rates_iff]
  constructor
  · intro shown t mem
    refine shown.rate (_, t) ?_
    rw [buildDeviceChartFromHistory_eq]
    exact List.mem_map_of_mem mem
  · intro rates
    have rate (r : Row × ℤ) (mem : r ∈ buildDeviceChartFromHistory host now h.rows timeRange) :
        r.2 ∈ hours (getChartRangeBounds host now timeRange) ∧
          r.1.avgReceiveSpeed = nearest ((h.amount r.2).1 / 3600) ∧
          r.1.avgSendSpeed = nearest ((h.amount r.2).2 / 3600) := by
      rw [buildDeviceChartFromHistory_eq] at mem
      obtain ⟨t, hour, rfl⟩ := List.mem_map.1 mem
      exact ⟨hour, rates t hour⟩
    have nonneg (n : ℕ) : (0 : ℚ) ≤ n / 3600 := div_nonneg (Nat.cast_nonneg _) (by decide)
    refine ⟨fun r mem => ?_, fun r mem => (rate r mem).2, ?_⟩
    · obtain ⟨-, received, sent⟩ := rate r mem
      rw [received, sent]
      exact ⟨nearest_nonneg (nonneg _), nearest_nonneg (nonneg _)⟩
    · intro r mem samples same divides begins ends
      obtain ⟨hour, received, sent⟩ := rate r mem
      have whole : Whole (getChartRangeBounds host now timeRange) r.2 :=
        ⟨getChartRangeBounds_aligned host now timeRange, dvd_of_mem_hours hour, divides, begins,
          ends⟩
      rw [same] at received sent
      rw [buildDeviceChartFromSamples_eq]
      exact ⟨whole.hourlyMean shows_received received, whole.hourlyMean shows_sent sent⟩

def twoHours : History :=
  ⟨[⟨some hourMs, 7200, 7200, 1⟩, ⟨some (2 * hourMs), 3600, 3600, 1⟩], by decide, by decide⟩

/-- The second hour is shown with a negative speed, and a single hour with none. -/
theorem speed_below_zero :
    (buildDeviceChartFromHistory plainClock (2 * hourMs) twoHours.rows "1hour").map
        (fun r => (r.1.avgReceiveSpeed.value, r.2)) = [(0, hourMs), (-1, 2 * hourMs)] ∧
      ¬ HourlyRates plainClock (2 * hourMs) twoHours "1hour" := by
  have rows : (buildDeviceChartFromHistory plainClock (2 * hourMs) twoHours.rows "1hour").map
      (fun r => (r.1.avgReceiveSpeed.value, r.2)) = [(0, hourMs), (-1, 2 * hourMs)] := by
    decide +kernel
  have negative : ∃ r ∈ buildDeviceChartFromHistory plainClock (2 * hourMs) twoHours.rows "1hour",
      lt r.1.avgReceiveSpeed zero = true := by
    decide +kernel
  refine ⟨rows, fun shown => ?_⟩
  obtain ⟨r, mem, below⟩ := negative
  rw [(shown.nonneg r mem).1] at below
  cases below

end HistoryCharts
