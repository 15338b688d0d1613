import Mathlib.Algebra.BigOperators.Ring.List
import Mathlib.Algebra.Field.Rat
import Mathlib.Algebra.Group.Prod
import Mathlib.Algebra.Order.Field.Basic
import Mathlib.Algebra.Order.Monoid.Prod
import Mathlib.Algebra.Order.Ring.Cast
import Mathlib.Algebra.Order.Ring.Rat
import Mathlib.Data.List.Nodup
import Mathlib.Data.Nat.Cast.Basic
import NetPort.DoubleQuotients
import NetPort.GridSums

/-! The charts of `statsFormat.js`: the range and the buckets of a chart, its filled timeline, and
the chart of a device from its traffic samples. Byte counts are naturals, as the numbers of
JavaScript are up to 2^53; quotients are rounded to doubles. -/
namespace SampleCharts

open Doubles Double GridSums

/-- How the clock of the host goes back from a time: `setHours(getHours() - n)` and its likes. -/
structure LocalTime where
  hoursBack : ℕ → ℤ → ℤ
  daysBack : ℕ → ℤ → ℤ
  monthsBack : ℕ → ℤ → ℤ

/-- A clock without changes of the offset, in months of thirty days. -/
def plainClock : LocalTime where
  hoursBack n t := t - n * (60 * 60 * 1000)
  daysBack n t := t - n * (24 * 60 * 60 * 1000)
  monthsBack n t := t - n * (30 * 24 * 60 * 60 * 1000)

def getChartBucketMs (timeRange : String) : ℤ :=
  if timeRange = "1hour" ∨ timeRange = "6hours" then 60 * 1000
  else if timeRange = "24hours" ∨ timeRange = "1day" then 5 * 60 * 1000
  else if timeRange = "3days" then 15 * 60 * 1000
  else if timeRange = "1week" then 60 * 60 * 1000
  else if timeRange = "1month" then 4 * 60 * 60 * 1000
  else 5 * 60 * 1000

structure Bounds where
  startTime : ℤ
  endTime : ℤ
  bucketMs : ℤ
  deriving DecidableEq

/-- `Math.floor(time / bucketMs) * bucketMs` -/
def bucketOf (bucketMs time : ℤ) : ℤ := time / bucketMs * bucketMs

def getChartRangeBounds (host : LocalTime) (now : ℤ) (timeRange : String) : Bounds :=
  let startTime :=
    if timeRange = "1hour" then host.hoursBack 1 now
    else if timeRange = "6hours" then host.hoursBack 6 now
    else if timeRange = "24hours" ∨ timeRange = "1day" then host.daysBack 1 now
    else if timeRange = "3days" then host.daysBack 3 now
    else if timeRange = "1week" then host.daysBack 7 now
    else if timeRange = "1month" then host.monthsBack 1 now
    else host.daysBack 1 now
  let bucketMs := getChartBucketMs timeRange
  ⟨bucketOf bucketMs startTime, bucketOf bucketMs now, bucketMs⟩

/-- `createPoint`: what goes on from a bucket to the next one, and what a row shows of it. -/
structure CreatePoint (β σ ρ : Type) where
  initialState : σ
  nextState : σ → Option β → ℤ → σ
  toRow : σ → Option β → ℤ → ρ

section Timeline

variable {β σ ρ : Type}

/-- The loop of `buildFilledTimeline`, of `fuel` turns at most. A row comes with its date. -/
def fill (createPoint : CreatePoint β σ ρ) (bucketMap : ℤ → Option β) (bucketMs endTime : ℤ) :
    ℕ → σ → ℤ → List (ρ × ℤ)
  | 0, _, _ => []
  | fuel + 1, state, t =>
    if t ≤ endTime then
      let bucket := bucketMap t
      let state := createPoint.nextState state bucket t
      (createPoint.toRow state bucket t, t) ::
        fill createPoint bucketMap bucketMs endTime fuel state (t + bucketMs)
    else []

def Bounds.turns (b : Bounds) : ℕ := (b.endTime - b.startTime).toNat + 1

theorem Bounds.turns_enough (b : Bounds) : b.endTime - b.startTime < b.turns := by
  unfold Bounds.turns
  omega

def buildFilledTimeline (host : LocalTime) (now : ℤ) (timeRange : String) (bucketMs : ℤ)
    (bucketMap : ℤ → Option β) (createPoint : CreatePoint β σ ρ) : List (ρ × ℤ) :=
  let b := getChartRangeBounds host now timeRange
  fill createPoint bucketMap bucketMs b.endTime b.turns createPoint.initialState b.startTime

end Timeline

/-- A row of `device_traffic_samples`; the time is what `parseDbTimestamp` makes of it. -/
structure Sample where
  recordedAt : Option ℤ
  bytesReceivedDelta : ℕ
  bytesSentDelta : ℕ
  activeConnections : ℕ

structure Bucket where
  receivedDelta : ℕ
  sentDelta : ℕ
  connections : ℕ
  deriving DecidableEq

def Bucket.add (existing : Bucket) (sample : Sample) : Bucket :=
  ⟨existing.receivedDelta + sample.bytesReceivedDelta,
    existing.sentDelta + sample.bytesSentDelta,
    max existing.connections sample.activeConnections⟩

/-- One turn of `samples.forEach`. -/
def addSample (bucketMs : ℤ) (bucketMap : ℤ → Option Bucket) (sample : Sample) :
    ℤ → Option Bucket :=
  match sample.recordedAt with
  | none => bucketMap
  | some date =>
    let key := bucketOf bucketMs date
    let existing := (bucketMap key).getD ⟨0, 0, 0⟩
    Function.update bucketMap key (some (existing.add sample))

structure ChartState where
  cumulativeReceived : ℕ
  cumulativeSent : ℕ
  receivedDelta : ℕ
  sentDelta : ℕ
  connections : ℕ

structure Row where
  bytesReceived : ℕ
  bytesSent : ℕ
  peakConnections : ℕ
  avgReceiveSpeed : Double
  avgSendSpeed : Double
  deriving DecidableEq

def seconds (bucketMs : ℤ) : ℚ := bucketMs / 1000

def samplePoint (bucketMs : ℤ) : CreatePoint Bucket ChartState Row where
  initialState := ⟨0, 0, 0, 0, 0⟩
  nextState state bucket _ :=
    let receivedDelta := (bucket.map (·.receivedDelta)).getD 0
    let sentDelta := (bucket.map (·.sentDelta)).getD 0
    ⟨state.cumulativeReceived + receivedDelta, state.cumulativeSent + sentDelta, receivedDelta,
      sentDelta, (bucket.map (·.connections)).getD 0⟩
  toRow state _ _ :=
    let dt := seconds bucketMs
    ⟨state.cumulativeReceived, state.cumulativeSent, state.connections,
      if dt > 0 then nearest (state.receivedDelta / dt) else zero,
      if dt > 0 then nearest (state.sentDelta / dt) else zero⟩

def buildDeviceChartFromSamples (host : LocalTime) (now : ℤ) (samples : List Sample)
    (timeRange : String) : List (Row × ℤ) :=
  let bucketMs := (getChartRangeBounds host now timeRange).bucketMs
  let bucketMap := samples.foldl (addSample bucketMs) fun _ => none
  buildFilledTimeline host now timeRange bucketMs bucketMap (samplePoint bucketMs)

def Sample.traffic (s : Sample) : ℕ × ℕ := (s.bytesReceivedDelta, s.bytesSentDelta)

/-- The sample was taken at `start` or later, and before the bucket after `end`. -/
def InRange (b : Bounds) (s : Sample) : Prop :=
  ∃ date ∈ s.recordedAt, b.startTime ≤ date ∧ date < b.endTime + b.bucketMs

instance (b : Bounds) (s : Sample) : Decidable (InRange b s) := by
  dsimp only [InRange]
  infer_instance

def trafficIn (b : Bounds) (samples : List Sample) : ℕ × ℕ :=
  ((samples.filter fun s => InRange b s).map Sample.traffic).sum

def Row.traffic (r : Row) : ℕ × ℕ := (r.bytesReceived, r.bytesSent)

variable {host : LocalTime} {now : ℤ} {timeRange : String} {samples : List Sample} {b : Bounds}

theorem bucketMs_pos (timeRange : String) : 0 < getChartBucketMs timeRange := by
  unfold getChartBucketMs
  split_ifs <;> decide

section Buckets

variable {bucketMs time k : ℤ}

theorem bucketOf_le (pos : 0 < bucketMs) : bucketOf bucketMs time ≤ time :=
  Int.ediv_mul_le time pos.ne'

theorem dvd_bucketOf : bucketMs ∣ bucketOf bucketMs time := Int.dvd_mul_left _ _

/-- A time lies in the bucket that begins at the multiple before it. -/
theorem le_bucketOf_iff (pos : 0 < bucketMs) (multiple : bucketMs ∣ k) :
    k ≤ bucketOf bucketMs time ↔ k ≤ time := by
  refine ⟨fun h => h.trans (bucketOf_le pos), fun h => ?_⟩
  obtain ⟨n, rfl⟩ := multiple
  have : n ≤ time / bucketMs := (Int.le_ediv_iff_mul_le pos).2 (by rwa [Int.mul_comm])
  rw [Int.mul_comm]
  exact Int.mul_le_mul_of_nonneg_right this pos.le

theorem bucketOf_le_iff (pos : 0 < bucketMs) (multiple : bucketMs ∣ k) :
    bucketOf bucketMs time ≤ k ↔ time < k + bucketMs := by
  have next := @le_bucketOf_iff bucketMs time (k + bucketMs) pos
    (Int.dvd_add multiple (Int.dvd_refl bucketMs))
  have apart : k < bucketOf bucketMs time ↔ k + bucketMs ≤ bucketOf bucketMs time := by
    obtain ⟨m, hm⟩ := multiple
    obtain ⟨n, hn⟩ := @dvd_bucketOf bucketMs time
    rw [hm, hn]
    constructor
    · intro h
      have := Int.lt_of_mul_lt_mul_left h pos.le
      calc bucketMs * m + bucketMs = bucketMs * (m + 1) := by rw [Int.mul_add, Int.mul_one]
        _ ≤ bucketMs * n := Int.mul_le_mul_of_nonneg_left (by omega) pos.le
    · intro h
      omega
  omega

end Buckets
def delta (bucket : Option Bucket) : ℕ × ℕ :=
  ((bucket.map (·.receivedDelta)).getD 0, (bucket.map (·.sentDelta)).getD 0)

def bucketOfSample (bucketMs : ℤ) (s : Sample) : Option ℤ := s.recordedAt.map (bucketOf bucketMs)

section Gathering

variable {bucketMs k : ℤ} {bucketMap : ℤ → Option Bucket} {s s' : Sample}

theorem addSample_apply : addSample bucketMs bucketMap s k =
    if bucketOfSample bucketMs s = some k then some (((bucketMap k).getD ⟨0, 0, 0⟩).add s)
    else bucketMap k := by
  unfold addSample bucketOfSample
  cases s.recordedAt with
  | none => simp
  | some date =>
    by_cases here : bucketOf bucketMs date = k
    · subst here
      simp
    · simp [here, Function.update_of_ne (Ne.symm here)]

theorem Bucket.add_comm (b : Bucket) (s s' : Sample) : (b.add s).add s' = (b.add s').add s := by
  simp only [Bucket.add, Bucket.mk.injEq]
  omega

theorem addSample_comm : addSample bucketMs (addSample bucketMs bucketMap s) s' =
    addSample bucketMs (addSample bucketMs bucketMap s') s := by
  funext k
  simp only [addSample_apply]
  split_ifs
  · rw [Option.getD_some, Option.getD_some, Bucket.add_comm]
  all_goals rfl

theorem delta_addSample : delta (addSample bucketMs bucketMap s k) =
    (if bucketOfSample bucketMs s = some k then s.traffic else 0) + delta (bucketMap k) := by
  rw [addSample_apply]
  split_ifs
  · cases bucketMap k <;> simp [delta, Bucket.add, Sample.traffic, Nat.add_comm]
  · rw [zero_add]

theorem delta_buckets (samples : List Sample) :
    delta (samples.foldl (addSample bucketMs) bucketMap k) =
      cell (bucketOfSample bucketMs) Sample.traffic samples (some k) + delta (bucketMap k) := by
  induction samples generalizing bucketMap with
  | nil => rw [cell_nil, zero_add, List.foldl_nil]
  | cons s rest ih =>
    rw [List.foldl_cons, ih, delta_addSample, cell_cons, ← add_assoc, add_comm (cell _ _ _ _)]

end Gathering

section Filling

variable {bucketMs endTime t : ℤ} {bucketMap : ℤ → Option Bucket} {fuel : ℕ} {state : ChartState}

def ChartState.traffic (state : ChartState) : ℕ × ℕ :=
  (state.cumulativeReceived, state.cumulativeSent)

theorem traffic_fill :
    (fill (samplePoint bucketMs) bucketMap bucketMs endTime fuel state t).map (·.1.traffic) =
      running state.traffic
        ((points bucketMs endTime fuel t).map fun k => delta (bucketMap k)) := by
  induction fuel generalizing state t with
  | zero => rfl
  | succ fuel ih =>
    unfold fill points
    split
    · simp only [List.map_cons, running, ih]
      rfl
    · rfl

theorem seconds_pos (pos : 0 < bucketMs) : 0 < seconds bucketMs :=
  div_pos (Int.cast_pos.2 pos) (by decide)

structure Shows (speed : Row → Double) (part : ℕ × ℕ →+ ℕ) : Prop where
  toRow : ∀ (bucketMs : ℤ), 0 < bucketMs → ∀ (state : ChartState) (bucket : Option Bucket) (k : ℤ),
    speed ((samplePoint bucketMs).toRow ((samplePoint bucketMs).nextState state bucket k) bucket k) =
      nearest (part (delta bucket) / seconds bucketMs)

theorem shows_received : Shows Row.avgReceiveSpeed (AddMonoidHom.fst ℕ ℕ) :=
  ⟨fun _ pos _ _ _ => if_pos (seconds_pos pos)⟩

theorem shows_sent : Shows Row.avgSendSpeed (AddMonoidHom.snd ℕ ℕ) :=
  ⟨fun _ pos _ _ _ => if_pos (seconds_pos pos)⟩

variable {speed : Row → Double} {part : ℕ × ℕ →+ ℕ}

theorem Shows.fill (shows : Shows speed part) (pos : 0 < bucketMs) :
    (fill (samplePoint bucketMs) bucketMap bucketMs endTime fuel state t).map
        (fun r => (speed r.1, r.2)) =
      (points bucketMs endTime fuel t).map fun k =>
        (nearest (part (delta (bucketMap k)) / seconds bucketMs), k) := by
  induction fuel generalizing state t with
  | zero => rfl
  | succ fuel ih =>
    unfold SampleCharts.fill points
    split
    · simp only [List.map_cons, ih, shows.toRow bucketMs pos]
    · rfl

theorem sum_rates (part : ℕ × ℕ →+ ℕ) (dt : ℚ) (f : ℤ → ℕ × ℕ) (ks : List ℤ) :
    (ks.map fun k => (part (f k) : ℚ) / dt).sum = part (ks.map f).sum / dt := by
  induction ks with
  | nil => simp
  | cons k ks ih => simp only [List.map_cons, List.sum_cons, ih, map_add, Nat.cast_add, add_div]

end Filling

section Charts

variable (host : LocalTime) (now : ℤ) (samples : List Sample) (timeRange : String)

structure Aligned (b : Bounds) : Prop where
  pos : 0 < b.bucketMs
  start_dvd : b.bucketMs ∣ b.startTime
  end_dvd : b.bucketMs ∣ b.endTime

theorem getChartRangeBounds_aligned : Aligned (getChartRangeBounds host now timeRange) :=
  ⟨bucketMs_pos timeRange, dvd_bucketOf, dvd_bucketOf⟩

/-- The `bucketMap` of a chart. -/
def gathered (bucketMs : ℤ) (samples : List Sample) : ℤ → Option Bucket :=
  samples.foldl (addSample bucketMs) fun _ => none

def chartBetween (b : Bounds) (samples : List Sample) : List (Row × ℤ) :=
  fill (samplePoint b.bucketMs) (gathered b.bucketMs samples) b.bucketMs b.endTime b.turns
    (samplePoint b.bucketMs).initialState b.startTime

theorem buildDeviceChartFromSamples_eq : buildDeviceChartFromSamples host now samples timeRange =
    chartBetween (getChartRangeBounds host now timeRange) samples := rfl

/-- The grid of a chart has the bucket of a sample iff the sample is in its range. -/
theorem bucketOfSample_mem (aligned : Aligned b) (s : Sample) :
    bucketOfSample b.bucketMs s ∈
        (points b.bucketMs b.endTime b.turns b.startTime).map some ↔ InRange b s := by
  have grid (k : ℤ) := @mem_points b.bucketMs b.endTime b.startTime k b.turns aligned.pos
    b.turns_enough
  unfold InRange bucketOfSample
  cases s.recordedAt with
  | none => simp
  | some date =>
    have multiple : b.bucketMs ∣ bucketOf b.bucketMs date - b.startTime :=
      Int.dvd_sub dvd_bucketOf aligned.start_dvd
    simp [grid, multiple, le_bucketOf_iff aligned.pos aligned.start_dvd,
      bucketOf_le_iff aligned.pos aligned.end_dvd]

def sampledIn (bucketMs : ℤ) (samples : List Sample) (k : ℤ) : ℕ × ℕ :=
  cell (bucketOfSample bucketMs) Sample.traffic samples (some k)

theorem delta_gathered (bucketMs k : ℤ) :
    delta (gathered bucketMs samples k) = sampledIn bucketMs samples k :=
  (delta_buckets samples).trans (add_zero _)

theorem sum_sampledIn (aligned : Aligned b) :
    ((points b.bucketMs b.endTime b.turns b.startTime).map
      (sampledIn b.bucketMs samples)).sum = trafficIn b samples := by
  have nodup := List.Nodup.map (Option.some_injective ℤ)
    (@nodup_points b.bucketMs b.endTime b.startTime b.turns aligned.pos)
  have cells := @sum_cells _ _ _ _ _ (bucketOfSample b.bucketMs) Sample.traffic _ _ _ nodup
    (bucketOfSample_mem aligned) samples
  rw [List.map_map] at cells
  exact cells

def rates (part : ℕ × ℕ →+ ℕ) (b : Bounds) (samples : List Sample) : List (ℚ × ℤ) :=
  (points b.bucketMs b.endTime b.turns b.startTime).map fun k =>
    (part (sampledIn b.bucketMs samples k) / seconds b.bucketMs, k)

def transferred (bucketMs : ℤ) (rates : List (ℚ × ℤ)) : ℚ :=
  (rates.map fun r => r.1 * seconds bucketMs).sum

def rounded (r : ℚ × ℤ) : Double × ℤ := (nearest r.1, r.2)

structure Conserves (b : Bounds) (samples : List Sample) (rows : List (Row × ℤ)) : Prop where
  shown : rows ≠ [] ↔ b.startTime ≤ b.endTime
  last : ∀ row ∈ rows.getLast?, row.1.traffic = trafficIn b samples
  nondecreasing : rows.Pairwise fun r r' =>
    r.1.bytesReceived ≤ r'.1.bytesReceived ∧ r.1.bytesSent ≤ r'.1.bytesSent
  receiveSpeeds : rows.map (fun r => (r.1.avgReceiveSpeed, r.2)) =
    (rates (AddMonoidHom.fst ℕ ℕ) b samples).map rounded
  sendSpeeds : rows.map (fun r => (r.1.avgSendSpeed, r.2)) =
    (rates (AddMonoidHom.snd ℕ ℕ) b samples).map rounded
  received : transferred b.bucketMs (rates (AddMonoidHom.fst ℕ ℕ) b samples) =
    (trafficIn b samples).1
  sent : transferred b.bucketMs (rates (AddMonoidHom.snd ℕ ℕ) b samples) = (trafficIn b samples).2

theorem Shows.chartBetween {speed : Row → Double} {part : ℕ × ℕ →+ ℕ} (shows : Shows speed part)
    (aligned : Aligned b) : (chartBetween b samples).map (fun r => (speed r.1, r.2)) =
      (rates part b samples).map rounded := by
  rw [SampleCharts.chartBetween, shows.fill aligned.pos, rates, List.map_map]
  refine List.map_congr_left fun k _ => ?_
  rw [delta_gathered]
  rfl

theorem transferred_rates (part : ℕ × ℕ →+ ℕ) (aligned : Aligned b) :
    transferred b.bucketMs (rates part b samples) = part (trafficIn b samples) := by
  have sum := sum_rates part (seconds b.bucketMs) (sampledIn b.bucketMs samples)
    (points b.bucketMs b.endTime b.turns b.startTime)
  rw [transferred, List.sum_map_mul_right, rates, List.map_map, ← sum_sampledIn samples aligned]
  change (List.map (fun k => (part (sampledIn b.bucketMs samples k) : ℚ) / seconds b.bucketMs)
    _).sum * _ = _
  rw [sum, div_mul_cancel₀ _ (seconds_pos aligned.pos).ne']

theorem chartBetween_conserves (aligned : Aligned b) :
    Conserves b samples (chartBetween b samples) := by
  have total : ((points b.bucketMs b.endTime b.turns b.startTime).map fun k =>
      delta (gathered b.bucketMs samples k)).sum = trafficIn b samples := by
    simp only [delta_gathered]
    exact sum_sampledIn samples aligned
  have columns := @traffic_fill b.bucketMs b.endTime b.startTime (gathered b.bucketMs samples)
    b.turns (samplePoint b.bucketMs).initialState
  rw [← chartBetween] at columns
  constructor
  · unfold chartBetween
    rw [show b.turns = (b.endTime - b.startTime).toNat + 1 from rfl, fill]
    split
    case isTrue inside => exact iff_of_true (List.cons_ne_nil _ _) inside
    case isFalse outside => exact iff_of_false (fun shown => shown rfl) outside
  · intro row mem
    have shown : row.1.traffic ∈ ((chartBetween b samples).map (·.1.traffic)).getLast? := by
      rw [List.getLast?_map, Option.mem_def.1 mem]
      rfl
    rw [columns] at shown
    rw [getLast?_running _ shown, total]
    exact zero_add _
  · have ordered := @running_nondecreasing _ _ (samplePoint b.bucketMs).initialState.traffic
      ((points b.bucketMs b.endTime b.turns b.startTime).map fun k =>
        delta (gathered b.bucketMs samples k)) _ _
    rwa [← columns, List.pairwise_map] at ordered
  · exact shows_received.chartBetween samples aligned
  · exact shows_sent.chartBetween samples aligned
  · exact transferred_rates samples _ aligned
  · exact transferred_rates samples _ aligned

theorem gathered_perm {samples samples' : List Sample} (perm : samples'.Perm samples)
    (bucketMs : ℤ) : gathered bucketMs samples' = gathered bucketMs samples := by
  have comm : RightCommutative (addSample bucketMs) := ⟨fun _ _ _ => addSample_comm⟩
  exact perm.foldl_eq _

/-- Samples that amount to what a double has, each way. -/
structure RangeSamples (b : Bounds) where
  samples : List Sample
  exact : trafficIn b samples ≤ (2 ^ 53, 2 ^ 53)

/-- The last row of a device chart shows the samples of the range, each once, in any order. -/
theorem device_chart_conserves (s : RangeSamples (getChartRangeBounds host now timeRange)) :
    Conserves (getChartRangeBounds host now timeRange) s.samples
        (buildDeviceChartFromSamples host now s.samples timeRange) ∧
      ∀ samples', samples'.Perm s.samples →
        buildDeviceChartFromSamples host now samples' timeRange =
          buildDeviceChartFromSamples host now s.samples timeRange := by
  simp only [buildDeviceChartFromSamples_eq]
  refine ⟨chartBetween_conserves s.samples (getChartRangeBounds_aligned host now timeRange), ?_⟩
  intro samples' perm
  unfold chartBetween
  rw [gathered_perm perm]

/-- 31 bytes in a minute: the speed is not the quotient, and 60 times the speed is not 31. -/
theorem rounded_speed_differs :
    trafficIn (getChartRangeBounds plainClock 0 "1hour") [⟨some 0, 31, 0, 1⟩] = (31, 0) ∧
      ((buildDeviceChartFromSamples plainClock 0 [⟨some 0, 31, 0, 1⟩] "1hour").map
        fun r => r.1.avgReceiveSpeed.value * 60).sum ≠ 31 := by
  decide +kernel

end Charts

end SampleCharts
