import Mathlib.Algebra.BigOperators.Group.List.Basic
import NetPort.SampleCharts

/-! The chart of all servers and devices together: cumulative snapshots of the servers are merged
with the samples of the devices. Byte counts are naturals, as the numbers of JavaScript are while
the totals stay within 2^53. -/
namespace OverviewCharts

open GridSums SampleCharts

/-- A snapshot of the counters of a server; the time is what `parseDbTimestamp` makes of it. -/
structure Point where
  timestamp : Option ℤ
  bytesReceived : ℕ
  bytesSent : ℕ
  connectionsCount : ℕ
  deriving DecidableEq

def Point.traffic (p : Point) : ℕ × ℕ := (p.bytesReceived, p.bytesSent)

def Point.time (p : Point) : ℤ := p.timestamp.getD 0

/-- `[...points].sort`, whose comparison throws if it comes upon a time that is missing. -/
def sortPoints (points : List Point) : Option (List Point) :=
  if 2 ≤ points.length ∧ points.any (·.timestamp.isNone) then none
  else some (points.mergeSort fun a b => a.time ≤ b.time)

/-- `addToBucket` takes what a sample has. -/
def addToBucket (bucketMs : ℤ) (buckets : ℤ → Option Bucket) (timestamp : Option ℤ)
    (receivedDelta sentDelta connections : ℕ) : ℤ → Option Bucket :=
  addSample bucketMs buckets ⟨timestamp, receivedDelta, sentDelta, connections⟩

/-- `prev ? bytes - prevBytes : bytes`, and not below zero. -/
def increment (prev : Option ℕ) (bytes : ℕ) : ℕ :=
  let delta : ℤ := match prev with
    | some prev => bytes - prev
    | none => bytes
  (max 0 delta).toNat

/-- `sorted.forEach`; `prev` is the point before. -/
def addPoints (bucketMs : ℤ) : Option Point → List Point → (ℤ → Option Bucket) → ℤ → Option Bucket
  | _, [], buckets => buckets
  | prev, point :: rest, buckets =>
    addPoints bucketMs (some point) rest
      (addToBucket bucketMs buckets point.timestamp
        (increment (prev.map (·.bytesReceived)) point.bytesReceived)
        (increment (prev.map (·.bytesSent)) point.bytesSent) point.connectionsCount)

def addDevice (bucketMs : ℤ) (buckets : ℤ → Option Bucket) (samples : List Sample) :
    ℤ → Option Bucket :=
  samples.foldl (fun buckets sample => addToBucket bucketMs buckets sample.recordedAt
    sample.bytesReceivedDelta sample.bytesSentDelta sample.activeConnections) buckets

def addServer (bucketMs : ℤ) (buckets : ℤ → Option Bucket) (points : List Point) :
    Option (ℤ → Option Bucket) := do
  let sorted ← sortPoints points
  return addPoints bucketMs none sorted buckets

def mergeAggregatedChartData (host : LocalTime) (now : ℤ) (serverSeries : List (List Point))
    (deviceSeries : List (List Sample)) (timeRange : String) : Option (List (Row × ℤ)) := do
  let bucketMs := (getChartRangeBounds host now timeRange).bucketMs
  let buckets := deviceSeries.foldl (addDevice bucketMs) fun _ => none
  let buckets ← serverSeries.foldlM (addServer bucketMs) buckets
  return buildFilledTimeline host now timeRange bucketMs buckets (samplePoint bucketMs)

/-- The snapshots of a server in any order: inside the range, and in time order they never go
down. -/
structure Snapshots (b : Bounds) where
  points : List Point
  inside : ∀ p ∈ points, ∃ time ∈ p.timestamp, b.startTime ≤ time ∧ time < b.endTime + b.bucketMs
  nondecreasing : (points.mergeSort fun p q => p.time ≤ q.time).Pairwise fun p q =>
    p.traffic ≤ q.traffic

namespace Snapshots

variable {b : Bounds}

def sorted (s : Snapshots b) : List Point := s.points.mergeSort fun p q => p.time ≤ q.time

def first (s : Snapshots b) : ℕ × ℕ := (s.sorted.head?.map Point.traffic).getD 0

def last (s : Snapshots b) : ℕ × ℕ := (s.sorted.getLast?.map Point.traffic).getD 0

end Snapshots

/-- The last row shows what the devices and the servers transferred in the range. -/
def Conserved (host : LocalTime) (now : ℤ) (timeRange : String)
    (servers : List (Snapshots (getChartRangeBounds host now timeRange)))
    (devices : List (List Sample)) : Prop :=
  ∃ rows, mergeAggregatedChartData host now (servers.map (·.points)) devices timeRange = some rows ∧
    ∀ row ∈ rows.getLast?, row.1.traffic =
      trafficIn (getChartRangeBounds host now timeRange) devices.flatten +
        (servers.map fun s => s.last - s.first).sum

section Increments

variable {bucketMs : ℤ} {b : Bounds} {buckets : ℤ → Option Bucket} {prev : Option Point}
  {points : List Point}

theorem increment_none (bytes : ℕ) : increment none bytes = bytes := by
  simp only [increment]
  omega

theorem increment_some {prev bytes : ℕ} (le : prev ≤ bytes) :
    increment (some prev) bytes + prev = bytes := by
  simp only [increment]
  omega

def sampleOf (prev : Option Point) (point : Point) : Sample :=
  ⟨point.timestamp, increment (prev.map (·.bytesReceived)) point.bytesReceived,
    increment (prev.map (·.bytesSent)) point.bytesSent, point.connectionsCount⟩

def increments : Option Point → List Point → List Sample
  | _, [] => []
  | prev, point :: rest => sampleOf prev point :: increments (some point) rest

theorem addPoints_eq : addPoints bucketMs prev points buckets =
    (increments prev points).foldl (addSample bucketMs) buckets := by
  induction points generalizing prev buckets with
  | nil => rfl
  | cons point rest ih => exact ih

def counted (prev : Option Point) : ℕ × ℕ := (prev.map Point.traffic).getD 0

theorem traffic_sampleOf {point : Point} (le : counted prev ≤ point.traffic) :
    (sampleOf prev point).traffic + counted prev = point.traffic := by
  cases prev with
  | none =>
    exact (add_zero _).trans (Prod.ext (increment_none _) (increment_none _))
  | some prev => exact Prod.ext (increment_some le.1) (increment_some le.2)

/-- The increments of counters that never go down add up to the last counters. -/
theorem sum_increments (above : ∀ p ∈ points, counted prev ≤ p.traffic)
    (nondecreasing : points.Pairwise fun p q => p.traffic ≤ q.traffic) :
    ((increments prev points).map Sample.traffic).sum + counted prev =
      counted (points.getLast?.or prev) := by
  induction points generalizing prev with
  | nil => exact zero_add _
  | cons point rest ih =>
    obtain ⟨least, ordered⟩ := List.pairwise_cons.1 nondecreasing
    have step := traffic_sampleOf (above point List.mem_cons_self)
    have rest_sum := @ih (some point) least ordered
    have latest : (point :: rest).getLast?.or prev = rest.getLast?.or (some point) := by
      rw [List.getLast?_cons]
      cases rest.getLast? <;> rfl
    rw [increments, List.map_cons, List.sum_cons, add_right_comm, step, add_comm, latest]
    exact rest_sum

theorem timestamps_increments :
    (increments prev points).map Sample.recordedAt = points.map Point.timestamp := by
  induction points generalizing prev with
  | nil => rfl
  | cons point rest ih => exact congrArg (point.timestamp :: ·) ih

end Increments

section Series

variable {b : Bounds} {bucketMs : ℤ} {buckets : ℤ → Option Bucket} {servers : List (Snapshots b)}

namespace Snapshots

def increments (s : Snapshots b) : List Sample := OverviewCharts.increments none s.sorted

theorem mem_sorted (s : Snapshots b) {p : Point} : p ∈ s.sorted ↔ p ∈ s.points :=
  (List.mergeSort_perm _ _).mem_iff

theorem inRange (s : Snapshots b) (a : Sample) (mem : a ∈ s.increments) : InRange b a := by
  have stamped : a.recordedAt ∈ s.sorted.map Point.timestamp := by
    rw [← timestamps_increments]
    exact List.mem_map_of_mem mem
  obtain ⟨p, mem, same⟩ := List.mem_map.1 stamped
  have inside := s.inside p (s.mem_sorted.1 mem)
  rwa [same] at inside

theorem trafficIn_increments (s : Snapshots b) : trafficIn b s.increments = s.last := by
  have total := @sum_increments none s.sorted (fun p _ => zero_le) s.nondecreasing
  rw [trafficIn, List.filter_eq_self.2 fun a mem => decide_eq_true (s.inRange a mem)]
  refine (add_zero _).symm.trans (total.trans ?_)
  rw [Option.or_none]
  rfl

theorem sortPoints_eq (s : Snapshots b) : sortPoints s.points = some s.sorted := by
  refine if_neg fun ⟨_, missing⟩ => ?_
  obtain ⟨p, mem, none⟩ := List.any_eq_true.1 missing
  obtain ⟨time, known, -⟩ := s.inside p mem
  rw [Option.mem_def.1 known] at none
  cases none

theorem first_le_last (s : Snapshots b) : s.first ≤ s.last := by
  unfold first last
  have ordered := s.nondecreasing
  change s.sorted.Pairwise _ at ordered
  cases sorted : s.sorted with
  | nil => exact le_rfl
  | cons p rest =>
    rw [sorted] at ordered
    have above := (List.pairwise_cons.1 ordered).1
    rw [List.getLast?_cons]
    cases latest : rest.getLast? with
    | none => exact le_rfl
    | some q => exact above q (List.mem_of_getLast? latest)

theorem first_of_empty (s : Snapshots b) (aligned : Aligned b) (none : b.endTime < b.startTime) :
    s.first = 0 := by
  have points : s.points = [] := by
    refine List.eq_nil_iff_forall_not_mem.2 fun p mem => ?_
    obtain ⟨time, -, begins, ends⟩ := s.inside p mem
    have apart := (@bucketOf_le_iff b.bucketMs time b.endTime aligned.pos aligned.end_dvd).2 ends
    have := (@le_bucketOf_iff b.bucketMs time b.startTime aligned.pos aligned.start_dvd).2 begins
    omega
  rw [first, sorted, points, List.mergeSort_nil]
  rfl

end Snapshots

theorem addServers_eq : (servers.map (·.points)).foldlM (addServer bucketMs) buckets =
    some ((servers.flatMap Snapshots.increments).foldl (addSample bucketMs) buckets) := by
  induction servers generalizing buckets with
  | nil => rfl
  | cons s servers ih =>
    rw [List.map_cons, List.foldlM_cons, addServer, s.sortPoints_eq]
    change (servers.map (·.points)).foldlM (addServer bucketMs)
      (addPoints bucketMs none s.sorted buckets) = _
    rw [ih, addPoints_eq, List.flatMap_cons, List.foldl_append, Snapshots.increments]

theorem trafficIn_append (samples samples' : List Sample) :
    trafficIn b (samples ++ samples') = trafficIn b samples + trafficIn b samples' := by
  unfold trafficIn
  rw [List.filter_append, List.map_append, List.sum_append]

theorem trafficIn_servers :
    trafficIn b (servers.flatMap Snapshots.increments) = (servers.map Snapshots.last).sum := by
  induction servers with
  | nil => rfl
  | cons s servers ih =>
    rw [List.flatMap_cons, trafficIn_append, s.trafficIn_increments, ih]
    rfl

theorem addDevices_eq (devices : List (List Sample)) : devices.foldl (addDevice bucketMs) buckets =
    devices.flatten.foldl (addSample bucketMs) buckets := by
  induction devices generalizing buckets with
  | nil => rfl
  | cons samples devices ih =>
    rw [List.foldl_cons, ih, List.flatten_cons, List.foldl_append]
    rfl

end Series

section Merged

variable (host : LocalTime) (now : ℤ) (timeRange : String)
  (servers : List (Snapshots (getChartRangeBounds host now timeRange)))
  (devices : List (List Sample))

/-- The merged chart is the chart of the samples and the increments. -/
theorem mergeAggregatedChartData_eq :
    mergeAggregatedChartData host now (servers.map (·.points)) devices timeRange =
      some (chartBetween (getChartRangeBounds host now timeRange)
        (devices.flatten ++ servers.flatMap Snapshots.increments)) := by
  rw [mergeAggregatedChartData, addDevices_eq]
  rw [addServers_eq, chartBetween, gathered, List.foldl_append]
  rfl

theorem merged_traffic (row : Row × ℤ)
    (mem : row ∈ (chartBetween (getChartRangeBounds host now timeRange)
      (devices.flatten ++ servers.flatMap Snapshots.increments)).getLast?) :
    row.1.traffic = trafficIn (getChartRangeBounds host now timeRange) devices.flatten +
      (servers.map Snapshots.last).sum := by
  have conserves := chartBetween_conserves
    (devices.flatten ++ servers.flatMap Snapshots.increments)
    (getChartRangeBounds_aligned host now timeRange)
  rw [conserves.last row mem, trafficIn_append, trafficIn_servers]

variable {host now timeRange}

/-- What the servers transferred falls short of the last counters by the first ones. -/
theorem sum_last : (servers.map fun s => s.last - s.first).sum + (servers.map Snapshots.first).sum =
    (servers.map Snapshots.last).sum := by
  induction servers with
  | nil => rfl
  | cons s servers ih =>
    have le := s.first_le_last
    simp only [List.map_cons, List.sum_cons, ← ih]
    have whole : s.last - s.first + s.first = s.last :=
      Prod.ext (Nat.sub_add_cancel le.1) (Nat.sub_add_cancel le.2)
    rw [add_add_add_comm, whole]

theorem sum_first_eq_zero : (servers.map Snapshots.first).sum = 0 ↔
    ∀ s ∈ servers, s.first = (0, 0) := by
  induction servers with
  | nil => simp
  | cons s servers ih =>
    rw [List.map_cons, List.sum_cons, add_eq_zero, ih, List.forall_mem_cons]
    rfl

end Merged

/-- The chart conserves the traffic exactly if every server begins the range at zero. The totals are
those of JavaScript up to 2^53. -/
theorem aggregated_conserves_exactly (host : LocalTime) (now : ℤ) (timeRange : String)
    (servers : List (Snapshots (getChartRangeBounds host now timeRange)))
    (devices : List (List Sample)) :
    Conserved host now timeRange servers devices ↔ ∀ s ∈ servers, s.first = (0, 0) := by
  rw [← sum_first_eq_zero, Conserved, mergeAggregatedChartData_eq]
  simp only [Option.some.injEq, exists_eq_left']
  constructor
  · intro conserved
    by_cases shown : (getChartRangeBounds host now timeRange).startTime ≤
        (getChartRangeBounds host now timeRange).endTime
    · have conserves := chartBetween_conserves
        (devices.flatten ++ servers.flatMap Snapshots.increments)
        (getChartRangeBounds_aligned host now timeRange)
      have last := List.getLast?_eq_getLast_of_ne_nil (conserves.shown.2 shown)
      have actual := merged_traffic host now timeRange servers devices _ last
      rw [conserved _ last, ← sum_last, ← add_assoc] at actual
      exact (add_eq_left.1 actual.symm)
    · refine (sum_first_eq_zero servers).2 fun s _ => ?_
      exact s.first_of_empty (getChartRangeBounds_aligned host now timeRange) (not_le.1 shown)
  · intro zero row mem
    rw [merged_traffic host now timeRange servers devices row mem, ← sum_last, zero, add_zero]

def idleServer : Snapshots (getChartRangeBounds plainClock 3600000 "1hour") where
  points := [⟨some 60000, 1000, 500, 0⟩]
  inside := by decide
  nondecreasing := by simp

/-- The bytes of an idle server are counted as traffic of the range. -/
theorem first_snapshot_is_counted :
    (mergeAggregatedChartData plainClock 3600000 [idleServer.points] [] "1hour").map
        (fun rows => rows.getLast?.map fun row => row.1.traffic) = some (some (1000, 500)) ∧
      ¬ Conserved plainClock 3600000 "1hour" [idleServer] [] := by
  have shown : (mergeAggregatedChartData plainClock 3600000 [idleServer.points] [] "1hour").map
      (fun rows => rows.getLast?.map fun row => row.1.traffic) = some (some (1000, 500)) := by
    decide +kernel
  refine ⟨shown, fun ⟨rows, merged, conserved⟩ => ?_⟩
  rw [List.map_singleton] at merged
  rw [merged] at shown
  obtain ⟨row, last, traffic⟩ := Option.map_eq_some_iff.1 (Option.some.inj shown)
  rw [conserved row last] at traffic
  revert traffic
  decide +kernel

end OverviewCharts
