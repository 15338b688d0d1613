import Mathlib.Algebra.Field.Rat
import Mathlib.Algebra.Order.Field.Basic
import Mathlib.Algebra.Order.Ring.Rat
import Mathlib.Data.List.Sort
import NetPort.RealtimeChannels
import NetPort.ServerTotals
import NetPort.StatementPrograms

/-! The overview of `statistics.class.js`: the servers of a user with their cumulative totals and
the speeds since an earlier snapshot. Every query of it is a command of its own. Totals are exact,
as the numbers of JavaScript hold them below 2^53, and speeds are the quotients before rounding. -/
namespace StatisticsService

open ServerTotals StatementPrograms
open RealtimeChannels (User isAdminUser)

/-- What the overview reads of a row of `servers`, the totals apart. -/
structure ServerRow where
  id : ℕ
  userId : Option ℕ
  inputPort : Option ℕ
  outputPort : Option ℕ
  enable : Option Bool
  deriving DecidableEq, Repr

/-- `AND` of SQL. -/
def sqlAnd : Option Bool → Option Bool → Option Bool
  | some false, _ => some false
  | _, some false => some false
  | some true, b => b
  | none, _ => none

/-- `enable = true` and not the placeholder; a comparison with `NULL` is unknown. -/
def ServerRow.listed (r : ServerRow) : Bool :=
  r.enable = some true ∧
    sqlAnd (r.inputPort.map (· = 5998)) (r.outputPort.map (· = 5999)) = some false

/-- An order in which the database returns rows by `timestamp DESC`. -/
structure NewestFirst where
  sort : List Snapshot → List Snapshot
  perm : ∀ rows, (sort rows).Perm rows
  sorted : ∀ rows, (sort rows).Pairwise fun a b => b.timestamp ≤ a.timestamp

structure Tables where
  db : Db
  rows : List ServerRow
  order : NewestFirst

/-- What `fetchLatestStatisticRow` returns. -/
structure Latest where
  serverId : ℕ
  bytes : Totals
  connectionsCount : ℕ
  timestamp : Option ℕ
  deriving DecidableEq, Repr

structure StatisticsRow where
  serverId : ℕ
  userId : Option ℕ
  bytes : Totals
  connectionsCount : ℕ
  timestamp : Option ℕ
  avgReceiveSpeed : Option ℚ
  avgSendSpeed : Option ℚ
  deriving DecidableEq, Repr

structure Params where
  user : Option User
  queryUserId : Option ℕ
  deriving DecidableEq, Repr

inductive Query where
  | enabledServers (userId : Option ℕ)
  | server (id : ℕ)
  | totals (id : ℕ)
  | peak (id : ℕ)
  | latest (id : ℕ)
  | candidates (id before : ℕ)
  | previous (id before : ℕ)
  deriving DecidableEq, Repr

@[reducible] def Query.Result : Query → Type
  | .enabledServers _ => List ℕ
  | .server _ => Option ServerRow
  | .totals _ => Option Totals
  | .peak _ => Totals
  | .latest _ => Option Snapshot
  | .candidates _ _ => List Snapshot
  | .previous _ _ => Option Snapshot

namespace Tables

def snapshots (t : Tables) (id : ℕ) : List Snapshot :=
  t.order.sort (t.db.statistic.filter (·.serverId = id))

def hasTraffic (r : Snapshot) : Bool := 0 < r.bytes.1 || 0 < r.bytes.2

def answer (t : Tables) : (q : Query) → q.Result
  | .enabledServers userId =>
    ((t.rows.filter fun r => r.listed && userId.all (r.userId = some ·)).insertionSort
      (·.id ≤ ·.id)).map (·.id)
  | .server id => t.rows.find? fun r => r.id = id ∧ r.listed
  | .totals id => t.db.servers id
  | .peak id => t.db.peak id
  | .latest id => (t.snapshots id).head?
  | .candidates id before =>
    (t.order.sort (t.db.statistic.filter fun r =>
      r.serverId = id ∧ r.timestamp < before ∧ hasTraffic r)).take 30
  | .previous id before =>
    (t.order.sort (t.db.statistic.filter fun r => r.serverId = id ∧ r.timestamp < before)).head?

end Tables

/-- A routine of the service; `none` is a request that a failed query has ended. -/
abbrev Routine (α : Type) := Prog Query Query.Result (Option α)

namespace Routine

variable {α β : Type}

/-- `await` of a query. -/
def ask (q : Query) (k : q.Result → Routine α) : Routine α :=
  .call q fun
    | some r => k r
    | none => .ret none

/-- `await` of a routine. -/
def andThen (p : Routine α) (k : α → Routine β) : Routine β :=
  p.bind fun
    | some a => k a
    | none => .ret none

def result (a : α) : Routine α := .ret (some a)

end Routine

open Routine

def canAccessLegacyServers (user : Option User) : Bool := user.any isAdminUser

def resolveStatisticsUserId (params : Params) : Option ℕ :=
  params.queryUserId <|> params.user.map (·.id)

def isMonotonicStatisticPredecessor (previous current : Totals) : Bool :=
  previous.1 ≤ current.1 ∧ previous.2 ≤ current.2

def isEmptyStatisticRow (row : Latest) : Bool := row.bytes = 0 ∧ row.connectionsCount = 0

def speed (delta seconds : ℚ) : ℚ := if delta > 0 then delta / seconds else 0

def computeSpeed (current : Latest) (previous : Option Snapshot) : Option ℚ × Option ℚ :=
  match previous, current.timestamp with
  | some prev, some ts =>
    if isEmptyStatisticRow current || !isMonotonicStatisticPredecessor prev.bytes current.bytes then
      (none, none)
    else
      let timeDiff : ℚ := ((ts : ℚ) - prev.timestamp) / 1000
      if timeDiff ≤ 0 then (none, none)
      else
        (some (speed ((current.bytes.1 : ℚ) - prev.bytes.1) timeDiff),
          some (speed ((current.bytes.2 : ℚ) - prev.bytes.2) timeDiff))
  | _, _ => (none, none)

def fetchEnabledServers (params : Params) : Routine (List ℕ) :=
  if canAccessLegacyServers params.user then
    ask (.enabledServers (resolveStatisticsUserId params)) result
  else result []

def fetchLatestStatisticRow (serverId : ℕ) : Routine (Option Latest) :=
  ask (.totals serverId) fun server =>
  ask (.peak serverId) fun peak =>
  ask (.latest serverId) fun latestSnapshot =>
  let bytes := server.getD 0 ⊔ peak
  if bytes = 0 ∧ latestSnapshot = none then result none
  else result (some
    { serverId := serverId
      bytes := bytes
      connectionsCount := (latestSnapshot.map (·.connectionsCount)).getD 0
      timestamp := latestSnapshot.map (·.timestamp) })

def fetchPreviousStatisticRow (serverId : ℕ) (current : Latest) : Routine (Option Snapshot) :=
  match current.timestamp with
  | none => result none
  | some before =>
    ask (.candidates serverId before) fun candidates =>
    let monotonic := candidates.find? fun r =>
      isMonotonicStatisticPredecessor r.bytes current.bytes
    match monotonic <|> candidates.head? with
    | some previous => result (some previous)
    | none => ask (.previous serverId before) result

def buildServerStatisticsRow (serverId : ℕ) (params : Params) : Routine (Option StatisticsRow) :=
  if canAccessLegacyServers params.user then
    ask (.server serverId) fun
    | none => result none
    | some server =>
      andThen (fetchLatestStatisticRow server.id) fun
      | none => result (some ⟨server.id, server.userId, 0, 0, none, none, none⟩)
      | some row =>
        if isEmptyStatisticRow row then
          result (some ⟨server.id, server.userId, 0, 0, row.timestamp, none, none⟩)
        else
          andThen (fetchPreviousStatisticRow server.id row) fun previous =>
          let speeds := computeSpeed row previous
          result (some ⟨row.serverId, server.userId, row.bytes, row.connectionsCount, row.timestamp,
            speeds.1, speeds.2⟩)
  else result none

/-- The loop of `find`; a server without a row is left out. -/
def buildRows (params : Params) : List ℕ → Routine (List StatisticsRow)
  | [] => result []
  | id :: ids =>
    andThen (buildServerStatisticsRow id params) fun row =>
    andThen (buildRows params ids) fun rows => result (row.toList ++ rows)

def find (params : Params) : Routine (List StatisticsRow) :=
  andThen (fetchEnabledServers params) (buildRows params)

/-- `get` of the service. -/
def get (id : ℕ) (params : Params) : Routine (List Latest) :=
  if canAccessLegacyServers params.user then
    andThen (fetchLatestStatisticRow id) fun row => result row.toList
  else result []

def alone {α : Type} (p : Routine α) (t : Tables) : Option α :=
  (run (fun q t => some (t, t.answer q)) p t).1

section Alone

variable {α β : Type} {t : Tables}

theorem alone_ask (q : Query) (k : q.Result → Routine α) :
    alone (ask q k) t = alone (k (t.answer q)) t := rfl

theorem alone_andThen {p : Routine α} {a : α} (first : alone p t = some a) (k : α → Routine β) :
    alone (andThen p k) t = alone (k a) t := by
  induction p with
  | ret b =>
    have same : b = some a := first
    subst same
    rfl
  | call q next ih => exact ih (some (t.answer q)) first

end Alone

variable {t : Tables} {params : Params} {id : ℕ} {rows l : List Snapshot} {p q : Snapshot}

theorem NewestFirst.mem_sort (order : NewestFirst) : q ∈ order.sort l ↔ q ∈ l :=
  (order.perm l).mem_iff

theorem NewestFirst.head_sort (order : NewestFirst) (head : (order.sort l).head? = some p) :
    p ∈ l ∧ ∀ q ∈ l, q.timestamp ≤ p.timestamp := by
  obtain ⟨rest, sorted⟩ := List.head?_eq_some_iff.1 head
  constructor
  · rw [← order.mem_sort, sorted]
    exact List.mem_cons_self
  · intro q mem
    rw [← order.mem_sort, sorted] at mem
    have pairwise := order.sorted l
    rw [sorted, List.pairwise_cons] at pairwise
    rcases List.mem_cons.1 mem with rfl | later
    · exact le_rfl
    · exact pairwise.1 q later

theorem NewestFirst.head_none (order : NewestFirst) (head : (order.sort l).head? = none) :
    l = [] := by
  have nothing := List.head?_eq_none_iff.1 head
  exact List.Perm.nil_eq (nothing ▸ (order.perm l)) |>.symm

/-- The snapshots of a server that are older than the newest one. -/
def Tables.Older (t : Tables) (id before : ℕ) (q : Snapshot) : Prop :=
  q ∈ t.db.statistic ∧ q.serverId = id ∧ q.timestamp < before

structure Base (t : Tables) (id before : ℕ) (p : Snapshot) : Prop where
  older : t.Older id before p
  traffic : Tables.hasTraffic p = true ∨ ∀ q, t.Older id before q → Tables.hasTraffic q = false
  newest : ∀ q, t.Older id before q → Tables.hasTraffic q = Tables.hasTraffic p →
    q.timestamp ≤ p.timestamp

structure Reports (t : Tables) (row : StatisticsRow) : Prop where
  server : ∃ s ∈ t.rows, s.listed = true ∧ s.id = row.serverId ∧ s.userId = row.userId
  bytes : row.bytes = t.db.stored row.serverId
  newest : ∀ q ∈ t.db.statistic, q.serverId = row.serverId →
    ∃ ts, row.timestamp = some ts ∧ q.timestamp ≤ ts
  current : ∀ ts, row.timestamp = some ts → ∃ q ∈ t.db.statistic, q.serverId = row.serverId ∧
    q.timestamp = ts ∧ q.connectionsCount = row.connectionsCount
  speeds : (∃ ts p, row.timestamp = some ts ∧ Base t row.serverId ts p ∧ p.bytes ≤ row.bytes ∧
      row.avgReceiveSpeed = some (((row.bytes.1 : ℚ) - p.bytes.1) / ((ts - p.timestamp) / 1000)) ∧
      row.avgSendSpeed = some (((row.bytes.2 : ℚ) - p.bytes.2) / ((ts - p.timestamp) / 1000))) ∨
    (row.avgReceiveSpeed = none ∧ row.avgSendSpeed = none ∧
      (row.bytes = 0 ∧ row.connectionsCount = 0 ∨
        ∀ ts, row.timestamp = some ts → ∀ q, ¬ t.Older row.serverId ts q))

theorem candidates_eq (before : ℕ) : t.answer (.candidates id before) =
    (t.order.sort (t.db.statistic.filter fun r =>
      r.serverId = id ∧ r.timestamp < before ∧ Tables.hasTraffic r)).take 30 := rfl

theorem previous_eq (before : ℕ) : t.answer (.previous id before) =
    (t.order.sort (t.db.statistic.filter fun r =>
      r.serverId = id ∧ r.timestamp < before)).head? := rfl

/-- No row of the server has more than the totals, so the first candidate is taken. -/
theorem fetchPrevious_alone {current : Latest} {ts : ℕ} (time : current.timestamp = some ts)
    (covers : ∀ q ∈ t.db.statistic, q.serverId = id → q.bytes ≤ current.bytes) :
    ∃ previous, alone (fetchPreviousStatisticRow id current) t = some previous ∧
      (∀ p, previous = some p → Base t id ts p) ∧
      (previous = none → ∀ q, ¬ t.Older id ts q) := by
  have busy (q : Snapshot) : q ∈ (t.db.statistic.filter fun r =>
      r.serverId = id ∧ r.timestamp < ts ∧ Tables.hasTraffic r) ↔
        t.Older id ts q ∧ Tables.hasTraffic q = true := by
    simp [Tables.Older, List.mem_filter, and_assoc]
  have older (q : Snapshot) : q ∈ (t.db.statistic.filter fun r =>
      r.serverId = id ∧ r.timestamp < ts) ↔ t.Older id ts q := by
    simp [Tables.Older, List.mem_filter]
  simp only [fetchPreviousStatisticRow, time, alone_ask, candidates_eq]
  cases sorted : t.order.sort (t.db.statistic.filter fun r =>
      r.serverId = id ∧ r.timestamp < ts ∧ Tables.hasTraffic r) with
  | nil =>
    have nothing := t.order.head_none (congrArg List.head? sorted)
    have silent (q : Snapshot) (old : t.Older id ts q) : Tables.hasTraffic q = false := by
      by_contra traffic
      have mem := (busy q).2 ⟨old, Bool.of_not_eq_false traffic⟩
      rw [nothing] at mem
      cases mem
    refine ⟨_, rfl, ?_, ?_⟩
    · intro p first
      rw [previous_eq] at first
      obtain ⟨mem, newest⟩ := t.order.head_sort first
      refine ⟨(older p).1 mem, .inr silent, fun q old _ => newest q ((older q).2 old)⟩
    · intro none_ q old
      rw [previous_eq] at none_
      have mem := (older q).2 old
      rw [t.order.head_none none_] at mem
      cases mem
  | cons first rest =>
    obtain ⟨mem, newest⟩ := t.order.head_sort (congrArg List.head? sorted)
    obtain ⟨old, traffic⟩ := (busy first).1 mem
    have covered := covers first old.1 old.2.1
    have monotonic : isMonotonicStatisticPredecessor first.bytes current.bytes = true :=
      decide_eq_true ⟨covered.1, covered.2⟩
    have found : (List.take 30 (first :: rest)).find? (fun r =>
        isMonotonicStatisticPredecessor r.bytes current.bytes) = some first := by
      simp only [List.take_succ_cons, List.find?_cons, monotonic]
    rw [found]
    refine ⟨some first, rfl, ?_, nofun⟩
    rintro p ⟨⟩
    refine ⟨old, .inl traffic, fun q other same => newest q ((busy q).2 ⟨other, ?_⟩)⟩
    rw [same, traffic]

theorem speed_eq {delta seconds : ℚ} (positive : 0 ≤ delta) :
    speed delta seconds = delta / seconds := by
  rcases positive.eq_or_lt with zero | more
  · rw [speed, ← zero, if_neg (lt_irrefl _), zero_div]
  · rw [speed, if_pos more]

theorem computeSpeed_older {current : Latest} {ts : ℕ} (time : current.timestamp = some ts)
    (busy : isEmptyStatisticRow current = false) (covered : p.bytes ≤ current.bytes)
    (older : p.timestamp < ts) : computeSpeed current (some p) =
      (some (((current.bytes.1 : ℚ) - p.bytes.1) / ((ts - p.timestamp) / 1000)),
        some (((current.bytes.2 : ℚ) - p.bytes.2) / ((ts - p.timestamp) / 1000))) := by
  have monotonic : isMonotonicStatisticPredecessor p.bytes current.bytes = true :=
    decide_eq_true ⟨covered.1, covered.2⟩
  have later : (p.timestamp : ℚ) < ts := Nat.cast_lt.2 older
  have positive : ¬ ((ts : ℚ) - p.timestamp) / 1000 ≤ 0 :=
    not_le.2 (div_pos (sub_pos.2 later) (by norm_num))
  have received : (0 : ℚ) ≤ current.bytes.1 - p.bytes.1 := sub_nonneg.2 (Nat.cast_le.2 covered.1)
  have sent : (0 : ℚ) ≤ current.bytes.2 - p.bytes.2 := sub_nonneg.2 (Nat.cast_le.2 covered.2)
  simp only [computeSpeed, time, busy, monotonic, Bool.not_true, Bool.or_self,
    Bool.false_eq_true, if_false, if_neg positive, speed_eq received, speed_eq sent]

theorem computeSpeed_none (current : Latest) : computeSpeed current none = (none, none) := by
  simp [computeSpeed]

/-- What `fetchLatestStatisticRow` returns of a server. -/
structure IsLatest (t : Tables) (id : ℕ) (row : Latest) : Prop where
  serverId : row.serverId = id
  bytes : row.bytes = t.db.stored id
  newest : ∀ q ∈ t.db.statistic, q.serverId = id →
    ∃ ts, row.timestamp = some ts ∧ q.timestamp ≤ ts
  current : ∀ ts, row.timestamp = some ts → ∃ q ∈ t.db.statistic, q.serverId = id ∧
    q.timestamp = ts ∧ q.connectionsCount = row.connectionsCount

theorem IsLatest.covers {row : Latest} (latest : IsLatest t id row) (mem : q ∈ t.db.statistic)
    (own : q.serverId = id) : q.bytes ≤ row.bytes := by
  rw [latest.bytes, ← own]
  exact (Db.le_peak mem).trans le_sup_right

theorem fetchLatest_alone (t : Tables) (id : ℕ) :
    ∃ latest, alone (fetchLatestStatisticRow id) t = some latest ∧
      (latest = none → t.db.stored id = 0 ∧ ∀ q ∈ t.db.statistic, q.serverId ≠ id) ∧
      ∀ row, latest = some row → IsLatest t id row := by
  have own (q : Snapshot) : q ∈ t.db.statistic.filter (·.serverId = id) ↔
      q ∈ t.db.statistic ∧ q.serverId = id := by
    simp [List.mem_filter]
  have newest : t.answer (.latest id) =
      (t.order.sort (t.db.statistic.filter (·.serverId = id))).head? := rfl
  simp only [fetchLatestStatisticRow, alone_ask, newest]
  cases head : (t.order.sort (t.db.statistic.filter (·.serverId = id))).head? with
  | none =>
    have nothing (q : Snapshot) (mem : q ∈ t.db.statistic) : q.serverId ≠ id := by
      intro same
      have held := (own q).2 ⟨mem, same⟩
      rw [t.order.head_none head] at held
      cases held
    by_cases zero : t.db.stored id = 0
    · refine ⟨none, ?_, fun _ => ⟨zero, nothing⟩, nofun⟩
      exact congrArg (alone · t) (if_pos ⟨zero, rfl⟩)
    · refine ⟨some ⟨id, t.db.stored id, 0, none⟩, ?_, nofun, ?_⟩
      · exact congrArg (alone · t) (if_neg fun both => zero both.1)
      · rintro row ⟨⟩
        exact ⟨rfl, rfl, fun q mem same => absurd same (nothing q mem), nofun⟩
  | some p =>
    obtain ⟨mem, latest⟩ := t.order.head_sort head
    refine ⟨some ⟨id, t.db.stored id, p.connectionsCount, some p.timestamp⟩, ?_, nofun, ?_⟩
    · exact congrArg (alone · t) (if_neg fun both => nomatch both.2)
    · rintro row ⟨⟩
      refine ⟨rfl, rfl, fun q held same => ⟨_, rfl, latest q ((own q).2 ⟨held, same⟩)⟩, ?_⟩
      rintro ts ⟨⟩
      obtain ⟨held, same⟩ := (own p).1 mem
      exact ⟨p, held, same, rfl, rfl⟩

theorem speeds_alone {row : Latest} (latest : IsLatest t id row)
    (busy : isEmptyStatisticRow row = false) :
    ∃ previous, alone (fetchPreviousStatisticRow id row) t = some previous ∧
      ((∃ ts p, row.timestamp = some ts ∧ Base t id ts p ∧ p.bytes ≤ row.bytes ∧
          computeSpeed row previous =
            (some (((row.bytes.1 : ℚ) - p.bytes.1) / ((ts - p.timestamp) / 1000)),
              some (((row.bytes.2 : ℚ) - p.bytes.2) / ((ts - p.timestamp) / 1000)))) ∨
        computeSpeed row previous = (none, none) ∧
          ∀ ts, row.timestamp = some ts → ∀ q, ¬ t.Older id ts q) := by
  cases time : row.timestamp with
  | none =>
    refine ⟨none, ?_, .inr ⟨computeSpeed_none row, nofun⟩⟩
    simp only [fetchPreviousStatisticRow, time]
    rfl
  | some ts =>
    obtain ⟨previous, chosen, base, nothing⟩ :=
      fetchPrevious_alone time fun q held same => latest.covers held same
    refine ⟨previous, chosen, ?_⟩
    cases previous with
    | none =>
      refine .inr ⟨computeSpeed_none row, ?_⟩
      rintro _ ⟨⟩
      exact nothing rfl
    | some p =>
      have since := base p rfl
      have covered := latest.covers since.older.1 since.older.2.1
      exact .inl ⟨ts, p, rfl, since, covered,
        computeSpeed_older time busy covered since.older.2.2⟩

theorem buildRow_alone (admin : canAccessLegacyServers params.user = true) {s : ServerRow}
    (found : t.answer (.server id) = some s) :
    ∃ row, alone (buildServerStatisticsRow id params) t = some (some row) ∧ row.serverId = id ∧
      Reports t row := by
  have server : s ∈ t.rows ∧ s.id = id ∧ s.listed = true := by
    have holds := List.find?_some found
    obtain ⟨same, listed⟩ := of_decide_eq_true holds
    exact ⟨List.mem_of_find?_eq_some found, same, listed⟩
  obtain ⟨mem, rfl, listed⟩ := server
  obtain ⟨latest, first, absent, known⟩ := fetchLatest_alone t s.id
  simp only [buildServerStatisticsRow, admin, if_true, alone_ask, found]
  rw [alone_andThen first]
  cases latest with
  | none =>
    obtain ⟨zero, nothing⟩ := absent rfl
    refine ⟨_, rfl, rfl, ⟨s, mem, listed, rfl, rfl⟩, zero.symm,
      fun q held same => absurd same (nothing q held), nofun, .inr ⟨rfl, rfl, .inl ⟨rfl, rfl⟩⟩⟩
  | some row =>
    have isLatest := known row rfl
    cases idle : isEmptyStatisticRow row with
    | true =>
      obtain ⟨zero, none_⟩ := of_decide_eq_true idle
      refine ⟨_, by simp only [idle, if_true]; rfl, rfl, ⟨s, mem, listed, rfl, rfl⟩, ?_,
        isLatest.newest, ?_, .inr ⟨rfl, rfl, .inl ⟨rfl, rfl⟩⟩⟩
      · exact zero.symm.trans isLatest.bytes
      · intro ts time
        obtain ⟨q, held, same, at_, count⟩ := isLatest.current ts time
        exact ⟨q, held, same, at_, count.trans none_⟩
    | false =>
      obtain ⟨previous, chosen, speeds⟩ := speeds_alone isLatest idle
      obtain ⟨serverId, bytes, count, time⟩ := row
      obtain rfl : serverId = s.id := isLatest.serverId
      simp only [idle, Bool.false_eq_true, if_false]
      rw [alone_andThen chosen]
      refine ⟨_, rfl, rfl, ⟨s, mem, listed, rfl, rfl⟩, isLatest.bytes, isLatest.newest,
        isLatest.current, ?_⟩
      rcases speeds with ⟨ts, p, at_, base, covered, computed⟩ | ⟨computed, nothing⟩
      · rw [computed]
        exact .inl ⟨ts, p, at_, base, covered, rfl, rfl⟩
      · rw [computed]
        exact .inr ⟨rfl, rfl, .inr nothing⟩

theorem buildRows_alone (admin : canAccessLegacyServers params.user = true) {ids : List ℕ}
    (found : ∀ id ∈ ids, ∃ s, t.answer (.server id) = some s) :
    ∃ rows, alone (buildRows params ids) t = some rows ∧ rows.map (·.serverId) = ids ∧
      ∀ row ∈ rows, Reports t row := by
  induction ids with
  | nil => exact ⟨[], rfl, rfl, nofun⟩
  | cons id ids ih =>
    obtain ⟨s, here⟩ := found id List.mem_cons_self
    obtain ⟨row, first, same, reports⟩ := buildRow_alone admin here
    obtain ⟨rows, rest, ids_, all⟩ := ih fun j mem => found j (List.mem_cons_of_mem _ mem)
    refine ⟨row :: rows, ?_, ?_, ?_⟩
    · rw [buildRows, alone_andThen first, alone_andThen rest]
      rfl
    · rw [List.map_cons, same, ids_]
    · exact List.forall_mem_cons.2 ⟨reports, all⟩

def visible (params : Params) (t : Tables) : List ServerRow :=
  t.rows.filter fun r => canAccessLegacyServers params.user && r.listed &&
    (resolveStatisticsUserId params).all (r.userId = some ·)

/-- A request that is alone with the tables answers with one row for each server of the user, in
the order of the ids, and the rows report what is stored: the guard against regressive predecessors
never finds one. -/
theorem overview_reports (params : Params) (t : Tables) :
    ∃ rows, alone (find params) t = some rows ∧
      (rows.map (·.serverId)).Perm ((visible params t).map (·.id)) ∧
      (rows.map (·.serverId)).Pairwise (· ≤ ·) ∧ ∀ row ∈ rows, Reports t row := by
  cases admin : canAccessLegacyServers params.user with
  | false =>
    refine ⟨[], ?_, ?_, .nil, nofun⟩
    · simp only [find, fetchEnabledServers, admin, Bool.false_eq_true, if_false]
      rfl
    · simp [visible, admin]
  | true =>
    have enabled : alone (fetchEnabledServers params) t =
        some (((visible params t).insertionSort (·.id ≤ ·.id)).map (·.id)) := by
      simp only [fetchEnabledServers, admin, if_true, alone_ask, visible, Bool.true_and]
      rfl
    have perm := List.perm_insertionSort (fun a b : ServerRow => a.id ≤ b.id) (visible params t)
    have found (id : ℕ)
        (mem : id ∈ ((visible params t).insertionSort (·.id ≤ ·.id)).map (·.id)) :
        ∃ s, t.answer (.server id) = some s := by
      obtain ⟨s, inside, rfl⟩ := List.mem_map.1 mem
      obtain ⟨stored, seen⟩ := List.mem_filter.1 (perm.mem_iff.1 inside)
      simp only [Bool.and_eq_true] at seen
      exact Option.isSome_iff_exists.1
        (List.find?_isSome.2 ⟨s, stored, decide_eq_true ⟨rfl, seen.1.2⟩⟩)
    obtain ⟨rows, built, ids, reports⟩ := buildRows_alone admin found
    refine ⟨rows, ?_, ?_, ?_, reports⟩
    · rw [find, alone_andThen enabled, built]
    · rw [ids]
      exact perm.map _
    · rw [ids, List.pairwise_map]
      exact List.pairwise_insertionSort _ _

end StatisticsService
