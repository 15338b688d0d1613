import Mathlib.Algebra.Group.Prod
import Mathlib.Algebra.GroupWithZero.Nat
import Mathlib.Algebra.Order.Group.Nat
import Mathlib.Algebra.Order.Monoid.Prod
import NetPort.StepRuns

/-! The cumulative traffic of the static servers: in the memory of the server process, in the
columns of `servers` and in the rows of `statistic`. Every SQL statement is a step of its own, which
the database may refuse, and so is every load and store of a counter that other threads use too.
The process may be restarted and the backend may reset a server at any time. -/
namespace ServerTotals

open StepRuns

/-- `bytes_received` and `bytes_sent`; order and maximum are componentwise. -/
abbrev Totals := ℕ × ℕ

inductive Counter where
  | received
  | sent
  deriving DecidableEq, Repr

def Counter.get : Counter → Totals → ℕ
  | received, t => t.1
  | sent, t => t.2

def Counter.set : Counter → ℕ → Totals → Totals
  | received, n, t => (n, t.2)
  | sent, n, t => (t.1, n)

/-- A row of `statistic`. -/
structure Snapshot where
  serverId : ℕ
  bytes : Totals
  connectionsCount : ℕ
  timestamp : ℕ
  deriving DecidableEq, Repr

/-- `total_bytes_received` and `total_bytes_sent` of the rows of `servers`, and `statistic`. -/
structure Db where
  servers : ℕ → Option Totals
  statistic : List Snapshot

/-- What the two functions read and write of `proxy_server_t`. `row` is the `servers.id` that the
16 bits of `id` were taken from. -/
structure Server where
  row : ℕ
  id : ℕ
  enable : Bool
  isDynamicPort : Bool
  bytes : Totals
  connectionsCount : ℕ
  deriving DecidableEq, Repr

/-- The statement of `load_server_statistics` that is sent next, with what the ones before it
returned and whether they succeeded. -/
inductive Load where
  | persisted
  | peak (persisted : Totals) (read : Bool)
  | persist
  deriving DecidableEq, Repr

/-- The same for `save_server_statistics`, and what it does between its statements: each counter is
loaded and the maximum of it and `last` stored, and the statements take the counters over. -/
inductive Save where
  | persisted
  | peak
  | load (c : Counter) (last : Totals)
  | store (c : Counter) (last : Totals) (read : ℕ)
  | formatPersist
  | persist (bytes : Totals)
  | formatInsert
  | insert (bytes : Totals) (connectionsCount : ℕ)
  deriving DecidableEq, Repr

def Save.sent : Save → Bool
  | persisted | peak | persist _ | insert _ _ => true
  | _ => false

inductive Task where
  | idle
  | loading (i : ℕ) (p : Load)
  | saving (i : ℕ) (p : Save)
  | syncing (cutoff : ℕ)
  | deleting (cutoff : ℕ) (synced : Bool)
  deriving DecidableEq, Repr

def Task.loads : Task → Bool
  | .loading _ _ => true
  | _ => false

def Task.waits : Task → Bool
  | .idle => false
  | .saving _ p => p.sent
  | _ => true

/-- `+=` loads a counter and stores the sum; `memcpy` comes last. -/
inductive Stage where
  | load (c : Counter)
  | store (c : Counter) (read : ℕ)
  | copy
  deriving DecidableEq, Repr

def Counter.stored : Counter → Stage
  | received => .load .sent
  | sent => .copy

/-- A thread in `update_server_statistics`. -/
structure Update where
  runtime : ℕ
  bytes : Totals
  stage : Stage
  deriving DecidableEq, Repr

/-- `servers` of the process and the copies of its elements that the threads of the runtimes use;
`serving` since `switcher_servers_start`; `resetting` are the servers whose snapshots a reset has
deleted. -/
structure World where
  db : Db
  servers : List Server
  runtimes : List Server
  updates : List Update
  serving : Bool
  task : Task
  resetting : List ℕ

inductive Action where
  | start (rows : List (ℕ × Bool))
  | startServers
  | createDynamic
  | update (i : ℕ) (bytes : Totals)
  | proceed (k : ℕ)
  | connections (i : ℕ) (count : ℕ)
  | save (i : ℕ)
  | work
  | cleanup (cutoff : ℕ)
  | answer (ok : Bool) (now : ℕ)
  | resetSnapshots (id : ℕ) (ok : Bool)
  | resetTotals (id : ℕ) (ok : Bool)
  deriving DecidableEq, Repr

namespace Db

/-- `fetch_peak_statistic_totals_unlocked` -/
def peak (db : Db) (id : ℕ) : Totals :=
  ((db.statistic.filter (·.serverId = id)).map (·.bytes)).foldr (· ⊔ ·) 0

def persisted (db : Db) (id : ℕ) : Totals := (db.servers id).getD 0

def stored (db : Db) (id : ℕ) : Totals := db.persisted id ⊔ db.peak id

/-- The range of `BIGINT`. -/
def fits (t : Totals) : Bool := t.1 < 2 ^ 63 && t.2 < 2 ^ 63

/-- `persist_server_totals_unlocked` -/
def persist (db : Db) (id : ℕ) (t : Totals) : Db :=
  if fits t then { db with servers := Function.update db.servers id ((db.servers id).map (· ⊔ t)) }
  else db

/-- `sync_all_server_totals_from_statistics` -/
def sync (db : Db) : Db :=
  { db with servers := fun id => (db.servers id).map (· ⊔ db.peak id) }

/-- The `DELETE` of `cleanup_old_statistics`. -/
def delete (db : Db) (cutoff : ℕ) : Db :=
  { db with statistic := db.statistic.filter (cutoff ≤ ·.timestamp) }

def insert (db : Db) (r : Snapshot) : Db := { db with statistic := db.statistic ++ [r] }

end Db

namespace Db

variable {db : Db} {id : ℕ} {t : Totals} {r : Snapshot}

theorem le_peak (mem : r ∈ db.statistic) : r.bytes ≤ db.peak r.serverId := by
  have all (xs : List Totals) (x : Totals) (mem : x ∈ xs) : x ≤ xs.foldr (· ⊔ ·) 0 := by
    induction xs with
    | nil => cases mem
    | cons y ys ih =>
      rcases List.mem_cons.1 mem with rfl | mem
      · exact le_sup_left
      · exact (ih mem).trans le_sup_right
  apply all
  exact List.mem_map_of_mem (List.mem_filter.2 ⟨mem, by simp⟩)

theorem peak_le (below : ∀ r ∈ db.statistic, r.serverId = id → r.bytes ≤ t) : db.peak id ≤ t := by
  have all (xs : List Totals) (below : ∀ x ∈ xs, x ≤ t) : xs.foldr (· ⊔ ·) 0 ≤ t := by
    induction xs with
    | nil => exact ⟨Nat.zero_le _, Nat.zero_le _⟩
    | cons y ys ih =>
      exact sup_le (below y (by simp)) (ih fun x mem => below x (List.mem_cons_of_mem _ mem))
  apply all
  intro x mem
  obtain ⟨r, found, rfl⟩ := List.mem_map.1 mem
  obtain ⟨stored, own⟩ := List.mem_filter.1 found
  exact below r stored (of_decide_eq_true own)

theorem persisted_of_some (found : db.servers id = some t) : db.persisted id = t := by
  simp [persisted, found]

end Db

/-- Addition of `uint64_t`. -/
def add64 (a b : ℕ) : ℕ := (a + b) % 2 ^ 64

namespace World

def setServer (w : World) (i : ℕ) (v : Server) : World :=
  { w with servers := w.servers.set i v }

/-- `memcpy` of the statistics to the element of `servers` that `find_server_index_by_id`
returns. -/
def publish (w : World) (v : Server) : World :=
  match w.servers.findIdx? (·.id = v.id) with
  | some j =>
    { w with servers := w.servers.modify j fun old =>
        { old with bytes := v.bytes, connectionsCount := v.connectionsCount } }
  | none => w

def setRuntime (w : World) (i : ℕ) (v : Server) : World :=
  { w with runtimes := w.runtimes.set i v }

/-- The next server of the loop in `get_user_server_ports`. -/
def loadFrom (w : World) (i : ℕ) : World :=
  { w with task := if i < w.servers.length then .loading i .persisted else .idle }

end World

/-- All but `servers` is as it was. -/
theorem publish_kept (w : World) (v : Server) :
    w.publish v = { w with servers := (w.publish v).servers } := by
  unfold World.publish
  split <;> rfl

/-- The rows of the user's servers, with `enable`; `id` has 16 bits. -/
def start (w : World) (rows : List (ℕ × Bool)) : World :=
  { w with
    servers := rows.map fun (row, enable) => ⟨row, row % 2 ^ 16, enable, false, 0, 0⟩
    runtimes := []
    updates := []
    serving := false }.loadFrom 0

/-- `load_server_statistics` -/
def loadAnswer (w : World) (ok : Bool) (i : ℕ) (server : Server) : Load → World
  | .persisted =>
    let found := if ok then w.db.servers server.id else none
    { w with task := .loading i (.peak (found.getD 0) found.isSome) }
  | .peak persisted _ =>
    let peak := if ok then w.db.peak server.id else 0
    { w.setServer i { server with bytes := persisted ⊔ peak, connectionsCount := 0 } with
      task := .loading i .persist }
  | .persist =>
    -- nothing is sent when both totals are 0; a failure is only logged
    let db := if ok ∧ server.bytes ≠ 0 then w.db.persist server.id server.bytes else w.db
    { w with db := db }.loadFrom (i + 1)

/-- `save_server_statistics` returns 0 without a statement. -/
def Server.unsaved (v : Server) : Bool :=
  v.isDynamicPort || v.bytes == 0 && v.connectionsCount == 0

/-- The answers to the statements of `save_server_statistics`. -/
def saveAnswer (w : World) (ok : Bool) (now i : ℕ) (server : Server) : Save → World
  | .persisted =>
    match if ok then w.db.servers server.id else none with
    | some t => { w with task := .saving i (.load .received t) }
    | none => { w with task := .saving i .peak }
  | .peak =>
    { w with
      task := .saving i (if ok then .load .received (w.db.peak server.id) else .formatPersist) }
  | .persist bytes =>
    let db := if ok then w.db.persist server.id bytes else w.db
    { w with db := db, task := .saving i .formatInsert }
  | .insert bytes connectionsCount =>
    let row : Snapshot := ⟨server.id, bytes, connectionsCount, now⟩
    { w with
      db := if ok ∧ Db.fits bytes then w.db.insert row else w.db
      task := .idle }
  | .load _ _ | .store _ _ _ | .formatPersist | .formatInsert => w

/-- What `save_server_statistics` does in memory. -/
def saveWork (w : World) (i : ℕ) (server : Server) : Save → World
  | .load c last => { w with task := .saving i (.store c last (c.get server.bytes)) }
  | .store c last read =>
    let bytes := c.set (max read (c.get last)) server.bytes
    { w.setServer i { server with bytes := bytes } with
      task := .saving i (match c with | .received => .load .sent last | .sent => .formatPersist) }
  | .formatPersist => { w with task := .saving i (.persist server.bytes) }
  | .formatInsert => { w with task := .saving i (.insert server.bytes server.connectionsCount) }
  | .persisted | .peak | .persist _ | .insert _ _ => w

def work (w : World) : World :=
  match w.task with
  | .saving i p =>
    match w.servers[i]? with
    | some server => saveWork w i server p
    | none => w
  | _ => w

def answer (w : World) (ok : Bool) (now : ℕ) : World :=
  match w.task with
  | .idle => w
  | .loading i p =>
    match w.servers[i]? with
    | some server => loadAnswer w ok i server p
    | none => w
  | .saving i p =>
    match w.servers[i]? with
    | some server => saveAnswer w ok now i server p
    | none => w
  | .syncing cutoff =>
    -- the snapshots are deleted whatever came of the `UPDATE`
    { w with db := if ok then w.db.sync else w.db, task := .deleting cutoff ok }
  | .deleting cutoff _ =>
    { w with db := if ok then w.db.delete cutoff else w.db, task := .idle }

/-- The next step of a call of `update_server_statistics`; `v` is the element of `runtimes`. -/
def proceed (w : World) (k : ℕ) (u : Update) (v : Server) : World :=
  match u.stage with
  | .load c =>
    { w with updates := w.updates.set k { u with stage := .store c (c.get v.bytes) } }
  | .store c read =>
    let bytes := c.set (add64 read (c.get u.bytes)) v.bytes
    { w.setRuntime u.runtime { v with bytes := bytes } with
      updates := w.updates.set k { u with stage := c.stored } }
  | .copy => { w with updates := w.updates.eraseIdx k }.publish v

def connect (w : World) (i : ℕ) (v : Server) : World := (w.setRuntime i v).publish v

def next (w : World) : Action → World
  | .start rows => start w rows
  | .startServers =>
    { w with runtimes := w.runtimes ++ w.servers.filter (·.enable), serving := true }
  | .createDynamic =>
    let server : Server := ⟨0, 0, true, true, 0, 0⟩
    { w with servers := w.servers ++ [server], runtimes := w.runtimes ++ [server] }
  | .update i bytes =>
    match w.runtimes[i]? with
    | some v =>
      if v.isDynamicPort then w
      else { w with updates := w.updates ++ [⟨i, bytes, .load .received⟩] }
    | none => w
  | .proceed k =>
    match w.updates[k]? with
    | some u =>
      match w.runtimes[u.runtime]? with
      | some v => proceed w k u v
      | none => w
    | none => w
  | .connections i c =>
    match w.runtimes[i]? with
    | some v => if v.isDynamicPort then w else connect w i { v with connectionsCount := c }
    | none => w
  | .save i =>
    match w.servers[i]? with
    | some server => if server.unsaved then w else { w with task := .saving i .persisted }
    | none => w
  | .work => work w
  | .cleanup cutoff => { w with task := .syncing cutoff }
  | .answer ok now => answer w ok now
  | .resetSnapshots id ok =>
    if ok then
      { w with
        db := { w.db with statistic := w.db.statistic.filter (·.serverId ≠ id) }
        resetting := id :: w.resetting }
    else w
  | .resetTotals id ok =>
    let db : Db := { w.db with
      servers := Function.update w.db.servers id ((w.db.servers id).map fun _ => 0) }
    { w with db := if ok then db else w.db, resetting := w.resetting.erase id }

/-- The saver thread does one thing after the other, once all servers are loaded; the rows that are
read at the start are there. -/
def Enabled (w : World) : Action → Prop
  | .start rows => (rows.map (·.1)).Nodup ∧ ∀ r ∈ rows, (w.db.servers r.1).isSome
  | .startServers => w.task = .idle ∧ w.serving = false
  | .createDynamic => w.task.loads = false
  | .update i _ | .connections i _ => i < w.runtimes.length
  | .proceed k => k < w.updates.length
  | .save i => w.task = .idle ∧ w.serving = true ∧ ∃ server ∈ w.servers[i]?, server.enable = true
  | .work => w.task ≠ .idle ∧ w.task.waits = false
  | .cleanup _ => w.task = .idle ∧ w.serving = true
  | .answer _ _ => w.task.waits = true
  | .resetSnapshots _ _ => True
  | .resetTotals id _ => id ∈ w.resetting

instance (w : World) (a : Action) : Decidable (Enabled w a) := by
  rcases a <;> dsimp only [Enabled] <;> infer_instance

def Action.resets : Action → Bool
  | .resetSnapshots _ _ | .resetTotals _ _ => true
  | _ => false

end ServerTotals
