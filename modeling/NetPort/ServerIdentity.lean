import Mathlib.Data.List.Basic
import NetPort.ServerTotals

/-! The ids of the static servers: from the rows of `servers` into 16 bits of memory, and back into
the statements of the process. -/
namespace ServerIdentity

open StepRuns ServerTotals

/-- The rows of a user, ordered by their ids, which come from a serial column; `enable` beside. -/
structure ServersTable where
  rows : List (ℕ × Bool)
  ordered : rows.Pairwise fun r r' => r.1 < r'.1
  serial : ∀ r ∈ rows, 0 < r.1 ∧ r.1 < 2 ^ 31

/-- The rows that `get_user_server_ports` takes: `qntuples` has 16 bits. -/
def getUserServerPorts (t : ServersTable) : List (ℕ × Bool) :=
  t.rows.take (t.rows.length % 2 ^ 16)

/-- `strtol(text, NULL, 10)` of digits. -/
def strtol (text : List Char) : ℕ := text.foldl (fun n c => 10 * n + (c.toNat - '0'.toNat)) 0

/-- `PQgetvalue` of an integer column, and `%d` of an id. -/
def decimal (n : ℕ) : List Char := Nat.toDigits 10 n

theorem strtol_decimal (n : ℕ) : strtol (decimal n) = n := by
  have digit : ∀ d < 10, d.digitChar.toNat - '0'.toNat = d := by decide
  induction n using Nat.strongRecOn with
  | _ n ih =>
    unfold decimal
    rw [Nat.toDigits_eq_if (by decide)]
    split
    · rename_i small
      simpa [strtol] using digit n small
    · rename_i large
      have before := ih (n / 10) (by omega)
      have last := digit (n % 10) (by omega)
      unfold strtol decimal at before
      rw [strtol, List.foldl_append, before, List.foldl_cons, List.foldl_nil, last]
      omega

/-- The id in memory is the parsed text of the column, in 16 bits. -/
theorem start_ids (w : World) (rows : List (ℕ × Bool)) :
    (start w rows).servers.map (·.id) = rows.map fun r => strtol (decimal r.1) % 2 ^ 16 := by
  simp only [strtol_decimal]
  simp [start, World.loadFrom]

def process : System World Action where
  initial w := w.servers = [] ∧ w.runtimes = [] ∧ w.updates = [] ∧ w.serving = false ∧
    w.task = .idle
  enabled w a := Enabled w a ∧ ∀ rows, a = .start rows → ∃ t, rows = getUserServerPorts t
  next := ServerTotals.next

def handled (w : World) : Option Server :=
  match w.task with
  | .loading i _ | .saving i _ => w.servers[i]?
  | _ => none

/-- The statement that is sent for a server reads nothing of the database but what belongs to the
server's row, and changes only that row's totals; the snapshots it inserts are of that row. -/
structure Own (w : World) (v : Server) (ok : Bool) (now : ℕ) : Prop where
  loaded : ∀ db : Db, db.servers v.row = w.db.servers v.row → db.peak v.row = w.db.peak v.row →
    (answer { w with db := db } ok now).servers = (answer w ok now).servers ∧
      (answer { w with db := db } ok now).task = (answer w ok now).task
  persisted : ∀ id, id ≠ v.row → (answer w ok now).db.servers id = w.db.servers id
  snapshots : ∀ r ∈ (answer w ok now).db.statistic, r ∈ w.db.statistic ∨ r.serverId = v.row

/-- `find_server_index_by_id` -/
def findServerIndexById (servers : List Server) (id : ℕ) : Option ℕ :=
  servers.findIdx? (·.id = id)

/-- Every statement concerns the row of the server it is sent for, the servers of different rows
have different ids, and a runtime's traffic is published to the server of its row. -/
structure Identity (w : World) : Prop where
  own : ∀ v ∈ handled w, ∀ ok now, Own w v ok now
  distinct : ∀ v ∈ w.servers, ∀ v' ∈ w.servers, v.row ≠ v'.row → v.id ≠ v'.id
  slot : ∀ v ∈ w.runtimes, v.isDynamicPort = false → ∃ j u,
    findServerIndexById w.servers v.id = some j ∧ w.servers[j]? = some u ∧
      u.isDynamicPort = false ∧ u.row = v.row

def Fits : Action → Prop
  | .start rows => ∀ r ∈ rows, r.1 < 2 ^ 16
  | _ => True

variable {w : World} {a : Action} {v : Server} {log : List (World × Action)}

def key (v : Server) : ℕ × ℕ × Bool := (v.row, v.id, v.isDynamicPort)

section Keys

variable {xs ys : List Server} {i : ℕ} {x y : Server}

theorem keys_set (at_ : xs[i]? = some x) (same : key y = key x) :
    (xs.set i y).map key = xs.map key := by
  obtain ⟨inside, rfl⟩ := List.getElem?_eq_some_iff.1 at_
  rw [List.map_set, same, ← List.getElem_map key, List.set_getElem_self]
  simpa using inside

theorem keys_publish (w : World) (v : Server) :
    (w.publish v).servers.map key = w.servers.map key := by
  unfold World.publish
  split
  · rename_i j found
    obtain ⟨inside, -⟩ := List.findIdx?_eq_some_iff_getElem.1 found
    rw [List.modify_eq_set_getElem?, List.getElem?_eq_getElem inside]
    exact keys_set (List.getElem?_eq_getElem inside) rfl
  · rfl

theorem keys_loadAnswer (at_ : w.servers[i]? = some v) (ok : Bool) (p : Load) :
    (loadAnswer w ok i v p).servers.map key = w.servers.map key ∧
      (loadAnswer w ok i v p).runtimes = w.runtimes := by
  cases p with
  | persisted => exact ⟨rfl, rfl⟩
  | peak => exact ⟨keys_set at_ rfl, rfl⟩
  | persist => exact ⟨rfl, rfl⟩

theorem keys_saveAnswer (w : World) (ok : Bool) (now i : ℕ) (v : Server) (p : Save) :
    (saveAnswer w ok now i v p).servers = w.servers ∧
      (saveAnswer w ok now i v p).runtimes = w.runtimes := by
  cases p with
  | persisted =>
    simp only [saveAnswer]
    split <;> exact ⟨rfl, rfl⟩
  | peak | persist | insert | load | store | formatPersist | formatInsert => exact ⟨rfl, rfl⟩

/-- The statements change what is counted, never which server it is. -/
theorem keys_answer (w : World) (ok : Bool) (now : ℕ) :
    (answer w ok now).servers.map key = w.servers.map key ∧
      (answer w ok now).runtimes = w.runtimes := by
  unfold answer
  split
  · exact ⟨rfl, rfl⟩
  · split
    · exact keys_loadAnswer ‹_› ok _
    · exact ⟨rfl, rfl⟩
  · split
    · obtain ⟨servers, runtimes⟩ := keys_saveAnswer w ok now _ _ _
      exact ⟨by rw [servers], runtimes⟩
    · exact ⟨rfl, rfl⟩
  · exact ⟨rfl, rfl⟩
  · exact ⟨rfl, rfl⟩

theorem keys_work (w : World) :
    (work w).servers.map key = w.servers.map key ∧ (work w).runtimes = w.runtimes := by
  unfold work
  split
  · rename_i i p task
    split
    · rename_i v at_
      cases p with
      | store => exact ⟨keys_set at_ rfl, rfl⟩
      | persisted | peak | load | formatPersist | persist | formatInsert | insert =>
        exact ⟨rfl, rfl⟩
    · exact ⟨rfl, rfl⟩
  · exact ⟨rfl, rfl⟩

theorem keys_proceed {k : ℕ} {u : Update} (at_ : w.runtimes[u.runtime]? = some v) :
    (proceed w k u v).servers.map key = w.servers.map key ∧
      (proceed w k u v).runtimes.map key = w.runtimes.map key := by
  unfold proceed
  split
  · exact ⟨rfl, rfl⟩
  · exact ⟨rfl, keys_set at_ rfl⟩
  · refine ⟨keys_publish _ v, ?_⟩
    rw [publish_kept]

theorem keys_connect {i : ℕ} {v' : Server} (at_ : w.runtimes[i]? = some v) (same : key v' = key v) :
    (connect w i v').servers.map key = w.servers.map key ∧
      (connect w i v').runtimes.map key = w.runtimes.map key := by
  refine ⟨keys_publish _ v', ?_⟩
  rw [connect, publish_kept]
  exact keys_set at_ same

end Keys

/-- The ids are the rows, the dynamic servers have none, and a static one that runs is loaded. -/
structure Known (servers runtimes : List (ℕ × ℕ × Bool)) : Prop where
  ids : ∀ k, k ∈ servers ∨ k ∈ runtimes → k.2.1 = k.1 ∧ (k.2.2 = false ↔ 0 < k.1)
  slots : ∀ k ∈ runtimes, k.2.2 = false → k ∈ servers

def Invariant (w : World) : Prop := Known (w.servers.map key) (w.runtimes.map key)

theorem invariant_congr {w' : World} (inv : Invariant w)
    (same : w'.servers.map key = w.servers.map key ∧ w'.runtimes.map key = w.runtimes.map key) :
    Invariant w' := by
  unfold Invariant
  rwa [same.1, same.2]

theorem invariant_start {t : ServersTable} (fits : Fits (.start (getUserServerPorts t))) :
    Invariant (start w (getUserServerPorts t)) := by
  constructor
  · rintro k (mem | mem)
    · simp only [start, World.loadFrom, List.map_map, List.mem_map] at mem
      obtain ⟨r, mem, rfl⟩ := mem
      have small := fits r mem
      have positive := (t.serial r (List.mem_of_mem_take mem)).1
      exact ⟨Nat.mod_eq_of_lt small, iff_of_true rfl positive⟩
    · cases mem
  · intro k mem
    cases mem

theorem invariant_next (inv : Invariant w) (enabled : process.enabled w a) (fits : Fits a) :
    Invariant (process.next w a) := by
  change Invariant (ServerTotals.next w a)
  cases a with
  | start rows =>
    obtain ⟨t, rfl⟩ := enabled.2 rows rfl
    exact invariant_start fits
  | startServers =>
    have copied (k : ℕ × ℕ × Bool)
        (mem : k ∈ (w.runtimes ++ w.servers.filter (·.enable)).map key) :
        k ∈ w.runtimes.map key ∨ k ∈ w.servers.map key := by
      rw [List.map_append, List.mem_append] at mem
      exact mem.imp_right fun copies => (List.filter_sublist.map key).subset copies
    constructor
    · intro k mem
      exact inv.ids k (mem.elim .inl fun running => (copied k running).symm)
    · intro k mem static
      exact (copied k mem).elim (fun running => inv.slots k running static) id
  | createDynamic =>
    have added (xs : List Server) (k : ℕ × ℕ × Bool)
        (mem : k ∈ (xs ++ [(⟨0, 0, true, true, 0, 0⟩ : Server)]).map key) :
        k ∈ xs.map key ∨ k = (0, 0, true) := by
      rw [List.map_append, List.mem_append] at mem
      exact mem.imp_right List.mem_singleton.1
    constructor
    · intro k mem
      rcases mem.imp (added w.servers k) (added w.runtimes k) with
        (old | rfl) | (old | rfl)
      · exact inv.ids k (.inl old)
      · exact ⟨rfl, by decide⟩
      · exact inv.ids k (.inr old)
      · exact ⟨rfl, by decide⟩
    · intro k mem static
      rcases added w.runtimes k mem with old | rfl
      · exact (List.sublist_append_left w.servers _).map key |>.subset (inv.slots k old static)
      · cases static
  | update i bytes =>
    simp only [ServerTotals.next]
    split
    · split <;> exact inv
    · exact inv
  | proceed k =>
    simp only [ServerTotals.next]
    split
    · split
      · exact invariant_congr inv (keys_proceed ‹_›)
      · exact inv
    · exact inv
  | connections i c =>
    simp only [ServerTotals.next]
    split
    · rename_i v at_
      split
      · exact inv
      · exact invariant_congr inv (keys_connect at_ rfl)
    · exact inv
  | save i =>
    simp only [ServerTotals.next]
    split
    · split <;> exact inv
    · exact inv
  | work =>
    obtain ⟨servers, runtimes⟩ := keys_work w
    exact invariant_congr inv ⟨servers, by rw [ServerTotals.next, runtimes]⟩
  | cleanup cutoff => exact inv
  | answer ok now =>
    obtain ⟨servers, runtimes⟩ := keys_answer w ok now
    exact invariant_congr inv ⟨servers, by rw [ServerTotals.next, runtimes]⟩
  | resetSnapshots id ok =>
    simp only [ServerTotals.next]
    split <;> exact inv
  | resetTotals id ok => exact inv

section Statements

variable {db : Db} {i id : ℕ} {t : Totals} {ok : Bool} {now : ℕ}

theorem persist_other (other : id ≠ i) : (db.persist i t).servers id = db.servers id := by
  unfold Db.persist
  split
  · exact Function.update_of_ne other _ _
  · rfl

theorem persist_statistic : (db.persist i t).statistic = db.statistic := by
  unfold Db.persist
  split <;> rfl

theorem own_load {p : Load} (task : w.task = .loading i p) (at_ : w.servers[i]? = some v)
    (same : v.id = v.row) : Own w v ok now := by
  have answers (db : Db) : answer { w with db := db } ok now =
      loadAnswer { w with db := db } ok i v p := by
    simp only [answer, task, at_]
  have here : answer w ok now = loadAnswer w ok i v p := answers w.db
  constructor
  · intro db totals peak
    rw [answers, here]
    rw [← same] at totals peak
    cases p <;> simp [loadAnswer, World.setServer, World.loadFrom, totals, peak]
  · intro id other
    rw [here]
    rw [← same] at other
    cases p with
    | persisted => rfl
    | peak => rfl
    | persist =>
      simp only [loadAnswer, World.loadFrom]
      split
      · exact persist_other other
      · rfl
  · intro r mem
    rw [here] at mem
    cases p with
    | persisted => exact .inl mem
    | peak => exact .inl mem
    | persist =>
      simp only [loadAnswer, World.loadFrom] at mem
      split at mem
      · exact .inl (persist_statistic ▸ mem)
      · exact .inl mem

theorem own_save {p : Save} (task : w.task = .saving i p) (at_ : w.servers[i]? = some v)
    (same : v.id = v.row) : Own w v ok now := by
  have answers (db : Db) : answer { w with db := db } ok now =
      saveAnswer { w with db := db } ok now i v p := by
    simp only [answer, task, at_]
  have here : answer w ok now = saveAnswer w ok now i v p := answers w.db
  constructor
  · intro db totals peak
    rw [answers, here]
    rw [← same] at totals peak
    cases p with
    | persisted =>
      simp only [saveAnswer, totals]
      split <;> exact ⟨rfl, rfl⟩
    | peak => simp only [saveAnswer, peak, and_self]
    | persist | insert => exact ⟨rfl, rfl⟩
    | load | store | formatPersist | formatInsert => exact ⟨rfl, task.trans task.symm⟩
  · intro id other
    rw [here]
    rw [← same] at other
    cases p with
    | persisted =>
      simp only [saveAnswer]
      split <;> rfl
    | peak | load | store | formatPersist | formatInsert => rfl
    | persist =>
      simp only [saveAnswer]
      split
      · exact persist_other other
      · rfl
    | insert =>
      simp only [saveAnswer]
      split <;> rfl
  · intro r mem
    rw [here] at mem
    cases p with
    | persisted =>
      simp only [saveAnswer] at mem
      split at mem <;> exact .inl mem
    | peak | load | store | formatPersist | formatInsert => exact .inl mem
    | persist =>
      simp only [saveAnswer] at mem
      split at mem
      · exact .inl (persist_statistic ▸ mem)
      · exact .inl mem
    | insert =>
      simp only [saveAnswer] at mem
      split at mem
      · rcases List.mem_append.1 mem with old | new
        · exact .inl old
        · rw [List.mem_singleton.1 new]
          exact .inr same
      · exact .inl mem

end Statements

theorem invariant_identity (inv : Invariant w) : Identity w := by
  have row_of (v : Server) (mem : v ∈ w.servers ∨ v ∈ w.runtimes) : v.id = v.row :=
    (inv.ids (key v) (mem.imp List.mem_map_of_mem List.mem_map_of_mem)).1
  constructor
  · intro v mem ok now
    unfold handled at mem
    split at mem
    · exact own_load ‹_› mem (row_of v (.inl (List.mem_of_getElem? mem)))
    · exact own_save ‹_› mem (row_of v (.inl (List.mem_of_getElem? mem)))
    · cases mem
  · intro v mem v' mem' apart
    rwa [row_of v (.inl mem), row_of v' (.inl mem')]
  · intro v mem static
    have running : key v ∈ w.runtimes.map key := List.mem_map_of_mem mem
    obtain ⟨u, loaded, same⟩ := List.mem_map.1 (inv.slots (key v) running static)
    have found : (findServerIndexById w.servers v.id).isSome := by
      rw [findServerIndexById, List.findIdx?_isSome, List.any_eq_true]
      exact ⟨u, loaded, decide_eq_true (congrArg (·.2.1) same)⟩
    obtain ⟨j, at_⟩ := Option.isSome_iff_exists.1 found
    obtain ⟨inside, id, -⟩ := List.findIdx?_eq_some_iff_getElem.1 at_
    have there : w.servers[j] ∈ w.servers := List.getElem_mem inside
    have row : w.servers[j].row = v.row := by
      rw [← row_of v (.inr mem), ← of_decide_eq_true id]
      exact (row_of _ (.inl there)).symm
    refine ⟨j, _, at_, List.getElem?_eq_getElem inside, ?_, row⟩
    have positive := (inv.ids (key v) (.inr running)).2.1 static
    refine (inv.ids (key w.servers[j]) (.inl (List.mem_map_of_mem there))).2.2 ?_
    exact lt_of_lt_of_eq positive row.symm

theorem invariant_run (run : process.Run log w) (fits : ∀ e ∈ log, Fits e.2) :
    Invariant w ∧ ∀ e ∈ log, Invariant e.1 := by
  have start (w : World) (h : process.initial w) : Invariant w := by
    obtain ⟨servers, runtimes, -⟩ := h
    unfold Invariant
    rw [servers, runtimes]
    exact ⟨by simp, by simp⟩
  have keep (w : World) (a : Action) (inv : Invariant w) (enabled : process.enabled w a)
      (fits : Fits a) : Invariant (process.next w a) := invariant_next inv enabled fits
  exact ⟨run.invariant start keep fits, run.found start keep fits⟩

section Wide

variable {t : ServersTable} {i : ℕ}

/-- The only table that is read in a run is `t`. -/
def Reads (t : ServersTable) (log : List (World × Action)) : Prop :=
  ∀ e ∈ log, ∀ rows, e.2 = .start rows → rows = getUserServerPorts t

def loadedKeys (t : ServersTable) : List (ℕ × ℕ × Bool) :=
  (getUserServerPorts t).map fun r => (r.1, r.1 % 2 ^ 16, false)

/-- A run that has read the table `t` and is at a statement of the load of the server `i`. -/
structure Reaches (t : ServersTable) (i : ℕ) (p : Load) (log : List (World × Action)) (w : World) :
    Prop where
  run : process.Run log w
  reads : Reads t log
  task : w.task = .loading i p
  keys : w.servers.map key = loadedKeys t

theorem Reaches.length {p : Load} (h : Reaches t i p log w) :
    w.servers.length = (loadedKeys t).length := by
  rw [← h.keys, List.length_map]

theorem Reaches.answered {p p' : Load} {j : ℕ} (h : Reaches t i p log w)
    (at_ : w.servers[i]? = some v) (task : (loadAnswer w true i v p).task = .loading j p') :
    Reaches t j p' (log ++ [(w, .answer true 0)]) (loadAnswer w true i v p) := by
  have here : answer w true 0 = loadAnswer w true i v p := by
    simp only [answer, h.task, at_]
  have busy : w.task.waits = true := by
    rw [h.task]
    rfl
  refine ⟨here ▸ h.run.step ⟨busy, ?_⟩, ?_, task, (keys_loadAnswer at_ true p).1.trans h.keys⟩
  · rintro rows ⟨⟩
  · intro e mem rows same
    rcases List.mem_append.1 mem with old | new
    · exact h.reads e old rows same
    · rw [List.mem_singleton.1 new] at same
      cases same

theorem Reaches.next (h : Reaches t i .persisted log w) (more : i + 1 < (loadedKeys t).length) :
    ∃ log' w', Reaches t (i + 1) .persisted log' w' := by
  have length := h.length
  have first := h.answered (List.getElem?_eq_getElem (by omega)) rfl
  have length := first.length
  have second := first.answered (List.getElem?_eq_getElem (by omega)) rfl
  have length := second.length
  have third := second.answered (List.getElem?_eq_getElem (by omega))
    (if_pos (lt_of_lt_of_eq more length.symm))
  exact ⟨_, _, third⟩

theorem reaches {db : Db} (there : ∀ r ∈ t.rows, (db.servers r.1).isSome)
    (inside : i < (loadedKeys t).length) : ∃ log w, Reaches t i .persisted log w := by
  induction i with
  | zero =>
    let w : World := ⟨db, [], [], [], false, .idle, []⟩
    have length : (getUserServerPorts t).length = (loadedKeys t).length := by simp [loadedKeys]
    have initial : process.initial w := ⟨rfl, rfl, rfl, rfl, rfl⟩
    have nodup : ((getUserServerPorts t).map (·.1)).Nodup :=
      List.pairwise_map.2 ((t.ordered.sublist (List.take_sublist _ _)).imp fun h => by omega)
    have enabled : process.enabled w (.start (getUserServerPorts t)) := by
      refine ⟨⟨nodup, fun r mem => there r (List.mem_of_mem_take mem)⟩, fun rows same => ?_⟩
      cases same
      exact ⟨t, rfl⟩
    refine ⟨_, _, (System.Run.start initial).step enabled, ?_, ?_, ?_⟩
    · intro e mem rows same
      rw [List.nil_append, List.mem_singleton] at mem
      rw [mem] at same
      cases same
      rfl
    · exact if_pos (by simpa [length] using inside)
    · simp [process, ServerTotals.next, start, World.loadFrom, loadedKeys, key]
  | succ i ih =>
    obtain ⟨log, w, h⟩ := ih (by omega)
    exact h.next inside

theorem not_own (task : w.task = .loading i .persisted) (at_ : w.servers[i]? = some v)
    (wrong : v.row ≠ v.id) : ¬Own w v true 0 := by
  intro own
  -- nothing changes but whether there is a row with the id in memory
  let other : Option Totals := if (w.db.servers v.id).isSome then none else some 0
  have read := (own.loaded { w.db with servers := Function.update w.db.servers v.id other }
    (Function.update_of_ne wrong _ _) rfl).2
  simp only [answer, task, at_, loadAnswer, if_true, Task.loading.injEq, true_and,
    Load.peak.injEq, Function.update_self] at read
  have same := read.2
  cases found : (w.db.servers v.id).isSome with
  | true => simp [other, found] at same
  | false => simp [other, found] at same

theorem misread {db : Db} (there : ∀ r ∈ t.rows, (db.servers r.1).isSome)
    (wide : ∃ r ∈ getUserServerPorts t, 2 ^ 16 ≤ r.1) :
    ∃ log w, process.Run log w ∧ Reads t log ∧ ¬Identity w := by
  obtain ⟨r, mem, wide⟩ := wide
  obtain ⟨i, at_⟩ := List.mem_iff_getElem?.1 mem
  have known : (loadedKeys t)[i]? = some (r.1, r.1 % 2 ^ 16, false) := by
    simp [loadedKeys, at_]
  obtain ⟨log, w, reached⟩ := reaches there (List.getElem?_eq_some_iff.1 known).1
  rw [← reached.keys, List.getElem?_map] at known
  obtain ⟨v, at_, same⟩ := Option.map_eq_some_iff.1 known
  have row : v.row = r.1 := congrArg (·.1) same
  have id : v.id = r.1 % 2 ^ 16 := congrArg (·.2.1) same
  refine ⟨log, w, reached.run, reached.reads, fun identity => ?_⟩
  have handles : handled w = some v := by
    simp only [handled, reached.task, at_]
  exact not_own reached.task at_ (by omega) (identity.own v handles true 0)

end Wide

/-- The ids of the rows that are read decide: while all of them have 16 bits every state of every
run keeps the identity of the servers, and a table with another one is misread. -/
theorem server_identity_exactly (log : List (World × Action)) (w : World) (t : ServersTable)
    (db : Db) :
    (process.Run log w → (∀ e ∈ log, Fits e.2) → Identity w ∧ ∀ e ∈ log, Identity e.1) ∧
    ((∀ r ∈ t.rows, (db.servers r.1).isSome) → (∃ r ∈ getUserServerPorts t, 2 ^ 16 ≤ r.1) →
      ∃ log w, process.Run log w ∧ Reads t log ∧ ¬Identity w) := by
  refine ⟨fun run fits => ?_, misread⟩
  obtain ⟨here, before⟩ := invariant_run run fits
  exact ⟨invariant_identity here, fun e mem => invariant_identity (before e mem)⟩

def narrowServers : ServersTable where
  rows := [(1, true), (65535, true)]
  ordered := by decide
  serial := by decide

def twoServers : ServersTable where
  rows := [(1, true), (65537, true)]
  ordered := by decide
  serial := by decide

/-- Both halves: the second of two servers is being loaded, and a table is misread. -/
theorem narrow_servers_identified :
    (∃ log w, process.Run log w ∧ w.task = .loading 1 .persisted ∧ Identity w) ∧
      ∃ log w, process.Run log w ∧ Reads twoServers log ∧ ¬Identity w := by
  let db : Db := ⟨fun _ => some 0, []⟩
  have there : ∀ r ∈ narrowServers.rows, (db.servers r.1).isSome := fun _ _ => rfl
  have inside : 1 < (loadedKeys narrowServers).length := by decide
  obtain ⟨log, w, reached⟩ := reaches there inside
  have small : ∀ r ∈ getUserServerPorts narrowServers, r.1 < 2 ^ 16 := by decide
  have fits : ∀ e ∈ log, Fits e.2 := by
    rintro ⟨w', a⟩ mem
    cases a with
    | start rows =>
      have same := reached.reads _ mem rows rfl
      subst same
      exact small
    | _ => trivial
  refine ⟨⟨log, w, reached.run, reached.task, ?_⟩, ?_⟩
  · exact ((server_identity_exactly log w narrowServers db).1 reached.run fits).1
  · exact (server_identity_exactly log w twoServers db).2 (fun _ _ => rfl)
      ⟨(65537, true), by decide, by decide⟩

/-- Both servers have the id 1 in memory once they are read. -/
theorem two_rows_share_an_id : ∃ log w, process.Run log w ∧ Reads twoServers log ∧
    w.servers.map (fun v => (v.row, v.id)) = [(1, 1), (65537, 1)] ∧ ¬Identity w := by
  let w : World := ⟨⟨fun _ => some 0, []⟩, [], [], [], false, .idle, []⟩
  have initial : process.initial w := ⟨rfl, rfl, rfl, rfl, rfl⟩
  have enabled : process.enabled w (.start [(1, true), (65537, true)]) := by
    refine ⟨by decide, fun rows same => ⟨twoServers, ?_⟩⟩
    cases same
    rfl
  refine ⟨_, _, (System.Run.start initial).step enabled, ?_, rfl, fun identity => ?_⟩
  · intro e mem rows same
    rw [List.nil_append, List.mem_singleton] at mem
    rw [mem] at same
    cases same
    rfl
  · exact identity.distinct ⟨1, 1, true, false, 0, 0⟩ (.head _) ⟨65537, 1, true, false, 0, 0⟩
      (.tail _ (.head _)) (by decide) rfl

end ServerIdentity
