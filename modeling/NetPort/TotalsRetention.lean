import NetPort.GridSums
import NetPort.ServerTotals

/-! When the stored totals of a server never fall, and no byte that was counted is missing from
them. -/
namespace ServerTotals

open GridSums StepRuns

/-- The process with the books that are kept beside it: the largest totals that were stored for a
server, those stored when the process started, and the bytes of the calls of
`update_server_statistics` that have returned since. `due` is what a save has to leave for its
server: both together, when it read the counters for its last statement. -/
structure Ledger where
  world : World
  largest : ℕ → Totals
  started : ℕ → Totals
  counted : ℕ → Totals
  due : Totals

namespace Ledger

def next (l : Ledger) (a : Action) : Ledger :=
  let w := ServerTotals.next l.world a
  { world := w
    largest := fun id => l.largest id ⊔ w.db.stored id
    started :=
      match a with
      | .start _ => w.db.stored
      | _ => l.started
    counted :=
      match a with
      | .start _ => 0
      | .proceed k =>
        match l.world.updates[k]? with
        | some ⟨i, bytes, .copy⟩ =>
          match l.world.runtimes[i]? with
          | some v => Function.update l.counted v.row (l.counted v.row + bytes)
          | none => l.counted
        | _ => l.counted
      | _ => l.counted
    due :=
      match a, l.world.task with
      | .work, .saving i .formatInsert =>
        match l.world.servers[i]? with
        | some v => l.started v.row + l.counted v.row
        | none => l.due
      | _, _ => l.due }

structure Initial (l : Ledger) : Prop where
  servers : l.world.servers = []
  runtimes : l.world.runtimes = []
  updates : l.world.updates = []
  serving : l.world.serving = false
  task : l.world.task = .idle
  largest : l.largest = l.world.db.stored
  started : l.started = l.world.db.stored
  counted : l.counted = 0

end Ledger

def accounting : System Ledger Action where
  initial := Ledger.Initial
  enabled l a := Enabled l.world a
  next := Ledger.next

/-- A load whose statements succeed returns at least all that was ever stored for the server, and
after a successful save the totals stored when the process started and all bytes counted since are
stored. -/
def Retained (l : Ledger) : Action → Prop
  | .answer ok now =>
    let w := next l.world (.answer ok now)
    match l.world.task with
    | .loading i (.peak _ read) => read = true → ok = true →
        ∀ v ∈ l.world.servers[i]?, ∀ v' ∈ w.servers[i]?, l.largest v.row ≤ v'.bytes
    | .saving i (.insert bytes _) => ok = true → Db.fits bytes = true →
        ∀ v ∈ l.world.servers[i]?, l.due ≤ w.db.stored v.row
    | _ => True
  | .save i => ∀ v ∈ l.world.servers[i]?, v.isDynamicPort = false → v.unsaved = true →
      l.started v.row + l.counted v.row ≤ l.world.db.stored v.row
  | _ => True

/-- The ids of the servers have 16 bits; a sum is stored over the counter that it was made from, and
fits 64 bits; a maximum is not stored over a larger counter; a statement of a load that fails would
not have returned more than the other one, snapshots above the columns are not deleted after a
failed `UPDATE`, and nothing is reset. -/
def Careful (l : Ledger) : Action → Prop
  | .start rows => ∀ r ∈ rows, 0 < r.1 ∧ r.1 < 2 ^ 16
  | .proceed k => ∀ u ∈ l.world.updates[k]?, ∀ v ∈ l.world.runtimes[u.runtime]?,
    match u.stage with
    | .store c read => c.get v.bytes = read ∧ read + c.get u.bytes < 2 ^ 64
    | _ => True
  | .work =>
    match l.world.task with
    | .saving i (.store c last read) => ∀ v ∈ l.world.servers[i]?,
        c.get v.bytes ≤ max read (c.get last)
    | _ => True
  | .answer ok _ =>
    match l.world.task with
    | .loading i .persisted => ok = false → ∀ v ∈ l.world.servers[i]?,
        l.world.db.persisted v.id ≤ l.world.db.peak v.id
    | .loading i (.peak persisted _) => ok = false → ∀ v ∈ l.world.servers[i]?,
        l.world.db.peak v.id ≤ persisted
    | .deleting cutoff false => ok = true → ∀ r ∈ l.world.db.statistic, r.timestamp < cutoff →
        r.bytes ≤ l.world.db.persisted r.serverId
    | _ => True
  | .resetSnapshots _ _ | .resetTotals _ _ => False
  | _ => True

instance (l : Ledger) (a : Action) : Decidable (accounting.enabled l a) :=
  inferInstanceAs (Decidable (Enabled l.world a))

instance (l : Ledger) (a : Action) : Decidable (Retained l a) := by
  rcases a <;> dsimp only [Retained] <;> try infer_instance
  split <;> infer_instance

instance (u : Update) (v : Server) : Decidable (match u.stage with
    | .store c read => c.get v.bytes = read ∧ read + c.get u.bytes < 2 ^ 64
    | _ => True) := by
  split <;> infer_instance

instance (l : Ledger) (a : Action) : Decidable (Careful l a) := by
  rcases a <;> dsimp only [Careful] <;> try infer_instance
  all_goals split <;> infer_instance

variable {db : Db} {w : World} {l : Ledger} {a : Action} {id : ℕ} {t : Totals} {v : Server}
  {r : Snapshot} {log : List (Ledger × Action)}

namespace Db

/-- The same rows of `servers`, and nothing that is stored for one of them has become less. -/
structure Grows (db db' : Db) : Prop where
  rows : ∀ id, (db'.servers id).isSome = (db.servers id).isSome
  stored : ∀ id, (db.servers id).isSome → db.stored id ≤ db'.stored id

theorem Grows.refl (db : Db) : Grows db db := ⟨fun _ => rfl, fun _ _ => le_rfl⟩

theorem Grows.columns {servers : ℕ → Option Totals}
    (raised : ∀ id, ∃ f : Totals → Totals, (∀ t, t ≤ f t) ∧ servers id = (db.servers id).map f) :
    Grows db { db with servers := servers } := by
  refine ⟨fun id => ?_, fun id _ => ?_⟩
  · obtain ⟨f, -, same⟩ := raised id
    simp [same]
  · obtain ⟨f, above, same⟩ := raised id
    refine sup_le_sup ?_ le_rfl
    simp only [persisted, same]
    cases db.servers id with
    | none => exact le_rfl
    | some t => exact above t

theorem grows_persist (db : Db) (id : ℕ) (t : Totals) : Grows db (db.persist id t) := by
  unfold persist
  split
  · refine .columns fun j => ?_
    by_cases same : j = id
    · subst same
      exact ⟨(· ⊔ t), fun _ => le_sup_left, by simp⟩
    · exact ⟨fun x => x, fun _ => le_rfl, by simp [same]⟩
  · exact .refl db

theorem grows_sync (db : Db) : Grows db db.sync :=
  .columns fun id => ⟨(· ⊔ db.peak id), fun _ => le_sup_left, rfl⟩

theorem grows_insert (db : Db) (r : Snapshot) : Grows db (db.insert r) := by
  refine ⟨fun _ => rfl, fun id _ => sup_le_sup le_rfl (peak_le fun q mem own => ?_)⟩
  subst own
  have held : q ∈ (db.insert r).statistic := List.mem_append_left _ mem
  exact le_peak held

theorem stored_insert (db : Db) (r : Snapshot) : r.bytes ≤ (db.insert r).stored r.serverId := by
  have mem : r ∈ (db.insert r).statistic := by simp [insert]
  exact (le_peak mem).trans le_sup_right

theorem grows_delete {cutoff : ℕ} (covered : ∀ r ∈ db.statistic, r.timestamp < cutoff →
    (db.servers r.serverId).isSome → r.bytes ≤ db.persisted r.serverId) :
    Grows db (db.delete cutoff) := by
  refine ⟨fun _ => rfl, fun id there => sup_le le_sup_left (peak_le fun r mem own => ?_)⟩
  subst own
  by_cases old : r.timestamp < cutoff
  · exact (covered r mem old there).trans le_sup_left
  · have kept : r ∈ (db.delete cutoff).statistic :=
      List.mem_filter.2 ⟨mem, decide_eq_true (by omega)⟩
    exact (le_peak kept).trans le_sup_right

/-- After the `UPDATE` the columns cover every snapshot. -/
theorem covered_sync (mem : r ∈ db.sync.statistic) (there : (db.sync.servers r.serverId).isSome) :
    r.bytes ≤ db.sync.persisted r.serverId := by
  obtain ⟨t, found⟩ := Option.isSome_iff_exists.1 there
  rw [persisted_of_some found]
  obtain ⟨t₀, -, rfl⟩ := Option.map_eq_some_iff.1 found
  have held : r ∈ db.statistic := mem
  exact (le_peak held).trans le_sup_right

end Db

def Follows (xs ys : List Server) : Prop :=
  ∀ (i : ℕ) y, ys[i]? = some y →
    ∃ x, xs[i]? = some x ∧ y.row = x.row ∧ y.id = x.id ∧ y.isDynamicPort = x.isDynamicPort

theorem Follows.refl (xs : List Server) : Follows xs xs := fun _ y at_ => ⟨y, at_, rfl, rfl, rfl⟩

theorem Follows.set {xs : List Server} {i : ℕ} {x y : Server} (at_ : xs[i]? = some x)
    (row : y.row = x.row) (id : y.id = x.id) (dynamic : y.isDynamicPort = x.isDynamicPort) :
    Follows xs (xs.set i y) := by
  intro j z found
  by_cases same : i = j
  · subst same
    have inside := (List.getElem?_eq_some_iff.1 at_).1
    rw [List.getElem?_set_self inside] at found
    cases found
    exact ⟨x, at_, row, id, dynamic⟩
  · rw [List.getElem?_set_ne same] at found
    exact ⟨z, found, rfl, rfl, rfl⟩

def Distinct (xs : List Server) : Prop := xs.Pairwise fun a b => a.id = b.id → a.id = 0

theorem Distinct.index {xs : List Server} (h : Distinct xs) {i j : ℕ} {a b : Server}
    (at_ : xs[i]? = some a) (at_' : xs[j]? = some b) (same : a.id = b.id) (positive : 0 < a.id) :
    i = j := by
  obtain ⟨inside, rfl⟩ := List.getElem?_eq_some_iff.1 at_
  obtain ⟨inside', rfl⟩ := List.getElem?_eq_some_iff.1 at_'
  have pairwise := List.pairwise_iff_getElem.1 h
  rcases Nat.lt_trichotomy i j with less | rfl | more
  · have zero := pairwise i j inside inside' less same
    omega
  · rfl
  · have zero := pairwise j i inside' inside more same.symm
    omega

theorem Distinct.follow {xs ys : List Server} (h : Distinct xs) (follows : Follows xs ys) :
    Distinct ys := by
  refine List.pairwise_iff_getElem.2 fun i j inside inside' less same => ?_
  obtain ⟨x, at_, -, id, -⟩ := follows i _ (List.getElem?_eq_getElem inside)
  obtain ⟨y, at_', -, id', -⟩ := follows j _ (List.getElem?_eq_getElem inside')
  by_contra positive
  have := h.index at_ at_' (by omega) (by omega)
  omega

/-- The static servers have rows, each has one place among the servers and one among the copies, and
there are no copies before `switcher_servers_start`; the dynamic ones have the id 0. -/
structure Statics (w : World) : Prop where
  known : ∀ v, v ∈ w.servers ∨ v ∈ w.runtimes → v.isDynamicPort = false →
    v.row = v.id ∧ 0 < v.id ∧ (w.db.servers v.id).isSome
  dynamic : ∀ v, v ∈ w.servers ∨ v ∈ w.runtimes → v.isDynamicPort = true → v.id = 0
  servers : Distinct w.servers
  runtimes : Distinct w.runtimes
  unserved : w.serving = false → ∀ v ∈ w.runtimes, v.isDynamicPort = true

theorem Statics.follow {w' : World} (h : Statics w) (servers : Follows w.servers w'.servers)
    (runtimes : Follows w.runtimes w'.runtimes) (serving : w'.serving = w.serving)
    (rows : ∀ id, (w'.db.servers id).isSome = (w.db.servers id).isSome) : Statics w' := by
  have old (v : Server) (mem : v ∈ w'.servers ∨ v ∈ w'.runtimes) :
      ∃ x, (x ∈ w.servers ∨ x ∈ w.runtimes) ∧ v.row = x.row ∧ v.id = x.id ∧
        v.isDynamicPort = x.isDynamicPort := by
    rcases mem with mem | mem
    · obtain ⟨i, at_⟩ := List.mem_iff_getElem?.1 mem
      obtain ⟨x, found, same⟩ := servers i v at_
      exact ⟨x, .inl (List.mem_of_getElem? found), same⟩
    · obtain ⟨i, at_⟩ := List.mem_iff_getElem?.1 mem
      obtain ⟨x, found, same⟩ := runtimes i v at_
      exact ⟨x, .inr (List.mem_of_getElem? found), same⟩
  refine ⟨?_, ?_, h.servers.follow servers, h.runtimes.follow runtimes, ?_⟩
  · intro v mem static
    obtain ⟨x, mem, row, id, dynamic⟩ := old v mem
    rw [row, id, rows]
    exact h.known x mem (dynamic ▸ static)
  · intro v mem dynamic
    obtain ⟨x, mem, -, id, same⟩ := old v mem
    rw [id]
    exact h.dynamic x mem (same ▸ dynamic)
  · intro unserved v mem
    obtain ⟨i, at_⟩ := List.mem_iff_getElem?.1 mem
    obtain ⟨x, found, -, -, same⟩ := runtimes i v at_
    rw [same]
    exact h.unserved (serving ▸ unserved) x (List.mem_of_getElem? found)

def Task.loaded (i : ℕ) : Task → Prop
  | .loading j .persist => i ≤ j
  | .loading j _ => i < j
  | _ => True

/-- The bytes of a copy account for what was stored at the start and counted since. -/
def Ledger.Accounts (l : Ledger) (v : Server) : Prop :=
  v.isDynamicPort = false → l.started v.row + l.counted v.row ≤ v.bytes

def Update.held (u : Update) : Totals :=
  match u.stage with
  | .load .received | .store .received _ => 0
  | .load .sent | .store .sent _ => (u.bytes.1, 0)
  | .copy => u.bytes

def pending (updates : List Update) (i : ℕ) : Totals := cell Update.runtime Update.held updates i

structure Invariant (l : Ledger) : Prop where
  kept : ∀ id, (l.world.db.servers id).isSome → l.largest id ≤ l.world.db.stored id
  started : ∀ id, l.started id ≤ l.largest id
  statics : Statics l.world
  loading : l.world.task.loads = true → l.world.runtimes = [] ∧ l.counted = 0 ∧
    ∀ v ∈ l.world.servers, v.isDynamicPort = false
  fetched : ∀ i p read v, l.world.task = .loading i (.peak p read) →
    l.world.servers[i]? = some v → l.world.db.persisted v.id ≤ p ⊔ l.world.db.peak v.id
  synced : ∀ cutoff, l.world.task = .deleting cutoff true → ∀ r ∈ l.world.db.statistic,
    (l.world.db.servers r.serverId).isSome → r.bytes ≤ l.world.db.persisted r.serverId
  saving : ∀ i p, l.world.task = .saving i p → i < l.world.servers.length ∧
    ∀ v, l.world.servers[i]? = some v → v.isDynamicPort = false
  formatted : ∀ i bytes n, l.world.task = .saving i (.insert bytes n) → l.due ≤ bytes
  calls : ∀ u ∈ l.world.updates, ∃ v, l.world.runtimes[u.runtime]? = some v ∧
    v.isDynamicPort = false
  runtimes : ∀ (i : ℕ) v, l.world.runtimes[i]? = some v → v.isDynamicPort = false →
    l.started v.row + l.counted v.row + pending l.world.updates i ≤ v.bytes
  servers : ∀ (i : ℕ) v, l.world.servers[i]? = some v → l.world.task.loaded i → l.Accounts v

def Ledger.after (l : Ledger) (w : World) : Ledger :=
  { l with world := w, largest := fun id => l.largest id ⊔ w.db.stored id }

theorem kept_after {w' : World} (inv : Invariant l) (grows : Db.Grows l.world.db w'.db) (id : ℕ)
    (there : (w'.db.servers id).isSome) : l.largest id ⊔ w'.db.stored id ≤ w'.db.stored id := by
  have before : (l.world.db.servers id).isSome := by
    rw [← grows.rows]
    exact there
  exact sup_le ((inv.kept id before).trans (grows.stored id before)) le_rfl

theorem started_after (inv : Invariant l) (w' : World) (id : ℕ) :
    l.started id ≤ l.largest id ⊔ w'.db.stored id :=
  (inv.started id).trans le_sup_left

/-- A step that leaves the copies of the runtimes and counts nothing. -/
theorem Invariant.step (inv : Invariant l) {w' : World} {due : Totals}
    (grows : Db.Grows l.world.db w'.db)
    (servers : Follows l.world.servers w'.servers) (runtimes : w'.runtimes = l.world.runtimes)
    (updates : w'.updates = l.world.updates) (serving : w'.serving = l.world.serving)
    (loading : w'.task.loads = true → l.world.task.loads = true)
    (fetched : ∀ i p read v, w'.task = .loading i (.peak p read) → w'.servers[i]? = some v →
      w'.db.persisted v.id ≤ p ⊔ w'.db.peak v.id)
    (synced : ∀ cutoff, w'.task = .deleting cutoff true → ∀ r ∈ w'.db.statistic,
      (w'.db.servers r.serverId).isSome → r.bytes ≤ w'.db.persisted r.serverId)
    (saving : ∀ i p, w'.task = .saving i p → i < w'.servers.length ∧
      ∀ v, w'.servers[i]? = some v → v.isDynamicPort = false)
    (formatted : ∀ i bytes n, w'.task = .saving i (.insert bytes n) → due ≤ bytes)
    (accounts : ∀ (i : ℕ) v, w'.servers[i]? = some v → w'.task.loaded i → l.Accounts v) :
    Invariant { l.after w' with due := due } where
  kept := kept_after inv grows
  started := started_after inv w'
  statics := by
    refine inv.statics.follow servers ?_ serving grows.rows
    rw [Ledger.after, runtimes]
    exact .refl _
  loading h := by
    obtain ⟨none, nothing, static⟩ := inv.loading (loading h)
    refine ⟨runtimes.trans none, nothing, fun v mem => ?_⟩
    obtain ⟨i, at_⟩ := List.mem_iff_getElem?.1 mem
    obtain ⟨x, found, -, -, dynamic⟩ := servers i v at_
    exact dynamic.trans (static x (List.mem_of_getElem? found))
  fetched := fetched
  synced := synced
  saving := saving
  formatted := formatted
  calls u mem := by
    simp only [Ledger.after, runtimes, updates] at mem ⊢
    exact inv.calls u mem
  runtimes i v at_ := by
    simp only [Ledger.after, runtimes, updates] at at_ ⊢
    exact inv.runtimes i v at_
  servers := accounts

theorem Invariant.all (inv : Invariant l) (idle : l.world.task.loads = false) (i : ℕ) (v : Server)
    (at_ : l.world.servers[i]? = some v) : l.Accounts v := by
  refine inv.servers i v at_ ?_
  revert idle
  cases l.world.task <;> simp [Task.loads, Task.loaded]

theorem Invariant.turns (inv : Invariant l) (idle : l.world.task.loads = false) {task : Task}
    {due : Totals} (loads : task.loads = false) (deletes : ∀ cutoff, task ≠ .deleting cutoff true)
    (saving : ∀ i p, task = .saving i p → i < l.world.servers.length ∧
      ∀ v, l.world.servers[i]? = some v → v.isDynamicPort = false)
    (formatted : ∀ i bytes n, task = .saving i (.insert bytes n) → due ≤ bytes) :
    Invariant { l.after { l.world with task := task } with due := due } := by
  refine inv.step (.refl _) (.refl _) rfl rfl rfl ?_ ?_ ?_ saving formatted fun j u found _ =>
    inv.all idle j u found
  · intro h
    exact absurd (loads.symm.trans h) (by decide)
  · intro i p read v loading
    have loading : task = .loading i (.peak p read) := loading
    rw [loading] at loads
    cases loads
  · intro cutoff deleting
    exact absurd deleting (deletes cutoff)

/-- An element of `servers` is given more bytes. -/
theorem Invariant.raised (inv : Invariant l) (idle : l.world.task.loads = false) {i : ℕ}
    {old new : Server} (at_ : l.world.servers[i]? = some old) (row : new.row = old.row)
    (dynamic : new.isDynamicPort = old.isDynamicPort) (raised : old.bytes ≤ new.bytes) (j : ℕ)
    (v : Server) (found : (l.world.servers.set i new)[j]? = some v) : l.Accounts v := by
  by_cases same : i = j
  · subst same
    rw [List.getElem?_set_self (List.getElem?_eq_some_iff.1 at_).1] at found
    cases found
    intro static
    rw [row]
    exact (inv.all idle i old at_ (dynamic ▸ static)).trans raised
  · rw [List.getElem?_set_ne same] at found
    exact inv.all idle j v found

theorem Invariant.covers (inv : Invariant l) {i now : ℕ} {p : Totals} {read ok : Bool}
    (task : l.world.task = .loading i (.peak p read)) (at_ : l.world.servers[i]? = some v)
    (careful : Careful l (.answer ok now)) :
    l.world.db.stored v.id ≤ p ⊔ (if ok then l.world.db.peak v.id else 0) := by
  have fetched := inv.fetched i p read v task at_
  cases ok with
  | true => exact sup_le fetched le_sup_right
  | false =>
    simp only [Careful, task] at careful
    have smaller := careful trivial v at_
    have all := sup_le fetched (le_sup_right : l.world.db.peak v.id ≤ p ⊔ l.world.db.peak v.id)
    exact all.trans (sup_le le_sup_left (smaller.trans le_sup_left))

theorem loadFrom_task (w : World) (i : ℕ) :
    (w.loadFrom i).task = .idle ∧ w.servers.length ≤ i ∨
      (w.loadFrom i).task = .loading i .persisted := by
  unfold World.loadFrom
  split
  · exact .inr rfl
  · exact .inl ⟨rfl, by omega⟩

theorem loadAnswer_invariant (inv : Invariant l) {i now : ℕ} {q : Load} {ok : Bool}
    (task : l.world.task = .loading i q) (at_ : l.world.servers[i]? = some v)
    (careful : Careful l (.answer ok now)) : Invariant (l.after (loadAnswer l.world ok i v q)) := by
  have loads : l.world.task.loads = true := by rw [task]; rfl
  have before (j : ℕ) (u : Server) (found : l.world.servers[j]? = some u)
      (loaded : (Task.loading i q).loaded j) : l.Accounts u :=
    inv.servers j u found (task ▸ loaded)
  cases q with
  | persisted =>
    refine inv.step (.refl _) (.refl _) rfl rfl rfl (fun _ => loads) ?_ nofun nofun nofun before
    intro j p read u phase found
    cases phase
    have same : u = v := Option.some.inj (found.symm.trans at_)
    subst same
    cases ok with
    | true => exact le_sup_left
    | false =>
      simp only [Careful, task] at careful
      exact (careful trivial u at_).trans le_sup_right
  | peak p read =>
    have inside := (List.getElem?_eq_some_iff.1 at_).1
    refine inv.step (.refl _) (.set at_ rfl rfl rfl) rfl rfl rfl (fun _ => loads) nofun nofun nofun
      nofun ?_
    intro j u found loaded
    by_cases same : i = j
    · subst same
      simp only [World.setServer, List.getElem?_set_self inside] at found
      cases found
      intro static
      obtain ⟨row, -, there⟩ := inv.statics.known v (.inl (List.mem_of_getElem? at_)) static
      have stored := (inv.started v.id).trans (inv.kept v.id there)
      have nothing : l.counted v.row = 0 := by rw [(inv.loading loads).2.1]; rfl
      change l.started v.row + l.counted v.row ≤ _
      rw [nothing, add_zero, row]
      exact stored.trans (inv.covers task at_ careful)
    · simp only [World.setServer, List.getElem?_set_ne same] at found
      have earlier : j ≤ i := loaded
      exact before j u found (show j < i by omega)
  | persist =>
    have done (j : ℕ) (u : Server) (found : l.world.servers[j]? = some u) (le : j ≤ i) :
        l.Accounts u :=
      before j u found le
    have grows : Db.Grows l.world.db
        (if ok ∧ v.bytes ≠ 0 then l.world.db.persist v.id v.bytes else l.world.db) := by
      split
      · exact Db.grows_persist _ _ _
      · exact .refl _
    have turned := loadFrom_task { l.world with
      db := if ok ∧ v.bytes ≠ 0 then l.world.db.persist v.id v.bytes else l.world.db } (i + 1)
    refine inv.step grows (.refl _) rfl rfl rfl (fun _ => loads) ?_ ?_ ?_ ?_ ?_
    · intro j p read u phase
      rcases turned with ⟨turned, -⟩ | turned <;> cases turned.symm.trans phase
    · intro cutoff phase
      rcases turned with ⟨turned, -⟩ | turned <;> cases turned.symm.trans phase
    · intro j p phase
      rcases turned with ⟨turned, -⟩ | turned <;> cases turned.symm.trans phase
    · intro j bytes n phase
      rcases turned with ⟨turned, -⟩ | turned <;> cases turned.symm.trans phase
    · intro j u found loaded
      refine done j u found ?_
      have inside := (List.getElem?_eq_some_iff.1 found).1
      rcases turned with ⟨-, beyond⟩ | turned
      · exact Nat.le_of_lt_succ (inside.trans_le beyond)
      · change Task.loaded j (World.loadFrom _ (i + 1)).task at loaded
        rw [turned] at loaded
        exact Nat.le_of_lt_succ loaded

theorem Invariant.same (inv : Invariant l) : Invariant (l.after l.world) :=
  inv.step (.refl _) (.refl _) rfl rfl rfl id inv.fetched inv.synced inv.saving inv.formatted
    inv.servers

/-- The save goes on with another phase, after the tables have changed. -/
theorem Invariant.saves (inv : Invariant l) {i : ℕ} {q p : Save} {db : Db} {due : Totals}
    (task : l.world.task = .saving i q) (grows : Db.Grows l.world.db db)
    (formatted : ∀ bytes n, p = .insert bytes n → due ≤ bytes) :
    Invariant { l.after { l.world with db := db, task := .saving i p } with due := due } := by
  have idle : l.world.task.loads = false := by rw [task]; rfl
  refine inv.step grows (.refl _) rfl rfl rfl nofun nofun nofun ?_ ?_ fun j u found _ =>
    inv.all idle j u found
  · intro j p phase
    cases phase
    exact inv.saving i q task
  · intro j bytes n phase
    cases phase
    exact formatted bytes n rfl

theorem saveAnswer_invariant (inv : Invariant l) {i now : ℕ} {q : Save} {ok : Bool}
    (task : l.world.task = .saving i q) :
    Invariant (l.after (saveAnswer l.world ok now i v q)) := by
  have idle : l.world.task.loads = false := by rw [task]; rfl
  cases q with
  | persisted =>
    simp only [saveAnswer]
    split
    · exact inv.saves task (.refl _) nofun
    · exact inv.saves task (.refl _) nofun
  | peak =>
    refine inv.saves task (.refl _) fun bytes n phase => ?_
    cases ok <;> cases phase
  | persist bytes =>
    refine inv.saves task ?_ nofun
    split
    · exact Db.grows_persist _ _ _
    · exact .refl _
  | insert bytes n =>
    refine inv.step ?_ (.refl _) rfl rfl rfl nofun nofun nofun nofun nofun fun j u found _ =>
      inv.all idle j u found
    split
    · exact Db.grows_insert _ _
    · exact .refl _
  | load | store | formatPersist | formatInsert => exact inv.same

theorem le_set {c : Counter} {n : ℕ} {t : Totals} (le : c.get t ≤ n) : t ≤ c.set n t := by
  cases c with
  | received => exact ⟨le, le_rfl⟩
  | sent => exact ⟨le_rfl, le⟩

/-- What a save does in memory raises the counters of its server, and takes over all that is
due. -/
theorem work_invariant (inv : Invariant l) (careful : Careful l .work) :
    Invariant (l.next .work) := by
  have same : Invariant (l.after l.world) := inv.same
  cases task : l.world.task with
  | saving i p =>
    obtain ⟨inside, static⟩ := inv.saving i p task
    have at_ := List.getElem?_eq_getElem inside
    have idle : l.world.task.loads = false := by rw [task]; rfl
    simp only [Ledger.next, next, work, task, at_]
    cases p with
    | load c last => exact inv.saves task (.refl _) nofun
    | store c last read =>
      have raised : l.world.servers[i].bytes ≤
          c.set (max read (c.get last)) l.world.servers[i].bytes := by
        simp only [Careful, task] at careful
        exact le_set (careful _ at_)
      refine inv.step (.refl _) (.set at_ rfl rfl rfl) rfl rfl rfl nofun nofun nofun ?_ ?_ ?_
      · intro j p phase
        cases phase
        refine ⟨by simpa [saveWork, World.setServer] using inside, fun u found => ?_⟩
        simp only [World.setServer, List.getElem?_set_self inside] at found
        cases found
        exact static l.world.servers[i] at_
      · intro j bytes n phase
        cases c <;> cases phase
      · intro j u found _
        refine inv.raised idle at_ ?_ ?_ ?_ j u found
        · rfl
        · rfl
        · exact raised
    | formatPersist => exact inv.saves task (.refl _) nofun
    | formatInsert =>
      refine inv.saves task (.refl _) ?_
      rintro bytes n ⟨⟩
      simp only [at_]
      exact inv.all idle i _ at_ (static _ at_)
    | persisted | peak | persist | insert => exact same
  | idle | loading | syncing | deleting =>
    simp only [Ledger.next, next, work, task]
    exact same

theorem answer_invariant (inv : Invariant l) {ok : Bool} {now : ℕ}
    (careful : Careful l (.answer ok now)) : Invariant (l.after (answer l.world ok now)) := by
  unfold answer
  split
  · exact inv.same
  · rename_i i q task
    split
    · exact loadAnswer_invariant inv task ‹_› careful
    · exact inv.same
  · rename_i i q task
    split
    · exact saveAnswer_invariant inv task
    · exact inv.same
  · rename_i cutoff task
    have idle : l.world.task.loads = false := by rw [task]; rfl
    refine inv.step ?_ (.refl _) rfl rfl rfl nofun nofun ?_ nofun nofun fun j u found _ =>
      inv.all idle j u found
    · cases ok
      · exact .refl _
      · exact Db.grows_sync _
    · intro cutoff' phase
      simp only [Task.deleting.injEq] at phase
      obtain ⟨-, rfl⟩ := phase
      exact fun r mem there => Db.covered_sync mem there
  · rename_i cutoff synced task
    have idle : l.world.task.loads = false := by rw [task]; rfl
    refine inv.step ?_ (.refl _) rfl rfl rfl nofun nofun nofun nofun nofun fun j u found _ =>
      inv.all idle j u found
    cases ok
    · exact .refl _
    · refine Db.grows_delete fun r mem old there => ?_
      cases synced
      · simp only [Careful, task] at careful
        exact careful trivial r mem old
      · exact inv.synced cutoff task r mem there

section Calls

variable {us : List Update} {u u' : Update} {k i : ℕ}

theorem pending_append (us : List Update) (j : ℕ) (bytes : Totals) (i : ℕ) :
    pending (us ++ [⟨j, bytes, .load .received⟩]) i = pending us i := by
  rw [pending, cell_append, cell_cons, cell_nil]
  simp [pending, Update.held]

theorem pending_stored {bytes : Totals} {c : Counter} {read : ℕ}
    (at_ : us[k]? = some ⟨i, bytes, .store c read⟩) (j : ℕ) :
    pending (us.set k ⟨i, bytes, c.stored⟩) j =
      pending us j + if i = j then c.set (c.get bytes) 0 else 0 := by
  have moved : pending (us.set k ⟨i, bytes, c.stored⟩) j +
      (if i = j then Update.held ⟨i, bytes, .store c read⟩ else 0) =
        pending us j + if i = j then Update.held ⟨i, bytes, c.stored⟩ else 0 :=
    cell_set at_ (by rfl) j
  by_cases same : i = j
  · have held : (⟨i, bytes, c.stored⟩ : Update).held =
        c.set (c.get bytes) 0 + (⟨i, bytes, .store c read⟩ : Update).held := by
      cases c
      · rfl
      · exact Prod.ext (zero_add _).symm (add_zero _).symm
    rw [if_pos same, if_pos same, held, ← add_assoc] at moved
    rw [if_pos same]
    exact add_right_cancel moved
  · rw [if_neg same, if_neg same] at moved
    rw [if_neg same]
    exact moved

theorem Invariant.calling (inv : Invariant l) {runtimes : List Server}
    (follows : Follows l.world.runtimes runtimes)
    (calls : ∀ u ∈ us, ∃ v, runtimes[u.runtime]? = some v ∧ v.isDynamicPort = false)
    (counts : ∀ (i : ℕ) v, runtimes[i]? = some v → v.isDynamicPort = false →
      l.started v.row + l.counted v.row + pending us i ≤ v.bytes) :
    Invariant (l.after { l.world with runtimes := runtimes, updates := us }) where
  kept := kept_after inv (.refl _)
  started := started_after inv _
  statics := inv.statics.follow (.refl _) follows rfl fun _ => rfl
  loading loads := by
    obtain ⟨none, rest⟩ := inv.loading loads
    refine ⟨List.eq_nil_iff_forall_not_mem.2 fun v mem => ?_, rest⟩
    obtain ⟨i, at_⟩ := List.mem_iff_getElem?.1 mem
    obtain ⟨x, found, -⟩ := follows i v at_
    rw [none] at found
    cases found
  fetched := inv.fetched
  synced := inv.synced
  saving := inv.saving
  formatted := inv.formatted
  calls := calls
  runtimes := counts
  servers := inv.servers

/-- The element of `servers` with the id takes over the statistics, and no other one changes. -/
theorem publish_at (distinct : Distinct w.servers) (positive : 0 < v.id) {j : ℕ} {u : Server}
    (at_ : (w.publish v).servers[j]? = some u) :
    ∃ x, w.servers[j]? = some x ∧ u.row = x.row ∧ u.id = x.id ∧
      u.isDynamicPort = x.isDynamicPort ∧ u.bytes = if x.id = v.id then v.bytes else x.bytes := by
  unfold World.publish at at_
  split at at_
  · rename_i k found
    obtain ⟨inside, here, -⟩ := List.findIdx?_eq_some_iff_getElem.1 found
    have own : w.servers[k].id = v.id := of_decide_eq_true here
    by_cases same : k = j
    · subst same
      simp only [List.getElem?_modify_eq, List.getElem?_eq_getElem inside, Option.map_eq_map,
        Option.map_some, Option.some.injEq] at at_
      subst at_
      exact ⟨_, List.getElem?_eq_getElem inside, rfl, rfl, rfl, (if_pos own).symm⟩
    · simp only [List.getElem?_modify_ne _ _ same] at at_
      refine ⟨u, at_, rfl, rfl, rfl, (if_neg fun other => same ?_).symm⟩
      exact distinct.index (List.getElem?_eq_getElem inside) at_ (own.trans other.symm) (by omega)
  · rename_i absent
    have other := List.findIdx?_eq_none_iff.1 absent u (List.mem_of_getElem? at_)
    exact ⟨u, at_, rfl, rfl, rfl, (if_neg (of_decide_eq_false other)).symm⟩

theorem publish_length (w : World) (v : Server) :
    (w.publish v).servers.length = w.servers.length := by
  unfold World.publish
  split <;> simp

/-- The statistics of a runtime are published: its element of `servers` accounts for all that the
books have now. -/
theorem Invariant.publishes (inv : Invariant l) {runtimes : List Server} {counted : ℕ → Totals}
    (follows : Follows l.world.runtimes runtimes) (at_ : runtimes[i]? = some v)
    (static : v.isDynamicPort = false)
    (calls : ∀ u ∈ us, ∃ v, runtimes[u.runtime]? = some v ∧ v.isDynamicPort = false)
    (others : ∀ j, j ≠ v.row → counted j = l.counted j)
    (counts : ∀ (i : ℕ) v, runtimes[i]? = some v → v.isDynamicPort = false →
      l.started v.row + counted v.row + pending us i ≤ v.bytes) :
    Invariant { l.after ({ l.world with runtimes := runtimes, updates := us }.publish v) with
      counted := counted } := by
  obtain ⟨x, found, row, id, dynamic⟩ := follows i v at_
  obtain ⟨own, positive, -⟩ := inv.statics.known x (.inr (List.mem_of_getElem? found))
    (dynamic ▸ static)
  have published (j : ℕ) (u : Server)
      (found : ({ l.world with runtimes := runtimes, updates := us }.publish v).servers[j]? =
        some u) :=
    publish_at (w := { l.world with runtimes := runtimes, updates := us }) (v := v)
      inv.statics.servers (by omega) found
  have waits : l.world.task.loads = true → False := fun loads => by
    rw [(inv.loading loads).1] at found
    cases found
  have accounts : l.started v.row + counted v.row ≤ v.bytes :=
    le_self_add.trans (counts i v at_ static)
  rw [publish_kept]
  refine ⟨kept_after inv (.refl _), started_after inv _, ?_, fun loads => (waits loads).elim,
    fun j p read u phase => (waits (congrArg Task.loads phase)).elim, inv.synced, ?_,
    inv.formatted, calls, counts, ?_⟩
  · refine inv.statics.follow (fun j u found => ?_) follows rfl fun _ => rfl
    obtain ⟨x, at_, row, id, dynamic, -⟩ := published j u found
    exact ⟨x, at_, row, id, dynamic⟩
  · intro j p phase
    obtain ⟨inside, static⟩ := inv.saving j p phase
    refine ⟨?_, fun u found => ?_⟩
    · simp only [Ledger.after, publish_length]
      exact inside
    · obtain ⟨x, at_, -, -, dynamic, -⟩ := published j u found
      rw [dynamic]
      exact static x at_
  · intro j u found _
    obtain ⟨y, at_', row', id', dynamic', bytes⟩ := published j u found
    have loaded : l.world.task.loads = false := Bool.eq_false_iff.2 waits
    have before := inv.all loaded j y at_'
    intro static'
    change l.started u.row + counted u.row ≤ u.bytes
    have known := inv.statics.known y (.inl (List.mem_of_getElem? at_')) (dynamic' ▸ static')
    by_cases here : y.id = v.id
    · rw [bytes, if_pos here, row', show y.row = v.row by omega]
      exact accounts
    · rw [bytes, if_neg here, row', others y.row (by omega)]
      exact before (dynamic' ▸ static')

/-- A runtime with the same bytes, or with more in place of what a call held less. -/
theorem counts_set {runtimes : List Server} {g : Totals} {j : ℕ} {x y : Server}
    {before after f : ℕ → Totals} (at_ : runtimes[i]? = some v) (row : y.row = v.row)
    (dynamic : y.isDynamicPort = v.isDynamicPort) (more : y.bytes = v.bytes + g)
    (held : after j = before j + if i = j then g else 0)
    (counts : ∀ (i : ℕ) v, runtimes[i]? = some v → v.isDynamicPort = false →
      f v.row + before i ≤ v.bytes)
    (found : (runtimes.set i y)[j]? = some x)
    (static : x.isDynamicPort = false) : f x.row + after j ≤ x.bytes := by
  rw [held]
  by_cases same : i = j
  · subst same
    rw [List.getElem?_set_self (List.getElem?_eq_some_iff.1 at_).1] at found
    cases found
    rw [if_pos rfl, ← add_assoc, row]
    exact (add_le_add_left (counts i v at_ (dynamic ▸ static)) g).trans more.ge
  · rw [List.getElem?_set_ne same] at found
    rw [if_neg same, add_zero]
    exact counts j x found static

theorem calls_set {runtimes : List Server} {y : Server} (at_ : runtimes[i]? = some v)
    (dynamic : y.isDynamicPort = v.isDynamicPort)
    (calls : ∀ u ∈ us, ∃ v, runtimes[u.runtime]? = some v ∧ v.isDynamicPort = false) :
    ∀ u ∈ us, ∃ v, (runtimes.set i y)[u.runtime]? = some v ∧ v.isDynamicPort = false := by
  intro u mem
  obtain ⟨x, found, static⟩ := calls u mem
  by_cases same : i = u.runtime
  · subst same
    cases at_.symm.trans found
    rw [List.getElem?_set_self (List.getElem?_eq_some_iff.1 at_).1]
    exact ⟨y, rfl, dynamic.trans static⟩
  · rw [List.getElem?_set_ne same]
    exact ⟨x, found, static⟩

end Calls

theorem Invariant.no_calls (inv : Invariant l) {i : ℕ} (beyond : l.world.runtimes.length ≤ i) :
    pending l.world.updates i = 0 := by
  have none : l.world.updates.filter (fun u => u.runtime = i) = [] := by
    refine List.filter_eq_nil_iff.2 fun u mem here => ?_
    obtain ⟨v, at_, -⟩ := inv.calls u mem
    have inside := (List.getElem?_eq_some_iff.1 at_).1
    have here : u.runtime = i := of_decide_eq_true here
    omega
  rw [pending, cell, none, List.map_nil, List.sum_nil]

theorem start_invariant (inv : Invariant l) {rows : List (ℕ × Bool)}
    (enabled : Enabled l.world (.start rows)) (careful : Careful l (.start rows)) :
    Invariant (l.next (.start rows)) := by
  obtain ⟨nodup, there⟩ := enabled
  have read (v : Server) (mem : v ∈ rows.map fun (row, enable) =>
      (⟨row, row % 2 ^ 16, enable, false, 0, 0⟩ : Server)) :
      v.isDynamicPort = false ∧ v.row = v.id ∧ 0 < v.id ∧ (l.world.db.servers v.id).isSome := by
    obtain ⟨⟨row, enable⟩, found, rfl⟩ := List.mem_map.1 mem
    obtain ⟨positive, small⟩ := careful _ found
    simp only [Nat.mod_eq_of_lt small, true_and]
    exact ⟨positive, there _ found⟩
  have distinct : Distinct (rows.map fun (row, enable) =>
      (⟨row, row % 2 ^ 16, enable, false, 0, 0⟩ : Server)) := by
    refine List.pairwise_map.2 ((List.pairwise_map.1 nodup).imp_of_mem ?_)
    intro r r' mem mem' other same
    have small := (careful _ mem).2
    have small' := (careful _ mem').2
    simp only [Nat.mod_eq_of_lt small, Nat.mod_eq_of_lt small'] at same
    exact absurd same other
  refine ⟨kept_after inv (.refl _), ?_, ?_, ?_, ?_, ?_, ?_, ?_, nofun, nofun, ?_⟩
  · intro id
    exact le_sup_right
  · refine ⟨?_, ?_, distinct, .nil, ?_⟩
    · intro v mem _
      rcases mem with mem | mem
      · exact (read v mem).2
      · cases mem
    · intro v mem dynamic
      rcases mem with mem | mem
      · rw [(read v mem).1] at dynamic
        cases dynamic
      · cases mem
    · intro _ v mem
      cases mem
  · exact fun _ => ⟨rfl, rfl, fun v mem => (read v mem).1⟩
  · intro i p read v phase
    simp only [Ledger.next, next, start, World.loadFrom] at phase
    split at phase <;> cases phase
  · intro cutoff phase
    simp only [Ledger.next, next, start, World.loadFrom] at phase
    split at phase <;> cases phase
  · intro i p phase
    simp only [Ledger.next, next, start, World.loadFrom] at phase
    split at phase <;> cases phase
  · intro i bytes n phase
    simp only [Ledger.next, next, start, World.loadFrom] at phase
    split at phase <;> cases phase
  · intro i v at_ loaded
    have inside := (List.getElem?_eq_some_iff.1 at_).1
    simp only [Ledger.next, next, start, World.loadFrom] at loaded inside
    split at loaded
    · exact absurd (show i < 0 from loaded) (by omega)
    · omega

theorem Statics.startServers (statics : Statics l.world) (unserved : l.world.serving = false) :
    Statics (l.next .startServers).world := by
  have copies (v : Server) (mem : v ∈ l.world.runtimes ++ l.world.servers.filter (·.enable)) :
      v ∈ l.world.servers ∨ v ∈ l.world.runtimes := by
    rcases List.mem_append.1 mem with old | new
    · exact .inr old
    · exact .inl (List.mem_of_mem_filter new)
  refine ⟨?_, ?_, statics.servers, ?_, nofun⟩
  · intro v mem
    exact statics.known v (mem.elim .inl (copies v))
  · intro v mem
    exact statics.dynamic v (mem.elim .inl (copies v))
  · refine List.pairwise_append.2 ⟨statics.runtimes, statics.servers.filter _, ?_⟩
    intro a old b _ _
    exact statics.dynamic a (.inr old) (statics.unserved unserved a old)

theorem startServers_invariant (inv : Invariant l) (enabled : Enabled l.world .startServers) :
    Invariant (l.next .startServers) := by
  obtain ⟨task, unserved⟩ := enabled
  have idle : l.world.task.loads = false := by rw [task]; rfl
  refine ⟨kept_after inv (.refl _), started_after inv _, inv.statics.startServers unserved,
    fun loads => absurd (idle.symm.trans loads) (by decide), inv.fetched, inv.synced, inv.saving,
    inv.formatted, ?_, ?_, inv.servers⟩
  · intro u mem
    obtain ⟨v, at_, static⟩ := inv.calls u mem
    exact ⟨v, List.getElem?_append_left (List.getElem?_eq_some_iff.1 at_).1 ▸ at_, static⟩
  · intro i v at_ static
    by_cases inside : i < l.world.runtimes.length
    · rw [show (l.next .startServers).world.runtimes[i]? = l.world.runtimes[i]? from
        List.getElem?_append_left inside] at at_
      exact inv.runtimes i v at_ static
    · change l.started v.row + l.counted v.row + pending l.world.updates i ≤ v.bytes
      rw [show (l.next .startServers).world.runtimes[i]? =
        (l.world.servers.filter (·.enable))[i - l.world.runtimes.length]? from
          List.getElem?_append_right (by omega)] at at_
      obtain ⟨j, found⟩ := List.mem_iff_getElem?.1 (List.mem_of_mem_filter
        (List.mem_of_getElem? at_))
      rw [inv.no_calls (by omega), add_zero]
      exact inv.all idle j v found static

theorem mem_append_dynamic {xs : List Server} (mem : v ∈ xs ++ [⟨0, 0, true, true, 0, 0⟩]) :
    v ∈ xs ∨ v = ⟨0, 0, true, true, 0, 0⟩ := by
  simpa using mem

theorem getElem?_append_dynamic {xs : List Server} {i : ℕ}
    (at_ : (xs ++ [⟨0, 0, true, true, 0, 0⟩])[i]? = some v) :
    xs[i]? = some v ∨ v.isDynamicPort = true ∧ xs.length ≤ i := by
  by_cases inside : i < xs.length
  · rw [List.getElem?_append_left inside] at at_
    exact .inl at_
  · rw [List.getElem?_append_right (by omega)] at at_
    rw [List.mem_singleton.1 (List.mem_of_getElem? at_)]
    exact .inr ⟨rfl, by omega⟩

theorem Distinct.append_dynamic {xs : List Server} (distinct : Distinct xs) :
    Distinct (xs ++ [⟨0, 0, true, true, 0, 0⟩]) := by
  refine List.pairwise_append.2 ⟨distinct, List.pairwise_singleton _ _, fun a _ b new same => ?_⟩
  rw [List.mem_singleton.1 new] at same
  exact same

theorem Statics.createDynamic (statics : Statics l.world) :
    Statics (l.next .createDynamic).world := by
  refine ⟨?_, ?_, statics.servers.append_dynamic, statics.runtimes.append_dynamic, ?_⟩
  · intro v mem static
    rcases mem with mem | mem <;> rcases mem_append_dynamic mem with old | rfl
    · exact statics.known v (.inl old) static
    · cases static
    · exact statics.known v (.inr old) static
    · cases static
  · intro v mem dynamic
    rcases mem with mem | mem <;> rcases mem_append_dynamic mem with old | rfl
    · exact statics.dynamic v (.inl old) dynamic
    · rfl
    · exact statics.dynamic v (.inr old) dynamic
    · rfl
  · intro unserved v mem
    rcases mem_append_dynamic mem with old | rfl
    · exact statics.unserved unserved v old
    · rfl

theorem createDynamic_invariant (inv : Invariant l) (idle : l.world.task.loads = false) :
    Invariant (l.next .createDynamic) := by
  refine ⟨kept_after inv (.refl _), started_after inv _, inv.statics.createDynamic,
    fun loads => absurd (idle.symm.trans loads) (by decide), ?_, inv.synced, ?_, inv.formatted,
    ?_, ?_, ?_⟩
  · intro i p read v phase
    have loads : l.world.task.loads = true := congrArg Task.loads phase
    exact absurd (idle.symm.trans loads) (by decide)
  · intro i p phase
    obtain ⟨inside, static⟩ := inv.saving i p phase
    refine ⟨by simpa [Ledger.next, next] using Nat.lt_succ_of_lt inside, fun v at_ => ?_⟩
    rcases getElem?_append_dynamic at_ with old | ⟨-, beyond⟩
    · exact static v old
    · omega
  · intro u mem
    obtain ⟨v, at_, static⟩ := inv.calls u mem
    exact ⟨v, List.getElem?_append_left (List.getElem?_eq_some_iff.1 at_).1 ▸ at_, static⟩
  · intro i v at_ static
    rcases getElem?_append_dynamic at_ with old | ⟨dynamic, -⟩
    · exact inv.runtimes i v old static
    · rw [dynamic] at static
      cases static
  · intro i v at_ loaded
    rcases getElem?_append_dynamic at_ with old | ⟨dynamic, -⟩
    · exact inv.servers i v old loaded
    · intro static
      rw [dynamic] at static
      cases static

theorem Invariant.own (inv : Invariant l) {i j : ℕ} {x : Server}
    (at_ : l.world.runtimes[i]? = some v) (static : v.isDynamicPort = false)
    (found : l.world.runtimes[j]? = some x) (static' : x.isDynamicPort = false)
    (row : v.row = x.row) : i = j := by
  obtain ⟨own, positive, -⟩ := inv.statics.known v (.inr (List.mem_of_getElem? at_)) static
  obtain ⟨own', -, -⟩ := inv.statics.known x (.inr (List.mem_of_getElem? found)) static'
  exact inv.statics.runtimes.index at_ found (by omega) positive

/-- A step of a call, at an element of `runtimes`. -/
theorem proceed_invariant (inv : Invariant l) {k : ℕ} {u : Update}
    (call : l.world.updates[k]? = some u) (at_ : l.world.runtimes[u.runtime]? = some v)
    (careful : Careful l (.proceed k)) : Invariant (l.next (.proceed k)) := by
  have mem := List.mem_of_getElem? call
  have static : v.isDynamicPort = false := by
    obtain ⟨v', found, static⟩ := inv.calls u mem
    cases at_.symm.trans found
    exact static
  obtain ⟨i, bytes, stage⟩ := u
  have at_ : l.world.runtimes[i]? = some v := at_
  have others (stage : Stage) (u' : Update)
      (kept : u' ∈ l.world.updates.set k ⟨i, bytes, stage⟩) :
      ∃ v, l.world.runtimes[u'.runtime]? = some v ∧ v.isDynamicPort = false := by
    rcases List.mem_or_eq_of_mem_set kept with old | rfl
    · exact inv.calls u' old
    · exact ⟨v, at_, static⟩
  cases stage with
  | load c =>
    simp only [Ledger.next, next, call, at_, proceed]
    refine inv.calling (.refl _) (others _) fun j x found static => ?_
    have same : pending (l.world.updates.set k ⟨i, bytes, .store c (c.get v.bytes)⟩) j +
        (if i = j then Update.held ⟨i, bytes, .load c⟩ else 0) =
          pending l.world.updates j +
            if i = j then Update.held ⟨i, bytes, .store c (c.get v.bytes)⟩ else 0 :=
      cell_set call (by rfl) j
    have held : (⟨i, bytes, .store c (c.get v.bytes)⟩ : Update).held =
        (⟨i, bytes, .load c⟩ : Update).held := by
      cases c <;> rfl
    rw [held] at same
    rw [add_right_cancel same]
    exact inv.runtimes j x found static
  | store c read =>
    simp only [Careful] at careful
    obtain ⟨unraced, fits⟩ := careful _ call v at_
    simp only [Ledger.next, next, call, at_, proceed, World.setRuntime]
    refine inv.calling (.set at_ rfl rfl rfl) (calls_set at_ rfl (others _))
      fun j x found static' => ?_
    refine counts_set (f := fun row => l.started row + l.counted row)
      (y := { v with bytes := c.set (add64 read (c.get bytes)) v.bytes }) at_ rfl rfl ?_
      (pending_stored call j) inv.runtimes found static'
    rw [← unraced, add64, Nat.mod_eq_of_lt (unraced ▸ fits)]
    cases c <;> rfl
  | copy =>
    simp only [Ledger.next, next, call, at_, proceed]
    refine inv.publishes (.refl _) at_ static (fun u' kept => ?_)
      (fun j other => Function.update_of_ne other _ _) fun j x found static' => ?_
    · exact inv.calls u' (List.mem_of_mem_eraseIdx kept)
    · have erased : pending (l.world.updates.eraseIdx k) j + _ = pending l.world.updates j :=
        cell_eraseIdx call j
      have before := inv.runtimes j x found static'
      by_cases same : i = j
      · subst same
        cases at_.symm.trans found
        rw [if_pos rfl] at erased
        rw [← erased] at before
        rw [Function.update_self]
        refine le_of_eq_of_le ?_ before
        change _ = _ + _ + (_ + bytes)
        ac_rfl
      · rw [if_neg same, add_zero] at erased
        rw [Function.update_of_ne fun row => same (inv.own at_ static found static' row.symm), erased]
        exact before

theorem step_invariant (inv : Invariant l) (enabled : Enabled l.world a) (careful : Careful l a) :
    Invariant (l.next a) := by
  have same : Invariant (l.after l.world) := inv.same
  cases a with
  | start rows => exact start_invariant inv enabled careful
  | startServers => exact startServers_invariant inv enabled
  | createDynamic => exact createDynamic_invariant inv enabled
  | update i bytes =>
    have at_ := List.getElem?_eq_getElem enabled
    simp only [Ledger.next, next, at_]
    split
    · exact same
    · rename_i static
      refine inv.calling (.refl _) (fun u mem => ?_) fun j v found static => ?_
      · rcases List.mem_append.1 mem with old | new
        · exact inv.calls u old
        · rw [List.mem_singleton.1 new]
          exact ⟨_, at_, Bool.eq_false_iff.2 static⟩
      · rw [pending_append]
        exact inv.runtimes j v found static
  | proceed k =>
    have call := List.getElem?_eq_getElem enabled
    obtain ⟨v, at_, -⟩ := inv.calls _ (List.getElem_mem enabled)
    exact proceed_invariant inv call at_ careful
  | connections i c =>
    have at_ := List.getElem?_eq_getElem enabled
    have inside : i < l.world.runtimes.length := enabled
    simp only [Ledger.next, next, at_]
    split
    · exact same
    · rename_i static
      have static := Bool.eq_false_iff.2 static
      refine inv.publishes (.set at_ rfl rfl rfl) (List.getElem?_set_self inside) static
        (calls_set at_ rfl inv.calls) (fun _ _ => rfl) fun j x found static' => ?_
      refine counts_set (f := fun row => l.started row + l.counted row)
        (y := { l.world.runtimes[i] with connectionsCount := c }) at_ rfl rfl (add_zero _).symm ?_
        inv.runtimes found static'
      simp
  | work => exact work_invariant inv careful
  | save i =>
    obtain ⟨task, -, server, at_, -⟩ := enabled
    have idle : l.world.task.loads = false := by rw [task]; rfl
    have at_ : l.world.servers[i]? = some server := at_
    simp only [Ledger.next, next, at_]
    split
    · exact same
    · rename_i unsaved
      refine inv.turns idle rfl nofun ?_ nofun
      intro j p phase
      cases phase
      refine ⟨(List.getElem?_eq_some_iff.1 at_).1, fun u found => ?_⟩
      have same : u = server := Option.some.inj (found.symm.trans at_)
      simp only [Server.unsaved, Bool.or_eq_true, not_or] at unsaved
      rw [same]
      exact Bool.eq_false_iff.2 unsaved.1
  | cleanup cutoff =>
    have idle : l.world.task.loads = false := by rw [enabled.1]; rfl
    exact inv.turns idle rfl nofun nofun nofun
  | answer ok now => exact answer_invariant inv careful
  | resetSnapshots | resetTotals => exact careful.elim

theorem Ledger.Initial.invariant (initial : l.Initial) : Invariant l where
  kept id _ := by rw [initial.largest]
  started id := by rw [initial.largest, initial.started]
  statics := by
    refine ⟨?_, ?_, ?_, ?_, ?_⟩
    · simp [initial.servers, initial.runtimes]
    · simp [initial.servers, initial.runtimes]
    · simp [initial.servers, Distinct]
    · simp [initial.runtimes, Distinct]
    · simp [initial.runtimes]
  loading _ := ⟨initial.runtimes, initial.counted, by simp [initial.servers]⟩
  fetched := by simp [initial.task]
  synced := by simp [initial.task]
  saving := by simp [initial.task]
  formatted := by simp [initial.task]
  calls := by simp [initial.updates]
  runtimes := by simp [initial.runtimes]
  servers := by simp [initial.servers]

theorem Invariant.retained (inv : Invariant l) (careful : Careful l a)
    (enabled : Enabled l.world a) : Retained l a := by
  cases a with
  | answer ok now =>
    simp only [Retained]
    split
    · rename_i i p read task
      intro _ ok_ v at_ v' at_'
      subst ok_
      have at_ : l.world.servers[i]? = some v := at_
      have loads : l.world.task.loads = true := by rw [task]; rfl
      have inside := (List.getElem?_eq_some_iff.1 at_).1
      simp only [next, answer, task, at_, loadAnswer, World.setServer,
        List.getElem?_set_self inside] at at_'
      cases at_'
      have mem := List.mem_of_getElem? at_
      have static := (inv.loading loads).2.2 v mem
      obtain ⟨row, -, there⟩ := inv.statics.known v (.inl mem) static
      rw [row]
      exact (inv.kept v.id there).trans (inv.covers task at_ careful)
    · rename_i i bytes n task
      intro ok_ fits v at_
      subst ok_
      have at_ : l.world.servers[i]? = some v := at_
      have static := (inv.saving i _ task).2 v at_
      have row := (inv.statics.known v (.inl (List.mem_of_getElem? at_)) static).1
      simp only [next, answer, task, at_, saveAnswer, fits, and_self, if_true]
      refine (inv.formatted i bytes n task).trans ?_
      rw [row]
      exact Db.stored_insert l.world.db ⟨v.id, bytes, n, now⟩
    · trivial
  | save i =>
    intro v at_ static unsaved
    have idle : l.world.task.loads = false := by rw [enabled.1]; rfl
    refine (inv.all idle i v at_ static).trans ?_
    simp only [Server.unsaved, static, Bool.false_or, Bool.and_eq_true, beq_iff_eq] at unsaved
    rw [unsaved.1]
    exact ⟨Nat.zero_le _, Nat.zero_le _⟩
  | _ => trivial

/-- In a run whose steps are careful, loads return all that was ever stored, and what a successful
save leaves accounts for everything that was counted. -/
theorem totals_retained (run : accounting.Run log l) (careful : ∀ e ∈ log, Careful e.1 e.2) :
    ∀ e ∈ log, Retained e.1 e.2 := by
  intro e mem
  have inv : ∀ e ∈ log, Invariant e.1 :=
    run.found (fun _ => Ledger.Initial.invariant) (fun l a => step_invariant) careful
  exact (inv e mem).retained (careful e mem) (run.enabled_of_mem e mem)

namespace Sample

def tables : Db :=
  ⟨fun id => if id = 1 then some (1000, 0) else none, [⟨1, (700, 0), 0, 5⟩]⟩

def ledger : Ledger :=
  ⟨⟨tables, [], [], [], false, .idle, []⟩, tables.stored, tables.stored, 0, 0⟩

theorem initial : ledger.Initial := ⟨rfl, rfl, rfl, rfl, rfl, rfl, rfl, rfl⟩

def saved (columns : Bool) : List Action :=
  [.start [(1, true)], .answer columns 10, .answer true 10, .answer true 10, .startServers,
    .update 0 (100, 0), .proceed 0, .proceed 0, .proceed 0, .proceed 0, .proceed 0,
    .save 0, .answer true 70, .work, .work, .work, .work, .work, .answer true 70, .work,
    .answer true 70]

end Sample

theorem saved_retained : ∃ log l, accounting.Run log l ∧ l.world.db.stored 1 = (1100, 0) ∧
    ∀ e ∈ log, Retained e.1 e.2 := by
  have run := System.Run.start (m := accounting) Sample.initial
  obtain ⟨log, l, run, found⟩ := run.follow_any (Sample.saved true)
    (fun r => decide (r.2.world.db.stored 1 = (1100, 0)) && decide (∀ e ∈ r.1, Careful e.1 e.2))
    (by decide +kernel)
  simp only [Bool.and_eq_true, decide_eq_true_eq] at found
  exact ⟨log, l, run, found.1, totals_retained run found.2⟩

/-- The columns cannot be read at the start, so the process begins with 700 bytes and the 100 that
it counts are covered by the 1000 that are stored. -/
theorem counted_bytes_lost : ¬ ∀ (log : List (Ledger × Action)) (l : Ledger), accounting.Run log l →
    (∀ e ∈ log, e.2.resets = false) → ∀ e ∈ log, Retained e.1 e.2 := by
  intro always
  have run := System.Run.start (m := accounting) Sample.initial
  obtain ⟨log, l, run, found⟩ := run.follow_any (Sample.saved false)
    (fun r => decide (∀ e ∈ r.1, e.2.resets = false) && !decide (∀ e ∈ r.1, Retained e.1 e.2))
    (by decide +kernel)
  simp only [Bool.and_eq_true, decide_eq_true_eq, Bool.not_eq_true', decide_eq_false_iff_not]
    at found
  exact found.2 (always log l run found.1)

end ServerTotals
