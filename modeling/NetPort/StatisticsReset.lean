import NetPort.GridSums
import NetPort.ServerTotals

/-! When a reset of a server's statistics is not undone by what the server process holds. -/
namespace StatisticsReset

open GridSums StepRuns ServerTotals

/-- The process with the bytes that were counted for a server since its last complete reset. -/
structure Watch where
  world : World
  sinceReset : ℕ → Option Totals

namespace Watch

def next (s : Watch) (a : Action) : Watch where
  world := ServerTotals.next s.world a
  sinceReset :=
    match a with
    | .resetTotals id true => Function.update s.sinceReset id (some 0)
    | .update i bytes =>
      match s.world.runtimes[i]? with
      | some v =>
        if v.isDynamicPort then s.sinceReset
        else Function.update s.sinceReset v.id ((s.sinceReset v.id).map (· + bytes))
      | none => s.sinceReset
    | _ => s.sinceReset

structure Initial (s : Watch) : Prop where
  servers : s.world.servers = []
  runtimes : s.world.runtimes = []
  updates : s.world.updates = []
  serving : s.world.serving = false
  task : s.world.task = .idle
  resetting : s.world.resetting = []
  sinceReset : s.sinceReset = fun _ => none

end Watch

def resetting : System Watch Action where
  initial := Watch.Initial
  enabled s a := Enabled s.world a
  next := Watch.next

/-- The bytes of a server that its load or save has read or formatted, with the server's index. -/
def held : Task → Option (ℕ × Totals)
  | .loading i (.peak p _) | .saving i (.load _ p) => some (i, p)
  | .saving i (.store c p read) => some (i, p ⊔ c.set read 0)
  | .saving i (.persist bytes) | .saving i (.insert bytes _) => some (i, bytes)
  | _ => none

/-- The server process holds no bytes of a server whose reset is completed and is in no call of
`update_server_statistics` for it, and none were stored since its snapshots were deleted. -/
def Careful (s : Watch) : Action → Prop
  | .resetTotals id true =>
    (∀ r ∈ s.world.db.statistic, r.serverId = id → r.bytes = 0) ∧
      (∀ v ∈ s.world.servers, v.id = id → v.bytes = 0) ∧
      (∀ v ∈ s.world.runtimes, v.id = id → v.bytes = 0) ∧
      (∀ u ∈ s.world.updates, ∀ v ∈ s.world.runtimes[u.runtime]?, v.id ≠ id) ∧
      ∀ h ∈ held s.world.task, ∀ v ∈ s.world.servers[h.1]?, v.id = id → h.2 = 0
  | _ => True

instance (s : Watch) (a : Action) : Decidable (resetting.enabled s a) :=
  inferInstanceAs (Decidable (Enabled s.world a))

instance (s : Watch) (a : Action) : Decidable (Careful s a) := by
  unfold Careful
  split <;> infer_instance

def left (u : Update) : Totals :=
  match u.stage with
  | .load .received | .store .received _ => u.bytes
  | .load .sent | .store .sent _ => (0, u.bytes.2)
  | .copy => 0

def loaded (u : Update) : Totals :=
  match u.stage with
  | .store c read => c.set read 0
  | _ => 0

/-- What all calls have still to add to the runtime `i`. -/
def coming (w : World) (i : ℕ) : Totals := cell Update.runtime left w.updates i

/-- Wherever bytes of the server are kept, there are at most so many, and what the calls under way
add still fits. -/
structure Below (w : World) (id : ℕ) (c : Totals) : Prop where
  columns : ∀ t, w.db.servers id = some t → t ≤ c
  rows : ∀ r ∈ w.db.statistic, r.serverId = id → r.bytes ≤ c
  servers : ∀ v ∈ w.servers, v.id = id → v.bytes ≤ c
  runtimes : ∀ (i : ℕ) v, w.runtimes[i]? = some v → v.id = id → v.bytes + coming w i ≤ c
  calls : ∀ u ∈ w.updates, u.runtime < w.runtimes.length
  loads : ∀ u ∈ w.updates, ∀ v, w.runtimes[u.runtime]? = some v → v.id = id →
    loaded u + coming w u.runtime ≤ c
  task : ∀ i t, held w.task = some (i, t) → ∃ v, w.servers[i]? = some v ∧ (v.id = id → t ≤ c)

variable {w : World} {s : Watch} {a : Action} {id : ℕ} {c : Totals} {v : Server} {i : ℕ}
  {log : List (Watch × Action)}

theorem nothing_le (c : Totals) : (0 : Totals) ≤ c := ⟨Nat.zero_le _, Nat.zero_le _⟩

theorem Below.peak (below : Below w id c) : w.db.peak id ≤ c := Db.peak_le below.rows

theorem Below.persisted (below : Below w id c) : w.db.persisted id ≤ c := by
  unfold Db.persisted
  cases found : w.db.servers id with
  | none => exact nothing_le c
  | some t => exact below.columns t found

theorem Below.stored (below : Below w id c) : w.db.stored id ≤ c :=
  sup_le below.persisted below.peak

/-- The element of `servers` is given other statistics. -/
theorem Below.set (below : Below w id c) {new : Server} {servers : List Server}
    (changed : servers = w.servers.set i new) (bound : new.id = id → new.bytes ≤ c) :
    ∀ v ∈ servers, v.id = id → v.bytes ≤ c := by
  intro v mem own
  rw [changed] at mem
  rcases List.mem_or_eq_of_mem_set mem with old | rfl
  · exact below.servers v old own
  · exact bound own

theorem Below.persist (below : Below w id c) (key : ℕ) (t : Totals) (bound : key = id → t ≤ c) :
    ∀ u, (w.db.persist key t).servers id = some u → u ≤ c := by
  intro u found
  unfold Db.persist at found
  split at found
  · by_cases same : id = key
    · subst same
      simp only [Function.update_self, Option.map_eq_some_iff] at found
      obtain ⟨t₀, found, rfl⟩ := found
      exact sup_le (below.columns t₀ found) (bound rfl)
    · simp only [Function.update_of_ne same] at found
      exact below.columns u found
  · exact below.columns u found

theorem persist_statistic (db : Db) (key : ℕ) (t : Totals) :
    (db.persist key t).statistic = db.statistic := by
  unfold Db.persist
  split <;> rfl

theorem Below.step (below : Below w id c) {w' : World}
    (columns : ∀ t, w'.db.servers id = some t → t ≤ c)
    (rows : ∀ r ∈ w'.db.statistic, r.serverId = id → r.bytes ≤ c)
    (servers : ∀ v ∈ w'.servers, v.id = id → v.bytes ≤ c) (runtimes : w'.runtimes = w.runtimes)
    (updates : w'.updates = w.updates)
    (task : ∀ i t, held w'.task = some (i, t) →
      ∃ v, w'.servers[i]? = some v ∧ (v.id = id → t ≤ c)) :
    Below w' id c := by
  refine ⟨columns, rows, servers, ?_, ?_, ?_, task⟩
  · simp only [coming, runtimes, updates]
    exact below.runtimes
  · rw [runtimes, updates]
    exact below.calls
  · simp only [coming, runtimes, updates]
    exact below.loads

theorem Below.turns (below : Below w id c) {i : ℕ} {task : Task} (at_ : w.servers[i]? = some v)
    (bound : ∀ j t, held task = some (j, t) → j = i ∧ (v.id = id → t ≤ c)) :
    Below { w with task := task } id c := by
  refine below.step below.columns below.rows below.servers rfl rfl fun j t holds => ?_
  obtain ⟨rfl, le⟩ := bound j t holds
  exact ⟨v, at_, le⟩

theorem Below.holds (below : Below w id c) {i : ℕ} {t : Totals} (at_ : w.servers[i]? = some v)
    (holds : held w.task = some (i, t)) (own : v.id = id) : t ≤ c := by
  obtain ⟨v', found, le⟩ := below.task i t holds
  cases at_.symm.trans found
  exact le own

theorem Below.loadAnswer (below : Below w id c) (ok : Bool) {q : Load}
    (task : w.task = .loading i q) (at_ : w.servers[i]? = some v) :
    Below (loadAnswer w ok i v q) id c := by
  have own := below.servers v (List.mem_of_getElem? at_)
  cases q with
  | persisted =>
    refine below.turns at_ ?_
    rintro j t ⟨⟩
    refine ⟨rfl, fun same => ?_⟩
    cases ok with
    | true =>
      rw [if_pos rfl, same]
      exact below.persisted
    | false => exact nothing_le c
  | peak p read =>
    refine below.step below.columns below.rows (below.set rfl fun same => ?_) rfl rfl nofun
    have read := below.holds at_ (by rw [task]; rfl) same
    cases ok with
    | true =>
      refine sup_le read ?_
      rw [if_pos rfl, same]
      exact below.peak
    | false => exact sup_le read (nothing_le c)
  | persist =>
    refine below.step ?_ ?_ below.servers rfl rfl ?_
    · simp only [ServerTotals.loadAnswer, World.loadFrom]
      split
      · exact below.persist v.id v.bytes own
      · exact below.columns
    · simp only [ServerTotals.loadAnswer, World.loadFrom]
      split
      · rw [persist_statistic]
        exact below.rows
      · exact below.rows
    · intro j t phase
      simp only [ServerTotals.loadAnswer, World.loadFrom] at phase
      split at phase <;> cases phase

theorem Below.saveAnswer (below : Below w id c) (ok : Bool) (now : ℕ) {q : Save}
    (task : w.task = .saving i q) (at_ : w.servers[i]? = some v) :
    Below (saveAnswer w ok now i v q) id c := by
  cases q with
  | persisted =>
    simp only [ServerTotals.saveAnswer]
    split
    · rename_i t found
      refine below.turns at_ ?_
      rintro j t ⟨⟩
      refine ⟨rfl, fun same => below.columns t ?_⟩
      cases ok with
      | true => rwa [if_pos rfl, same] at found
      | false => cases found
    · exact below.turns at_ nofun
  | peak =>
    refine below.turns at_ ?_
    cases ok with
    | true =>
      rintro j t ⟨⟩
      refine ⟨rfl, ?_⟩
      rintro rfl
      exact below.peak
    | false => exact nofun
  | persist bytes =>
    have bound (same : v.id = id) : bytes ≤ c :=
      below.holds at_ (by rw [task]; rfl) same
    refine below.step ?_ ?_ below.servers rfl rfl nofun
    · simp only [ServerTotals.saveAnswer]
      split
      · exact below.persist v.id bytes bound
      · exact below.columns
    · simp only [ServerTotals.saveAnswer]
      split
      · rw [persist_statistic]
        exact below.rows
      · exact below.rows
  | insert bytes n =>
    have bound (same : v.id = id) : bytes ≤ c :=
      below.holds at_ (by rw [task]; rfl) same
    simp only [ServerTotals.saveAnswer]
    split
    · refine below.step below.columns (fun r mem same => ?_) below.servers rfl rfl nofun
      rcases List.mem_append.1 mem with old | new
      · exact below.rows r old same
      · rw [List.mem_singleton.1 new] at same ⊢
        exact bound same
    · exact below.step below.columns below.rows below.servers rfl rfl nofun
  | load | store | formatPersist | formatInsert => exact below

theorem set_le {x : Counter} {n : ℕ} {t : Totals} (le : n ≤ x.get c) (rest : t ≤ c) :
    x.set n t ≤ c := by
  cases x with
  | received => exact ⟨le, rest.2⟩
  | sent => exact ⟨rest.1, le⟩

theorem get_le {x : Counter} {t : Totals} (le : t ≤ c) : x.get t ≤ x.get c := by
  cases x with
  | received => exact le.1
  | sent => exact le.2

theorem get_set (x : Counter) (n : ℕ) (t : Totals) : x.get (x.set n t) = n := by
  cases x <;> rfl

theorem Below.work (below : Below w id c) : Below (work w) id c := by
  unfold ServerTotals.work
  split
  · rename_i i q task
    split
    · rename_i v at_
      have own := below.servers v (List.mem_of_getElem? at_)
      have took (t : Totals) (holds : held w.task = some (i, t)) (same : v.id = id) : t ≤ c :=
        below.holds at_ holds same
      rw [task] at took
      cases q with
      | load x last =>
        refine below.turns at_ ?_
        rintro j t ⟨⟩
        refine ⟨rfl, fun same => sup_le (took last rfl same) ?_⟩
        exact set_le (get_le (own same)) (nothing_le c)
      | store x last read =>
        have new (same : v.id = id) : x.set (max read (x.get last)) v.bytes ≤ c := by
          obtain ⟨le, le'⟩ := sup_le_iff.1 (took _ rfl same)
          refine set_le (max_le ?_ (get_le le)) (own same)
          rw [← get_set x read 0]
          exact get_le le'
        refine below.step below.columns below.rows (below.set rfl new) rfl rfl ?_
        cases x with
        | received =>
          rintro j t ⟨⟩
          have inside := (List.getElem?_eq_some_iff.1 at_).1
          exact ⟨_, List.getElem?_set_self inside, fun same => (sup_le_iff.1 (took _ rfl same)).1⟩
        | sent => exact nofun
      | formatPersist | formatInsert =>
        refine below.turns at_ ?_
        rintro j t ⟨⟩
        exact ⟨rfl, own⟩
      | persisted | peak | persist | insert => exact below
    · exact below
  · exact below

theorem Below.answer (below : Below w id c) (ok : Bool) (now : ℕ) :
    Below (answer w ok now) id c := by
  unfold ServerTotals.answer
  split
  · exact below
  · rename_i i q task
    split
    · exact below.loadAnswer ok task ‹_›
    · exact below
  · rename_i i q task
    split
    · exact below.saveAnswer ok now task ‹_›
    · exact below
  · refine below.step ?_ ?_ below.servers rfl rfl nofun
    · intro t found
      cases ok with
      | true =>
        obtain ⟨t₀, before, rfl⟩ := Option.map_eq_some_iff.1 found
        exact sup_le (below.columns t₀ before) below.peak
      | false => exact below.columns t found
    · cases ok <;> exact below.rows
  · refine below.step ?_ ?_ below.servers rfl rfl nofun
    · cases ok <;> exact below.columns
    · intro r mem
      cases ok with
      | true => exact below.rows r (List.mem_of_mem_filter mem)
      | false => exact below.rows r mem

/-- What `memcpy` leaves in `servers` was there before or is what the runtime has. -/
theorem mem_publish {u : Server} (mem : u ∈ (w.publish v).servers) :
    ∃ old ∈ w.servers, u.id = old.id ∧ (u.bytes = old.bytes ∨ u.id = v.id ∧ u.bytes = v.bytes) := by
  unfold World.publish at mem
  split at mem
  · rename_i k found
    obtain ⟨inside, here, -⟩ := List.findIdx?_eq_some_iff_getElem.1 found
    obtain ⟨j, at_⟩ := List.mem_iff_getElem?.1 mem
    by_cases same : k = j
    · subst same
      simp only [List.getElem?_modify_eq, List.getElem?_eq_getElem inside, Option.map_eq_map,
        Option.map_some, Option.some.injEq] at at_
      subst at_
      exact ⟨_, List.getElem_mem inside, rfl, .inr ⟨of_decide_eq_true here, rfl⟩⟩
    · simp only [List.getElem?_modify_ne _ _ same] at at_
      exact ⟨u, List.mem_of_getElem? at_, rfl, .inl rfl⟩
  · exact ⟨u, mem, rfl, .inl rfl⟩

theorem publish_id (w : World) (v : Server) (i : ℕ) :
    (w.publish v).servers[i]?.map (·.id) = w.servers[i]?.map (·.id) := by
  unfold World.publish
  split
  · rename_i k _
    simp only [List.getElem?_modify]
    by_cases same : k = i
    · simp [same, Function.comp_def]
    · simp [same]
  · rfl

theorem Below.publish (below : Below w id c) (bound : v.id = id → v.bytes ≤ c) :
    Below (w.publish v) id c := by
  have servers (u : Server) (mem : u ∈ (w.publish v).servers) (own : u.id = id) : u.bytes ≤ c := by
    obtain ⟨old, before, same, kept | ⟨new, taken⟩⟩ := mem_publish mem
    · rw [kept]
      exact below.servers old before (same ▸ own)
    · rw [taken]
      exact bound (new ▸ own)
  have ids := publish_id w v
  rw [publish_kept]
  refine ⟨below.columns, below.rows, servers, below.runtimes, below.calls, below.loads, ?_⟩
  intro i t holds
  obtain ⟨x, at_, le⟩ := below.task i t holds
  have there := ids i
  rw [at_] at there
  obtain ⟨y, found, same⟩ := Option.map_eq_some_iff.1 there
  exact ⟨y, found, fun own => le (same.symm.trans own)⟩

section Calls

variable {us : List Update} {u : Update} {runtimes : List Server} {j k : ℕ} {x y : Server}

/-- The steps of the calls before they publish, while the bound does not fall. -/
theorem Below.calling (below : Below w id c) {c' : Totals} (more : c ≤ c')
    (calls : ∀ u ∈ us, u.runtime < runtimes.length)
    (bounds : ∀ (i : ℕ) v, runtimes[i]? = some v → v.id = id →
      v.bytes + cell Update.runtime left us i ≤ c')
    (loads : ∀ u ∈ us, ∀ v, runtimes[u.runtime]? = some v → v.id = id →
      loaded u + cell Update.runtime left us u.runtime ≤ c') :
    Below { w with runtimes := runtimes, updates := us } id c' where
  columns t found := (below.columns t found).trans more
  rows r mem own := (below.rows r mem own).trans more
  servers v mem own := (below.servers v mem own).trans more
  runtimes := bounds
  calls := calls
  loads := loads
  task i t holds := by
    obtain ⟨v, at_, le⟩ := below.task i t holds
    exact ⟨v, at_, fun own => (le own).trans more⟩

theorem set_cases (found : (runtimes.set i y)[j]? = some x) :
    i = j ∧ x = y ∨ i ≠ j ∧ runtimes[j]? = some x := by
  by_cases same : i = j
  · subst same
    obtain ⟨inside, here⟩ := List.getElem?_eq_some_iff.1 found
    rw [List.getElem_set_self] at here
    exact .inl ⟨rfl, here.symm⟩
  · rw [List.getElem?_set_ne same] at found
    exact .inr ⟨same, found⟩

/-- A sum that is stored was loaded before, when the bytes it adds were still to come. -/
theorem stored_le {n read : ℕ} {t after : Totals} (x : Counter)
    (fresh : x.set read 0 + (after + x.set n 0) ≤ c) (old : t + (after + x.set n 0) ≤ c) :
    x.set (add64 read n) t + after ≤ c := by
  have sum : add64 read n ≤ read + n := Nat.mod_le _ _
  cases x with
  | received =>
    have first : read + (after.1 + n) ≤ c.1 := fresh.1
    have second : t.2 + (after.2 + 0) ≤ c.2 := old.2
    exact ⟨show add64 read n + after.1 ≤ c.1 by omega, second⟩
  | sent =>
    have first : t.1 + (after.1 + 0) ≤ c.1 := old.1
    have second : read + (after.2 + n) ≤ c.2 := fresh.2
    exact ⟨first, show add64 read n + after.2 ≤ c.2 by omega⟩

theorem Below.proceed (below : Below w id c) (call : w.updates[k]? = some u)
    (at_ : w.runtimes[u.runtime]? = some v) : Below (proceed w k u v) id c := by
  have mem := List.mem_of_getElem? call
  have inside := below.calls u mem
  obtain ⟨i, bytes, stage⟩ := u
  have at_ : w.runtimes[i]? = some v := at_
  have calls (stage : Stage) (u : Update) (kept : u ∈ w.updates.set k ⟨i, bytes, stage⟩) :
      u.runtime < w.runtimes.length := by
    rcases List.mem_or_eq_of_mem_set kept with old | rfl
    · exact below.calls u old
    · exact inside
  have moved (stage' : Stage) (j : ℕ) :
      cell Update.runtime left (w.updates.set k ⟨i, bytes, stage'⟩) j +
          (if i = j then left ⟨i, bytes, stage⟩ else 0) =
        coming w j + if i = j then left ⟨i, bytes, stage'⟩ else 0 :=
    cell_set call (by rfl) j
  cases stage with
  | load x =>
    have same (j : ℕ) : cell Update.runtime left
        (w.updates.set k ⟨i, bytes, .store x (x.get v.bytes)⟩) j = coming w j := by
      have held : left ⟨i, bytes, .store x (x.get v.bytes)⟩ = left ⟨i, bytes, .load x⟩ := by
        cases x <;> rfl
      have moved := moved (.store x (x.get v.bytes)) j
      rw [held] at moved
      exact add_right_cancel moved
    refine below.calling le_rfl (calls _) ?_ ?_
    · simp only [same]
      exact below.runtimes
    · intro u kept y found own
      rw [same]
      rcases List.mem_or_eq_of_mem_set kept with old | rfl
      · exact below.loads u old y found own
      · cases at_.symm.trans found
        have read : x.set (x.get v.bytes) 0 ≤ v.bytes := set_le le_rfl (nothing_le _)
        exact (add_le_add_left read _).trans (below.runtimes i v at_ own)
  | store x read =>
    have moved (j : ℕ) : coming w j = cell Update.runtime left
        (w.updates.set k ⟨i, bytes, x.stored⟩) j + if i = j then x.set (x.get bytes) 0 else 0 := by
      have held : left ⟨i, bytes, .store x read⟩ =
          x.set (x.get bytes) 0 + left ⟨i, bytes, x.stored⟩ := by
        cases x
        · exact Prod.ext (add_zero _).symm (zero_add _).symm
        · rfl
      have moved := moved x.stored j
      by_cases same : i = j
      · rw [if_pos same, if_pos same, held, ← add_assoc] at moved
        rw [if_pos same]
        exact (add_right_cancel moved).symm
      · rw [if_neg same, if_neg same] at moved
        rw [if_neg same]
        exact moved.symm
    have fewer (j : ℕ) : cell Update.runtime left (w.updates.set k ⟨i, bytes, x.stored⟩) j ≤
        coming w j := by
      rw [moved]
      exact le_add_of_nonneg_right (by split <;> exact nothing_le _)
    refine below.calling le_rfl ?_ ?_ ?_
    · simp only [World.setRuntime, List.length_set]
      exact calls _
    · intro j y found own
      rcases set_cases found with ⟨rfl, rfl⟩ | ⟨-, old⟩
      · have fresh := below.loads _ mem v at_ own
        have stored := below.runtimes i v at_ own
        rw [moved, if_pos rfl] at fresh stored
        exact stored_le x fresh stored
      · exact (add_le_add_right (fewer j) _).trans (below.runtimes j y old own)
    · intro u kept y found own
      have before : ∃ y, w.runtimes[u.runtime]? = some y ∧ y.id = id := by
        rcases set_cases found with ⟨same, rfl⟩ | ⟨-, old⟩
        · exact ⟨v, same ▸ at_, own⟩
        · exact ⟨y, old, own⟩
      obtain ⟨y, found, own⟩ := before
      refine (add_le_add_right (fewer _) _).trans ?_
      rcases List.mem_or_eq_of_mem_set kept with old | rfl
      · exact below.loads u old y found own
      · have read : loaded ⟨i, bytes, x.stored⟩ ≤ y.bytes := by
          cases x <;> exact nothing_le _
        exact (add_le_add_left read _).trans (below.runtimes i y found own)
  | copy =>
    have erased (j : ℕ) : cell Update.runtime left (w.updates.eraseIdx k) j ≤ coming w j :=
      le_self_add.trans_eq (cell_eraseIdx call j)
    refine Below.publish (below.calling le_rfl ?_ ?_ ?_) fun own => ?_
    · exact fun u kept => below.calls u (List.mem_of_mem_eraseIdx kept)
    · intro j y found own
      exact (add_le_add_right (erased j) _).trans (below.runtimes j y found own)
    · intro u kept y found own
      exact (add_le_add_right (erased _) _).trans
        (below.loads u (List.mem_of_mem_eraseIdx kept) y found own)
    · exact le_self_add.trans (below.runtimes i v at_ own)

theorem Below.update (below : Below w id c) (at_ : w.runtimes[i]? = some v) (bytes : Totals) :
    Below { w with updates := w.updates ++ [⟨i, bytes, .load .received⟩] } id
      (c + if v.id = id then bytes else 0) := by
  have more (j : ℕ) : cell Update.runtime left (w.updates ++ [⟨i, bytes, .load .received⟩]) j =
      coming w j + if i = j then bytes else 0 := by
    rw [cell_append, cell_cons, cell_nil]
    rfl
  have grown {j : ℕ} {x : Server} (found : w.runtimes[j]? = some x) (own : x.id = id) :
      (if i = j then bytes else 0) ≤ if v.id = id then bytes else 0 := by
    by_cases same : i = j
    · subst same
      cases at_.symm.trans found
      rw [if_pos rfl, if_pos own]
    · rw [if_neg same]
      split <;> exact nothing_le _
  refine below.calling (le_add_of_nonneg_right (by split <;> exact nothing_le _)) ?_ ?_ ?_
  · intro u mem
    rcases List.mem_append.1 mem with old | new
    · exact below.calls u old
    · rw [List.mem_singleton.1 new]
      exact (List.getElem?_eq_some_iff.1 at_).1
  · intro j x found own
    rw [more, ← add_assoc]
    exact add_le_add (below.runtimes j x found own) (grown found own)
  · intro u mem x found own
    rw [more, ← add_assoc]
    refine add_le_add ?_ (grown found own)
    rcases List.mem_append.1 mem with old | new
    · exact below.loads u old x found own
    · rw [List.mem_singleton.1 new] at found ⊢
      exact (add_le_add_left (nothing_le x.bytes) _).trans (below.runtimes i x found own)

theorem Below.connect (below : Below w id c) (at_ : w.runtimes[i]? = some v) {v' : Server}
    (same : v'.id = v.id) (bytes : v'.bytes = v.bytes) : Below (connect w i v') id c := by
  have before {j : ℕ} {x : Server} (found : (w.runtimes.set i v')[j]? = some x) :
      ∃ y, w.runtimes[j]? = some y ∧ x.id = y.id ∧ x.bytes = y.bytes := by
    rcases set_cases found with ⟨rfl, rfl⟩ | ⟨-, old⟩
    · exact ⟨v, at_, same, bytes⟩
    · exact ⟨x, old, rfl, rfl⟩
  refine Below.publish (below.calling le_rfl ?_ ?_ ?_) fun own => ?_
  · rw [List.length_set]
    exact below.calls
  · intro j x found own
    obtain ⟨y, found, id, bytes⟩ := before found
    rw [bytes]
    exact below.runtimes j y found (id ▸ own)
  · intro u mem x found own
    obtain ⟨y, found, id, -⟩ := before found
    exact below.loads u mem y found (id ▸ own)
  · rw [bytes]
    exact le_self_add.trans (below.runtimes i v at_ (same ▸ own))

end Calls

theorem coming_none (none : ∀ u ∈ w.updates, u.runtime ≠ i) : coming w i = 0 := by
  have none : w.updates.filter (fun u => u.runtime = i) = [] :=
    List.filter_eq_nil_iff.2 fun u mem here => none u mem (of_decide_eq_true here)
  rw [coming, cell, none, List.map_nil, List.sum_nil]

theorem Below.no_calls (below : Below w id c) (beyond : w.runtimes.length ≤ i) :
    coming w i = 0 :=
  coming_none fun u mem => (lt_of_lt_of_le (below.calls u mem) beyond).ne

/-- New runtimes, for which no call has been made. -/
theorem Below.copies (added : List Server) (below : Below w id c)
    (fits : ∀ v ∈ added, v.id = id → v.bytes ≤ c) :
    Below { w with runtimes := w.runtimes ++ added } id c := by
  refine ⟨below.columns, below.rows, below.servers, ?_, ?_, ?_, below.task⟩
  · intro i v at_ own
    change v.bytes + coming w i ≤ c
    by_cases inside : i < w.runtimes.length
    · exact below.runtimes i v ((List.getElem?_append_left inside).symm.trans at_) own
    · have at_ := (List.getElem?_append_right (by omega)).symm.trans at_
      rw [below.no_calls (by omega), add_zero]
      exact fits v (List.mem_of_getElem? at_) own
  · exact fun u mem => List.length_append ▸ Nat.lt_add_right _ (below.calls u mem)
  · intro u mem v at_ own
    have inside := below.calls u mem
    exact below.loads u mem v ((List.getElem?_append_left inside).symm.trans at_) own

def counted (w : World) (id : ℕ) : Action → Totals
  | .update i bytes =>
    match w.runtimes[i]? with
    | some v => if v.isDynamicPort = false ∧ v.id = id then bytes else 0
    | none => 0
  | _ => 0

theorem below_next (below : Below w id c) (enabled : Enabled w a) :
    Below (ServerTotals.next w a) id (c + counted w id a) := by
  cases a with
  | start rows =>
    refine ⟨below.columns, below.rows, ?_, ?_, ?_, ?_, ?_⟩
    · intro v mem _
      obtain ⟨r, -, rfl⟩ := List.mem_map.1 mem
      exact nothing_le _
    · rintro i v ⟨⟩
    · intro u mem
      cases mem
    · intro u mem
      cases mem
    · intro i t holds
      simp only [ServerTotals.next, start, World.loadFrom] at holds
      split at holds <;> cases holds
  | startServers =>
    have copied := below.copies (w.servers.filter (·.enable)) fun v mem =>
      below.servers v (List.mem_of_mem_filter mem)
    exact ⟨copied.columns, copied.rows, copied.servers, copied.runtimes, copied.calls, copied.loads,
      copied.task⟩
  | createDynamic =>
    have fits (v : Server) (mem : v ∈ [(⟨0, 0, true, true, 0, 0⟩ : Server)]) : v.bytes ≤ c := by
      rw [List.mem_singleton.1 mem]
      exact nothing_le c
    have copied := below.copies _ fun v mem _ => fits v mem
    refine ⟨copied.columns, copied.rows, ?_, copied.runtimes, copied.calls, copied.loads, ?_⟩
    · intro v mem own
      rcases List.mem_append.1 mem with old | new
      · exact below.servers v old own
      · exact fits v new
    · intro i t holds
      obtain ⟨v, at_, le⟩ := below.task i t holds
      have inside := (List.getElem?_eq_some_iff.1 at_).1
      exact ⟨v, (List.getElem?_append_left inside).trans at_, le⟩
  | update i bytes =>
    cases at_ : w.runtimes[i]? with
    | none =>
      simp only [ServerTotals.next, counted, at_]
      exact below
    | some v =>
      simp only [ServerTotals.next, counted, at_]
      by_cases dynamic : v.isDynamicPort = true
      · rw [if_pos dynamic, if_neg (by simp [dynamic]), add_zero]
        exact below
      · rw [if_neg dynamic]
        simp only [Bool.eq_false_iff.2 dynamic, true_and]
        exact below.update at_ bytes
  | proceed k =>
    simp only [ServerTotals.next, counted]
    split
    · split
      · exact below.proceed ‹_› ‹_›
      · exact below
    · exact below
  | connections i n =>
    simp only [ServerTotals.next, counted]
    split
    · rename_i v at_
      split
      · exact below
      · exact below.connect at_ rfl rfl
    · exact below
  | save i =>
    simp only [ServerTotals.next, counted]
    split
    · split
      · exact below
      · exact below.step below.columns below.rows below.servers rfl rfl nofun
    · exact below
  | work => exact below.work
  | cleanup cutoff => exact below.step below.columns below.rows below.servers rfl rfl nofun
  | answer ok now => exact below.answer ok now
  | resetSnapshots key ok =>
    cases ok with
    | true =>
      exact ⟨below.columns, fun r mem => below.rows r (List.mem_of_mem_filter mem), below.servers,
        below.runtimes, below.calls, below.loads, below.task⟩
    | false => exact below
  | resetTotals key ok =>
    refine ⟨?_, ?_, below.servers, below.runtimes, below.calls, below.loads, below.task⟩
    · intro t found
      cases ok with
      | true =>
        by_cases same : id = key
        · subst same
          simp only [ServerTotals.next, if_true, Function.update_self, Option.map_eq_some_iff]
            at found
          obtain ⟨-, -, rfl⟩ := found
          exact nothing_le _
        · simp only [ServerTotals.next, if_true, Function.update_of_ne same] at found
          exact below.columns t found
      | false => exact below.columns t found
    · cases ok <;> exact below.rows

/-- A reset that is completed while nothing of the server is held leaves nothing. -/
theorem below_reset (below : Below s.world id c) (careful : Careful s (.resetTotals id true)) :
    Below (ServerTotals.next s.world (.resetTotals id true)) id 0 := by
  obtain ⟨rows, servers, runtimes, calls, task⟩ := careful
  refine ⟨?_, ?_, ?_, ?_, ?_, ?_, ?_⟩
  · intro t found
    simp only [ServerTotals.next, if_true, Function.update_self, Option.map_eq_some_iff] at found
    obtain ⟨-, -, rfl⟩ := found
    exact le_rfl
  · exact fun r mem own => (rows r mem own).le
  · exact fun v mem own => (servers v mem own).le
  · intro i v at_ own
    have idle : coming s.world i = 0 := by
      refine coming_none ?_
      rintro u mem rfl
      exact calls u mem v at_ own
    change v.bytes + coming s.world i ≤ 0
    rw [idle, add_zero]
    exact (runtimes v (List.mem_of_getElem? at_) own).le
  · exact below.calls
  · intro u mem v at_ own
    exact absurd own (calls u mem v at_)
  · intro i t holds
    obtain ⟨v, at_, -⟩ := below.task i t holds
    exact ⟨v, at_, fun own => (task (i, t) holds v at_ own).le⟩

theorem below_initial (initial : s.Initial) (id : ℕ) :
    Below s.world id (s.world.db.stored id) := by
  refine ⟨fun t found => ?_, ?_, ?_, ?_, ?_, ?_, ?_⟩
  · exact (Db.persisted_of_some found).symm.le.trans le_sup_left
  · rintro r mem rfl
    exact (Db.le_peak mem).trans le_sup_right
  · simp [initial.servers]
  · simp [initial.runtimes]
  · simp [initial.updates]
  · simp [initial.updates]
  · simp [initial.task, held]

theorem since_next (s : Watch) (a : Action) (id : ℕ) (completes : a ≠ .resetTotals id true) :
    (s.next a).sinceReset id = (s.sinceReset id).map (· + counted s.world id a) := by
  have same : (s.sinceReset id).map (· + (0 : Totals)) = s.sinceReset id := by
    cases s.sinceReset id <;> rfl
  cases a with
  | update i bytes =>
    cases at_ : s.world.runtimes[i]? with
    | none =>
      simp only [Watch.next, counted, at_]
      exact same.symm
    | some v =>
      simp only [Watch.next, counted, at_]
      by_cases dynamic : v.isDynamicPort = true
      · rw [if_pos dynamic, if_neg (by simp [dynamic]), same]
      · rw [if_neg dynamic]
        by_cases own : id = v.id
        · subst own
          rw [Function.update_self, if_pos ⟨Bool.eq_false_iff.2 dynamic, rfl⟩]
        · rw [Function.update_of_ne own, if_neg fun both => own both.2.symm, same]
  | resetTotals key ok =>
    cases ok with
    | true =>
      have other : id ≠ key := fun own => completes (own ▸ rfl)
      simp only [Watch.next, Function.update_of_ne other]
      exact same.symm
    | false => exact same.symm
  | _ => exact same.symm

/-- In a run whose resets are completed while nothing is held, a server's stored totals count only
bytes that were counted since its last reset. -/
theorem reset_sticks (run : resetting.Run log s) (careful : ∀ e ∈ log, Careful e.1 e.2) (id : ℕ)
    (c : Totals) (reset : s.sinceReset id = some c) : s.world.db.stored id ≤ c := by
  let Inv (s : Watch) : Prop := ∀ id, ∃ c, Below s.world id c ∧ ∀ c' ∈ s.sinceReset id, c' = c
  have inv : Inv s := by
    refine run.invariant ?_ ?_ careful
    · intro s initial id
      refine ⟨s.world.db.stored id, below_initial initial id, fun c' reset => ?_⟩
      rw [initial.sinceReset] at reset
      cases reset
    · intro s a inv enabled careful id
      obtain ⟨c, below, since⟩ := inv id
      by_cases completes : a = .resetTotals id true
      · subst completes
        have none : (resetting.next s (.resetTotals id true)).sinceReset id = some 0 :=
          Function.update_self _ _ _
        refine ⟨0, below_reset below careful, fun c' reset => ?_⟩
        exact Option.some.inj (reset.symm.trans none)
      · refine ⟨c + counted s.world id a, below_next below enabled, fun c' reset => ?_⟩
        obtain ⟨c₀, before, rfl⟩ :=
          Option.map_eq_some_iff.1 ((since_next s a id completes).symm.trans reset)
        rw [since c₀ before]
  obtain ⟨c', below, since⟩ := inv id
  rw [since c reset]
  exact below.stored

namespace Sample

def tables : Db := ⟨fun id => if id = 1 then some (1000, 0) else none, []⟩

def watch : Watch := ⟨⟨tables, [], [], [], false, .idle, []⟩, fun _ => none⟩

theorem initial : watch.Initial := ⟨rfl, rfl, rfl, rfl, rfl, rfl, rfl⟩

def counts : List Action :=
  [.start [(1, true)], .answer true 10, .answer true 10, .answer true 10, .startServers,
    .update 0 (100, 0), .proceed 0, .proceed 0, .proceed 0, .proceed 0, .proceed 0]

def saves : List Action :=
  [.save 0, .answer true 70, .work, .work, .work, .work, .work, .answer true 70, .work,
    .answer true 70]

def resets : List Action := [.resetSnapshots 1 true, .resetTotals 1 true]

end Sample

theorem reset_before_start : ∃ log s, resetting.Run log s ∧ s.sinceReset 1 = some (100, 0) ∧
    s.world.db.stored 1 ≤ (100, 0) := by
  have run := System.Run.start (m := resetting) Sample.initial
  obtain ⟨log, s, run, found⟩ := run.follow_any (Sample.resets ++ Sample.counts ++ Sample.saves)
    (fun r => decide (r.2.sinceReset 1 = some (100, 0)) && decide (∀ e ∈ r.1, Careful e.1 e.2))
    (by decide +kernel)
  simp only [Bool.and_eq_true, decide_eq_true_eq] at found
  exact ⟨log, s, run, found.1, reset_sticks run found.2 1 (100, 0) found.1⟩

/-- The next save of a process that has counted brings all of it back. -/
theorem reset_undone : ¬ ∀ (log : List (Watch × Action)) (s : Watch), resetting.Run log s →
    ∀ id c, s.sinceReset id = some c → s.world.db.stored id ≤ c := by
  intro always
  have run := System.Run.start (m := resetting) Sample.initial
  obtain ⟨log, s, run, found⟩ := run.follow_any (Sample.counts ++ Sample.resets ++ Sample.saves)
    (fun r => decide (r.2.sinceReset 1 = some (0, 0)) &&
      decide (r.2.world.db.stored 1 = (1100, 0))) (by decide +kernel)
  simp only [Bool.and_eq_true, decide_eq_true_eq] at found
  have below := always log s run 1 (0, 0) found.1
  rw [found.2] at below
  exact absurd below (by decide)

end StatisticsReset
