import NetPort.StatisticsService
import NetPort.TotalsRetention

/-! What the overview reports while the server process goes on writing. -/
namespace StatisticsService

open ServerTotals StatementPrograms StepRuns Relation Routine

/-- The server process and what else the queries read; `between` while a request has read the
columns of a server and not yet its snapshots. -/
structure Store where
  world : World
  rows : List ServerRow
  order : NewestFirst
  between : Bool

namespace Store

def db (s : Store) : Db := s.world.db

def tables (s : Store) : Tables := ⟨s.db, s.rows, s.order⟩

/-- A query reads; `between` follows. -/
def interp (q : Query) (s : Store) : Option (Store × q.Result) :=
  let between :=
    match q with
    | .totals _ => true
    | .peak _ => false
    | _ => s.between
  some ({ s with between := between }, s.tables.answer q)

end Store

/-- The `DELETE` of `cleanup_old_statistics` succeeds. -/
def Deletes (w : World) : Action → Prop
  | .answer true _ =>
    match w.task with
    | .deleting _ _ => True
    | _ => False
  | _ => False

/-- A `DELETE` after a failed `UPDATE` removes no snapshot above its server's columns. -/
def Spares (w : World) : Action → Prop
  | .answer true _ =>
    match w.task with
    | .deleting cutoff false => ∀ r ∈ w.db.statistic, r.timestamp < cutoff →
        r.bytes ≤ w.db.persisted r.serverId
    | _ => True
  | _ => True

/-- A step of the server process, which deletes no snapshots while a request is between its reads
of the two; an edit of the servers; another order of rows with the same time. -/
inductive Interferes (s : Store) : Store → Prop
  | server (a : Action) (enabled : Enabled s.world a) (kept : a.resets = false)
      (spares : Spares s.world a) (apart : s.between = true → ¬ Deletes s.world a) :
      Interferes s { s with world := ServerTotals.next s.world a }
  | edit (rows : List ServerRow) (same : rows.map (·.id) = s.rows.map (·.id)) :
      Interferes s { s with rows := rows }
  | reorder (order : NewestFirst) : Interferes s { s with order := order }

def service : Server Query Query.Result Store Params (Option (List StatisticsRow)) where
  interp := Store.interp
  fails _ _ := True
  env := Interferes
  handler := find

def anyState (_ : Query) (_ : Store) : Prop := True

/-- No statement of the server process is awaited, and the servers have their columns. -/
structure Started (s : Store) : Prop where
  idle : s.world.task = .idle
  rows : ∀ r ∈ s.rows, (s.db.servers r.id).isSome

/-- Between the two statements of a clean-up the columns cover the snapshots. -/
def Synced (w : World) : Prop :=
  ∀ cutoff, w.task = .deleting cutoff true → ∀ r ∈ w.db.statistic,
    (w.db.servers r.serverId).isSome → r.bytes ≤ w.db.persisted r.serverId

structure Known (s : Store) : Prop where
  synced : Synced s.world
  rows : ∀ r ∈ s.rows, (s.db.servers r.id).isSome

variable {s t : Store} {w : World} {a : Action} {c : ℕ → Totals} {id : ℕ}

theorem Started.known (started : Started s) : Known s where
  synced cutoff task := by
    rw [started.idle] at task
    cases task
  rows := started.rows

inductive Writes (w : World) (a : Action) : Db → Prop
  | nothing : Writes w a w.db
  | persist (id : ℕ) (t : Totals) : Writes w a (w.db.persist id t)
  | sync : Writes w a w.db.sync
  | delete (cutoff now : ℕ) (synced : Bool) (task : w.task = .deleting cutoff synced)
      (answers : a = .answer true now) : Writes w a (w.db.delete cutoff)
  | insert (r : Snapshot) : Writes w a (w.db.insert r)

theorem writes_loadAnswer (w : World) (ok : Bool) (i : ℕ) (server : Server) (p : Load) :
    Writes w a (loadAnswer w ok i server p).db := by
  cases p with
  | persisted => exact .nothing
  | peak => exact .nothing
  | persist =>
    simp only [loadAnswer, World.loadFrom]
    split
    · exact .persist server.id server.bytes
    · exact .nothing

theorem writes_saveAnswer (w : World) (ok : Bool) (now i : ℕ) (server : Server) (p : Save) :
    Writes w a (saveAnswer w ok now i server p).db := by
  cases p with
  | persisted =>
    simp only [saveAnswer]
    split
    · exact .nothing
    · exact .nothing
  | persist bytes =>
    simp only [saveAnswer]
    split
    · exact .persist server.id bytes
    · exact .nothing
  | insert =>
    simp only [saveAnswer]
    split
    · exact .insert _
    · exact .nothing
  | peak | load | store | formatPersist | formatInsert => exact .nothing

theorem writes_answer (w : World) (ok : Bool) (now : ℕ) :
    Writes w (.answer ok now) (answer w ok now).db := by
  rw [answer]
  cases task : w.task with
  | idle => exact .nothing
  | loading i p =>
    dsimp only
    split
    · exact writes_loadAnswer ..
    · exact .nothing
  | saving i p =>
    dsimp only
    split
    · exact writes_saveAnswer ..
    · exact .nothing
  | syncing cutoff =>
    cases ok with
    | false => exact .nothing
    | true => exact .sync
  | deleting cutoff synced =>
    cases ok with
    | false => exact .nothing
    | true => exact .delete cutoff now synced task rfl

/-- What else the process does leaves the tables, and a clean-up does not begin. -/
theorem memory_kept (answers : ∀ ok now, a ≠ .answer ok now) (kept : a.resets = false) :
    (ServerTotals.next w a).db = w.db ∧ ∀ cutoff,
      (ServerTotals.next w a).task = .deleting cutoff true → w.task = .deleting cutoff true := by
  have published (w : World) (v : Server) : (w.publish v).db = w.db ∧ (w.publish v).task = w.task :=
    by rw [publish_kept]; exact ⟨rfl, rfl⟩
  cases a with
  | start rows =>
    refine ⟨rfl, fun cutoff task => ?_⟩
    simp only [ServerTotals.next, start, World.loadFrom] at task
    split at task <;> cases task
  | startServers | createDynamic => exact ⟨rfl, fun _ => id⟩
  | update i bytes =>
    simp only [ServerTotals.next]
    split
    · split <;> exact ⟨rfl, fun _ => id⟩
    · exact ⟨rfl, fun _ => id⟩
  | proceed k =>
    simp only [ServerTotals.next]
    split
    · split
      · unfold proceed
        split
        · exact ⟨rfl, fun _ => id⟩
        · exact ⟨rfl, fun _ => id⟩
        · rw [(published _ _).1, (published _ _).2]
          exact ⟨rfl, fun _ => id⟩
      · exact ⟨rfl, fun _ => id⟩
    · exact ⟨rfl, fun _ => id⟩
  | connections i n =>
    simp only [ServerTotals.next]
    split
    · split
      · exact ⟨rfl, fun _ => id⟩
      · rw [connect, (published _ _).1, (published _ _).2]
        exact ⟨rfl, fun _ => id⟩
    · exact ⟨rfl, fun _ => id⟩
  | save i =>
    simp only [ServerTotals.next]
    split
    · split
      · exact ⟨rfl, fun _ => id⟩
      · exact ⟨rfl, fun _ task => by cases task⟩
    · exact ⟨rfl, fun _ => id⟩
  | work =>
    simp only [ServerTotals.next, work]
    split
    · rename_i i p before
      split
      · cases p with
        | persisted | peak | persist | insert => exact ⟨rfl, fun _ => id⟩
        | load | store | formatPersist | formatInsert => exact ⟨rfl, fun _ task => by cases task⟩
      · exact ⟨rfl, fun _ => id⟩
    · exact ⟨rfl, fun _ => id⟩
  | cleanup cutoff => exact ⟨rfl, fun _ task => by cases task⟩
  | answer ok now => exact absurd rfl (answers ok now)
  | resetSnapshots | resetTotals => cases kept

theorem writes_next (kept : a.resets = false) : Writes w a (ServerTotals.next w a).db := by
  by_cases answers : ∀ ok now, a ≠ .answer ok now
  · rw [(memory_kept answers kept).1]
    exact .nothing
  · push Not at answers
    obtain ⟨ok, now, rfl⟩ := answers
    exact writes_answer w ok now

theorem grows_next (synced : Synced w) (kept : a.resets = false) (spares : Spares w a) :
    Db.Grows w.db (ServerTotals.next w a).db := by
  have writes := writes_next (w := w) kept
  revert writes
  generalize (ServerTotals.next w a).db = db
  intro writes
  cases writes with
  | nothing => exact .refl _
  | persist key t => exact Db.grows_persist w.db key t
  | sync => exact Db.grows_sync w.db
  | delete cutoff now done task answers =>
    subst answers
    refine Db.grows_delete fun r mem old there => ?_
    cases done with
    | false =>
      simp only [Spares, task] at spares
      exact spares r mem old
    | true => exact synced cutoff task r mem there
  | insert r => exact Db.grows_insert w.db r

theorem loadAnswer_turns (w : World) (ok : Bool) (i : ℕ) (server : Server) (p : Load) (cutoff : ℕ) :
    (loadAnswer w ok i server p).task ≠ .deleting cutoff true := by
  intro task
  cases p with
  | persisted | peak => cases task
  | persist =>
    simp only [loadAnswer, World.loadFrom] at task
    split at task <;> cases task

theorem saveAnswer_turns (ok : Bool) (now i : ℕ) (server : Server) (p : Save) (cutoff : ℕ)
    (before : ∀ cutoff, w.task ≠ .deleting cutoff true) :
    (saveAnswer w ok now i server p).task ≠ .deleting cutoff true := by
  intro task
  cases p with
  | persisted =>
    simp only [saveAnswer] at task
    split at task <;> cases task
  | peak | persist | insert => cases task
  | load | store | formatPersist | formatInsert => exact before cutoff task

/-- A clean-up deletes after its `UPDATE`. -/
theorem synced_answer (w : World) (ok : Bool) (now : ℕ) : Synced (answer w ok now) := by
  intro cutoff task
  cases before : w.task with
  | idle =>
    simp only [answer, before] at task
    cases task
  | loading i p =>
    have turns (cutoff : ℕ) : w.task ≠ .deleting cutoff true := by rw [before]; intro task; cases task
    simp only [answer, before] at task
    split at task
    · exact absurd task (loadAnswer_turns _ _ _ _ _ _)
    · exact absurd task (turns cutoff)
  | saving i p =>
    have turns (cutoff : ℕ) : w.task ≠ .deleting cutoff true := by rw [before]; intro task; cases task
    simp only [answer, before] at task
    split at task
    · exact absurd task (saveAnswer_turns _ _ _ _ _ _ turns)
    · exact absurd task (turns cutoff)
  | syncing =>
    simp only [answer, before, Task.deleting.injEq] at task ⊢
    obtain ⟨-, rfl⟩ := task
    exact fun r mem there => Db.covered_sync mem there
  | deleting =>
    simp only [answer, before] at task
    cases task

theorem synced_next (kept : a.resets = false) (synced : Synced w) :
    Synced (ServerTotals.next w a) := by
  intro cutoff task
  by_cases answers : ∀ ok now, a ≠ .answer ok now
  · obtain ⟨same, before⟩ := memory_kept (w := w) answers kept
    rw [same]
    exact synced cutoff (before cutoff task)
  · push Not at answers
    obtain ⟨ok, now, rfl⟩ := answers
    exact synced_answer w ok now cutoff task

theorem statistic_next (kept : a.resets = false) (apart : ¬ Deletes w a) :
    w.db.statistic ⊆ (ServerTotals.next w a).db.statistic := by
  have writes := writes_next (w := w) kept
  revert writes
  generalize (ServerTotals.next w a).db = db
  intro writes
  cases writes with
  | nothing => exact fun _ mem => mem
  | persist key t =>
    intro r mem
    rw [Db.persist]
    split <;> exact mem
  | sync => exact fun _ mem => mem
  | delete cutoff now synced task answers =>
    subst answers
    refine absurd ?_ apart
    simp only [Deletes, task]
  | insert r => exact fun _ mem => List.mem_append_left _ mem

theorem peak_mono {db db' : Db} (more : db.statistic ⊆ db'.statistic) (id : ℕ) :
    db.peak id ≤ db'.peak id := by
  apply Db.peak_le
  rintro r mem rfl
  exact Db.le_peak (more mem)

/-- What interference leaves: a server stays, and no total that is stored falls. -/
structure Onward (s t : Store) : Prop where
  between : t.between = s.between
  isSome : ∀ id, (t.db.servers id).isSome = (s.db.servers id).isSome
  stored : ∀ id, (s.db.servers id).isSome → s.db.stored id ≤ t.db.stored id
  peak : s.between = true → ∀ id, s.db.peak id ≤ t.db.peak id

theorem interferes_known (known : Known s) (step : Interferes s t) : Known t ∧ Onward s t := by
  cases step with
  | server a enabled kept spares apart =>
    have grows := grows_next known.synced kept spares
    constructor
    · exact ⟨synced_next kept known.synced, fun r mem => (grows.rows r.id).trans (known.rows r mem)⟩
    · exact ⟨rfl, grows.rows, grows.stored, fun between =>
        peak_mono (statistic_next kept (apart between))⟩
  | edit rows same =>
    refine ⟨⟨known.synced, fun r mem => ?_⟩, rfl, fun _ => rfl, fun _ _ => le_rfl,
      fun _ _ => le_rfl⟩
    have inside : r.id ∈ s.rows.map (·.id) := same ▸ List.mem_map_of_mem mem
    obtain ⟨old, held, id⟩ := List.mem_map.1 inside
    have there := known.rows old held
    rw [id] at there
    exact there
  | reorder order =>
    exact ⟨⟨known.synced, known.rows⟩, rfl, fun _ => rfl, fun _ _ => le_rfl, fun _ _ => le_rfl⟩

/-- The row's totals are at least `c`, and no more than what is stored. -/
structure Within (c : ℕ → Totals) (s : Store) (id : ℕ) (bytes : Totals) : Prop where
  isSome : (s.db.servers id).isSome
  least : c id ≤ bytes
  most : bytes ≤ s.db.stored id

/-- Nothing stored is below `c`, and the rows of the answer so far are within. -/
structure Holds (c : ℕ → Totals) (rows : List StatisticsRow) (s : Store) : Prop where
  known : Known s
  floor : ∀ id, (s.db.servers id).isSome → c id ≤ s.db.stored id
  reported : ∀ row ∈ rows, Within c s row.serverId row.bytes

variable {rows : List StatisticsRow} {bytes : Totals}

theorem Within.onward (within : Within c s id bytes) (onward : Onward s t) :
    Within c t id bytes where
  isSome := by rw [onward.isSome]; exact within.isSome
  least := within.least
  most := within.most.trans (onward.stored id within.isSome)

theorem Holds.onward (holds : Holds c rows s) (known : Known t) (onward : Onward s t) :
    Holds c rows t where
  known := known
  floor id there := by
    rw [onward.isSome] at there
    exact (holds.floor id there).trans (onward.stored id there)
  reported row mem := (holds.reported row mem).onward onward

theorem Holds.between (holds : Holds c rows s) (b : Bool) :
    Holds c rows { s with between := b } where
  known := ⟨holds.known.synced, holds.known.rows⟩
  floor := holds.floor
  reported row mem :=
    have within := holds.reported row mem
    ⟨within.isSome, within.least, within.most⟩

theorem stable_holds : service.Stable (Holds c rows) := by
  intro s t holds step
  obtain ⟨known, onward⟩ := interferes_known holds.known step
  exact holds.onward known onward

def Midway (c : ℕ → Totals) (rows : List StatisticsRow) (id : ℕ) (persisted : Totals) (s : Store) :
    Prop :=
  Holds c rows s ∧ s.between = true ∧ (s.db.servers id).isSome ∧
    c id ≤ persisted ⊔ s.db.peak id ∧ persisted ≤ s.db.stored id

theorem stable_midway {persisted : Totals} : service.Stable (Midway c rows id persisted) := by
  rintro s t ⟨holds, between, there, least, most⟩ step
  obtain ⟨known, onward⟩ := interferes_known holds.known step
  refine ⟨holds.onward known onward, onward.between.trans between, ?_, ?_, ?_⟩
  · rw [onward.isSome]
    exact there
  · exact least.trans (sup_le_sup le_rfl (onward.peak between id))
  · exact most.trans (onward.stored id there)

theorem stable_within : service.Stable fun s => Holds c rows s ∧ Within c s id bytes := by
  rintro s t ⟨holds, within⟩ step
  obtain ⟨known, onward⟩ := interferes_known holds.known step
  exact ⟨holds.onward known onward, within.onward onward⟩

/-- In every execution of the routine that answers, `Q` holds at its end. -/
def Ensures {α : Type} (p : Routine α) (Q : α → Store → Prop) (s : Store) : Prop :=
  service.Safe anyState (fun _ => True) p (fun a t => ∀ b, a = some b → Q b t) s

section Ensures

variable {α β : Type} {P : Store → Prop} {Q : α → Store → Prop}

theorem ensures_ask (stable : service.Stable P) (holds : P s) {q : Query}
    {k : q.Result → Routine α}
    (answered : ∀ t u r, P t → Store.interp q t = some (u, r) → Ensures (k r) Q u) :
    Ensures (ask q k) Q s := by
  refine Server.safe_call stable (fun _ _ => trivial) holds ?_ ?_
  · intro t _ _
    exact fun _ _ => ⟨trivial, nofun⟩
  · intro t u r holds _ interp
    exact answered t u r holds interp

theorem ensures_result (stable : service.Stable P) (holds : P s) {a : α}
    (post : ∀ t, P t → Q a t) : Ensures (result a) Q s := by
  refine Server.safe_ret stable (fun _ _ => trivial) ?_ holds
  rintro t reached b ⟨⟩
  exact post t reached

theorem ensures_andThen {p : Routine α} {k : α → Routine β} {R : β → Store → Prop}
    (first : Ensures p Q s) (rest : ∀ a t, Q a t → Ensures (k a) R t) :
    Ensures (andThen p k) R s := by
  refine Server.Safe.bind (Server.Safe.mono first ?_)
  intro a t post
  cases a with
  | none => exact fun _ _ => ⟨trivial, nofun⟩
  | some a => exact rest a t (post a rfl)

end Ensures

theorem stable_there : service.Stable fun s => Holds c rows s ∧ (s.db.servers id).isSome := by
  rintro s t ⟨holds, there⟩ step
  obtain ⟨known, onward⟩ := interferes_known holds.known step
  exact ⟨holds.onward known onward, (onward.isSome id).trans there⟩

def totalsOf (latest : Option Latest) : Totals := (latest.map (·.bytes)).getD 0

theorem ensures_latest (holds : Holds c rows s) (there : (s.db.servers id).isSome) :
    Ensures (fetchLatestStatisticRow id) (fun latest t => Holds c rows t ∧
      Within c t id (totalsOf latest) ∧ ∀ row, latest = some row → row.serverId = id) s := by
  refine ensures_ask stable_there ⟨holds, there⟩ ?_
  rintro t _ _ ⟨holds, there⟩ ⟨⟩
  have midway : Midway c rows id ((t.db.servers id).getD 0) { t with between := true } :=
    ⟨holds.between true, rfl, there, holds.floor id there, le_sup_left⟩
  refine ensures_ask stable_midway midway ?_
  rintro u _ _ ⟨holds, _, there, least, most⟩ ⟨⟩
  have within : Within c { u with between := false } id
      ((t.db.servers id).getD 0 ⊔ u.db.peak id) :=
    ⟨there, least, sup_le most le_sup_right⟩
  refine ensures_ask stable_within ⟨holds.between false, within⟩ ?_
  rintro v _ _ reached ⟨⟩
  dsimp only
  split
  · rename_i nothing
    refine ensures_result stable_within reached ?_
    rintro w ⟨holds, within⟩
    have zero : (t.db.servers id).getD 0 ⊔ u.db.peak id = 0 := nothing.1
    rw [zero] at within
    exact ⟨holds, within, nofun⟩
  · refine ensures_result stable_within reached ?_
    rintro w ⟨holds, within⟩
    refine ⟨holds, within, ?_⟩
    rintro row ⟨⟩
    rfl

theorem ensures_previous {row : Latest} (reached : Holds c rows s ∧ Within c s id bytes) :
    Ensures (fetchPreviousStatisticRow id row)
      (fun _ t => Holds c rows t ∧ Within c t id bytes) s := by
  rw [fetchPreviousStatisticRow]
  split
  · exact ensures_result stable_within reached fun _ reached => reached
  · rename_i before _
    refine ensures_ask stable_within reached ?_
    rintro t _ _ reached ⟨⟩
    dsimp only
    split
    · exact ensures_result stable_within reached fun _ reached => reached
    · refine ensures_ask stable_within reached ?_
      rintro u _ _ reached ⟨⟩
      exact ensures_result stable_within reached fun _ reached => reached

theorem ensures_build (holds : Holds c rows s) (serverId : ℕ) (params : Params) :
    Ensures (buildServerStatisticsRow serverId params)
      (fun row t => Holds c (rows ++ row.toList) t) s := by
  have unchanged (t : Store) (holds : Holds c rows t) : Holds c (rows ++ []) t := by
    rw [List.append_nil]
    exact holds
  have added {id : ℕ} {bytes : Totals} (row : StatisticsRow) (own : row.serverId = id)
      (totals : row.bytes = bytes) (t : Store) (reached : Holds c rows t ∧ Within c t id bytes) :
      Holds c (rows ++ (some row).toList) t := by
    subst own totals
    refine ⟨reached.1.known, reached.1.floor, fun other mem => ?_⟩
    rcases List.mem_append.1 mem with old | new
    · exact reached.1.reported other old
    · rw [List.mem_singleton.1 new]
      exact reached.2
  rw [buildServerStatisticsRow]
  split
  · refine ensures_ask stable_holds holds ?_
    rintro t _ _ holds ⟨⟩
    dsimp only
    split
    · exact ensures_result stable_holds holds unchanged
    · rename_i server found
      have there := holds.known.rows server (List.mem_of_find?_eq_some found)
      refine ensures_andThen (ensures_latest holds there) ?_
      rintro latest u ⟨holds, within, own⟩
      cases latest with
      | none => exact ensures_result stable_within ⟨holds, within⟩ (added _ rfl rfl)
      | some row =>
        have reached : Holds c rows u ∧ Within c u server.id row.bytes := ⟨holds, within⟩
        dsimp only
        split
        · rename_i idle
          have zero : row.bytes = 0 := (of_decide_eq_true idle).1
          rw [zero] at reached
          exact ensures_result stable_within reached (added _ rfl rfl)
        · refine ensures_andThen (ensures_previous reached) ?_
          rintro previous v reached
          rw [← own row rfl] at reached
          exact ensures_result stable_within reached (added _ rfl rfl)
  · exact ensures_result stable_holds holds unchanged

theorem ensures_buildRows (params : Params) (ids : List ℕ) (holds : Holds c rows s) :
    Ensures (buildRows params ids) (fun more t => Holds c (rows ++ more) t) s := by
  induction ids generalizing s rows with
  | nil =>
    refine ensures_result stable_holds holds ?_
    intro t holds
    rw [List.append_nil]
    exact holds
  | cons id ids ih =>
    rw [buildRows]
    refine ensures_andThen (ensures_build holds id params) ?_
    intro row t holds
    refine ensures_andThen (ih holds) ?_
    intro more u holds
    refine ensures_result stable_holds holds ?_
    intro v holds
    rw [← List.append_assoc]
    exact holds

theorem ensures_find (known : Known s) (params : Params) :
    Ensures (find params) (fun rows t => Holds s.db.stored rows t) s := by
  have start : Holds s.db.stored [] s := ⟨known, fun _ _ => le_rfl, nofun⟩
  have loop (ids : List ℕ) (t : Store) (holds : Holds s.db.stored [] t) :
      Ensures (buildRows params ids) (fun rows t => Holds s.db.stored rows t) t :=
    ensures_buildRows params ids holds
  refine ensures_andThen (Q := fun _ t => Holds s.db.stored [] t) ?_ loop
  rw [fetchEnabledServers]
  split
  · refine ensures_ask stable_holds start ?_
    rintro t _ _ holds ⟨⟩
    exact ensures_result stable_holds holds fun _ holds => holds
  · exact ensures_result stable_holds start fun _ holds => holds

theorem known_star (known : Known s) (steps : ReflTransGen Interferes s t) :
    Known t ∧ ∀ id, (s.db.servers id).isSome →
      (t.db.servers id).isSome ∧ s.db.stored id ≤ t.db.stored id := by
  induction steps with
  | refl => exact ⟨known, fun _ there => ⟨there, le_rfl⟩⟩
  | tail _ step ih =>
    obtain ⟨known, kept⟩ := ih
    obtain ⟨known, onward⟩ := interferes_known known step
    refine ⟨known, fun id there => ?_⟩
    obtain ⟨there, above⟩ := kept id there
    exact ⟨(onward.isSome id).trans there, above.trans (onward.stored id there)⟩

/-- Whatever the server process does meanwhile, a request that begins after another one has been
answered does not report less for any server. -/
theorem reported_never_falls {s₀ s s' t t' : Store} {params params' : Params}
    {rows rows' : List StatisticsRow} (started : Started s₀)
    (before : ReflTransGen Interferes s₀ s)
    (first : service.Runs anyState (find params) s (some rows) t)
    (later : ReflTransGen Interferes t s')
    (second : service.Runs anyState (find params') s' (some rows') t') :
    ∀ row ∈ rows, ∀ row' ∈ rows', row.serverId = row'.serverId → row.bytes ≤ row'.bytes := by
  have known := (known_star started.known before).1
  have answered : Holds s.db.stored rows t := (ensures_find known params).post first rows rfl
  obtain ⟨known', kept⟩ := known_star answered.known later
  have answered' : Holds s'.db.stored rows' t' :=
    (ensures_find known' params').post second rows' rfl
  intro row mem row' mem' same
  have old := answered.reported row mem
  have new := answered'.reported row' mem'
  rw [← same] at new
  calc row.bytes ≤ t.db.stored row.serverId := old.most
    _ ≤ s'.db.stored row.serverId := (kept row.serverId old.isSome).2
    _ ≤ row'.bytes := new.least

namespace Sample

def goOn (w : World) (actions : List Action) : World := actions.foldl ServerTotals.next w

instance (w : World) (a : Action) : Decidable (Spares w a) := by
  unfold Spares
  split
  · split <;> infer_instance
  · infer_instance

def Able (w : World) : List Action → Prop
  | [] => True
  | a :: actions =>
    (Enabled w a ∧ a.resets = false ∧ Spares w a) ∧ Able (ServerTotals.next w a) actions

instance decidableAble : (w : World) → (actions : List Action) → Decidable (Able w actions)
  | _, [] => isTrue trivial
  | w, a :: actions =>
    have := decidableAble (ServerTotals.next w a) actions
    inferInstanceAs (Decidable ((Enabled w a ∧ a.resets = false ∧ Spares w a) ∧
      Able (ServerTotals.next w a) actions))

theorem interferes_goOn (actions : List Action) (between : s.between = false)
    (able : Able s.world actions) :
    ReflTransGen Interferes s { s with world := goOn s.world actions } := by
  induction actions generalizing s with
  | nil => exact .refl
  | cons a actions ih =>
    obtain ⟨⟨enabled, kept, spares⟩, able⟩ := able
    have apart (yes : s.between = true) : ¬ Deletes s.world a := by
      rw [between] at yes
      cases yes
    have first : Interferes s _ := .server a enabled kept spares apart
    exact (ih (s := { s with world := ServerTotals.next s.world a }) between able).head first

def byTime : NewestFirst where
  sort rows := rows.insertionSort fun a b => b.timestamp ≤ a.timestamp
  perm rows := List.perm_insertionSort _ rows
  sorted rows := by
    have total : Std.Total fun a b : Snapshot => b.timestamp ≤ a.timestamp :=
      ⟨fun a b => Nat.le_total b.timestamp a.timestamp⟩
    have trans : IsTrans Snapshot fun a b => b.timestamp ≤ a.timestamp :=
      ⟨fun _ _ _ first second => second.trans first⟩
    exact List.pairwise_insertionSort _ rows

def stored : Store :=
  ⟨ServerTotals.Sample.ledger.world, [⟨1, some 1, some 5100, some 5101, some true⟩], byTime, false⟩

def admin : Params := ⟨some ⟨1, "admin", some "admin", "", none, none, none, none⟩, none⟩

def overview (s : Store) : List StatisticsRow := ((run Store.interp (find admin) s).1).getD []

theorem started : Started stored := by
  refine ⟨rfl, ?_⟩
  rintro r (_ | ⟨_, _ | _⟩)
  rfl

theorem runs_overview (answered : (run Store.interp (find admin) s).1.isSome = true) :
    service.Runs anyState (find admin) s (some (overview s))
      (run Store.interp (find admin) s).2 := by
  have runs : service.Runs anyState (find admin) s _ _ :=
    Server.runs_run nofun (find admin) s (permitted_true _ _ _)
  obtain ⟨rows, found⟩ := Option.isSome_iff_exists.1 answered
  have same : (run service.interp (find admin) s).1 = some (overview s) := by
    rw [overview, found]
    exact found
  rw [same] at runs
  exact runs

def saved : Store := { stored with world := goOn stored.world (ServerTotals.Sample.saved true) }

end Sample

/-- The 100 bytes that the process has counted and saved are reported on top. -/
theorem reported_never_falls_saved :
    (Sample.overview Sample.stored).map (·.bytes) = [(1000, 0)] ∧
      (Sample.overview Sample.saved).map (·.bytes) = [(1100, 0)] ∧
      ∀ row ∈ Sample.overview Sample.stored, ∀ row' ∈ Sample.overview Sample.saved,
        row.serverId = row'.serverId → row.bytes ≤ row'.bytes := by
  refine ⟨by decide +kernel, by decide +kernel, ?_⟩
  exact reported_never_falls Sample.started .refl (Sample.runs_overview rfl)
    (Sample.interferes_goOn _ rfl (by decide +kernel)) (Sample.runs_overview rfl)

end StatisticsService
