import NetPort.AllocationRows

/-! `disconnect` of the backend's device service, statement by statement, while the control
thread serves requests (the disconnect that the call itself sends among them). -/
namespace BackendDisconnect

open Relation StatementPrograms SqlUpdate DeviceTables ProxyRuntimes DeviceManager PortOwnership
  AllocationRows

structure User where
  id : ℕ
  role : String
  roleName : String
  deriving DecidableEq, Repr

def isAdminUser (user : User) : Bool := user.role == "admin" || user.roleName == "admin"

def canAccessDevice (user : User) (device : Device) : Bool :=
  isAdminUser user || device.userId.any (· == user.id)

inductive Query where
  | device (id : Uuid)
  | activeSessions (id : Uuid)
  | deactivate (id : Uuid)
  | sendDeviceControlCommand (deviceId action : String)
  | terminateSessions (id : Uuid)
  | freeDevicePortPair (port : ℕ)
  | reserveDevicePortPair (id : Uuid) (preferredPort : ℕ)
  | broadcastDevice (id : Uuid)
  deriving DecidableEq, Repr

@[reducible] def Answer : Query → Type
  | .device _ => Option Device
  | .activeSessions _ => List ℕ
  | .reserveDevicePortPair _ _ => Bool
  | .broadcastDevice _ => Option Device
  | _ => Unit

abbrev Backend := Prog Query Answer

inductive Failure where
  | thrown (message : String)
  | database
  deriving DecidableEq, Repr

structure Disconnected where
  message : String
  deviceId : String
  status : String
  device : Option Device
  deriving DecidableEq, Repr

/-- The loop over the sessions; `false` when a statement failed. -/
def freeListed : List ℕ → Backend Bool
  | [] => pure true
  | port :: ports => do
    if port = 0 then freeListed ports
    else
      match ← perform (.freeDevicePortPair port) with
      | none => pure false
      | some _ => freeListed ports

def broadcast (device : Device) : Backend (Except Failure Disconnected) := do
  match ← perform (Query.broadcastDevice device.id) with
  | none => pure (.error .database)
  | some updated =>
    pure (.ok { message := "Device disconnected", deviceId := device.deviceId,
                status := "inactive", device := updated })

def reservePreferredPort (device : Device) (port : ℕ) :
    Backend (Except Failure Disconnected) := do
  match ← perform (Query.reserveDevicePortPair device.id port) with
  | none => pure (.error .database)
  | some false =>
    pure (.error (.thrown "Fixed port is not available or already assigned to another device"))
  | some true => broadcast device

def disconnectListed (device : Device) (sessions : List ℕ) :
    Backend (Except Failure Disconnected) := do
  match ← perform (.deactivate device.id) with
  | none => pure (.error .database)
  | some _ =>
    -- an error or a timeout is only logged
    let _ ← perform (.sendDeviceControlCommand device.deviceId "disconnect")
    match ← perform (.terminateSessions device.id) with
    | none => pure (.error .database)
    | some _ =>
      if ← freeListed sessions then
        match device.preferredPort with
        | some port => if port = 0 then broadcast device else reservePreferredPort device port
        | none => broadcast device
      else pure (.error .database)

def disconnect (user : Option User) (id : Uuid) : Backend (Except Failure Disconnected) := do
  match user with
  | none => pure (.error (.thrown "Authentication required"))
  | some user =>
    match ← perform (Query.device id) with
    | none => pure (.error .database)
    | some none => pure (.error (.thrown "Device not found"))
    | some (some device) =>
      if !canAccessDevice user device then pure (.error (.thrown "Permission denied"))
      else
        match ← perform (Query.activeSessions id) with
        | none => pure (.error .database)
        | some sessions => disconnectListed device sessions

/-- The control thread, the shared tables and the variable `sessions` of the call, which is
empty until it is assigned. -/
structure World where
  control : Control ℤ
  state : State
  sessions : List ℕ

def activePorts (id : Uuid) (db : Db) : List ℕ :=
  (db.sessions.filter fun s => s.deviceId == id && s.status == .active).map (·.assignedPort)

def deactivate (id : Uuid) (db : Db) : Db :=
  { db with
    devices := updateRows (·.id == id) (fun d => { d with status := .inactive, assignedPort := none })
      db.devices }

def terminateSessions (id : Uuid) (db : Db) : Db :=
  { db with
    sessions := updateRows (fun s => s.deviceId == id && s.status == .active)
      (fun s => { s with status := .terminated }) db.sessions }

def World.mapDb (w : World) (f : Db → Db) : World := { w with state := w.state.mapDb f }

def interp : (q : Query) → World → Option (World × Answer q)
  | .device id, w => some (w, w.state.db.devices.find? (·.id == id))
  | .activeSessions id, w =>
    let ports := activePorts id w.state.db
    some ({ w with sessions := ports }, ports)
  | .deactivate id, w => some (w.mapDb (deactivate id), ())
  | .sendDeviceControlCommand _ _, w => some (w, ())
  | .terminateSessions id, w => some (w.mapDb (terminateSessions id), ())
  | .freeDevicePortPair port, w => some (w.mapDb (DeviceTables.freeDevicePortPair port), ())
  | .reserveDevicePortPair id port, w =>
    let r := DeviceTables.reserveDevicePortPair id (some port) w.state.db
    some (w.mapDb fun _ => r.1, r.2)
  | .broadcastDevice id, w => some (w, w.state.db.devices.find? (·.id == id))

/-- A step of the control thread or of its background; `guard` restricts its commands by the
sessions that the call has read. -/
def Interleaves (cfg : Config) (guard : List ℕ → DeviceManager.Cmd → State → Prop) (w w' : World) :
    Prop :=
  (controlServer cfg).Step (guard w.sessions) (w.control, w.state) (w'.control, w'.state) ∧
    w'.sessions = w.sessions

def backend (cfg : Config) (guard : List ℕ → DeviceManager.Cmd → State → Prop) :
    Server Query Answer World Empty (Except Failure Disconnected) where
  interp := interp
  fails _ _ := True
  env := Interleaves cfg guard
  handler := Empty.elim

/-- Rows allocated to active sessions of other devices stay as they are. -/
def Harmless (id : Uuid) (db db' : Db) : Prop :=
  ∀ u ∈ db.sessions, u.status = .active → u.deviceId ≠ id →
    ∀ q, (db.ports q).OwnedBy u.deviceId u.id → db'.ports q = db.ports q

def Unshared (id : Uuid) (ports : List ℕ) (db : Db) : Prop :=
  ∀ u ∈ db.sessions, u.status = .active → u.deviceId ≠ id → u.assignedPort ∉ ports

/-- The sessions are read when no active session of another device has a port of theirs. -/
def ReadsUnshared (id : Uuid) : Query → World → Prop
  | .activeSessions owner, w => Unshared id (activePorts owner w.state.db) w.state.db
  | _, _ => True

/-- A registration of another device is not given a pair whose sessions the call has read. -/
def GivesOther (id : Uuid) (ports : List ℕ) : DeviceManager.Cmd → State → Prop
  | .registerSession deviceId _, s =>
    ∀ dev ∈ s.db.devices, dev.deviceId = deviceId → dev.id ≠ id →
      ∀ port, findPair dev s.db = some port → port ∉ ports
  | _, _ => True

variable {cfg : Config} {id : Uuid} {ports : List ℕ} {db db' : Db} {w w' : World}

theorem Unshared.retires (h : Unshared id ports db) (r : Retires rowKey db db') :
    Unshared id ports db' := by
  intro u hu active other
  obtain ⟨v, hv, activeV, same⟩ := r.active u hu active
  simp only [rowKey, Prod.mk.injEq] at same
  rw [← same.2.2]
  exact h v hv activeV (by rw [same.2.1]; exact other)

/-- What the control thread and its background do keeps the ports unshared. -/
theorem Unshared.step {k k' : Control ℤ} {s t : State} (h : Unshared id ports s.db)
    (st : (controlServer cfg).Step (GivesOther id ports) (k, s) (k', t)) :
    Unshared id ports t.db := by
  cases st with
  | accept q a s => exact h
  | interfere st => exact h.retires (background_retires lasting_rowKey st)
  | fail failed => exact h
  | @execute c _ _ _ r ok e =>
    by_cases registers : ∃ deviceId token, c = .registerSession deviceId token
    · obtain ⟨deviceId, token, rfl⟩ := registers
      obtain ⟨⟨db', answer⟩, hdb, e⟩ := Option.map_eq_some_iff.1 e
      cases e
      rcases PortInvariant.registerSession_spec hdb with
        ⟨rfl, _⟩ | ⟨dev, port, hdev, named, _, found, _, _, rfl⟩
      · exact h
      · intro u hu active other
        rcases List.mem_append.1 hu with old | new
        · exact h u old active other
        · rw [List.mem_singleton.1 new] at other ⊢
          exact ok dev hdev named other port found
    · apply h.retires
      apply interp_retires lasting_rowKey _ _ e
      · exact fun deviceId token e => registers ⟨deviceId, token, e⟩
      · exact fun _ _ _ _ _ _ => rfl

def record : List ℕ → (q : Query) → Option (Answer q) → List ℕ
  | _, .activeSessions _, some ports => ports
  | sessions, _, _ => sessions

def FreesListed (sessions : List ℕ) (q : Query) : Prop :=
  ∀ port, q = .freeDevicePortPair port → port ∈ sessions

section Traced

variable {sessions : List ℕ}

theorem traced_broadcast (device : Device) :
    Traced record FreesListed sessions (broadcast device) := by
  refine ⟨nofun, fun r => ?_⟩
  cases r <;> trivial

theorem traced_reservePreferredPort (device : Device) (port : ℕ) :
    Traced record FreesListed sessions (reservePreferredPort device port) := by
  refine ⟨nofun, fun r => ?_⟩
  match r with
  | none => trivial
  | some false => trivial
  | some true => exact traced_broadcast device

theorem traced_freeListed (ports : List ℕ) (listed : ports ⊆ sessions) :
    Traced record FreesListed sessions (freeListed ports) := by
  induction ports with
  | nil => trivial
  | cons port ports ih =>
    obtain ⟨mem, rest⟩ := List.cons_subset.1 listed
    unfold freeListed
    split
    · exact ih rest
    · refine ⟨fun _ e => ?_, fun r => ?_⟩
      · rw [← Query.freeDevicePortPair.inj e]
        exact mem
      · cases r with
        | none => trivial
        | some _ => exact ih rest

theorem traced_disconnectListed (device : Device) (sessions : List ℕ) :
    Traced record FreesListed sessions (disconnectListed device sessions) := by
  refine ⟨nofun, fun r => ?_⟩
  cases r with
  | none => trivial
  | some _ =>
    refine ⟨nofun, fun _ => ⟨nofun, fun r => ?_⟩⟩
    cases r with
    | none => trivial
    | some _ =>
      apply (traced_freeListed sessions (List.Subset.refl _)).bind
      intro _ freed
      cases freed with
      | false => trivial
      | true =>
        rw [if_pos rfl]
        cases device.preferredPort with
        | none => exact traced_broadcast device
        | some port =>
          dsimp only
          split
          · exact traced_broadcast device
          · exact traced_reservePreferredPort device port

theorem traced_disconnect (user : Option User) (id : Uuid) :
    Traced record FreesListed sessions (disconnect user id) := by
  cases user with
  | none => trivial
  | some user =>
    refine ⟨nofun, fun r => ?_⟩
    match r with
    | none => trivial
    | some none => trivial
    | some (some device) =>
      change Traced _ _ _ (ite _ _ _)
      split
      · trivial
      · refine ⟨nofun, fun r => ?_⟩
        cases r with
        | none => trivial
        | some sessions => exact traced_disconnectListed device sessions

end Traced

/-- What holds of the call and the tables at each of its steps. -/
structure Running (id : Uuid) (c : Backend (Except Failure Disconnected) × World) : Prop where
  traced : Traced record FreesListed c.2.sessions c.1
  rows : RowInvariant c.2.state.db
  even : ∀ port ∈ c.2.sessions, port % 2 = 0
  unshared : Unshared id c.2.sessions c.2.state.db

theorem interp_sessions {q : Query} {r : Answer q} (e : interp q w = some (w', r)) :
    w'.sessions = record w.sessions q (some r) := by
  cases q <;> cases e <;> rfl

theorem query_retires {q : Query} {r : Answer q} (e : interp q w = some (w', r)) :
    Retires rowKey w.state.db w'.state.db := by
  cases q with
  | deactivate id => cases e; exact .of_eq rfl rfl
  | terminateSessions id =>
    cases e
    apply Retires.update
    · exact fun _ => rfl
    · exact fun _ active => absurd active (by simp)
  | freeDevicePortPair port => cases e; exact .free_pair port
  | reserveDevicePortPair id port => cases e; exact .reserve id (some port)
  | _ => cases e; exact Retires.refl _

theorem step_preserves_running {c c' : Backend (Except Failure Disconnected) × World}
    (h : Running id c) (st : (backend cfg (GivesOther id)).Step (ReadsUnshared id) c c') :
    Running id c' := by
  cases st with
  | accept q a w => exact q.elim
  | @interfere _ w w' st =>
    obtain ⟨st, same⟩ := st
    refine ⟨?_, h.rows.step st, ?_, ?_⟩
    · rw [same]
      exact h.traced
    · rw [same]
      exact h.even
    · rw [same]
      exact h.unshared.step st
  | @execute q _ w w' r ok e =>
    have retires := query_retires e
    have sessions := interp_sessions e
    have traced := h.traced.2 (some r)
    rw [← sessions] at traced
    refine ⟨traced, h.rows.retires retires, ?_, ?_⟩
    · cases q with
      | activeSessions owner =>
        cases e
        intro port hp
        obtain ⟨u, hu, rfl⟩ := List.mem_map.1 hp
        exact h.rows.even u (List.mem_filter.1 hu).1
      | _ => rw [sessions]; exact h.even
    · cases q with
      | activeSessions owner => cases e; exact ok
      | _ => rw [sessions]; exact h.unshared.retires retires
  | @fail q _ w failed =>
    have traced := h.traced.2 none
    have same : record w.sessions q none = w.sessions := by cases q <;> rfl
    rw [same] at traced
    exact ⟨traced, h.rows, h.even, h.unshared⟩

/-- Freeing a listed pair touches no row of an active session of another device. -/
theorem query_harmless {q : Query} {r : Answer q}
    {k : Option (Answer q) → Backend (Except Failure Disconnected)}
    (h : Running id (.call q k, w)) (e : interp q w = some (w', r)) :
    Harmless id w.state.db w'.state.db := by
  intro u hu active other row owned
  cases q with
  | freeDevicePortPair port =>
    cases e
    have listed := h.traced.1 port rfl
    have apart : u.assignedPort ≠ port := by
      rintro rfl
      exact h.unshared u hu active other listed
    have evenU := h.rows.even u hu
    have evenPort := h.even port listed
    have pair := h.rows.pair_of_owned hu owned
    apply freeDevicePortPair_other
    · omega
    · omega
    · exact owned.1
  | reserveDevicePortPair id port => cases e; exact reserveDevicePortPair_allocated owned.1
  | _ => cases e; rfl

/-- A call that reads unshared sessions while no other device is given their pairs leaves the
rows of the active sessions of other devices alone, in every interleaving. -/
theorem disconnect_harmless_while_pairs_stay {user : Option User} {k : Control ℤ} {s : State}
    {q : Query} {r : Answer q} {rest : Option (Answer q) → Backend (Except Failure Disconnected)}
    (h : (controlServer cfg).Reachable (fun _ _ => True) Initial (k, s))
    (run : (backend cfg (GivesOther id)).Steps (ReadsUnshared id)
      (disconnect user id, ⟨k, s, []⟩) (.call q rest, w))
    (e : interp q w = some (w', r)) : Harmless id w.state.db w'.state.db := by
  have start : Running id (disconnect user id, ⟨k, s, []⟩) :=
    ⟨traced_disconnect user id, RowInvariant.reachable h, by simp, by simp [Unshared]⟩
  have running : Running id (.call q rest, w) := by
    clear e
    generalize (Prog.call q rest, w) = c at run
    induction run with
    | refl => exact start
    | tail _ st ih => exact step_preserves_running ih st
  exact query_harmless running e

section Histories

variable {α : Type} {guard : List ℕ → DeviceManager.Cmd → State → Prop}
  {permit : Query → World → Prop}

instance (id : Uuid) (ports : List ℕ) (db : Db) : Decidable (Unshared id ports db) :=
  inferInstanceAs (Decidable (∀ _ ∈ _, _))

instance (id : Uuid) (q : Query) (w : World) : Decidable (ReadsUnshared id q w) := by
  rcases q <;> dsimp only [ReadsUnshared] <;> infer_instance

def nextQuery : Backend α → Option Query
  | .ret _ => none
  | .call q _ => some q

theorem nextQuery_eq_some {p : Backend α} {q : Query} (h : nextQuery p = some q) :
    ∃ k, p = .call q k := by
  cases p with
  | ret a => exact absurd h (by simp [nextQuery])
  | call q' k =>
    obtain rfl := Option.some.inj h
    exact ⟨k, rfl⟩

theorem steps_to_query {p : Backend (Except Failure Disconnected)} {w : World} {q : Query} (n : ℕ)
    (ok : Permitted interp permit (firstCalls n p) w)
    (h : nextQuery (run interp (firstCalls n p) w).1 = some q) :
    ∃ rest, (backend cfg guard).Steps permit (p, w)
      (.call q rest, (run interp (firstCalls n p) w).2) := by
  obtain ⟨rest, next⟩ := nextQuery_eq_some h
  have refuses : (backend cfg guard).Refuses := fun _ _ _ => trivial
  have steps := Server.steps_firstCalls refuses n p w ok
  have stage : run interp (firstCalls n p) w =
      (.call q rest, (run interp (firstCalls n p) w).2) := Prod.ext next rfl
  change (backend cfg guard).Steps permit (p, w) (run interp (firstCalls n p) w) at steps
  rw [stage] at steps
  exact ⟨rest, steps⟩

theorem steps_meanwhile {p : Backend (Except Failure Disconnected)} {k k' : Control ℤ}
    {s t : State} {sessions : List ℕ}
    (steps : (controlServer cfg).Steps (guard sessions) (k, s) (k', t)) :
    (backend cfg guard).Steps permit (p, ⟨k, s, sessions⟩) (p, ⟨k', t, sessions⟩) := by
  generalize e : (k', t) = c at steps
  induction steps generalizing k' t with
  | refl => cases e; exact .refl
  | tail _ st ih => cases e; exact (ih rfl).tail (.interfere ⟨st, rfl⟩)

/-- The control thread does not move while the call executes its queries. -/
theorem run_control (p : Backend α) (w : World) : (run interp p w).2.control = w.control := by
  induction p generalizing w with
  | ret a => rfl
  | call q k ih =>
    simp only [run]
    split
    · rename_i w' r e
      rw [ih]
      cases q <;> cases e <;> rfl
    · exact ih none w

/-- The call executes `n` queries, the control thread serves requests, the call goes on. -/
def interrupt (cfg : Config) (p : Backend α) (n : ℕ) (acts : List (Request ⊕ Event)) (m : ℕ) (a : ℤ)
    (s : State) : Backend α × World :=
  let (p, w) := run interp (firstCalls n p) ⟨.ret a, s, []⟩
  run interp (firstCalls m p)
    ⟨.ret (lastCode cfg acts a w.state), play cfg acts w.state, w.sessions⟩

theorem steps_interrupt (p : Backend (Except Failure Disconnected)) (n : ℕ)
    (acts : List (Request ⊕ Event)) (m : ℕ) (a : ℤ) (s : State) :
    (backend cfg fun _ _ _ => True).Steps (fun _ _ => True) (p, ⟨.ret a, s, []⟩)
      (interrupt cfg p n acts m a s) := by
  let S := backend cfg fun _ _ _ => True
  have refuses : S.Refuses := fun _ _ _ => trivial
  have before := Server.steps_firstCalls refuses n p ⟨.ret a, s, []⟩ (permitted_true _ _ _)
  change S.Steps (fun _ _ => True) _ (run interp (firstCalls n p) ⟨.ret a, s, []⟩) at before
  have waiting := run_control (firstCalls n p) ⟨.ret a, s, []⟩
  unfold interrupt
  generalize run interp (firstCalls n p) ⟨.ret a, s, []⟩ = stage at before waiting ⊢
  obtain ⟨rest, k, t, sessions⟩ := stage
  obtain rfl : k = .ret a := waiting
  have played : (controlServer cfg).Steps (fun _ _ => True) (.ret a, t)
      (.ret (lastCode cfg acts a t), play cfg acts t) :=
    play_steps cfg acts a t (playPermitted_true _ _ _)
  have during : (backend cfg fun _ _ _ => True).Steps (fun _ _ => True)
      (rest, ⟨.ret a, t, sessions⟩)
      (rest, ⟨.ret (lastCode cfg acts a t), play cfg acts t, sessions⟩) := steps_meanwhile played
  exact (before.trans during).trans (Server.steps_firstCalls refuses m rest _ (permitted_true _ _ _))

end Histories

def admin : User := ⟨1, "admin", ""⟩

def call : Backend (Except Failure Disconnected) := disconnect (some admin) 1

def bothRegistered : List (Request ⊕ Event) :=
  [.inl (Sample.register "A"), .inr (.draw 101 "t101"), .inl (Sample.register "B")]

def world (acts : List (Request ⊕ Event)) : World :=
  ⟨.ret (lastCode Sample.cfg acts 0 Sample.start), play Sample.cfg acts Sample.start, []⟩

def after (n : ℕ) (acts : List (Request ⊕ Event)) : World :=
  (run interp (firstCalls n call) (world acts)).2

/-- The free of A's pair spares B. -/
theorem disconnect_spares_registered :
    Harmless 1 (after 5 bothRegistered).state.db
      ((after 5 bothRegistered).mapDb (DeviceTables.freeDevicePortPair 6000)).state.db := by
  have reachable := play_reachable Sample.cfg (fun _ _ => True) bothRegistered Sample.start
    Sample.initial_start (playPermitted_true _ _ _)
  have ok : Permitted interp (ReadsUnshared 1) (firstCalls 5 call) (world bothRegistered) := by
    decide +kernel
  have frees : nextQuery (run interp (firstCalls 5 call) (world bothRegistered)).1 =
      some (.freeDevicePortPair 6000) := by decide +kernel
  obtain ⟨rest, steps⟩ : ∃ rest, (backend Sample.cfg (GivesOther 1)).Steps (ReadsUnshared 1)
      (call, world bothRegistered) (.call (.freeDevicePortPair 6000) rest, after 5 bothRegistered) :=
    steps_to_query 5 ok frees
  exact disconnect_harmless_while_pairs_stay reachable steps rfl

namespace Counterexample

def registeredA : List (Request ⊕ Event) := [.inl (Sample.register "A")]

/-- While the call waits for the answer, the control thread disconnects A, which frees its pair,
and B registers and is given it. -/
def meanwhile : List (Request ⊕ Event) :=
  [.inl (Sample.disconnect "A"), .inr (.draw 101 "t101"), .inl (Sample.register "B")]

def interrupted : Backend (Except Failure Disconnected) × World :=
  interrupt Sample.cfg call 4 meanwhile 1 (lastCode Sample.cfg registeredA 0 Sample.start)
    (play Sample.cfg registeredA Sample.start)

theorem disconnect_frees_foreign_pair :
    ∃ k s q r rest w w', (controlServer Sample.cfg).Reachable (fun _ _ => True) Initial (k, s) ∧
      (backend Sample.cfg (fun _ _ _ => True)).Steps (fun _ _ => True) (call, ⟨k, s, []⟩)
        (.call q rest, w) ∧ interp q w = some (w', r) ∧ ¬ Harmless 1 w.state.db w'.state.db := by
  have reachable := play_reachable Sample.cfg (fun _ _ => True) registeredA
    Sample.start Sample.initial_start (playPermitted_true _ _ _)
  have frees : nextQuery interrupted.1 = some (.freeDevicePortPair 6000) := by decide +kernel
  have owned : ∃ u ∈ interrupted.2.state.db.sessions, u.status = .active ∧ u.deviceId ≠ 1 ∧
      (interrupted.2.state.db.ports 6000).OwnedBy u.deviceId u.id ∧
      (interrupted.2.mapDb (DeviceTables.freeDevicePortPair 6000)).state.db.ports 6000 ≠
        interrupted.2.state.db.ports 6000 := by decide +kernel
  have steps : (backend Sample.cfg fun _ _ _ => True).Steps (fun _ _ => True)
      (call, ⟨.ret (lastCode Sample.cfg registeredA 0 Sample.start),
        play Sample.cfg registeredA Sample.start, []⟩) interrupted := steps_interrupt _ _ _ _ _ _
  generalize interrupted = stage at frees owned steps
  obtain ⟨p, w⟩ := stage
  obtain ⟨rest, rfl⟩ := nextQuery_eq_some frees
  obtain ⟨u, hu, active, other, row, changed⟩ := owned
  have harmful : ¬ Harmless 1 w.state.db (w.mapDb (DeviceTables.freeDevicePortPair 6000)).state.db :=
    fun harmless => changed (harmless u hu active other 6000 row)
  exact ⟨_, _, .freeDevicePortPair 6000, (), rest, w, _, reachable, steps, rfl, harmful⟩

end Counterexample

end BackendDisconnect
