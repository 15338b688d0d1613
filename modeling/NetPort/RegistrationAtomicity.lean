import NetPort.DeviceManager
import NetPort.PortOwnership

/-! Whether a refused `register_device_session` leaves the tables as they were. It runs alone, with
any of its statements failing. -/
namespace RegistrationAtomicity

open StatementPrograms SqlUpdate DeviceTables ProxyRuntimes DeviceManager PortOwnership

structure Failures where
  token : Bool
  connection : Bool
  cleanup : Bool
  allocation : Bool
  update : Bool

def Failures.fails (f : Failures) : Cmd → Bool
  | .generateSessionToken _ => f.token
  | .getDbConnection => f.connection
  | .cleanupDeviceSessions _ => f.cleanup
  | .registerSession _ _ => f.allocation
  | .setRegistered _ _ => f.update
  | _ => false

/-- The state, and `updated_at` of the rows of `devices`. -/
structure Stamped where
  state : State
  updatedAt : Uuid → ℕ

def touchRows (hit : Device → Bool) (s : Stamped) (id : Uuid) : ℕ :=
  if s.state.db.devices.any fun d => d.id == id && hit d then s.state.db.now else s.updatedAt id

/-- `updated_at = NOW()` of the two statements that change rows of `devices`. -/
def stamp : Cmd → Stamped → Uuid → ℕ
  | .cleanupDeviceSessions deviceId, s =>
    let cleaned := cleanupDeviceSessions deviceId s.state.db
    touchRows (fun d => d.deviceId == deviceId &&
      !cleaned.sessions.any fun u => u.deviceId == d.id && u.live cleaned.now) s
  | .setRegistered deviceId _, s => touchRows (·.deviceId == deviceId) s
  | _, s => s.updatedAt

def interp (cfg : Config) (f : Failures) (c : Cmd) (s : Stamped) : Option (Stamped × Res c) :=
  if f.fails c then none
  else (DeviceManager.interp cfg c s.state).map fun r => (⟨r.1, stamp c s⟩, r.2)

/-- `none` is `-1`. -/
def register (cfg : Config) (f : Failures) (deviceId : String) (s : Stamped) :
    Option (String × ℕ × ℕ) × Stamped :=
  run (interp cfg f) (registerDeviceSession deviceId) s

structure SameRows (s t : Stamped) : Prop where
  sessions : t.state.db.sessions = s.state.db.sessions
  ports : t.state.db.ports = s.state.db.ports
  devices : t.state.db.devices = s.state.db.devices
  updatedAt : t.updatedAt = s.updatedAt

def AllOrNothing (cfg : Config) (f : Failures) (deviceId : String) (s : Stamped) : Prop :=
  (register cfg f deviceId s).1 = none → SameRows s (register cfg f deviceId s).2

/-- The cleanup has nothing to change: the device has no active session, and its row has no port
and was updated at this very time. -/
def Clean (deviceId : String) (s : Stamped) : Prop :=
  (∀ u ∈ s.state.db.sessions, sessionOf deviceId s.state.db u = true → u.status ≠ .active) ∧
    ∀ d ∈ s.state.db.devices, d.deviceId = deviceId →
      d.assignedPort = none ∧ s.updatedAt d.id = s.state.db.now

/-- The device is admitted, a pair is available to it, and id and token of the session are new. -/
def Allocatable (deviceId token : String) (sessionId : Uuid) (db : Db) : Prop :=
  ∃ dev port, (db.devices.find? fun d => d.deviceId == deviceId && d.status.admitted) = some dev ∧
    findPair dev db = some port ∧ ∀ u ∈ db.sessions, u.id ≠ sessionId ∧ u.sessionToken ≠ token

def cleaned (f : Failures) (deviceId : String) (db : Db) : Db :=
  if f.cleanup then db else cleanupDeviceSessions deviceId db

def Allocates (f : Failures) (deviceId : String) (s : State) : Prop :=
  f.allocation = false ∧
    Allocatable deviceId s.nextSessionToken s.nextSessionId (cleaned f deviceId s.db)

/-- The function fails before the first statement, or every statement that counts succeeds, or it
fails when the cleanup has changed nothing. -/
def Atomic (f : Failures) (deviceId : String) (s : Stamped) : Prop :=
  f.token = true ∨ f.connection = true ∨ (Allocates f deviceId s.state ∧ f.update = false) ∨
    (¬ Allocates f deviceId s.state ∧ (f.cleanup = true ∨ Clean deviceId s))

variable {cfg : Config} {f : Failures} {deviceId token : String} {sid : Uuid} {s t : Stamped}
  {db : Db}

theorem registerSession_allocatable (timeout : ℕ) (h : Allocatable deviceId token sid db) :
    ∃ db' port, registerSession deviceId token timeout sid db =
      some (db', some (port, port + 1)) ∧ db'.sessions.length = db.sessions.length + 1 := by
  obtain ⟨dev, port, found, pair, fresh⟩ := h
  have new : (db.sessions.any fun u => u.id == sid || u.sessionToken == token) = false := by
    rw [List.any_eq_false]
    intro u mem
    simp [fresh u mem]
  unfold registerSession
  simp only [found, pair, new, Bool.false_eq_true, if_false]
  exact ⟨_, port, rfl, by simp [updatePorts]⟩

theorem registerSession_refused (timeout : ℕ) (h : ¬ Allocatable deviceId token sid db) :
    registerSession deviceId token timeout sid db = none ∨
      registerSession deviceId token timeout sid db = some (db, none) := by
  unfold registerSession
  cases found : db.devices.find? fun d => d.deviceId == deviceId && d.status.admitted with
  | none => exact .inr rfl
  | some dev =>
    cases pair : findPair dev db with
    | none =>
      right
      simp only [pair]
    | some port =>
      have taken : (db.sessions.any fun u => u.id == sid || u.sessionToken == token) = true := by
        by_contra fresh
        refine h ⟨dev, port, found, pair, fun u mem => ?_⟩
        have new := List.any_eq_false.1 (Bool.not_eq_true _ ▸ fresh) u mem
        simpa using new
      left
      simp only [pair, taken, if_true]

theorem cleanup_no_session {d : Device} (mem : d ∈ db.devices) (own : d.deviceId = deviceId) :
    ((cleanupDeviceSessions deviceId db).sessions.any fun u =>
      u.deviceId == d.id && u.live (cleanupDeviceSessions deviceId db).now) = false := by
  rw [List.any_eq_false]
  intro u there live
  simp only [cleanupDeviceSessions, freeDevicePortPairs_sessions, Bool.and_eq_true, beq_iff_eq,
    Session.live] at there live
  obtain ⟨same, active, -⟩ := live
  rcases mem_updateRows.1 there with ⟨v, -, -, rfl⟩ | ⟨-, kept⟩
  · cases active
  · have hit : sessionOf deviceId db u = true :=
      List.any_eq_true.2 ⟨d, mem, by simp [same, own]⟩
    simp [hit, active] at kept

theorem cleanup_length :
    (cleanupDeviceSessions deviceId db).sessions.length = db.sessions.length := by
  simp [cleanupDeviceSessions, updateRows]

/-- An `UPDATE` leaves a table as it was when it leaves the rows that it finds. -/
theorem updateRows_eq_self {α : Type} {cond : α → Bool} {set : α → α} {rows : List α} :
    updateRows cond set rows = rows ↔ ∀ r ∈ rows, cond r = true → set r = r := by
  constructor
  · intro same r mem hit
    have here := List.map_inj_left.1 (same.trans (List.map_id rows).symm) r mem
    rwa [if_pos hit] at here
  · intro keep
    refine (List.map_congr_left fun r mem => ?_).trans (List.map_id rows)
    by_cases hit : cond r = true
    · rw [if_pos hit, keep r mem hit, id]
    · rw [if_neg hit, id]

def cleanedUp (deviceId : String) (s : Stamped) : Stamped :=
  ⟨s.state.mapDb (cleanupDeviceSessions deviceId), stamp (.cleanupDeviceSessions deviceId) s⟩

theorem cleanup_sessions : (cleanupDeviceSessions deviceId db).sessions =
    updateRows (fun u => sessionOf deviceId db u && u.status == .active)
      (fun u => { u with status := .expired, expiresAt := db.now }) db.sessions := by
  simp [cleanupDeviceSessions]

theorem cleanup_devices : (cleanupDeviceSessions deviceId db).devices =
    updateRows (fun d => d.deviceId == deviceId &&
        !(cleanupDeviceSessions deviceId db).sessions.any fun u =>
          u.deviceId == d.id && u.live (cleanupDeviceSessions deviceId db).now)
      (fun d => { d with assignedPort := none }) db.devices := by
  simp [cleanupDeviceSessions]

theorem cleanup_hit {d : Device} (mem : d ∈ db.devices) : (d.deviceId == deviceId &&
    !(cleanupDeviceSessions deviceId db).sessions.any fun u =>
      u.deviceId == d.id && u.live (cleanupDeviceSessions deviceId db).now) = true ↔
    d.deviceId = deviceId := by
  rw [Bool.and_eq_true, beq_iff_eq]
  constructor
  · exact fun hit => hit.1
  · intro own
    rw [cleanup_no_session mem own]
    exact ⟨own, rfl⟩

/-- The cleanup changes nothing only where there is nothing to clean. -/
theorem cleanup_same : SameRows s (cleanedUp deviceId s) ↔ Clean deviceId s := by
  constructor
  · intro same
    have sessions := same.sessions
    have devices := same.devices
    change (cleanupDeviceSessions deviceId s.state.db).sessions = _ at sessions
    change (cleanupDeviceSessions deviceId s.state.db).devices = _ at devices
    rw [cleanup_sessions, updateRows_eq_self] at sessions
    rw [cleanup_devices, updateRows_eq_self] at devices
    refine ⟨fun u mem own active => ?_, fun d mem own => ⟨?_, ?_⟩⟩
    · have expired := congrArg Session.status (sessions u mem (by simp [own, active]))
      rw [active] at expired
      cases expired
    · exact (congrArg Device.assignedPort (devices d mem ((cleanup_hit mem).2 own))).symm
    · have stamped := congrFun same.updatedAt d.id
      rw [← stamped]
      refine if_pos (List.any_eq_true.2 ⟨d, mem, ?_⟩)
      rw [Bool.and_eq_true]
      exact ⟨beq_self_eq_true d.id, (cleanup_hit mem).2 own⟩
  · rintro ⟨sessions, devices⟩
    have none : s.state.db.sessions.filter (fun u =>
        sessionOf deviceId s.state.db u && u.status == .active) = [] := by
      rw [List.filter_eq_nil_iff]
      intro u mem hit
      rw [Bool.and_eq_true, beq_iff_eq] at hit
      exact sessions u mem hit.1 hit.2
    constructor
    · change (cleanupDeviceSessions deviceId s.state.db).sessions = _
      rw [cleanup_sessions, updateRows_eq_self]
      intro u mem hit
      rw [Bool.and_eq_true, beq_iff_eq] at hit
      exact absurd hit.2 (sessions u mem hit.1)
    · change (cleanupDeviceSessions deviceId s.state.db).ports = _
      simp [cleanupDeviceSessions, none, freeDevicePortPairs]
    · change (cleanupDeviceSessions deviceId s.state.db).devices = _
      rw [cleanup_devices, updateRows_eq_self]
      intro d mem hit
      rw [← (devices d mem ((cleanup_hit mem).1 hit)).1]
    · funext id
      change (if _ then _ else _) = _
      split
      · rename_i touched
        obtain ⟨d, mem, hit⟩ := List.any_eq_true.1 touched
        rw [Bool.and_eq_true, beq_iff_eq] at hit
        rw [← hit.1, (devices d mem ((cleanup_hit mem).1 hit.2)).2]
      · rfl

theorem SameRows.refl (s : Stamped) : SameRows s s := ⟨rfl, rfl, rfl, rfl⟩

def prepared (f : Failures) (deviceId : String) (s : Stamped) : Stamped :=
  if f.cleanup then s else cleanedUp deviceId s

theorem prepared_db (f : Failures) (deviceId : String) (s : Stamped) :
    (prepared f deviceId s).state.db = cleaned f deviceId s.state.db := by
  unfold prepared cleaned
  split <;> rfl

theorem prepared_keys (f : Failures) (deviceId : String) (s : Stamped) :
    (prepared f deviceId s).state.nextSessionId = s.state.nextSessionId ∧
      (prepared f deviceId s).state.nextSessionToken = s.state.nextSessionToken := by
  unfold prepared
  split <;> exact ⟨rfl, rfl⟩

theorem prepared_same : SameRows s (prepared f deviceId s) ↔
    f.cleanup = true ∨ Clean deviceId s := by
  unfold prepared
  by_cases failed : f.cleanup = true
  · rw [if_pos failed]
    exact iff_of_true (.refl s) (.inl failed)
  · rw [if_neg failed, cleanup_same]
    exact ⟨.inr, fun h => h.resolve_left failed⟩

theorem prepared_length :
    (prepared f deviceId s).state.db.sessions.length = s.state.db.sessions.length := by
  rw [prepared_db]
  unfold cleaned
  split
  · rfl
  · exact cleanup_length

def allocate (deviceId token : String) : Control (Option (String × ℕ × ℕ)) := do
  match ← perform (Cmd.registerSession deviceId token) with
  | some (some (inputPort, tunnelPort)) =>
    match ← perform (.setRegistered deviceId inputPort) with
    | none => pure none
    | some _ => pure (some (token, inputPort, tunnelPort))
  | _ => pure none

theorem register_early (early : f.token = true ∨ f.connection = true) :
    register cfg f deviceId s = (none, s) := by
  by_cases token : f.token = true
  · simp [register, registerDeviceSession, run, interp, Failures.fails, token]
  · have connection := early.resolve_left token
    simp [register, registerDeviceSession, run, interp, Failures.fails, token, connection,
      DeviceManager.interp, stamp]

theorem register_late (cfg : Config) (deviceId : String) (s : Stamped)
    (token : f.token = false) (connection : f.connection = false) :
    register cfg f deviceId s = run (interp cfg f) (allocate deviceId s.state.nextSessionToken)
      (prepared f deviceId s) := by
  have first : interp cfg f (.generateSessionToken deviceId) s =
      some (s, s.state.nextSessionToken) := if_neg (by simp [Failures.fails, token])
  have second : interp cfg f .getDbConnection s = some (s, ()) :=
    if_neg (by simp [Failures.fails, connection])
  unfold register registerDeviceSession allocate
  simp only [perform_bind, run, first, second]
  by_cases cleanup : f.cleanup = true
  · have third : interp cfg f (.cleanupDeviceSessions deviceId) s = none := if_pos cleanup
    rw [third, prepared, if_pos cleanup]
    rfl
  · have third : interp cfg f (.cleanupDeviceSessions deviceId) s =
        some (cleanedUp deviceId s, ()) := if_neg cleanup
    rw [third, prepared, if_neg cleanup]
    rfl

theorem allocate_refused (cfg : Config) (h : ¬ (f.allocation = false ∧
    Allocatable deviceId token s.state.nextSessionId s.state.db)) :
    run (interp cfg f) (allocate deviceId token) s = (none, s) := by
  have refused : interp cfg f (.registerSession deviceId token) s = none ∨
      interp cfg f (.registerSession deviceId token) s = some (s, none) := by
    by_cases failed : f.allocation = true
    · exact .inl (if_pos failed)
    · have refused := registerSession_refused cfg.sessionTimeout
        fun found => h ⟨by simpa using failed, found⟩
      have ran : interp cfg f (.registerSession deviceId token) s = _ := if_neg failed
      rw [ran]
      rcases refused with none | nothing
      · left
        simp [DeviceManager.interp, none]
      · right
        simp [DeviceManager.interp, nothing, stamp]
  unfold allocate
  simp only [perform_bind, run]
  rcases refused with none | nothing
  · rw [none]
    rfl
  · rw [nothing]
    rfl

/-- The allocation adds a session, which stays when the update of the device fails. -/
theorem allocate_done (cfg : Config) (allocates : f.allocation = false)
    (h : Allocatable deviceId token s.state.nextSessionId s.state.db) :
    if f.update then
      (run (interp cfg f) (allocate deviceId token) s).1 = none ∧
        (run (interp cfg f) (allocate deviceId token) s).2.state.db.sessions.length =
          s.state.db.sessions.length + 1
    else (run (interp cfg f) (allocate deviceId token) s).1 ≠ none := by
  obtain ⟨db', port, found, length⟩ := registerSession_allocatable cfg.sessionTimeout h
  let s' : Stamped := ⟨{ s.state with db := db' }, s.updatedAt⟩
  have ran : interp cfg f (.registerSession deviceId token) s =
      some (s', some (uint16 port, uint16 (port + 1))) := by
    refine (if_neg (by simp [Failures.fails, allocates])).trans ?_
    simp [DeviceManager.interp, found, stamp, s']
  unfold allocate
  simp only [perform_bind, run, ran]
  by_cases failed : f.update = true
  · have update : interp cfg f (.setRegistered deviceId (uint16 port)) s' = none := if_pos failed
    rw [if_pos failed, update]
    exact ⟨rfl, length⟩
  · have update : ∃ t, interp cfg f (.setRegistered deviceId (uint16 port)) s' = some (t, ()) :=
      ⟨_, if_neg failed⟩
    obtain ⟨t, update⟩ := update
    rw [if_neg failed, update]
    exact Option.some_ne_none _

/-- A refused registration leaves the tables as they were exactly when it fails before the first
statement or with nothing to clean up, and never after the allocation. -/
theorem register_allOrNothing_iff (cfg : Config) (f : Failures) (deviceId : String) (s : Stamped) :
    AllOrNothing cfg f deviceId s ↔ Atomic f deviceId s := by
  unfold AllOrNothing Atomic
  by_cases early : f.token = true ∨ f.connection = true
  · refine iff_of_true (fun _ => ?_) (early.elim .inl fun h => .inr (.inl h))
    rw [register_early early]
    exact .refl s
  obtain ⟨token, connection⟩ : f.token = false ∧ f.connection = false := by simpa using early
  have late := register_late cfg deviceId s token connection
  have keys := prepared_keys f deviceId s
  have tables := prepared_db f deviceId s
  rw [late, token, connection]
  simp only [Bool.false_eq_true, false_or]
  by_cases allocates : Allocates f deviceId s.state
  · have done := allocate_done cfg (s := prepared f deviceId s) allocates.1 (by
      rw [keys.1, tables]
      exact allocates.2)
    simp only [allocates, true_and, not_true, false_and, or_false]
    by_cases failed : f.update = true
    · rw [if_pos failed] at done
      refine iff_of_false (fun same => ?_) (by simp [failed])
      have length := congrArg List.length (same done.1).sessions
      rw [done.2, prepared_length] at length
      omega
    · rw [if_neg failed] at done
      exact iff_of_true (fun refused => absurd refused done) (by simpa using failed)
  · have none : ¬ (f.allocation = false ∧ Allocatable deviceId s.state.nextSessionToken
        (prepared f deviceId s).state.nextSessionId (prepared f deviceId s).state.db) := by
      rw [keys.1, tables]
      exact allocates
    have refused := allocate_refused cfg none
    simp only [refused, forall_const, allocates, false_and, not_false_eq_true, true_and, false_or]
    exact prepared_same

namespace Sample

def registered : Stamped :=
  (register DeviceManager.Sample.cfg ⟨false, false, false, false, false⟩ "A"
    ⟨DeviceManager.Sample.start, fun _ => 0⟩).2

def lost : Failures := ⟨false, false, false, true, true⟩

end Sample

theorem session_lost : ¬ ∀ (cfg : Config) (f : Failures) (deviceId : String) (s : Stamped),
    AllOrNothing cfg f deviceId s := by
  intro always
  have refused :
      (register DeviceManager.Sample.cfg Sample.lost "A" Sample.registered).1 = none := by
    decide +kernel
  have same := always DeviceManager.Sample.cfg Sample.lost "A" Sample.registered refused
  have expired : (register DeviceManager.Sample.cfg Sample.lost "A"
      Sample.registered).2.state.db.sessions ≠ Sample.registered.state.db.sessions := by
    decide +kernel
  exact expired same.sessions

end RegistrationAtomicity
