import NetPort.DeviceManager
import NetPort.PortOwnership

/-! An administrative block: once a device has a status that `device_authenticate` does not
admit, device messages, the sweep and the auto-connect cycle of the backend run on. -/
namespace BlockStickiness

open Relation StatementPrograms SqlUpdate DeviceTables ProxyRuntimes DeviceManager PortOwnership

variable {cfg : Config} {d : String} {s t : State} {devices : List Device}

def syncConnectedDeviceStatuses (db : Db) : Db :=
  { db with
    devices := updateRows
      (fun dev => dev.status == .connecting &&
        (dev.lastHeartbeat.any fun beat => db.now < beat + 2 * 60) &&
        db.sessions.any fun s =>
          s.deviceId == dev.id && s.status == .active && db.now < s.expiresAt)
      (fun dev => { dev with status := .active }) db.devices }

/-- The guarded update of `runAutoConnectCycle`. The devices it is sent for were selected
earlier, when they may have been stale. -/
def moveToConnecting (id : Uuid) (db : Db) : Db :=
  { db with
    devices := updateRows
      (fun dev => dev.id == id && (dev.status == .active || dev.status == .connecting))
      (fun dev => { dev with status := .connecting }) db.devices }

/-- User requests may change anything but the status of the device. -/
def KeepsStatus (d : String) (s : State) : Event → Prop
  | .editDevices devices => ∀ dev ∈ devices, dev.deviceId = d →
      ∃ old ∈ s.db.devices, old.deviceId = d ∧ old.status = dev.status
  | _ => True

inductive Undisturbed (d : String) : State → State → Prop
  | background {s : State} (e : Event) (ok : Enabled s e) (keeps : KeepsStatus d s e) :
      Undisturbed d s (next s e)
  | sync (s : State) : Undisturbed d s (s.mapDb syncConnectedDeviceStatuses)
  | autoConnect (s : State) (id : Uuid) : Undisturbed d s (s.mapDb (moveToConnecting id))

def blockedServer (cfg : Config) (d : String) : Server Cmd Res State Request ℤ :=
  { controlServer cfg with env := Undisturbed d }

def Blocked (d : String) (devices : List Device) : Prop :=
  ∀ dev ∈ devices, dev.deviceId = d → dev.status.admitted = false

def NotActivated (d : String) (devices : List Device) : Prop :=
  ∀ dev ∈ devices, dev.deviceId = d → dev.status ≠ .active ∧ dev.status ≠ .connecting

instance (d : String) (devices : List Device) : Decidable (Blocked d devices) :=
  inferInstanceAs (Decidable (∀ _ ∈ _, _))

instance (d : String) (devices : List Device) : Decidable (NotActivated d devices) :=
  inferInstanceAs (Decidable (∀ _ ∈ _, _))

def ForeignToken (d token : String) (db : Db) : Prop :=
  ∀ dev ∈ db.devices, ownsToken token db dev = true → dev.deviceId ≠ d

/-- The heartbeats that reach their second statement carry foreign tokens. -/
def HeartbeatsForeign (d : String) : Cmd → State → Prop
  | .touchDevice token, s => ForeignToken d token s.db
  | _, _ => True

/-- The block fell between the two statements of `register_device_session` for the device. -/
def AboutToActivate (d : String) (p : Control ℤ) : Prop :=
  ∃ port k, p = .call (.setRegistered d port) k

theorem Blocked.notActivated (h : Blocked d devices) : NotActivated d devices := by
  intro dev hdev named
  have refused := h dev hdev named
  constructor
  · intro active
    rw [active] at refused
    exact absurd refused (by decide)
  · intro connecting
    rw [connecting] at refused
    exact absurd refused (by decide)

theorem Blocked.update (h : Blocked d devices) {cond : Device → Bool} {set : Device → Device}
    (named : ∀ dev, (set dev).deviceId = dev.deviceId)
    (refused : ∀ dev ∈ devices, cond dev = true → dev.deviceId = d →
      (set dev).status.admitted = false) : Blocked d (updateRows cond set devices) := by
  intro dev hdev name
  rcases mem_updateRows.1 hdev with ⟨old, hold, hit, rfl⟩ | ⟨hold, _⟩
  · exact refused old hold hit ((named old).symm.trans name)
  · exact h dev hold name

theorem Blocked.keep (h : Blocked d devices) (cond : Device → Bool) {set : Device → Device}
    (named : ∀ dev, (set dev).deviceId = dev.deviceId)
    (status : ∀ dev, (set dev).status = dev.status) : Blocked d (updateRows cond set devices) := by
  apply h.update named
  intro dev hdev _ name
  rw [status dev]
  exact h dev hdev name

/-- The second statement of a heartbeat keeps the block exactly when the token is foreign. -/
theorem touchDevice_blocked_iff {token : String} {db : Db} (h : Blocked d db.devices) :
    Blocked d (touchDevice token db).devices ↔ ForeignToken d token db := by
  constructor
  · intro kept dev hdev owner named
    have activated : { dev with lastHeartbeat := some db.now, status := .active } ∈
        (touchDevice token db).devices := mem_updateRows.2 (.inl ⟨dev, hdev, owner, rfl⟩)
    have refused := kept _ activated named
    simp [DeviceStatus.admitted] at refused
  · intro foreign
    apply h.update
    · exact fun _ => rfl
    intro dev hdev owner named
    exact absurd named (foreign dev hdev owner)

theorem Blocked.cleanup {db : Db} (h : Blocked d db.devices) (deviceId : String) :
    Blocked d (cleanupDeviceSessions deviceId db).devices := by
  apply Blocked.keep
  · rw [freeDevicePortPairs_devices]
    exact h
  · exact fun _ => rfl
  · exact fun _ => rfl

theorem registerSession_blocked {token : String} {timeout : ℕ} {sid : Uuid} {db db' : Db}
    {r : Option (ℕ × ℕ)} (h : Blocked d db.devices)
    (e : registerSession d token timeout sid db = some (db', r)) : r = none := by
  rcases PortInvariant.registerSession_spec e with ⟨_, none⟩ | ⟨dev, _, hdev, named, admitted, _⟩
  · exact none
  · rw [h dev hdev named] at admitted
    exact Bool.noConfusion admitted

theorem registerSession_devices {deviceId token : String} {timeout : ℕ} {sid : Uuid} {db db' : Db}
    {r : Option (ℕ × ℕ)} (e : registerSession deviceId token timeout sid db = some (db', r)) :
    db'.devices = db.devices := by
  rcases PortInvariant.registerSession_spec e with ⟨rfl, _⟩ | ⟨_, _, _, _, _, _, _, _, rfl⟩ <;> rfl

theorem interp_keeps_blocked {c : Cmd} {r : Res c} (h : Blocked d s.db.devices)
    (foreign : HeartbeatsForeign d c s) (other : ∀ port, c ≠ .setRegistered d port)
    (e : interp cfg c s = some (t, r)) : Blocked d t.db.devices := by
  cases c with
  | registerSession deviceId token =>
    obtain ⟨⟨db', ports⟩, hdb, e⟩ := Option.map_eq_some_iff.1 e
    cases e
    change Blocked d db'.devices
    rw [registerSession_devices hdb]
    exact h
  | cleanupDeviceSessions deviceId =>
    cases e
    exact h.cleanup deviceId
  | setRegistered deviceId port =>
    cases e
    apply h.update
    · exact fun _ => rfl
    intro dev _ hit named
    rw [beq_iff_eq] at hit
    exact absurd (by rw [← named, hit]) (other port)
  | touchDevice token => cases e; exact (touchDevice_blocked_iff h).2 foreign
  | deactivateDevice deviceId =>
    cases e
    apply h.update
    · exact fun _ => rfl
    · exact fun _ _ _ _ => rfl
  | addDeviceTotals token sent received =>
    obtain ⟨db', hdb, e⟩ := Option.map_eq_some_iff.1 e
    cases e
    obtain ⟨_, rfl⟩ := addDeviceTotals_spec hdb
    exact h.keep _ (fun _ => rfl) (fun _ => rfl)
  | addSessionTraffic token sent received connections =>
    obtain ⟨db', hdb, e⟩ := Option.map_eq_some_iff.1 e
    cases e
    obtain ⟨_, rfl⟩ := addSessionTraffic_spec hdb
    exact h
  | insertSample token sent received connections =>
    obtain ⟨db', hdb, e⟩ := Option.map_eq_some_iff.1 e
    cases e
    obtain ⟨_, rfl⟩ := insertSample_spec hdb
    exact h
  | upsertHourly token sent received connections =>
    obtain ⟨db', hdb, e⟩ := Option.map_eq_some_iff.1 e
    cases e
    obtain ⟨_, rfl⟩ := upsertHourly_statistics_only hdb
    exact h
  | freeDevicePortPair port =>
    cases e
    obtain ⟨_, only⟩ := freeDevicePortPair_ports_only port s.db
    simpa [State.mapDb, only] using h
  | freeSessionPairs deviceId =>
    cases e
    simpa [State.mapDb, freeSessionPairsOf] using h
  | _ => cases e; exact h

theorem undisturbed_keeps_blocked (h : Blocked d s.db.devices) (st : Undisturbed d s t) :
    Blocked d t.db.devices := by
  cases st with
  | background e ok keeps =>
    cases e with
    | editDevices devices =>
      intro dev hdev named
      obtain ⟨old, hold, oldName, status⟩ := keeps dev hdev named
      rw [← status]
      exact h old hold oldName
    | sweep =>
      have unswept : Blocked d (freeDevicePortPairs
          ((s.db.sessions.filter (·.overdue s.db.now)).map (·.assignedPort)) s.db).devices := by
        rw [freeDevicePortPairs_devices]
        exact h
      apply Blocked.update unswept
      · exact fun _ => rfl
      · exact fun _ _ _ _ => rfl
    | cleanup deviceId =>
      exact Blocked.cleanup h deviceId
    | reserve device inputPort =>
      obtain ⟨_, only⟩ := reserveDevicePortPair_ports_only device inputPort s.db
      simpa [next, State.mapDb, only] using h
    | _ => exact h
  | sync =>
    apply h.update
    · exact fun _ => rfl
    · intro dev hdev hit named
      have status := (h.notActivated dev hdev named).2
      simp [status] at hit
  | autoConnect id =>
    apply h.update
    · exact fun _ => rfl
    · intro dev hdev hit named
      have status := h.notActivated dev hdev named
      simp [status.1, status.2] at hit

/-! `setRegistered` is issued only next to the answer that admitted the device. -/

def admittedBy (_ : Option String) : (c : Cmd) → Option (Res c) → Option String
  | .registerSession deviceId _, some (some _) => some deviceId
  | _, _ => none

def ActivatesOnly (admitted : Option String) (c : Cmd) : Prop :=
  ∀ deviceId port, c = .setRegistered deviceId port → admitted = some deviceId

/-- `admitted` is the device that the last answer admitted. -/
def Activates {α : Type} (admitted : Option String) (p : Control α) : Prop :=
  Traced admittedBy ActivatesOnly admitted p

variable {admitted : Option String} {α β : Type} {p : Control α}

theorem activates_of_issues
    (h : Issues (fun c => ∀ deviceId port, c ≠ .setRegistered deviceId port) p) :
    Activates admitted p := by
  apply traced_of_issues
  apply h.imp
  intro c other _ deviceId port e
  exact absurd e (other deviceId port)

theorem activates_plain (h : Issues Plain p) : Activates admitted p := by
  apply activates_of_issues
  apply h.imp
  rintro _ plain deviceId port rfl
  exact plain

theorem activates_registerDeviceSession (deviceId : String) :
    Activates admitted (registerDeviceSession deviceId) := by
  refine ⟨nofun, fun token => ?_⟩
  cases token with
  | none => trivial
  | some token =>
    refine ⟨nofun, fun r => ?_⟩
    cases r with
    | none => trivial
    | some _ =>
      refine ⟨nofun, fun _ => ⟨nofun, fun r => ?_⟩⟩
      match r with
      | none => trivial
      | some none => trivial
      | some (some (inputPort, _)) =>
        refine ⟨fun _ _ e => ?_, fun r => ?_⟩
        · rw [(Cmd.setRegistered.inj e).1]
          rfl
        · cases r <;> trivial

theorem activates_terminateDeviceSession (token : String) :
    Activates admitted (terminateDeviceSession token) := by
  apply activates_of_issues
  refine issues_terminateDeviceSession token ?_ fun _ _ _ => nofun
  rintro _ inner deviceId port rfl
  exact inner

theorem compositional_activates :
    Compositional fun {_} p => ∀ admitted, Activates admitted p :=
  ⟨fun h _ => activates_plain h, fun h rest _ => (h _).bind fun _ a => rest a _,
    fun deviceId _ => activates_registerDeviceSession deviceId,
    fun token _ => activates_terminateDeviceSession token⟩

theorem reachable_activates {k : Control ℤ}
    (h : (controlServer cfg).Reachable (fun _ _ => True) Initial (k, s)) :
    ∃ prev, Activates prev k := by
  obtain ⟨a, s₀, _, steps⟩ := h
  generalize e : (k, s) = c at steps
  induction steps generalizing k s with
  | refl => cases e; exact ⟨none, trivial⟩
  | tail _ step ih =>
    cases e
    cases step with
    | accept q a s => exact ⟨none, compositional_activates.handler q _⟩
    | interfere st => exact ih rfl
    | execute ok h =>
      obtain ⟨prev, activates⟩ := ih rfl
      exact ⟨_, activates.2 _⟩
    | fail h =>
      obtain ⟨prev, activates⟩ := ih rfl
      exact ⟨_, activates.2 _⟩

/-- The device is blocked and the control thread is not about to activate it. -/
structure Holding (d : String) (c : Control ℤ × State) : Prop where
  blocked : Blocked d c.2.db.devices
  settled : ∃ prev, Activates prev c.1 ∧ prev ≠ some d

theorem step_preserves_holding {c c' : Control ℤ × State} (h : Holding d c)
    (st : (blockedServer cfg d).Step (HeartbeatsForeign d) c c') : Holding d c' := by
  obtain ⟨prev, activates, other⟩ := h.settled
  cases st with
  | accept q a s => exact ⟨h.blocked, none, compositional_activates.handler q _, by simp⟩
  | interfere st => exact ⟨undisturbed_keeps_blocked h.blocked st, prev, activates, other⟩
  | @execute cmd _ s t r foreign e =>
    have notHere : ∀ port, cmd ≠ .setRegistered d port :=
      fun port same => other (activates.1 d port same)
    refine ⟨interp_keeps_blocked h.blocked foreign notHere e, _, activates.2 (some r), ?_⟩
    intro admitted
    cases cmd with
    | registerSession deviceId token =>
      match r with
      | none => simp [admittedBy] at admitted
      | some ports =>
        obtain rfl : deviceId = d := by simpa [admittedBy] using admitted
        obtain ⟨⟨db', answer⟩, hdb, pair⟩ := Option.map_eq_some_iff.1 e
        rw [registerSession_blocked h.blocked hdb] at pair
        simp at pair
    | _ => simp [admittedBy] at admitted
  | @fail cmd _ _ failed =>
    refine ⟨h.blocked, _, activates.2 none, ?_⟩
    cases cmd <;> simp [admittedBy]

/-- A block that does not fall into a registration of the device lasts through every run in
which only foreign tokens reach the second statement of a heartbeat. -/
theorem block_sticks_without_own_heartbeats {k k' : Control ℤ}
    (h : (controlServer cfg).Reachable (fun _ _ => True) Initial (k, s))
    (blocked : Blocked d s.db.devices) (settled : ¬ AboutToActivate d k)
    (run : (blockedServer cfg d).Steps (HeartbeatsForeign d) (k, s) (k', t)) :
    NotActivated d t.db.devices := by
  have start : Holding d (k, s) := by
    obtain ⟨prev, activates⟩ := reachable_activates h
    refine ⟨blocked, ?_⟩
    by_cases own : prev = some d
    · refine ⟨none, ?_, by simp⟩
      cases k with
      | ret a => trivial
      | call c rest =>
        refine ⟨fun deviceId port e => ?_, activates.2⟩
        have admitted := activates.1 deviceId port e
        rw [own] at admitted
        cases admitted
        cases e
        exact absurd ⟨port, rest, rfl⟩ settled
    · exact ⟨prev, activates, own⟩
  have held : Holding d (k', t) := by
    generalize (k', t) = c at run
    induction run with
    | refl => exact start
    | tail _ st ih => exact step_preserves_holding ih st
  exact held.blocked.notActivated

instance (d : String) (c : Cmd) (s : State) : Decidable (HeartbeatsForeign d c s) := by
  rcases c <;> dsimp only [HeartbeatsForeign, ForeignToken] <;> infer_instance

theorem settled_ret (d : String) (a : ℤ) : ¬ AboutToActivate d (.ret a) := by
  rintro ⟨_, _, e⟩
  exact absurd e (by simp)

theorem serves_blocked (cfg : Config) (d : String) (permit : Cmd → State → Prop) (r : Request)
    (b : ℤ) (s : State) (ok : Permitted (interp cfg) permit (processJsonMessage cfg r) s) :
    (blockedServer cfg d).Steps permit (.ret b, s)
      (.ret (run (interp cfg) (processJsonMessage cfg r) s).1,
        (run (interp cfg) (processJsonMessage cfg r) s).2) := by
  have refuses : (blockedServer cfg d).Refuses := control_refuses cfg
  have served := Server.steps_run refuses (processJsonMessage cfg r) s ok
  exact (ReflTransGen.single (.accept r b s)).trans served

def blockedA : List (Request ⊕ Event) :=
  [.inl (Sample.register "A"),
    .inr (.editDevices [{ Sample.device 1 "A" with status := .blocked, assignedPort := some 6000 },
      Sample.device 2 "B", Sample.device 3 "C"])]

theorem block_survives_registration :
    NotActivated "A" (run (interp Sample.cfg) (processJsonMessage Sample.cfg (Sample.register "A"))
      (play Sample.cfg blockedA Sample.start)).2.db.devices := by
  have reachable := play_reachable Sample.cfg (fun _ _ => True) blockedA Sample.start
    Sample.initial_start (playPermitted_true _ _ _)
  have blocked : Blocked "A" (play Sample.cfg blockedA Sample.start).db.devices := by
    decide +kernel
  have ok : Permitted (interp Sample.cfg) (HeartbeatsForeign "A")
      (processJsonMessage Sample.cfg (Sample.register "A"))
      (play Sample.cfg blockedA Sample.start) := by decide +kernel
  have served := serves_blocked Sample.cfg "A" (HeartbeatsForeign "A") (Sample.register "A")
    (lastCode Sample.cfg blockedA 0 Sample.start) (play Sample.cfg blockedA Sample.start) ok
  exact block_sticks_without_own_heartbeats reachable blocked (settled_ret "A" _) served

namespace Counterexample

/-- The session that A opened before the block is still active, and its heartbeat counts. -/
theorem heartbeat_lifts_block :
    ∃ k k' s t, (controlServer Sample.cfg).Reachable (fun _ _ => True) Initial (k, s) ∧
      Blocked "A" s.db.devices ∧ ¬ AboutToActivate "A" k ∧
      (blockedServer Sample.cfg "A").Steps (fun _ _ => True) (k, s) (k', t) ∧
      ¬ NotActivated "A" t.db.devices := by
  have reachable := play_reachable Sample.cfg (fun _ _ => True) blockedA Sample.start
    Sample.initial_start (playPermitted_true _ _ _)
  have blocked : Blocked "A" (play Sample.cfg blockedA Sample.start).db.devices := by
    decide +kernel
  have served := serves_blocked Sample.cfg "A" (fun _ _ => True) (Sample.heartbeat "t100")
    (lastCode Sample.cfg blockedA 0 Sample.start) (play Sample.cfg blockedA Sample.start)
    (permitted_true _ _ _)
  have lifted : ¬ NotActivated "A" (run (interp Sample.cfg)
      (processJsonMessage Sample.cfg (Sample.heartbeat "t100"))
      (play Sample.cfg blockedA Sample.start)).2.db.devices := by decide +kernel
  exact ⟨_, _, _, _, reachable, blocked, settled_ret "A" _, served, lifted⟩

end Counterexample

end BlockStickiness
