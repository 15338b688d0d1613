import Mathlib.Data.List.Nodup
import Mathlib.Data.List.Perm.Basic
import NetPort.SqlUpdate

/-! The device tables after migrations 001–012 and their SQL functions.
A statement or function call is one atomic function of the tables; its row count, which
only a log line reads, is left out. Times are whole seconds, `now` is `NOW()`. -/
namespace DeviceTables

open SqlUpdate

abbrev Uuid := ℕ

inductive DeviceStatus where
  | active | inactive | pending | blocked | connecting | restarting | error
  deriving DecidableEq, Repr

structure Device where
  id : Uuid
  deviceId : String
  name : String
  type : String
  userId : Option ℕ
  authTokenHash : String
  status : DeviceStatus
  assignedPort : Option ℕ
  preferredPort : Option ℕ
  internalAddress : Option String
  internalPort : Option ℕ
  enableInputSsl : Bool
  enableTunnelSsl : Bool
  lastHeartbeat : Option ℕ
  totalBytesSent : ℕ
  totalBytesReceived : ℕ
  deriving DecidableEq, Repr

/-- The column's CHECK admits no `connecting`, so `status IN ('active', 'connecting')`
in the SQL functions is `= .active` here. -/
inductive SessionStatus where
  | active | expired | terminated | error
  deriving DecidableEq, Repr

structure Session where
  id : Uuid
  deviceId : Uuid
  sessionToken : String
  assignedPort : ℕ
  startedAt : ℕ
  expiresAt : ℕ
  bytesSent : ℕ
  bytesReceived : ℕ
  activeConnections : ℕ
  status : SessionStatus
  deriving DecidableEq, Repr

inductive AllocationStatus where
  | allocated | free | reserved | blocked
  deriving DecidableEq, Repr

def validAllocation (status : AllocationStatus) (device session : Bool) : Bool :=
  match status with
  | .allocated => device && session
  | .free => !device && !session
  | .reserved => device && !session
  | .blocked => !device && !session

structure PortAllocation where
  deviceId : Option Uuid
  sessionId : Option Uuid
  allocatedAt : Option ℕ
  expiresAt : Option ℕ
  status : AllocationStatus
  valid : validAllocation status deviceId.isSome sessionId.isSome = true
  deriving DecidableEq, Repr

namespace PortAllocation

def free : PortAllocation := ⟨none, none, none, none, .free, rfl⟩

def reserved (device : Uuid) (now : ℕ) : PortAllocation :=
  ⟨some device, none, some now, none, .reserved, rfl⟩

def allocated (device session : Uuid) (now expires : ℕ) : PortAllocation :=
  ⟨some device, some session, some now, some expires, .allocated, rfl⟩

/-- `status IN ('free', 'reserved') AND (device_id IS NULL OR device_id = d)` -/
def reservable (d : Uuid) (row : PortAllocation) : Bool :=
  (row.status == .free || row.status == .reserved) &&
    (row.deviceId == none || row.deviceId == some d)

def OwnedBy (row : PortAllocation) (device session : Uuid) : Prop :=
  row.status = .allocated ∧ row.deviceId = some device ∧ row.sessionId = some session

instance (row : PortAllocation) (device session : Uuid) : Decidable (row.OwnedBy device session) :=
  inferInstanceAs (Decidable (_ ∧ _ ∧ _))

end PortAllocation

structure HourlyStatistics where
  deviceId : Uuid
  periodStart : ℕ
  periodEnd : ℕ
  bytesSent : ℕ
  bytesReceived : ℕ
  connectionCount : ℕ
  peakConnections : ℕ
  deriving DecidableEq, Repr

structure TrafficSample where
  deviceId : Uuid
  sessionId : Uuid
  recordedAt : ℕ
  bytesSentDelta : ℕ
  bytesReceivedDelta : ℕ
  activeConnections : ℕ
  deriving DecidableEq, Repr

/-- `ports` is keyed by the port; the rows are those of 6000..7000. -/
structure Db where
  devices : List Device
  sessions : List Session
  ports : ℕ → PortAllocation
  statistics : List HourlyStatistics
  samples : List TrafficSample
  now : ℕ

def inPool (port : ℕ) : Bool := 6000 ≤ port && port ≤ 7000

def updatePorts (cond : ℕ → PortAllocation → Bool) (set : PortAllocation) (db : Db) : Db :=
  { db with
    ports := updateKeyed (fun port row => inPool port && cond port row) (fun _ _ => set) db.ports }

/-- `device_authenticate` and the `dev` subquery of `register_device_session`. -/
def DeviceStatus.admitted (status : DeviceStatus) : Bool :=
  status == .active || status == .pending || status == .connecting

def freeDevicePort (port : ℕ) (db : Db) : Db :=
  updatePorts (fun p row => p == port && (row.status == .allocated || row.status == .reserved))
    .free db

def releaseDevicePortReservation (device : Uuid) (inputPort : Option ℕ) (db : Db) : Db :=
  updatePorts (fun p row => row.deviceId == some device && row.status == .reserved &&
    match inputPort with
    | none => true
    | some port => p == port || p == port + 1) .free db

def reserveDevicePortPair (device : Uuid) (inputPort : Option ℕ) (db : Db) : Db × Bool :=
  match inputPort with
  | none => (releaseDevicePortReservation device none db, true)
  | some port =>
    if port < 6000 || port > 6998 || port % 2 != 0 then (db, false)
    else if db.devices.any fun d => d.preferredPort == some port && d.id != device then (db, false)
    else
      let released := releaseDevicePortReservation device none db
      if [port, port + 1].countP (fun p => (released.ports p).reservable device) < 2 then
        (released, false)
      else
        (updatePorts (fun p row => (p == port || p == port + 1) && row.reservable device)
          (.reserved device db.now) released, true)

/-- Migration 005: a pair that some device prefers goes back to that device's reservation. -/
def freeDevicePortPair (port : ℕ) (db : Db) : Db :=
  let pinned := db.devices.find? fun d => d.preferredPort == some port
  let freed := freeDevicePort (port + 1) (freeDevicePort port db)
  match pinned with
  | none => freed
  | some d => (reserveDevicePortPair d.id d.preferredPort freed).1

def freeDevicePortPairs (ports : List ℕ) (db : Db) : Db :=
  ports.foldl (fun db port => freeDevicePortPair port db) db

def deviceRow (deviceId : String) (db : Db) : Option Device :=
  db.devices.find? fun d => d.deviceId == deviceId

/-- `JOIN devices d ON ds.device_id = d.id WHERE d.device_id = $1` -/
def sessionOf (deviceId : String) (db : Db) (s : Session) : Bool :=
  db.devices.any fun d => d.id == s.deviceId && d.deviceId == deviceId

def Session.live (now : ℕ) (s : Session) : Bool := s.status == .active && now ≤ s.expiresAt

def cleanupDeviceSessions (deviceId : String) (db : Db) : Db :=
  let hit := fun s : Session => sessionOf deviceId db s && s.status == .active
  let ports := (db.sessions.filter hit).map (·.assignedPort)
  let expired := { db with
    sessions := updateRows hit (fun s => { s with status := .expired, expiresAt := db.now })
      db.sessions }
  let freed := freeDevicePortPairs ports expired
  { freed with
    devices := updateRows
      (fun d => d.deviceId == deviceId &&
        !freed.sessions.any fun s => s.deviceId == d.id && s.live freed.now)
      (fun d => { d with assignedPort := none }) freed.devices }

def Session.overdue (now : ℕ) (s : Session) : Bool := s.expiresAt < now && s.status == .active

def cleanupExpiredSessions (db : Db) : Db :=
  let ports := (db.sessions.filter (·.overdue db.now)).map (·.assignedPort)
  let freed := freeDevicePortPairs ports db
  let expired := { freed with
    sessions := updateRows (·.overdue freed.now) (fun s => { s with status := .expired })
      freed.sessions }
  let released := updatePorts (fun p row => row.status == .allocated &&
      !expired.sessions.any fun s =>
        s.live expired.now && (p == s.assignedPort || p == s.assignedPort + 1))
    .free expired
  { released with
    devices := updateRows
      (fun d => d.status == .active &&
        !released.sessions.any fun s => s.deviceId == d.id && s.live released.now)
      (fun d => { d with status := .inactive, assignedPort := none }) released.devices }

/-- One row of the join that `pair` selects from in `register_device_session`. -/
def pairAvailable (dev : Device) (db : Db) (port : ℕ) : Bool :=
  let pa1 := db.ports port
  let pa2 := db.ports (port + 1)
  let lapsed := fun row : PortAllocation => row.expiresAt.all (· ≤ db.now)
  let joined := match dev.preferredPort with
    | none => pa1.status == .free && pa1.deviceId == none && pa2.status == .free &&
        pa2.deviceId == none
    | some preferred => port == preferred && pa1.reservable dev.id && pa2.reservable dev.id
  joined && 6000 ≤ port && port < 7000 && port % 2 == 0 && lapsed pa1 && lapsed pa2

def findPair (dev : Device) (db : Db) : Option ℕ :=
  (List.range' 6000 1001).find? (pairAvailable dev db)

/-- The statement of `register_device_session` that selects a pair, inserts the session and
allocates both rows. It fails on a session id or token that is already there and returns
no row when the device is not admitted or no pair is available. -/
def registerSession (deviceId token : String) (timeout : ℕ) (sessionId : Uuid) (db : Db) :
    Option (Db × Option (ℕ × ℕ)) :=
  match db.devices.find? fun d => d.deviceId == deviceId && d.status.admitted with
  | none => some (db, none)
  | some dev =>
    match findPair dev db with
    | none => some (db, none)
    | some port =>
      if db.sessions.any fun s => s.id == sessionId || s.sessionToken == token then none
      else
        let inserted := { db with
          sessions := db.sessions ++ [{
            id := sessionId, deviceId := dev.id, sessionToken := token, assignedPort := port,
            startedAt := db.now, expiresAt := db.now + timeout, bytesSent := 0,
            bytesReceived := 0, activeConnections := 0, status := .active }] }
        some (updatePorts (fun p _ => p == port || p == port + 1)
          (.allocated dev.id sessionId db.now (db.now + timeout)) inserted, some (port, port + 1))

def setRegistered (deviceId : String) (port : ℕ) (db : Db) : Db :=
  { db with
    devices := updateRows (fun d => d.deviceId == deviceId)
      (fun d => { d with assignedPort := some port, status := .active }) db.devices }

/-- `WHERE session_token = $1 AND status = 'active'` -/
def Session.named (token : String) (s : Session) : Bool :=
  s.sessionToken == token && s.status == .active

def activeSession (token : String) (db : Db) : Option Session := db.sessions.find? (·.named token)

/-- The first statement of `update_device_heartbeat`, with the number of rows it updated. -/
def touchSession (token : String) (timeout : ℕ) (db : Db) : Db × ℕ :=
  ({ db with
      sessions := updateRows (·.named token) (fun s => { s with expiresAt := db.now + timeout })
        db.sessions },
    db.sessions.countP (·.named token))

/-- `WHERE id = (SELECT device_id FROM device_sessions WHERE … AND status = 'active')` -/
def ownsToken (token : String) (db : Db) (d : Device) : Bool :=
  (activeSession token db).any (·.deviceId == d.id)

/-- The second statement of `update_device_heartbeat`. -/
def touchDevice (token : String) (db : Db) : Db :=
  { db with
    devices := updateRows (ownsToken token db)
      (fun d => { d with lastHeartbeat := some db.now, status := .active }) db.devices }

/-- The query of `get_session_by_token`. -/
def sessionByToken (token : String) (db : Db) : Option (Session × Device) :=
  (activeSession token db).bind fun s => (db.devices.find? (·.id == s.deviceId)).map (s, ·)

/-- Casts and sums of `bigint` and `integer` columns fail the statement on overflow. -/
def bigint (n : ℕ) : Option ℕ := if n < 2 ^ 63 then some n else none

def integer (n : ℕ) : Option ℕ := if n < 2 ^ 31 then some n else none

theorem bigint_eq_some {n m : ℕ} : bigint n = some m ↔ n < 2 ^ 63 ∧ m = n := by
  unfold bigint
  split <;> simp only [Option.some.injEq, reduceCtorEq, false_iff] <;> omega

theorem integer_eq_some {n m : ℕ} : integer n = some m ↔ n < 2 ^ 31 ∧ m = n := by
  unfold integer
  split <;> simp only [Option.some.injEq, reduceCtorEq, false_iff] <;> omega

/-- The first statement of `update_device_statistics`. -/
def addSessionTraffic (token : String) (sent received connections : ℕ) (db : Db) : Option Db := do
  let sent ← bigint sent
  let received ← bigint received
  let connections ← integer connections
  if db.sessions.all fun s => !s.named token ||
      ((bigint (s.bytesSent + sent)).isSome && (bigint (s.bytesReceived + received)).isSome) then
    some { db with
      sessions := updateRows (·.named token)
        (fun s => { s with
          bytesSent := s.bytesSent + sent
          bytesReceived := s.bytesReceived + received
          activeConnections := connections }) db.sessions }
  else none

theorem addSessionTraffic_spec {token : String} {sent received connections : ℕ} {db db' : Db}
    (h : addSessionTraffic token sent received connections db = some db') :
    (sent < 2 ^ 63 ∧ received < 2 ^ 63 ∧ connections < 2 ^ 31) ∧ db' = { db with
      sessions := updateRows (·.named token)
        (fun s => { s with
          bytesSent := s.bytesSent + sent
          bytesReceived := s.bytesReceived + received
          activeConnections := connections }) db.sessions } := by
  simp only [addSessionTraffic, Option.bind_eq_bind, Option.bind_eq_some_iff, bigint_eq_some,
    integer_eq_some] at h
  obtain ⟨_, ⟨hs, rfl⟩, _, ⟨hr, rfl⟩, _, ⟨hc, rfl⟩, h⟩ := h
  split at h
  · exact ⟨⟨hs, hr, hc⟩, (Option.some.inj h).symm⟩
  · exact absurd h (by simp)

/-- The second statement of `update_device_statistics`. -/
def addDeviceTotals (token : String) (sent received : ℕ) (db : Db) : Option Db := do
  let sent ← bigint sent
  let received ← bigint received
  if db.devices.all fun d => !ownsToken token db d ||
      ((bigint (d.totalBytesSent + sent)).isSome &&
        (bigint (d.totalBytesReceived + received)).isSome) then
    some { db with
      devices := updateRows (ownsToken token db)
        (fun d => { d with
          totalBytesSent := d.totalBytesSent + sent
          totalBytesReceived := d.totalBytesReceived + received }) db.devices }
  else none

theorem addDeviceTotals_spec {token : String} {sent received : ℕ} {db db' : Db}
    (h : addDeviceTotals token sent received db = some db') :
    (sent < 2 ^ 63 ∧ received < 2 ^ 63) ∧ db' = { db with
      devices := updateRows (ownsToken token db)
        (fun d => { d with
          totalBytesSent := d.totalBytesSent + sent
          totalBytesReceived := d.totalBytesReceived + received }) db.devices } := by
  simp only [addDeviceTotals, Option.bind_eq_bind, Option.bind_eq_some_iff, bigint_eq_some] at h
  obtain ⟨_, ⟨hs, rfl⟩, _, ⟨hr, rfl⟩, h⟩ := h
  split at h
  · exact ⟨⟨hs, hr⟩, (Option.some.inj h).symm⟩
  · exact absurd h (by simp)

/-- The insert of `record_device_traffic_sample`. -/
def insertSample (token : String) (sent received connections : ℕ) (db : Db) : Option Db := do
  let sent ← bigint sent
  let received ← bigint received
  let connections ← integer connections
  some { db with samples := db.samples ++ (db.sessions.filter (·.named token)).map fun s =>
    { deviceId := s.deviceId, sessionId := s.id, recordedAt := db.now, bytesSentDelta := sent,
      bytesReceivedDelta := received, activeConnections := connections } }

theorem insertSample_spec {token : String} {sent received connections : ℕ} {db db' : Db}
    (h : insertSample token sent received connections db = some db') :
    (sent < 2 ^ 63 ∧ received < 2 ^ 63 ∧ connections < 2 ^ 31) ∧ db' = { db with
      samples := db.samples ++ (db.sessions.filter (·.named token)).map fun s =>
        { deviceId := s.deviceId, sessionId := s.id, recordedAt := db.now, bytesSentDelta := sent,
          bytesReceivedDelta := received, activeConnections := connections } } := by
  simp only [insertSample, Option.bind_eq_bind, Option.bind_eq_some_iff, bigint_eq_some,
    integer_eq_some, Option.some.injEq] at h
  obtain ⟨_, ⟨hs, rfl⟩, _, ⟨hr, rfl⟩, _, ⟨hc, rfl⟩, h⟩ := h
  exact ⟨⟨hs, hr, hc⟩, h.symm⟩

/-- `DELETE FROM device_traffic_samples WHERE recorded_at < NOW() - interval '8 days'` -/
def deleteOldSamples (db : Db) : Db :=
  { db with samples := db.samples.filter fun r => !(r.recordedAt + 8 * 86400 < db.now : Bool) }

def hourStart (now : ℕ) : ℕ := now / 3600 * 3600

/-- The upsert of `aggregate_device_hourly_statistics`. -/
def upsertHourly (token : String) (sent received connections : ℕ) (db : Db) : Option Db := do
  let sent ← bigint sent
  let received ← bigint received
  let connections ← integer connections
  match activeSession token db with
  | none => some db
  | some s =>
    let conflicts := fun r : HourlyStatistics =>
      r.deviceId == s.deviceId && r.periodStart == hourStart db.now
    if db.statistics.any conflicts then
      if db.statistics.all fun r => !conflicts r ||
          ((bigint (r.bytesSent + sent)).isSome && (bigint (r.bytesReceived + received)).isSome) then
        some { db with
          statistics := updateRows conflicts
            (fun r => { r with
              bytesSent := r.bytesSent + sent
              bytesReceived := r.bytesReceived + received
              peakConnections := max r.peakConnections connections
              periodEnd := hourStart db.now + 3600 }) db.statistics }
      else none
    else
      some { db with statistics := db.statistics ++ [{
        deviceId := s.deviceId, periodStart := hourStart db.now,
        periodEnd := hourStart db.now + 3600, bytesSent := sent, bytesReceived := received,
        connectionCount := 1, peakConnections := connections }] }

theorem upsertHourly_statistics_only {token : String} {sent received connections : ℕ} {db db' : Db}
    (h : upsertHourly token sent received connections db = some db') :
    ∃ statistics, db' = { db with statistics := statistics } := by
  simp only [upsertHourly, Option.bind_eq_bind, Option.bind_eq_some_iff] at h
  obtain ⟨_, _, _, _, _, _, h⟩ := h
  split at h
  · exact ⟨_, (Option.some.inj h).symm⟩
  · split at h
    · split at h
      · exact ⟨_, (Option.some.inj h).symm⟩
      · exact absurd h (by simp)
    · exact ⟨_, (Option.some.inj h).symm⟩

/-- The update of `terminate_device_session`. -/
def terminateSession (token : String) (db : Db) : Db :=
  { db with
    sessions := updateRows (·.named token)
      (fun s => { s with status := .terminated, expiresAt := db.now }) db.sessions }

/-- The statements of `terminate_device_by_device_id`, in its order. -/
def activeSessionsOf (deviceId : String) (db : Db) : List Session :=
  db.sessions.filter fun s => sessionOf deviceId db s && s.status == .active

def terminateSessionsOf (deviceId : String) (db : Db) : Db :=
  { db with
    sessions := updateRows
      (fun s => (deviceRow deviceId db).any (·.id == s.deviceId) && s.status == .active)
      (fun s => { s with status := .terminated, expiresAt := db.now }) db.sessions }

def sessionPortsOf (deviceId : String) (db : Db) : List ℕ :=
  (db.sessions.filter (sessionOf deviceId db)).map (·.assignedPort)

def freeSessionPairsOf (deviceId : String) (db : Db) : Db :=
  freeDevicePortPairs (sessionPortsOf deviceId db) db

def deactivateDevice (deviceId : String) (db : Db) : Db :=
  { db with
    devices := updateRows (fun d => d.deviceId == deviceId)
      (fun d => { d with status := .inactive, assignedPort := none }) db.devices }

end DeviceTables
