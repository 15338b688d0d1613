import Mathlib.Data.List.MinMax
import Mathlib.Data.Rat.Defs
import Mathlib.Algebra.Order.Ring.Rat
import NetPort.DeviceService
import NetPort.PairedRuns
import NetPort.RealtimeChannels

/-! The device requests of a user as the backend serves them: the hooks and the service methods,
and the routes beside them. What a request reads of the tables is in its reply. -/
namespace DeviceRequests

open PairedRuns SqlUpdate DeviceTables BackendDisconnect
open DeviceManager (Json)
open DeviceService (NewDevice Drawn orElse normalizePreferredPort validateDeviceId
  validateDeviceType deviceData conflict unavailable WellKeyed)

/-- The other columns of `devices`. -/
structure Row extends Device where
  description : Option String
  protocol : String
  capabilities : Json
  metadata : Json
  createdAt : ℕ
  updatedAt : ℕ

structure SessionRow extends DeviceTables.Session where
  lastActivity : Option ℕ
  deriving DecidableEq, Repr

structure Tables where
  users : List RealtimeChannels.User
  devices : List Row
  sessions : List SessionRow
  ports : ℕ → PortAllocation
  statistics : List HourlyStatistics
  samples : List TrafficSample
  now : ℕ
  /-- What has been sent to the control server, whose reply is only logged -/
  commands : List (String × String)

def Tables.db (t : Tables) : Db :=
  ⟨t.devices.map Row.toDevice, t.sessions.map SessionRow.toSession, t.ports, t.statistics,
    t.samples, t.now⟩

def Tables.onPorts (f : Db → Db) (t : Tables) : Tables := { t with ports := (f t.db).ports }

inductive Failure where
  | service (failure : BackendDisconnect.Failure)
  | invalidUuid (text : String)
  | duplicateKey
  | refusedRow (row : Row)
  | refusedPort
  /-- A statement that no tables would accept. -/
  | badStatement (text : String)

def thrown (message : String) : Failure := .service (.thrown message)

def notFound : Failure := thrown "Device not found"

def denied : Failure := thrown "Permission denied"

/-- The columns of the join with `users` and the latest session. -/
structure Joined extends Row where
  ownerUsername : Option String
  sessionPort : Option ℕ
  lastActivity : Option ℕ
  activeConnections : Option ℕ
  bytesSent : Option ℕ
  bytesReceived : Option ℕ
  online : Bool

/-- What PostgreSQL and JavaScript make of values. -/
structure Platform where
  /-- The cast of a text to `uuid` -/
  uuid : String → Option Uuid
  /-- `Number(value)` where that is an integer -/
  integer : Json → Option ℤ
  /-- `Number(value)` where that is a number -/
  rational : Json → Option ℚ
  text : Json → String
  /-- `column = value` -/
  equals : Json → Except Failure (String → Bool)
  /-- `column ILIKE pattern` -/
  ilike : String → String → Bool
  limit : Json → Except Failure ℕ
  offset : Json → Except Failure ℕ
  /-- `ORDER BY column` on the rows of the join, ascending or not -/
  orderBy : Option String → Bool → Except Failure (List Joined → List Joined)
  collate : String → String → Bool
  /-- The constraints of a row of `devices` that do not look at other rows -/
  check : Row → Bool

structure SessionSummary where
  assignedPort : ℕ
  lastActivity : Option ℕ
  activeConnections : ℕ
  bytesSent : ℕ
  bytesReceived : ℕ
  deriving DecidableEq, Repr

structure Detail where
  device : Joined
  ownerEmail : Option String
  session : Option SessionSummary

structure SummaryRow where
  id : Uuid
  deviceId : String
  name : String
  status : DeviceStatus
  type : String
  userId : Option ℕ
  ownerUsername : Option String
  lastHeartbeat : Option ℕ
  assignedPort : Option ℕ
  preferredPort : Option ℕ
  totalBytesSent : ℕ
  totalBytesReceived : ℕ
  sessionPort : Option ℕ
  bytesSent : ℕ
  bytesReceived : ℕ
  activeConnections : ℕ
  hourlyBytesSent : ℕ
  hourlyBytesReceived : ℕ
  todayBytesSent : ℕ
  todayBytesReceived : ℕ
  yesterdayBytesSent : ℕ
  yesterdayBytesReceived : ℕ
  peakConnections : ℕ
  avgSendSpeed : ℚ
  avgReceiveSpeed : ℚ
  online : Bool
  lastActivity : Option ℕ

structure Statistics where
  id : Uuid
  deviceId : String
  name : String
  status : DeviceStatus
  lastHeartbeat : Option ℕ
  assignedPort : Option ℕ
  internalPort : Option ℕ
  periodHours : ℚ
  totalBytesSent : ℕ
  totalBytesReceived : ℕ
  peakConnections : ℕ
  avgSendSpeed : ℚ
  avgReceiveSpeed : ℚ
  currentSession : Option (SessionSummary × ℕ)
  samples : List TrafficSample
  history : List HourlyStatistics

inductive Reply where
  | page (data : List Joined) (limit skip : Json) (total : ℕ)
  | device (device : Detail)
  | created (row : Row) (authToken : String)
  | message (message : String)
  /-- `control_port` and `port_range` are those of `connect`. -/
  | connection (message deviceId : String) (status : DeviceStatus)
      (ports : Option (ℕ × String)) (device : Option Joined)
  | restarted (message deviceId : String) (status : DeviceStatus)
  | ping (deviceId : String) (online : Bool) (lastSeen : Option ℕ) (status : DeviceStatus)
  | summary (rows : List SummaryRow)
  | statistics (statistics : Statistics)

abbrev Service := Run Tables Failure

/-- `create`, with what the service draws for it. -/
structure CreateData extends NewDevice where
  description : Option String
  protocol : Option String
  capabilities : Option Json
  metadata : Option Json

structure UpdateData where
  preferredPort : Option Json
  deviceId : Option String
  type : Option String
  internalPort : Option Json
  enableInputSsl : Option Bool
  enableTunnelSsl : Option Bool
  /-- What the keys besides these write, unless one of them names no column. -/
  columns : Except Failure (Row → Row)

inductive Request where
  | find (query : Json)
  | get (id : String)
  | create (data : CreateData) (drawn : Drawn) (authToken : String)
  | update (id : Option String) (data : UpdateData)
  | patch (id : Option String) (data : UpdateData)
  | remove (id : Option String)
  | connect (id : String)
  | disconnect (id : String)
  | restart (id : String)
  | ping (id : String)
  | statistics (key : String) (hours : Option Json)
  | statisticsSummary (query : Json)
  | statisticsReset (key : String)

section Rows

/-- `status = 'active' AND expires_at > NOW()` -/
def liveSessions (id : Uuid) (t : Tables) : List SessionRow :=
  t.sessions.filter fun s => s.deviceId == id && s.status == .active && t.now < s.expiresAt

/-- `DISTINCT ON (device_id)`, by `started_at` -/
def latestSession (id : Uuid) (t : Tables) : Option SessionRow :=
  (liveSessions id t).argmax (·.startedAt)

def ownerOf (row : Row) (t : Tables) : Option RealtimeChannels.User :=
  row.userId.bind fun id => t.users.find? (·.id == id)

def joined (t : Tables) (row : Row) : Joined :=
  let session := latestSession row.id t
  { row with
    ownerUsername := (ownerOf row t).bind (·.username)
    sessionPort := session.map (·.assignedPort)
    lastActivity := session.bind (·.lastActivity)
    activeConnections := session.map (·.activeConnections)
    bytesSent := session.map (·.bytesSent)
    bytesReceived := session.map (·.bytesReceived)
    online := false }

def recent (now : ℕ) (lastHeartbeat : Option ℕ) : Bool := lastHeartbeat.any (now < · + 120)

def enrichDeviceWithOnline (now : ℕ) (device : Joined) : Joined :=
  let online := recent now device.lastHeartbeat
  let hasLiveSession := device.sessionPort.isSome || device.lastActivity.isSome ||
    device.activeConnections.isSome
  { device with
    online := online
    status := if device.status == .connecting && online && hasLiveSession then .active
      else device.status }

def broadcastDeviceById (id : Uuid) (t : Tables) : Option Joined :=
  (t.devices.find? (·.id == id)).map fun row => enrichDeviceWithOnline t.now (joined t row)

def sessionSummary (s : SessionRow) : SessionSummary :=
  ⟨s.assignedPort, s.lastActivity, s.activeConnections, s.bytesSent, s.bytesReceived⟩

/-- `get` joins no session, and reads one afterwards. -/
def detail (row : Row) (t : Tables) : Detail :=
  { device := enrichDeviceWithOnline t.now { row with
      ownerUsername := (ownerOf row t).bind (·.username), sessionPort := none, lastActivity := none,
      activeConnections := none, bytesSent := none, bytesReceived := none, online := false }
    ownerEmail := (ownerOf row t).bind (·.email)
    session := (liveSessions row.id t).head?.map sessionSummary }

/-- `WHERE id = $1`; without an id it is `WHERE id IS NULL`. -/
def deviceById (pf : Platform) (id : Option String) : Service (Option Row) :=
  match id with
  | none => pure none
  | some text =>
    match pf.uuid text with
    | none => .fail (.invalidUuid text)
    | some id => .read fun t => t.devices.find? (·.id == id)

def withDevice {α : Type} (pf : Platform) (user : User) (id : Option String)
    (f : Row → Service α) : Service α := do
  match ← deviceById pf id with
  | none => .fail notFound
  | some row => if canAccessDevice user row.toDevice then f row else .fail denied

/-- The hook before `get`, `update`, `patch` and `remove`. -/
def permitted (pf : Platform) (user : User) (id : Option String) : Service Unit :=
  if isAdminUser user then pure () else withDevice pf user id fun _ => pure ()

def putDevices (pf : Platform) (row : Row) (rows : List Row → List Row) : Service Unit :=
  if !pf.check row then .fail (.refusedRow row)
  else do
    let devices ← Run.read fun t => rows t.devices
    if WellKeyed (devices.map Row.toDevice) then .write fun t => { t with devices := devices }
    else .fail .duplicateKey

def setStatus (id : Uuid) (status : DeviceStatus) (t : Tables) : Tables :=
  { t with
    devices := updateRows (·.id == id) (fun d => { d with status := status, updatedAt := t.now })
      t.devices }

def sendDeviceControlCommand (deviceId action : String) : Service Unit :=
  .write fun t => { t with commands := t.commands ++ [(deviceId, action)] }

def reservePreferredPort (id : Uuid) : Option ℕ → Service Unit
  | none => pure ()
  | some port => do
    let reserved ← Run.read fun t => (reserveDevicePortPair id (some port) t.db).2
    Run.write (Tables.onPorts fun db => (reserveDevicePortPair id (some port) db).1)
    if reserved then pure () else .fail (.service unavailable)

def releasePreferredPort (id : Uuid) : Option ℕ → Service Unit
  | none => pure ()
  | some port => .write (Tables.onPorts (releaseDevicePortReservation id (some port)))

end Rows

section Values

/-- `if (value)`; a number is zero when its digits are. -/
def truthy : Json → Bool
  | .null => false
  | .bool b => b
  | .integer n => n != 0
  | .real text => (text.toList.takeWhile fun c => c != 'e' && c != 'E').any
      fun c => '1' ≤ c && c ≤ '9'
  | .string s => s != ""
  | .array _ | .object _ => true

def notNull : Json → Bool
  | .null => false
  | _ => true

def isOne : Json → Bool
  | .integer n => n == 1
  | _ => false

/-- `Object.entries` -/
def entries : Json → List (String × Json)
  | .object fields => fields
  | .array items => items.zipIdx.map fun p => (toString p.2, p.1)
  | .string s => s.toList.zipIdx.map fun p => (toString p.2, .string (toString p.1))
  | _ => []

def dropKey (key : String) : Json → Json
  | .object fields => .object (fields.filter (·.1 != key))
  | json => json

def given (key : String) (query : Json) : Option Json := (query.get key).filter truthy

def checked {α : Type} (r : Except BackendDisconnect.Failure α) : Service α :=
  .lift (r.mapError .service)

def checkedPort (pf : Platform) : Option Json → Service (Option (Option ℕ))
  | none => pure none
  | some value => do return some (← checked (normalizePreferredPort pf.integer value))

def validateInternalPort (pf : Platform) : Option Json → Service (Option (Option ℕ))
  | none => pure none
  | some .null | some (.string "") => pure (some none)
  | some value =>
    match pf.integer value with
    | some port =>
      if port < 1 ∨ port > 65535 then
        .fail (thrown "internal_port must be an integer between 1 and 65535")
      else pure (some (some port.toNat))
    | none => .fail (thrown "internal_port must be an integer between 1 and 65535")

def statusText : DeviceStatus → String
  | .active => "active"
  | .inactive => "inactive"
  | .pending => "pending"
  | .blocked => "blocked"
  | .connecting => "connecting"
  | .restarting => "restarting"
  | .error => "error"

end Values

section Methods

/-- The hook before `find`. -/
def findHook (user : User) (query : Json) : Json :=
  if !isAdminUser user && (query.get "user_id").any notNull then dropKey "user_id" query else query

def applyDeviceOwnershipFilter (user : User) (row : Row) : Bool :=
  isAdminUser user || row.userId == some user.id

def columnFilter (pf : Platform) : Option Json → Except Failure (String → Bool)
  | none => .ok fun _ => true
  | some value => pf.equals value

def ownerFilter (pf : Platform) (user : User) : Option Json → Except Failure (Row → Bool)
  | none => .ok (applyDeviceOwnershipFilter user)
  | some id => (pf.equals id).map fun is row => row.userId.any fun id => is (toString id)

def searchFilter (pf : Platform) : Option Json → Row → Bool
  | none, _ => true
  | some search, row =>
    let pattern := "%" ++ pf.text search ++ "%"
    pf.ilike row.deviceId pattern || pf.ilike row.name pattern ||
      row.description.any (pf.ilike · pattern)

/-- The `WHERE` of both queries of `find`. -/
def deviceFilter (pf : Platform) (user : User) (query : Json) : Except Failure (Row → Bool) := do
  let status ← columnFilter pf (given "status" query)
  let type ← columnFilter pf (given "type" query)
  let owner ← ownerFilter pf user (given "user_id" query)
  return fun row => owner row && status (statusText row.status) && type row.type &&
    searchFilter pf (given "search" query) row

def limitOf (query : Json) : Json := (given "$limit" query).getD (.integer 50)

def skipOf (query : Json) : Json := (given "$skip" query).getD (.integer 0)

def sortTerm (query : Json) : Option String × Bool :=
  match given "$sort" query with
  | none => (some "created_at", false)
  | some sort =>
    match (entries sort).head? with
    | none => (none, false)
    | some (field, order) => (some field, isOne order)

def paging (pf : Platform) (query : Json) : Except Failure (List Joined → List Joined) := do
  let limit ← pf.limit (limitOf query)
  let skip ← pf.offset (skipOf query)
  let order ← pf.orderBy (sortTerm query).1 (sortTerm query).2
  return fun rows => ((order rows).drop skip).take limit

def find (pf : Platform) (user : User) (query : Json) : Service Reply := do
  let query := findHook user query
  let keep ← Run.lift (deviceFilter pf user query)
  let page ← Run.lift (paging pf query)
  let devices ← Run.read fun t =>
    (page ((t.devices.filter keep).map (joined t))).map (enrichDeviceWithOnline t.now)
  let total ← Run.read fun t => t.devices.countP keep
  return .page devices (limitOf query) (skipOf query) total

/-- `get` of the service. The hook after it sets the same session again. -/
def readDevice (pf : Platform) (id : Option String) : Service Reply := do
  match ← deviceById pf id with
  | none => .fail notFound
  | some row => do return .device (← Run.read (detail row))

def get (pf : Platform) (user : User) (id : String) : Service Reply := do
  permitted pf user (some id)
  readDevice pf (some id)

def assertDeviceIdAvailable (deviceId : String) : Service Unit := do
  let taken ← Run.read fun t => t.devices.any (·.deviceId == deviceId)
  if deviceId != "" && taken then .fail (.service (conflict deviceId)) else pure ()

def checkDeviceId (deviceId : String) : Service Unit :=
  if deviceId = "" then pure () else checked (validateDeviceId deviceId)

def newRow (user : User) (data : CreateData) (drawn : Drawn) (preferredPort : Option ℕ) (now : ℕ) :
    Row :=
  { deviceData user data.toNewDevice drawn preferredPort with
    description := some (orElse data.description "")
    protocol := orElse data.protocol "tcp"
    capabilities := (data.capabilities.filter truthy).getD (.array [.string "tcp"])
    metadata := (data.metadata.filter truthy).getD (.object [])
    createdAt := now
    updatedAt := now }

def create (pf : Platform) (user : User) (data : CreateData) (drawn : Drawn) (authToken : String) :
    Service Reply := do
  let preferredPort ← checkedPort pf data.preferredPort
  checkDeviceId (orElse data.deviceId "")
  assertDeviceIdAvailable (orElse data.deviceId "")
  checked (validateDeviceType (orElse data.type "iot_gateway"))
  let now ← Run.read fun t => t.now
  let row := newRow user data drawn (preferredPort.getD none) now
  assertDeviceIdAvailable row.deviceId
  putDevices pf row (· ++ [row])
  reservePreferredPort row.id row.preferredPort
  return .created { row with authTokenHash := "" } authToken

def changePreferredPort (device : Row) : Option (Option ℕ) → Service Unit
  | none => pure ()
  | some preferredPort =>
    if preferredPort = device.preferredPort then pure ()
    else do
      let session ← Run.read fun t => (liveSessions device.id t).head?
      if session.isSome then
        .fail (thrown "Cannot change fixed port while device has an active session")
      else do
        releasePreferredPort device.id device.preferredPort
        reservePreferredPort device.id preferredPort

def updatedRow (user : User) (data : UpdateData) (columns : Row → Row)
    (preferredPort internalPort : Option (Option ℕ)) (now : ℕ) (device : Row) : Row :=
  let row := columns device
  { row with
    id := device.id
    deviceId := device.deviceId
    authTokenHash := device.authTokenHash
    userId := if isAdminUser user then row.userId else device.userId
    type := data.type.getD row.type
    preferredPort := preferredPort.getD device.preferredPort
    internalPort := internalPort.getD row.internalPort
    enableInputSsl := data.enableInputSsl.getD row.enableInputSsl
    enableTunnelSsl := data.enableTunnelSsl.getD row.enableTunnelSsl
    updatedAt := now }

def sslChanged (data : UpdateData) (device : Row) : Bool :=
  data.enableInputSsl.any (· != device.enableInputSsl) ||
    data.enableTunnelSsl.any (· != device.enableTunnelSsl)

def reloadTls (data : UpdateData) (device : Row) : Service Unit := do
  let session ← Run.read fun t => (liveSessions device.id t).head?
  if sslChanged data device && session.isSome then
    sendDeviceControlCommand device.deviceId "reload_tls"
  else pure ()

/-- `patch` is the same method behind the same hook. -/
def update (pf : Platform) (user : User) (id : Option String) (data : UpdateData) :
    Service Reply := do
  permitted pf user id
  let preferredPort ← checkedPort pf data.preferredPort
  checkDeviceId (orElse data.deviceId "")
  checked (validateDeviceType (data.type.getD "iot_gateway"))
  let internalPort ← validateInternalPort pf data.internalPort
  withDevice pf user id fun device => do
    changePreferredPort device preferredPort
    let columns ← Run.lift data.columns
    let now ← Run.read fun t => t.now
    let changed := updatedRow user data columns preferredPort internalPort now
    putDevices pf (changed device) (updateRows (·.id == device.id) changed)
    reloadTls data device
    readDevice pf id

/-- `ON DELETE SET NULL` would leave a port row that its CHECK refuses. -/
def keepsPorts (id : Uuid) (t : Tables) : Bool :=
  (List.range' 6000 1001).any fun q => (t.ports q).deviceId == some id ||
    t.sessions.any fun s => s.deviceId == id && (t.ports q).sessionId == some s.id

def deleteDevice (id : Uuid) : Service Unit := do
  let refused ← Run.read (keepsPorts id)
  if refused then .fail .refusedPort
  else
    .write fun t => { t with
      devices := t.devices.filter (·.id != id)
      sessions := t.sessions.filter (·.deviceId != id)
      statistics := t.statistics.filter (·.deviceId != id)
      samples := t.samples.filter (·.deviceId != id) }

def remove (pf : Platform) (user : User) (id : Option String) : Service Reply := do
  permitted pf user id
  withDevice pf user id fun device => do
    releasePreferredPort device.id device.preferredPort
    deleteDevice device.id
    return .message "Device deleted successfully"

def connect (pf : Platform) (user : User) (id : String) : Service Reply :=
  withDevice pf user (some id) fun device => do
    let connected ← Run.read fun t =>
      (latestSession device.id t).isSome && recent t.now device.lastHeartbeat
    let status : DeviceStatus := if connected then .active else .connecting
    Run.write (setStatus device.id status)
    let updated ← Run.read (broadcastDeviceById device.id)
    let message := if connected then "Device is already connected."
      else "Device enabled for connection. Start the client with device credentials."
    return .connection message device.deviceId status (some (8443, "6000-7000")) updated

def activePorts (id : Uuid) (t : Tables) : List ℕ :=
  (t.sessions.filter fun s => s.deviceId == id && s.status == .active).map (·.assignedPort)

def deactivate (id : Uuid) (t : Tables) : Tables :=
  { t with
    devices := updateRows (·.id == id)
      (fun d => { d with status := .inactive, assignedPort := none, updatedAt := t.now })
      t.devices }

def terminateSessions (id : Uuid) (t : Tables) : Tables :=
  { t with
    sessions := updateRows (fun s => s.deviceId == id && s.status == .active)
      (fun s => { s with status := .terminated }) t.sessions }

def disconnect (pf : Platform) (user : User) (id : String) : Service Reply :=
  withDevice pf user (some id) fun device => do
    let ports ← Run.read (activePorts device.id)
    Run.write (deactivate device.id)
    sendDeviceControlCommand device.deviceId "disconnect"
    Run.write (terminateSessions device.id)
    (ports.filter (· != 0)).forM fun port => Run.write (Tables.onPorts (freeDevicePortPair port))
    reservePreferredPort device.id device.preferredPort
    let updated ← Run.read (broadcastDeviceById device.id)
    return .connection "Device disconnected" device.deviceId .inactive none updated

def restart (pf : Platform) (user : User) (id : String) : Service Reply :=
  withDevice pf user (some id) fun device => do
    Run.write (setStatus device.id .restarting)
    return .restarted "Device restart initiated" device.deviceId .restarting

def ping (pf : Platform) (id : String) : Service Reply := do
  match ← deviceById pf (some id) with
  | none => .fail notFound
  | some device => do
    let online ← Run.read fun t => recent t.now device.lastHeartbeat
    return .ping device.deviceId online device.lastHeartbeat device.status

end Methods

section Statistics

def resolveDevice (pf : Platform) (key : String) : Service (Option Row) := do
  match ← deviceById pf (some key) with
  | some device => return some device
  | none => .read fun t => t.devices.find? (·.deviceId == key)

def withResolved (pf : Platform) (user : User) (key : String) (f : Row → Service Reply) :
    Service Reply := do
  match ← resolveDevice pf key with
  | none => .fail notFound
  | some device =>
    if !isAdminUser user && device.userId != some user.id then .fail denied else f device

def computeSpeedFromSamples (samples : List TrafficSample) : ℚ × ℚ :=
  match samples.reverse with
  | [] => (0, 0)
  | [sample] => (sample.bytesSentDelta / 30, sample.bytesReceivedDelta / 30)
  | last :: prev :: _ =>
    let dt : ℚ := last.recordedAt - prev.recordedAt
    if dt ≤ 0 then (0, 0) else (last.bytesSentDelta / dt, last.bytesReceivedDelta / dt)

/-- `slice(-2)` -/
def lastTwo (samples : List TrafficSample) : List TrafficSample := samples.drop (samples.length - 2)

/-- `Math.min(Number(hours) || 24, 168)` -/
def hoursOf (pf : Platform) (hours : Option Json) : ℚ :=
  min (match hours.bind pf.rational with
    | none => 24
    | some h => if h = 0 then 24 else h) 168

def statisticsOf (device : Row) (hours : ℚ) (t : Tables) : Statistics :=
  let since (time : ℕ) : Bool := decide ((t.now : ℚ) - hours * 3600 ≤ time)
  let samples := (t.samples.filter fun s => s.deviceId == device.id && since s.recordedAt).mergeSort
    fun a b => a.recordedAt ≤ b.recordedAt
  let history :=
    (t.statistics.filter fun h => h.deviceId == device.id && since h.periodStart).mergeSort
      fun a b => a.periodStart ≤ b.periodStart
  let session := latestSession device.id t
  let peak := (history.map (·.peakConnections)).foldl max 0
  let speed := computeSpeedFromSamples (lastTwo samples)
  { id := device.id, deviceId := device.deviceId, name := device.name, status := device.status
    lastHeartbeat := device.lastHeartbeat, assignedPort := device.assignedPort
    internalPort := device.internalPort, periodHours := hours
    totalBytesSent := (history.map (·.bytesSent)).sum
    totalBytesReceived := (history.map (·.bytesReceived)).sum
    peakConnections := max peak ((session.map (·.activeConnections)).getD 0)
    avgSendSpeed := speed.1, avgReceiveSpeed := speed.2
    currentSession := session.map fun s => (sessionSummary s, s.startedAt)
    samples := samples, history := history }

def getDeviceStatistics (pf : Platform) (user : User) (key : String) (hours : Option Json) :
    Service Reply :=
  withResolved pf user key fun device => do
    return .statistics (← Run.read (statisticsOf device (hoursOf pf hours)))

def resetStatistics (id : Uuid) (t : Tables) : Tables :=
  { t with
    statistics := t.statistics.filter (·.deviceId != id)
    samples := t.samples.filter (·.deviceId != id)
    devices := updateRows (·.id == id)
      (fun d => { d with totalBytesSent := 0, totalBytesReceived := 0 }) t.devices
    sessions := updateRows (fun s => s.deviceId == id && s.status == .active)
      (fun s => { s with
        bytesSent := 0, bytesReceived := 0, activeConnections := 0, lastActivity := some t.now })
      t.sessions }

def resetDeviceStatistics (pf : Platform) (user : User) (key : String) : Service Reply :=
  withResolved pf user key fun device => do
    Run.write (resetStatistics device.id)
    return .message ("Statistics reset for device " ++ device.deviceId)

def rowsSince (ids : List Uuid) (p : HourlyStatistics → Bool) (t : Tables) :
    List HourlyStatistics :=
  t.statistics.filter fun h => ids.contains h.deviceId && p h

def group (id : Uuid) (column : HourlyStatistics → ℕ) (rows : List HourlyStatistics) : List ℕ :=
  (rows.filter (·.deviceId == id)).map column

def summaryRow (t : Tables) (hourly today yesterday : List HourlyStatistics)
    (samples : List TrafficSample) (row : Row) : SummaryRow :=
  let device := joined t row
  let active := device.activeConnections.getD 0
  let peak := (group row.id (·.peakConnections) hourly).foldl max 0
  let speed := computeSpeedFromSamples (lastTwo (samples.filter (·.deviceId == row.id)))
  { id := device.id, deviceId := device.deviceId, name := device.name, status := device.status
    type := device.type, userId := device.userId, ownerUsername := device.ownerUsername
    lastHeartbeat := device.lastHeartbeat, assignedPort := device.assignedPort
    preferredPort := device.preferredPort, totalBytesSent := device.totalBytesSent
    totalBytesReceived := device.totalBytesReceived, sessionPort := device.sessionPort
    bytesSent := device.totalBytesSent, bytesReceived := device.totalBytesReceived
    activeConnections := active
    hourlyBytesSent := (group row.id (·.bytesSent) hourly).sum
    hourlyBytesReceived := (group row.id (·.bytesReceived) hourly).sum
    todayBytesSent := (group row.id (·.bytesSent) today).sum
    todayBytesReceived := (group row.id (·.bytesReceived) today).sum
    yesterdayBytesSent := (group row.id (·.bytesSent) yesterday).sum
    yesterdayBytesReceived := (group row.id (·.bytesReceived) yesterday).sum
    peakConnections := if peak = 0 then active else peak
    avgSendSpeed := speed.1, avgReceiveSpeed := speed.2
    online := recent t.now device.lastHeartbeat
    lastActivity := device.lastActivity.or device.lastHeartbeat }

def buildDeviceStatisticsSummaryRows (pf : Platform) (userId : Option ℕ) (t : Tables) :
    List SummaryRow :=
  let wanted (row : Row) : Bool := match userId with
    | none => true
    | some id => id == 0 || row.userId == some id
  let devices := (t.devices.filter wanted).mergeSort fun a b => pf.collate a.deviceId b.deviceId
  let ids := devices.map (·.id)
  let hour := t.now - t.now % 3600
  let day := t.now - t.now % 86400
  let hourly := rowsSince ids (fun h => hour ≤ h.periodStart) t
  let today := rowsSince ids (fun h => day ≤ h.periodStart) t
  let yesterday := rowsSince ids
    (fun h => decide (day - 86400 ≤ h.periodStart) && decide (h.periodStart < day)) t
  let samples := (t.samples.filter fun s => ids.contains s.deviceId &&
    decide (t.now - 600 ≤ s.recordedAt)).mergeSort fun a b => a.recordedAt ≤ b.recordedAt
  devices.map (summaryRow t hourly today yesterday samples)

def getStatisticsSummary (pf : Platform) (user : User) (query : Json) : Service Reply := do
  let userId := if !isAdminUser user then some user.id
    else ((given "user_id" query).bind pf.integer).bind fun n =>
      if 0 < n then some n.toNat else none
  return .summary (← Run.read (buildDeviceStatisticsSummaryRows pf userId))

end Statistics

def respond (pf : Platform) (user : User) : Request → Service Reply
  | .find query => find pf user query
  | .get id => get pf user id
  | .create data drawn authToken => create pf user data drawn authToken
  | .update id data | .patch id data => update pf user id data
  | .remove id => remove pf user id
  | .connect id => connect pf user id
  | .disconnect id => disconnect pf user id
  | .restart id => restart pf user id
  | .ping id => ping pf id
  | .statistics key hours => getDeviceStatistics pf user key hours
  | .statisticsSummary query => getStatisticsSummary pf user query
  | .statisticsReset key => resetDeviceStatistics pf user key

end DeviceRequests
