import Mathlib.Data.Int.Notation
import NetPort.StatementPrograms
import NetPort.DeviceTables
import NetPort.ProxyRuntimes

/-! The control thread of the device manager. Its functions are programs over the SQL
statements and the dynamic servers; `-1` and `0` are their return codes. A call that gets
no database connection, a failed statement and a refused rate limit are failed commands.
`db_lock` is not modelled: every interleaving it allows is one here, and more. -/
namespace DeviceManager

open StatementPrograms DeviceTables ProxyRuntimes

inductive Json where
  | null
  | bool (b : Bool)
  | integer (n : ℤ)
  | real (text : String)
  | string (s : String)
  | array (items : List Json)
  | object (fields : List (String × Json))

namespace Json

def get (key : String) : Json → Option Json
  | object fields => (fields.find? fun f => f.1 == key).map (·.2)
  | _ => none

def string? : Option Json → Option String
  | some (string s) => some s
  | _ => none

def integer? : Option Json → Option ℤ
  | some (integer n) => some n
  | _ => none

def bool? : Option Json → Option Bool
  | some (bool b) => some b
  | _ => none

def isTrue : Json → Bool
  | bool b => b
  | _ => false

def isObject : Json → Bool
  | object _ => true
  | _ => false

end Json

def uint64 (n : ℤ) : ℕ := (n % 2 ^ 64).toNat

def uint32 (n : ℤ) : ℕ := (n % 2 ^ 32).toNat

def uint16 (n : ℕ) : ℕ := n % 2 ^ 16

/-- `device_session_t` as `get_session_by_token` fills it. -/
structure DeviceSession where
  sessionToken : String
  deviceId : String
  assignedPort : ℕ
  expiresAt : ℕ
  bytesSent : ℕ
  bytesReceived : ℕ
  activeConnections : ℕ
  deriving DecidableEq, Repr

structure State where
  db : Db
  proxy : Proxy
  tlsReloadPending : List String
  /-- what `uuid_generate_v4` and `generate_session_token` return next -/
  nextSessionId : Uuid
  nextSessionToken : String

inductive Cmd where
  | getDbConnection
  | time
  | validateDeviceToken (deviceId authToken clientIp : String)
  | validateSessionTokenSecurity (token clientIp : String)
  | resetRateLimits
  | sendJsonResponse (response : Json)
  | generateSessionToken (deviceId : String)
  | authenticate (deviceId tokenHash : String)
  | loadDevice (deviceId : String)
  | cleanupDeviceSessions (deviceId : String)
  | registerSession (deviceId token : String)
  | setRegistered (deviceId : String) (port : ℕ)
  | touchSession (token : String)
  | touchDevice (token : String)
  | sessionByToken (token : String)
  | addSessionTraffic (token : String) (sent received connections : ℕ)
  | addDeviceTotals (token : String) (sent received : ℕ)
  | insertSample (token : String) (sent received connections : ℕ)
  | deleteOldSamples
  | upsertHourly (token : String) (sent received connections : ℕ)
  | terminateSession (token : String)
  | freeDevicePortPair (port : ℕ)
  | activeSessions (deviceId : String)
  | latestSession (deviceId : String)
  | terminateSessions (deviceId : String)
  | freeSessionPairs (deviceId : String)
  | deactivateDevice (deviceId : String)
  | ensureDynamicServer (deviceId : String) (inputPort tunnelPort : ℕ) (info : DeviceInfo)
  | stopDynamicServer (deviceId : String) (inputPort tunnelPort : ℕ)
  | setTlsReloadPending (deviceId : String)
  | consumeTlsReloadPending (deviceId : String)

@[reducible] def Res : Cmd → Type
  | .time => ℕ
  | .generateSessionToken _ => String
  | .authenticate _ _ => Option DeviceInfo
  | .loadDevice _ => Option DeviceInfo
  | .registerSession _ _ => Option (ℕ × ℕ)
  | .touchSession _ => ℕ
  | .sessionByToken _ => Option DeviceSession
  | .activeSessions _ => List ℕ
  | .latestSession _ => Option ℕ
  | .ensureDynamicServer _ _ _ _ => Option ℕ
  | .consumeTlsReloadPending _ => Bool
  | _ => Unit

def deviceInfo (d : Device) (status : DeviceStatus) : DeviceInfo :=
  { deviceId := d.deviceId, name := d.name, type := d.type, userId := d.userId.getD 0,
    internalAddress := d.internalAddress.getD "", internalPort := uint16 (d.internalPort.getD 0),
    status := status, enableInputSsl := d.enableInputSsl, enableTunnelSsl := d.enableTunnelSsl,
    assignedPort := 0, tunnelPort := 0 }

/-- Any admitted status but `active` is reported as pending. -/
def authenticate (deviceId tokenHash : String) (db : Db) : Option DeviceInfo :=
  (db.devices.find? fun d =>
    d.deviceId == deviceId && d.authTokenHash == tokenHash && d.status.admitted).map fun d =>
      deviceInfo d (if d.status == .active then .active else .pending)

def loadDevice (deviceId : String) (db : Db) : Option DeviceInfo :=
  (deviceRow deviceId db).map fun d =>
    deviceInfo d (if d.status == .active || d.status == .pending then d.status else .inactive)

def deviceSession (s : Session) (d : Device) : DeviceSession :=
  { sessionToken := s.sessionToken, deviceId := d.deviceId, assignedPort := uint16 s.assignedPort,
    expiresAt := s.expiresAt, bytesSent := s.bytesSent, bytesReceived := s.bytesReceived,
    activeConnections := s.activeConnections }

def tlsReloadPendingMax : ℕ := 128

def setTlsReloadPending (deviceId : String) (queue : List String) : List String :=
  if deviceId == "" || queue.contains deviceId then queue
  else if queue.length < tlsReloadPendingMax then queue ++ [deviceId]
  else queue

def consumeTlsReloadPending (deviceId : String) (queue : List String) : List String × Bool :=
  match queue.findIdx? (· == deviceId) with
  | none => (queue, false)
  | some i => ((queue.set i (queue.getLastD deviceId)).dropLast, true)

/-- `ORDER BY ds.started_at DESC LIMIT 1` among the sessions that `reload_tls` looks at. -/
def latestSession (deviceId : String) (db : Db) : Option ℕ :=
  let sessions := (activeSessionsOf deviceId db).filter fun s => db.now < s.expiresAt
  (sessions.find? fun s => sessions.all fun t => t.startedAt ≤ s.startedAt).map (·.assignedPort)

def State.mapDb (s : State) (f : Db → Db) : State := { s with db := f s.db }

def interp (cfg : Config) : (c : Cmd) → State → Option (State × Res c)
  | .getDbConnection, s => some (s, ())
  | .time, s => some (s, s.db.now)
  | .validateDeviceToken _ _ _, s => some (s, ())
  | .validateSessionTokenSecurity _ _, s => some (s, ())
  | .resetRateLimits, s => some (s, ())
  | .sendJsonResponse _, s => some (s, ())
  | .generateSessionToken _, s => some (s, s.nextSessionToken)
  | .authenticate deviceId hash, s => some (s, authenticate deviceId hash s.db)
  | .loadDevice deviceId, s => some (s, loadDevice deviceId s.db)
  | .cleanupDeviceSessions deviceId, s => some (s.mapDb (cleanupDeviceSessions deviceId), ())
  | .registerSession deviceId token, s =>
    (registerSession deviceId token cfg.sessionTimeout s.nextSessionId s.db).map fun r =>
      ({ s with db := r.1 }, r.2.map fun ports => (uint16 ports.1, uint16 ports.2))
  | .setRegistered deviceId port, s => some (s.mapDb (setRegistered deviceId port), ())
  | .touchSession token, s =>
    let r := touchSession token cfg.sessionTimeout s.db
    some ({ s with db := r.1 }, r.2)
  | .touchDevice token, s => some (s.mapDb (touchDevice token), ())
  | .sessionByToken token, s =>
    some (s, (sessionByToken token s.db).map fun r => deviceSession r.1 r.2)
  | .addSessionTraffic token sent received connections, s =>
    (addSessionTraffic token sent received connections s.db).map fun db => ({ s with db := db }, ())
  | .addDeviceTotals token sent received, s =>
    (addDeviceTotals token sent received s.db).map fun db => ({ s with db := db }, ())
  | .insertSample token sent received connections, s =>
    (insertSample token sent received connections s.db).map fun db => ({ s with db := db }, ())
  | .deleteOldSamples, s => some (s.mapDb deleteOldSamples, ())
  | .upsertHourly token sent received connections, s =>
    (upsertHourly token sent received connections s.db).map fun db => ({ s with db := db }, ())
  | .terminateSession token, s => some (s.mapDb (terminateSession token), ())
  | .freeDevicePortPair port, s => some (s.mapDb (freeDevicePortPair port), ())
  | .activeSessions deviceId, s =>
    some (s, (activeSessionsOf deviceId s.db).map fun t => uint16 t.assignedPort)
  | .latestSession deviceId, s => some (s, (latestSession deviceId s.db).map uint16)
  | .terminateSessions deviceId, s => some (s.mapDb (terminateSessionsOf deviceId), ())
  | .freeSessionPairs deviceId, s => some (s.mapDb (freeSessionPairsOf deviceId), ())
  | .deactivateDevice deviceId, s => some (s.mapDb (deactivateDevice deviceId), ())
  | .ensureDynamicServer deviceId inputPort tunnelPort info, s =>
    let r := ensureDynamicServerForDevice cfg deviceId inputPort tunnelPort info s.proxy
    some ({ s with proxy := r.1 }, r.2)
  | .stopDynamicServer deviceId inputPort tunnelPort, s =>
    some ({ s with proxy := stopDynamicServerForDevice deviceId inputPort tunnelPort s.proxy }, ())
  | .setTlsReloadPending deviceId, s =>
    some ({ s with tlsReloadPending := setTlsReloadPending deviceId s.tlsReloadPending }, ())
  | .consumeTlsReloadPending deviceId, s =>
    let r := consumeTlsReloadPending deviceId s.tlsReloadPending
    some ({ s with tlsReloadPending := r.1 }, r.2)

abbrev Control := Prog Cmd Res

def query {α : Type} (c : Cmd) (e : Option (Res c) → Option α) : Control (Option α) := do
  match ← perform .getDbConnection with
  | none => pure none
  | some _ => return e (← perform c)

def deviceAuthenticate (cfg : Config) (deviceId authToken : String) : Control (Option DeviceInfo) :=
  query (.authenticate deviceId (cfg.sha256Hex authToken)) Option.join

def deviceManagerLoadDeviceById (deviceId : String) : Control (Option DeviceInfo) :=
  query (.loadDevice deviceId) Option.join

def getSessionByToken (token : String) : Control (Option DeviceSession) :=
  query (.sessionByToken token) Option.join

def registerDeviceSession (deviceId : String) : Control (Option (String × ℕ × ℕ)) := do
  match ← perform (.generateSessionToken deviceId) with
  | none => pure none
  | some token =>
    match ← perform .getDbConnection with
    | none => pure none
    | some _ =>
      -- a failed cleanup is ignored
      let _ ← perform (.cleanupDeviceSessions deviceId)
      match ← perform (Cmd.registerSession deviceId token) with
      | some (some (inputPort, tunnelPort)) =>
        match ← perform (.setRegistered deviceId inputPort) with
        | none => pure none
        | some _ => pure (some (token, inputPort, tunnelPort))
      | _ => pure none

def updateDeviceHeartbeat (token : String) : Control ℤ := do
  match ← perform .getDbConnection with
  | none => pure (-1)
  | some _ =>
    match ← perform (.touchSession token) with
    | none => pure (-1)
    | some 0 => pure (-1)
    | some (_ + 1) =>
      let _ ← perform (.touchDevice token)
      pure 0

def updateDeviceStatistics (token : String) (sent received connections : ℕ) : Control ℤ := do
  match ← perform .getDbConnection with
  | none => pure (-1)
  | some _ =>
    match ← perform (.addSessionTraffic token sent received connections) with
    | none => pure (-1)
    | some _ =>
      let _ ← perform (.addDeviceTotals token sent received)
      pure 0

def recordDeviceTrafficSample (token : String) (sent received connections : ℕ) : Control ℤ := do
  match ← perform .getDbConnection with
  | none => pure (-1)
  | some _ =>
    match ← perform (.insertSample token sent received connections) with
    | none => pure (-1)
    | some _ =>
      let _ ← perform .deleteOldSamples
      pure 0

def aggregateDeviceHourlyStatistics (token : String) (sent received connections : ℕ) :
    Control ℤ := do
  if sent = 0 ∧ received = 0 ∧ connections = 0 then pure 0
  else
    match ← perform .getDbConnection with
    | none => pure (-1)
    | some _ =>
      match ← perform (.upsertHourly token sent received connections) with
      | none => pure (-1)
      | some _ => pure 0

/-- The statements of `terminate_device_session` after the listeners are stopped. -/
def releaseSession (token : String) (port : ℕ) : Control ℤ := do
  match ← perform .getDbConnection with
  | none => pure (-1)
  | some _ =>
    match ← perform (.terminateSession token) with
    | none => pure (-1)
    | some _ =>
      if port ≠ 0 then
        let _ ← perform (.freeDevicePortPair port)
        pure 0
      else pure 0

def terminateDeviceSession (token : String) : Control ℤ := do
  match ← getSessionByToken token with
  | none => pure (-1)
  | some session =>
    if session.assignedPort ≠ 0 then
      let _ ← perform (.stopDynamicServer session.deviceId session.assignedPort
        (uint16 (session.assignedPort + 1)))
      releaseSession token session.assignedPort
    else releaseSession token session.assignedPort

def maxPortsToStop : ℕ := 8

def stopPorts (deviceId : String) : List ℕ → Control Unit
  | [] => pure ()
  | port :: ports => do
    let _ ← perform (.stopDynamicServer deviceId port (uint16 (port + 1)))
    stopPorts deviceId ports

/-- `ports_to_stop`: the first eight nonzero ports. -/
def portsToStop (ports : List ℕ) : List ℕ := (ports.filter (· != 0)).take maxPortsToStop

/-- The statements of `terminate_device_by_device_id` after the listeners are stopped. -/
def releaseDevice (deviceId : String) : Control ℤ := do
  match ← perform .getDbConnection with
  | none => pure (-1)
  | some _ =>
    match ← perform (.terminateSessions deviceId) with
    | none => pure (-1)
    | some _ =>
      let _ ← perform (.freeSessionPairs deviceId)
      match ← perform (.deactivateDevice deviceId) with
      | none => pure (-1)
      | some _ => pure 0

def stopListed (deviceId : String) (ports : List ℕ) : Control ℤ := do
  stopPorts deviceId (portsToStop ports)
  if ports.length = 0 then
    let _ ← perform (.stopDynamicServer deviceId 0 0)
  releaseDevice deviceId

def terminateDeviceByDeviceId (deviceId : String) : Control ℤ := do
  match ← perform .getDbConnection with
  | none => pure (-1)
  | some _ =>
    match ← perform (.activeSessions deviceId) with
    | none => pure (-1)
    | some ports => stopListed deviceId ports

def reloadDynamicServerTlsForDevice (deviceId : String) : Control ℤ := do
  if deviceId = "" then pure (-1)
  else
    match ← perform .getDbConnection with
    | none => pure (-1)
    | some _ =>
      match ← perform (.latestSession deviceId) with
      | none => pure (-1)
      | some latest =>
        let inputPort := latest.getD 0
        if inputPort = 0 then pure 0
        else
          match ← deviceManagerLoadDeviceById deviceId with
          | none => pure (-1)
          | some info =>
            let tunnelPort := uint16 (inputPort + 1)
            let _ ← perform (.stopDynamicServer deviceId inputPort tunnelPort)
            match ← perform (Cmd.ensureDynamicServer deviceId inputPort tunnelPort info) with
            | some (some _) =>
              let _ ← perform (.setTlsReloadPending deviceId)
              pure 0
            | _ => pure (-1)

namespace Json

def error (message : String) : Json :=
  object [("status", string "error"), ("message", string message)]

def reply (message : String) : Json :=
  object [("status", string "ok"), ("message", string message)]

end Json

/-- Registration answers carry the optional address and port only when they are set. -/
def registrationResponse (cfg : Config) (info : DeviceInfo) (token : String)
    (inputPort tunnelPort now : ℕ) : Json :=
  .object ([("status", Json.string "authenticated"), ("assigned_port", .integer inputPort),
      ("tunnel_port", .integer tunnelPort),
      ("input_tls", .bool (wantsSsl cfg info.enableInputSsl)),
      ("tunnel_tls", .bool (wantsSsl cfg info.enableTunnelSsl)),
      ("session_token", .string token),
      ("heartbeat_interval", .integer cfg.heartbeatInterval), ("server_time", .integer now)] ++
    (if info.internalAddress = "" then [] else
      [("internal_address", Json.string info.internalAddress)]) ++
    (if info.internalPort = 0 then [] else [("internal_port", Json.integer info.internalPort)]))

def processRegistrationRequest (cfg : Config) (request : Json) (clientIp : String) :
    Control Json := do
  match Json.string? (request.get "device_id"), Json.string? (request.get "auth_token") with
  | some deviceId, some authToken =>
    match ← perform (.validateDeviceToken deviceId authToken clientIp) with
    | none => pure (.error "Rate limit exceeded")
    | some _ =>
      match ← deviceAuthenticate cfg deviceId authToken with
      | none => pure (.error "Authentication failed")
      | some info =>
        match ← registerDeviceSession deviceId with
        | none => pure (.error "Failed to create session")
        | some (token, inputPort, tunnelPort) =>
          let info := { info with tunnelPort := tunnelPort, assignedPort := inputPort }
          match ← perform (Cmd.ensureDynamicServer deviceId inputPort tunnelPort info) with
          | some (some _) =>
            let now ← perform .time
            pure (registrationResponse cfg info token inputPort tunnelPort (now.getD 0))
          | _ =>
            let _ ← terminateDeviceSession token
            pure (.error "Failed to start device proxy")
  | _, _ => pure (.error "Missing device_id or auth_token")

/-- The deltas of a heartbeat: `statistics` first, `traffic` only when that had none. The
flag is `has_traffic`. -/
structure Traffic where
  bytesSent : ℕ
  bytesReceived : ℕ
  connections : ℕ
  hasTraffic : Bool
  deriving DecidableEq, Repr

def readTraffic (object : Option Json) (connectionsKey : String) (t : Traffic) : Traffic :=
  match object with
  | none => t
  | some o =>
    if !o.isObject then t
    else
      let t := match Json.integer? (o.get connectionsKey) with
        | some n => { t with connections := uint32 n }
        | none => t
      match Json.integer? (o.get "bytes_sent"), Json.integer? (o.get "bytes_received") with
      | some sent, some received =>
        if t.hasTraffic then t
        else { t with bytesSent := uint64 sent, bytesReceived := uint64 received, hasTraffic := true }
      | _, _ => t

def heartbeatTraffic (request : Json) : Traffic :=
  readTraffic (request.get "traffic") "active_connections"
    (readTraffic (request.get "statistics") "connections" ⟨0, 0, 0, false⟩)

/-- `memset` of a device that is not found. -/
def emptyDeviceInfo (deviceId : String) : DeviceInfo :=
  { deviceId := deviceId, name := "", type := "", userId := 0, internalAddress := "",
    internalPort := 0, status := .inactive, enableInputSsl := false, enableTunnelSsl := false,
    assignedPort := 0, tunnelPort := 0 }

/-- `process_heartbeat_request` brings the listeners of the session up again. -/
def ensureForSession (token : String) : Control Unit := do
  match ← getSessionByToken token with
  | none => pure ()
  | some session =>
    if session.assignedPort = 0 then pure ()
    else
      let info ← deviceManagerLoadDeviceById session.deviceId
      let _ ← perform (.ensureDynamicServer session.deviceId session.assignedPort
        (uint16 (session.assignedPort + 1)) (info.getD (emptyDeviceInfo session.deviceId)))
      pure ()

/-- `process_heartbeat_request` stores the deltas it was sent. -/
def storeTraffic (token : String) (t : Traffic) : Control Unit := do
  if t.hasTraffic then
    let _ ← updateDeviceStatistics token t.bytesSent t.bytesReceived t.connections
    let _ ← aggregateDeviceHourlyStatistics token t.bytesSent t.bytesReceived t.connections
  let _ ← recordDeviceTrafficSample token t.bytesSent t.bytesReceived t.connections
  pure ()

def tlsFields (cfg : Config) (token : String) : Control (List (String × Json)) := do
  match ← getSessionByToken token with
  | none => pure []
  | some session =>
    let info := (← deviceManagerLoadDeviceById session.deviceId).getD (emptyDeviceInfo "")
    let pending ← perform (.consumeTlsReloadPending session.deviceId)
    let reload : List (String × Json) :=
      if pending.getD false then [("reload_tls", .bool true)] else []
    return [("input_tls", Json.bool (wantsSsl cfg info.enableInputSsl)),
      ("tunnel_tls", .bool (wantsSsl cfg info.enableTunnelSsl))] ++ reload

def processHeartbeatRequest (cfg : Config) (request : Json) (clientIp : String) :
    Control Json := do
  match Json.string? (request.get "session_token") with
  | none => pure (.error "Missing session_token")
  | some token =>
    match ← perform (.validateSessionTokenSecurity token clientIp) with
    | none => pure (.error "Rate limit exceeded")
    | some _ =>
      let touched ← updateDeviceHeartbeat token
      if touched ≠ 0 then
        pure (.object [("status", .string "error"), ("message", .string "Session terminated"),
          ("force_disconnect", .bool true)])
      else
        ensureForSession token
        storeTraffic token (heartbeatTraffic request)
        let tls ← tlsFields cfg token
        let now ← perform .time
        pure (.object (tls ++ [("status", Json.string "ok"), ("timestamp", .integer (now.getD 0))]))

/-- Only `update_device_statistics` runs on this path. -/
def processStatisticsRequest (request : Json) : Control Json := do
  match Json.string? (request.get "session_token") with
  | none => pure (.error "Missing session_token")
  | some token =>
    match ← getSessionByToken token with
    | none => pure (.error "Invalid session token")
    | some _ =>
      match Json.integer? (request.get "bytes_sent"),
          Json.integer? (request.get "bytes_received") with
      | some sent, some received =>
        let connections := ((Json.integer? (request.get "connections")).map uint32).getD 0
        let _ ← updateDeviceStatistics token (uint64 sent) (uint64 received) connections
      | _, _ => pure ()
      let now ← perform .time
      pure (.object [("status", .string "ok"), ("timestamp", .integer (now.getD 0))])

def isLocalControlRequest (clientIp : String) : Bool :=
  clientIp == "127.0.0.1" || clientIp == "::1" || clientIp == "0.0.0.0"

/-- What `process_json_message` reads: text that `validate_json_input` or `json_loads`
refuses, or a parsed message. -/
inductive Payload where
  | refused
  | unparsable
  | message (root : Json)

structure Request where
  payload : Payload
  clientIp : String

def respond (response : Json) : Control ℤ := do
  let _ ← perform (.sendJsonResponse response)
  pure 0

/-- The `disconnect` action answers before it acts. -/
def processDisconnect (deviceId : String) : Control ℤ := do
  match ← perform (.sendJsonResponse (.object [("status", .string "ok"),
      ("message", .string "Device disconnect initiated"), ("device_id", .string deviceId)])) with
  | none => pure (-1)
  | some _ =>
    if (← terminateDeviceByDeviceId deviceId) ≠ 0 then pure (-1) else pure 0

def processReloadTls (deviceId : String) : Control ℤ := do
  if (← reloadDynamicServerTlsForDevice deviceId) ≠ 0 then
    respond (.object [("status", .string "error"),
      ("message", .string "Failed to reload TLS settings"), ("device_id", .string deviceId)])
  else
    respond (.object [("status", .string "ok"),
      ("message", .string "Dynamic server TLS reload initiated"), ("device_id", .string deviceId)])

def processLocalAction (action : String) (root : Json) (clientIp : String) : Control ℤ := do
  if !isLocalControlRequest clientIp then respond (.error "Unauthorized control request")
  else if action == "reset_rate_limits" then
    let _ ← perform .resetRateLimits
    respond (.reply "Rate limits reset")
  else
    match Json.string? (root.get "device_id") with
    | none => respond (.error "Missing device_id")
    | some deviceId =>
      if action == "disconnect" then processDisconnect deviceId else processReloadTls deviceId

def processAction (cfg : Config) (action : String) (root : Json) (clientIp : String) :
    Control ℤ := do
  if action == "register" then respond (← processRegistrationRequest cfg root clientIp)
  else if action == "heartbeat" then respond (← processHeartbeatRequest cfg root clientIp)
  else if action == "statistics" then respond (← processStatisticsRequest root)
  else if action == "disconnect" || action == "reload_tls" || action == "reset_rate_limits" then
    processLocalAction action root clientIp
  else respond (.error "Unknown action")

def processJsonMessage (cfg : Config) (r : Request) : Control ℤ := do
  match r.payload with
  | .refused =>
    let _ ← respond (.error "Invalid request payload")
    pure (-1)
  | .unparsable =>
    let _ ← respond (.error "Invalid JSON")
    pure (-1)
  | .message root =>
    match Json.string? (root.get "action") with
    | none =>
      let _ ← respond (.error "Missing 'action' field")
      pure (-1)
    | some action => processAction cfg action root r.clientIp

/-- All commands but two that are right only after others of the same function: a bare
`free_device_port_pair` after the session's update, `active` after the session's insert. -/
def Plain : Cmd → Prop
  | .freeDevicePortPair _ => False
  | .setRegistered _ _ => False
  | _ => True

/-- Besides, no answer: the commands of the functions that a request calls. -/
def Inner : Cmd → Prop
  | .sendJsonResponse _ => False
  | c => Plain c

def Beat : Cmd → Prop
  | .getDbConnection => True
  | .time => True
  | .validateSessionTokenSecurity _ _ => True
  | .touchSession _ => True
  | .touchDevice _ => True
  | .sessionByToken _ => True
  | .loadDevice _ => True
  | .ensureDynamicServer _ _ _ _ => True
  | .consumeTlsReloadPending _ => True
  | _ => False

def Bookkeeping : Cmd → Prop
  | .addDeviceTotals _ _ _ => True
  | .upsertHourly _ _ _ _ => True
  | .insertSample _ _ _ _ => True
  | .deleteOldSamples => True
  | c => Beat c

theorem bookkeeping_of_beat (c : Cmd) (h : Beat c) : Bookkeeping c := by
  cases c <;> trivial

theorem inner_of_bookkeeping (c : Cmd) (h : Bookkeeping c) : Inner c := by
  cases c <;> trivial

theorem inner_of_beat (c : Cmd) (h : Beat c) : Inner c :=
  inner_of_bookkeeping c (bookkeeping_of_beat c h)

theorem plain_of_inner (c : Cmd) (h : Inner c) : Plain c := by
  cases c <;> trivial

theorem plain_of_beat (c : Cmd) (h : Beat c) : Plain c := plain_of_inner c (inner_of_beat c h)

section Issued

variable (token deviceId : String) (sent received connections : ℕ)

theorem issues_query {α : Type} {good : Cmd → Prop} {c : Cmd} (e : Option (Res c) → Option α)
    (connection : good .getDbConnection) (h : good c) : Issues good (query c e) := by
  exact .attempt connection trivial fun _ => ⟨h, fun _ => trivial⟩

theorem beat_getSessionByToken : Issues Beat (getSessionByToken token) :=
  issues_query _ trivial trivial

theorem beat_loadDevice : Issues Beat (deviceManagerLoadDeviceById deviceId) :=
  issues_query _ trivial trivial

theorem beat_updateDeviceHeartbeat : Issues Beat (updateDeviceHeartbeat token) := by
  refine .attempt trivial trivial fun _ => ?_
  refine ⟨trivial, fun touched => ?_⟩
  match touched with
  | none => trivial
  | some 0 => trivial
  | some (_ + 1) => exact ⟨trivial, fun _ => trivial⟩

theorem beat_ensureForSession : Issues Beat (ensureForSession token) := by
  refine (beat_getSessionByToken token).bind fun session => ?_
  cases session with
  | none => trivial
  | some session =>
    dsimp only
    split
    · trivial
    · refine (beat_loadDevice session.deviceId).bind fun info => ?_
      exact ⟨trivial, fun _ => trivial⟩

theorem beat_tlsFields (cfg : Config) : Issues Beat (tlsFields cfg token) := by
  refine (beat_getSessionByToken token).bind fun session => ?_
  cases session with
  | none => trivial
  | some session =>
    refine (beat_loadDevice session.deviceId).bind fun info => ?_
    exact ⟨trivial, fun _ => trivial⟩

theorem bookkeeping_aggregateDeviceHourlyStatistics :
    Issues Bookkeeping (aggregateDeviceHourlyStatistics token sent received connections) := by
  unfold aggregateDeviceHourlyStatistics
  split
  · trivial
  · refine .attempt trivial trivial fun _ => ?_
    refine ⟨trivial, fun r => ?_⟩
    cases r <;> trivial

theorem bookkeeping_recordDeviceTrafficSample :
    Issues Bookkeeping (recordDeviceTrafficSample token sent received connections) := by
  refine .attempt trivial trivial fun _ => ?_
  exact .attempt trivial trivial fun _ => ⟨trivial, fun _ => trivial⟩

theorem plain_getSessionByToken : Issues Plain (getSessionByToken token) :=
  (beat_getSessionByToken token).imp plain_of_beat

theorem plain_deviceAuthenticate (cfg : Config) (authToken : String) :
    Issues Plain (deviceAuthenticate cfg deviceId authToken) :=
  issues_query _ trivial trivial

theorem inner_updateDeviceStatistics :
    Issues Inner (updateDeviceStatistics token sent received connections) := by
  refine .attempt trivial trivial fun _ => ?_
  exact .attempt trivial trivial fun _ => ⟨trivial, fun _ => trivial⟩

theorem inner_storeTraffic (t : Traffic) : Issues Inner (storeTraffic token t) := by
  have sample : Issues Inner (do
      let _ ← recordDeviceTrafficSample token t.bytesSent t.bytesReceived t.connections
      pure () : Control Unit) :=
    ((bookkeeping_recordDeviceTrafficSample token _ _ _).imp inner_of_bookkeeping).bind
      fun _ => trivial
  unfold storeTraffic
  split
  · refine (inner_updateDeviceStatistics _ _ _ _).bind fun _ => ?_
    exact ((bookkeeping_aggregateDeviceHourlyStatistics _ _ _ _).imp inner_of_bookkeeping).bind
      fun _ => sample
  · exact sample

theorem plain_processHeartbeatRequest (cfg : Config) (request : Json) (clientIp : String) :
    Issues Plain (processHeartbeatRequest cfg request clientIp) := by
  unfold processHeartbeatRequest
  split
  · trivial
  · refine .attempt trivial trivial fun _ => ?_
    refine ((beat_updateDeviceHeartbeat _).imp plain_of_beat).bind fun touched => ?_
    split
    · trivial
    · refine ((beat_ensureForSession _).imp plain_of_beat).bind fun _ => ?_
      refine ((inner_storeTraffic _ _).imp plain_of_inner).bind fun _ => ?_
      refine ((beat_tlsFields _ cfg).imp plain_of_beat).bind fun tls => ?_
      exact ⟨trivial, fun _ => trivial⟩

theorem plain_processStatisticsRequest (request : Json) :
    Issues Plain (processStatisticsRequest request) := by
  unfold processStatisticsRequest
  split
  · trivial
  · refine (plain_getSessionByToken _).bind fun session => ?_
    cases session with
    | none => trivial
    | some _ =>
      dsimp only
      split
      · refine ((inner_updateDeviceStatistics _ _ _ _).imp plain_of_inner).bind fun _ => ?_
        exact ⟨trivial, fun _ => trivial⟩
      · exact ⟨trivial, fun _ => trivial⟩

theorem inner_stopPorts (ports : List ℕ) : Issues Inner (stopPorts deviceId ports) := by
  induction ports with
  | nil => trivial
  | cons port ports ih => exact ⟨trivial, fun _ => ih⟩

theorem inner_releaseDevice : Issues Inner (releaseDevice deviceId) := by
  refine .attempt trivial trivial fun _ => ?_
  refine .attempt trivial trivial fun _ => ?_
  refine ⟨trivial, fun _ => ⟨trivial, fun r => ?_⟩⟩
  cases r <;> trivial

theorem inner_stopListed (ports : List ℕ) : Issues Inner (stopListed deviceId ports) := by
  refine (inner_stopPorts deviceId _).bind fun _ => ?_
  dsimp only
  split
  · exact ⟨trivial, fun _ => inner_releaseDevice deviceId⟩
  · exact inner_releaseDevice deviceId

theorem inner_terminateDeviceByDeviceId : Issues Inner (terminateDeviceByDeviceId deviceId) := by
  refine .attempt trivial trivial fun _ => ?_
  exact .attempt trivial trivial fun ports => inner_stopListed deviceId ports

theorem plain_terminateDeviceByDeviceId : Issues Plain (terminateDeviceByDeviceId deviceId) :=
  (inner_terminateDeviceByDeviceId deviceId).imp plain_of_inner

theorem inner_reloadDynamicServerTls : Issues Inner (reloadDynamicServerTlsForDevice deviceId) := by
  unfold reloadDynamicServerTlsForDevice
  split
  · trivial
  · refine .attempt trivial trivial fun _ => ?_
    refine .attempt trivial trivial fun latest => ?_
    change Issues Inner (ite _ _ _)
    split
    · trivial
    · refine ((beat_loadDevice deviceId).imp inner_of_beat).bind fun info => ?_
      cases info with
      | none => trivial
      | some info =>
        refine ⟨trivial, fun _ => ⟨trivial, fun started => ?_⟩⟩
        match started with
        | none => trivial
        | some none => trivial
        | some (some _) => exact ⟨trivial, fun _ => trivial⟩

/-- `active` is the one command of a registration that is right only after another. -/
theorem issues_registerDeviceSession {good : Cmd → Prop} (inner : ∀ c, Inner c → good c)
    (registered : ∀ port, good (.setRegistered deviceId port)) :
    Issues good (registerDeviceSession deviceId) := by
  refine .attempt (inner _ trivial) trivial fun token => ?_
  refine .attempt (inner _ trivial) trivial fun _ => ?_
  refine ⟨inner _ trivial, fun _ => ⟨inner _ trivial, fun r => ?_⟩⟩
  match r with
  | none => trivial
  | some none => trivial
  | some (some (inputPort, _)) =>
    refine ⟨registered inputPort, fun r => ?_⟩
    cases r <;> trivial

theorem issues_releaseSession {good : Cmd → Prop} {port : ℕ} (inner : ∀ c, Inner c → good c)
    (free : good (.freeDevicePortPair port)) : Issues good (releaseSession token port) := by
  refine .attempt (inner _ trivial) trivial fun _ => ?_
  refine .attempt (inner _ trivial) trivial fun _ => ?_
  change Issues good (ite _ _ _)
  split
  · exact ⟨free, fun _ => trivial⟩
  · trivial

theorem issues_terminateDeviceSession {good : Cmd → Prop} (inner : ∀ c, Inner c → good c)
    (free : ∀ port, good (.freeDevicePortPair port)) :
    Issues good (terminateDeviceSession token) := by
  have session : Issues good (getSessionByToken token) :=
    issues_query _ (inner _ trivial) (inner _ trivial)
  refine session.bind fun session => ?_
  cases session with
  | none => trivial
  | some session =>
    change Issues good (ite _ _ _)
    split
    · exact ⟨inner _ trivial, fun _ => issues_releaseSession token inner (free _)⟩
    · exact issues_releaseSession token inner (free _)

theorem plain_respond (response : Json) : Issues Plain (respond response) :=
  ⟨trivial, fun _ => trivial⟩

theorem plain_processDisconnect : Issues Plain (processDisconnect deviceId) := by
  refine .attempt trivial trivial fun _ => ?_
  refine (plain_terminateDeviceByDeviceId deviceId).bind fun code => ?_
  split <;> trivial

theorem plain_processReloadTls : Issues Plain (processReloadTls deviceId) := by
  refine ((inner_reloadDynamicServerTls deviceId).imp plain_of_inner).bind fun code => ?_
  split <;> exact plain_respond _

theorem plain_processLocalAction (action clientIp : String) (root : Json) :
    Issues Plain (processLocalAction action root clientIp) := by
  unfold processLocalAction
  split
  · exact plain_respond _
  · split
    · exact ⟨trivial, fun _ => plain_respond _⟩
    · split
      · exact plain_respond _
      · split
        · exact plain_processDisconnect _
        · exact plain_processReloadTls _

end Issued

/-- A property of programs that holds of the request handlers once it holds of their parts. -/
structure Compositional (K : ∀ {α : Type}, Control α → Prop) : Prop where
  plain : ∀ {α : Type} {p : Control α}, Issues Plain p → K p
  bind : ∀ {α β : Type} {p : Control α} {f : α → Control β}, K p → (∀ a, K (f a)) → K (p >>= f)
  register : ∀ deviceId, K (registerDeviceSession deviceId)
  terminate : ∀ token, K (terminateDeviceSession token)

section Compositional

variable {K : ∀ {α : Type}, Control α → Prop} {cfg : Config}

theorem Compositional.ret (h : Compositional @K) {α : Type} (a : α) : K (.ret a : Control α) :=
  h.plain trivial

theorem Compositional.call (h : Compositional @K) {α : Type} {c : Cmd}
    {k : Option (Res c) → Control α} (plain : Plain c) (rest : ∀ r, K (k r)) : K (.call c k) := by
  rw [← perform_bind]
  exact h.bind (h.plain ⟨plain, fun _ => trivial⟩) rest

theorem Compositional.registration (h : Compositional @K) (request : Json) (clientIp : String) :
    K (processRegistrationRequest cfg request clientIp) := by
  unfold processRegistrationRequest
  simp only [perform_bind]
  split
  · rename_i deviceId authToken _ _
    refine h.call trivial fun r => ?_
    cases r with
    | none => exact h.ret _
    | some _ =>
      refine h.bind (h.plain (plain_deviceAuthenticate _ _ _)) fun info => ?_
      cases info with
      | none => exact h.ret _
      | some info =>
        refine h.bind (h.register deviceId) fun session => ?_
        match session with
        | none => exact h.ret _
        | some (token, inputPort, tunnelPort) =>
          refine h.call trivial fun started => ?_
          have failed : K (do
              let _ ← terminateDeviceSession token
              pure (Json.error "Failed to start device proxy") : Control Json) :=
            h.bind (h.terminate token) fun _ => h.ret _
          match started with
          | none => exact failed
          | some none => exact failed
          | some (some _) => exact h.call trivial fun now => h.ret _
  · exact h.ret _

theorem Compositional.handler (h : Compositional @K) (r : Request) :
    K (processJsonMessage cfg r) := by
  have answer (j : Json) : K (respond j) := h.plain (plain_respond j)
  unfold processJsonMessage
  split
  · exact h.bind (answer _) fun _ => h.ret _
  · exact h.bind (answer _) fun _ => h.ret _
  · split
    · exact h.bind (answer _) fun _ => h.ret _
    · unfold processAction
      split
      · exact h.bind (h.registration _ _) answer
      · split
        · exact h.bind (h.plain (plain_processHeartbeatRequest _ _ _)) answer
        · split
          · exact h.bind (h.plain (plain_processStatisticsRequest _)) answer
          · split
            · exact h.plain (plain_processLocalAction _ _ _)
            · exact answer _

end Compositional

/-- What happens besides the control thread: the expiry sweep, the functions that the backend
calls, its edits of device rows, the clock, acceptor threads that end, and the choices of
PostgreSQL's scan order, of the kernel and of the random generators. -/
inductive Event where
  | sweep
  | cleanup (deviceId : String)
  | reserve (device : Uuid) (inputPort : Option ℕ)
  | release (device : Uuid) (inputPort : Option ℕ)
  | editDevices (devices : List Device)
  | tick (now : ℕ)
  | rescan (sessions : List Session)
  | acceptorExit (connectionsData : ℕ) (isTunnel : Bool)
  | answer (outcome : StartOutcome)
  | draw (sessionId : Uuid) (token : String)

def deviceKeys (devices : List Device) : List (Uuid × String) :=
  devices.map fun d => (d.id, d.deviceId)

/-- Edits keep the keys of the rows that exist and may add rows. -/
def Enabled (s : State) : Event → Prop
  | .editDevices devices => deviceKeys s.db.devices <+: deviceKeys devices
  | .tick now => s.db.now ≤ now
  | .rescan sessions => sessions.Perm s.db.sessions
  | _ => True

instance (s : State) (e : Event) : Decidable (Enabled s e) := by
  rcases e <;> dsimp only [Enabled] <;> infer_instance

def next (s : State) : Event → State
  | .sweep => s.mapDb cleanupExpiredSessions
  | .cleanup deviceId => s.mapDb (DeviceTables.cleanupDeviceSessions deviceId)
  | .reserve device inputPort => s.mapDb fun db => (reserveDevicePortPair device inputPort db).1
  | .release device inputPort => s.mapDb (releaseDevicePortReservation device inputPort)
  | .editDevices devices => s.mapDb fun db => { db with devices := devices }
  | .tick now => s.mapDb fun db => { db with now := now }
  | .rescan sessions => s.mapDb fun db => { db with sessions := sessions }
  | .acceptorExit connectionsData isTunnel =>
    { s with proxy := ProxyRuntimes.acceptorExit connectionsData isTunnel s.proxy }
  | .answer outcome => { s with proxy := { s.proxy with outcome := outcome } }
  | .draw sessionId token => { s with nextSessionId := sessionId, nextSessionToken := token }

def Background (s t : State) : Prop := ∃ e, Enabled s e ∧ t = next s e

/-- Statements, connections and rate limits; the rest is memory of the process. -/
def Fallible : Cmd → Prop
  | .time => False
  | .resetRateLimits => False
  | .generateSessionToken _ => False
  | .ensureDynamicServer _ _ _ _ => False
  | .stopDynamicServer _ _ _ => False
  | .setTlsReloadPending _ => False
  | .consumeTlsReloadPending _ => False
  | _ => True

def controlServer (cfg : Config) : Server Cmd Res State Request ℤ where
  interp := interp cfg
  fails c s := Fallible c ∨ interp cfg c s = none
  env := Background
  handler := processJsonMessage cfg

theorem control_refuses (cfg : Config) : (controlServer cfg).Refuses := fun _ _ => .inr

/-- No session yet, every port free, only static servers, which share no port. -/
structure Initial (s : State) : Prop where
  noSessions : s.db.sessions = []
  allFree : ∀ port, s.db.ports port = .free
  staticServers : ∀ server ∈ s.proxy.servers, server.isDynamicPort = false ∧ server.deviceId = ""
  fewServers : s.proxy.servers.length < 2 ^ 16
  emptyRegistry : s.proxy.registry = List.replicate maxDynamicServerRuntimes emptyEntry
  noRuntimes : s.proxy.runtimes = []
  onePort : (s.proxy.kernel.listening.map (·.2)).Nodup
  oldFds : ∀ l ∈ s.proxy.kernel.listening, l.1 < s.proxy.kernel.nextFd

def play (cfg : Config) : List (Request ⊕ Event) → State → State
  | [], s => s
  | .inl r :: acts, s => play cfg acts (run (interp cfg) (processJsonMessage cfg r) s).2
  | .inr e :: acts, s => play cfg acts (if Enabled s e then next s e else s)

def PlayPermitted (cfg : Config) (permit : Cmd → State → Prop) :
    List (Request ⊕ Event) → State → Prop
  | [], _ => True
  | .inl r :: acts, s => Permitted (interp cfg) permit (processJsonMessage cfg r) s ∧
      PlayPermitted cfg permit acts (run (interp cfg) (processJsonMessage cfg r) s).2
  | .inr e :: acts, s => PlayPermitted cfg permit acts (if Enabled s e then next s e else s)

instance decidablePlayPermitted (cfg : Config) (permit : Cmd → State → Prop)
    [∀ c s, Decidable (permit c s)] :
    (acts : List (Request ⊕ Event)) → (s : State) → Decidable (PlayPermitted cfg permit acts s)
  | [], _ => isTrue trivial
  | .inl r :: acts, s =>
    have := decidablePlayPermitted cfg permit acts
      (run (interp cfg) (processJsonMessage cfg r) s).2
    inferInstanceAs (Decidable (_ ∧ _))
  | .inr e :: acts, s => decidablePlayPermitted cfg permit acts (if Enabled s e then next s e else s)

theorem playPermitted_true (cfg : Config) (acts : List (Request ⊕ Event)) (s : State) :
    PlayPermitted cfg (fun _ _ => True) acts s := by
  induction acts generalizing s with
  | nil => trivial
  | cons act acts ih =>
    cases act with
    | inl r => exact ⟨permitted_true _ _ _, ih _⟩
    | inr e => exact ih _

def lastCode (cfg : Config) : List (Request ⊕ Event) → ℤ → State → ℤ
  | [], a, _ => a
  | .inl r :: acts, _, s =>
    let (a, t) := run (interp cfg) (processJsonMessage cfg r) s
    lastCode cfg acts a t
  | .inr e :: acts, a, s => lastCode cfg acts a (if Enabled s e then next s e else s)

theorem play_steps (cfg : Config) {permit : Cmd → State → Prop} (acts : List (Request ⊕ Event))
    (a : ℤ) (s : State) (ok : PlayPermitted cfg permit acts s) :
    (controlServer cfg).Steps permit (.ret a, s)
      (.ret (lastCode cfg acts a s), play cfg acts s) := by
  induction acts generalizing a s with
  | nil => exact .refl
  | cons act acts ih =>
    cases act with
    | inl r =>
      have rest := ih (run (interp cfg) (processJsonMessage cfg r) s).1 _ ok.2
      have served := Server.steps_run (control_refuses cfg) (processJsonMessage cfg r) s ok.1
      exact ((Relation.ReflTransGen.single (.accept r a s)).trans served).trans rest
    | inr e =>
      have rest := ih a _ ok
      by_cases h : Enabled s e
      · simp only [h, if_true] at rest
        have code : lastCode cfg (.inr e :: acts) a s = lastCode cfg acts a (next s e) := by
          simp [lastCode, h]
        have same : play cfg (.inr e :: acts) s = play cfg acts (next s e) := by simp [play, h]
        rw [code, same]
        exact (Relation.ReflTransGen.single (.interfere ⟨e, h, rfl⟩)).trans rest
      · simp only [h, if_false] at rest
        have code : lastCode cfg (.inr e :: acts) a s = lastCode cfg acts a s := by
          simp [lastCode, h]
        have same : play cfg (.inr e :: acts) s = play cfg acts s := by simp [play, h]
        rw [code, same]
        exact rest

/-- A played history from an initial state ends in a reachable state. -/
theorem play_reachable (cfg : Config) (permit : Cmd → State → Prop) (acts : List (Request ⊕ Event))
    (s : State) (hs : Initial s) (ok : PlayPermitted cfg permit acts s) :
    (controlServer cfg).Reachable permit Initial
      (.ret (lastCode cfg acts 0 s), play cfg acts s) :=
  ⟨0, s, hs, play_steps cfg acts 0 s ok⟩

/-! A small installation on which histories are played. -/
namespace Sample

def cfg : Config :=
  { sessionTimeout := 3600, heartbeatInterval := 30, sslCertFile := "", sslKeyFile := "",
    sha256Hex := fun token =>
      if token = "secret" then "2bb80d537b1da3e38bd30361aa855686bde0eacd7162fef6a25fe97bf527a25b"
      else "" }

def device (id : Uuid) (deviceId : String) : Device :=
  { id := id, deviceId := deviceId, name := deviceId, type := "iot_gateway", userId := none,
    authTokenHash := "2bb80d537b1da3e38bd30361aa855686bde0eacd7162fef6a25fe97bf527a25b",
    status := .pending, assignedPort := none, preferredPort := none, internalAddress := none,
    internalPort := none, enableInputSsl := false, enableTunnelSsl := false,
    lastHeartbeat := none, totalBytesSent := 0, totalBytesReceived := 0 }

def allGranted : StartOutcome :=
  ⟨true, true, true, true, true, true, true, true, true, true, true⟩

def start : State :=
  { db := { devices := [device 1 "A", device 2 "B", device 3 "C"], sessions := [],
            ports := fun _ => .free, statistics := [], samples := [], now := 0 },
    proxy := { servers := [], registry := List.replicate maxDynamicServerRuntimes emptyEntry,
               runtimes := [], kernel := ⟨[], 3⟩, outcome := allGranted },
    tlsReloadPending := [], nextSessionId := 100, nextSessionToken := "t100" }

theorem initial_start : Initial start := by
  constructor <;> simp [start]

def register (deviceId : String) : Request :=
  ⟨.message (.object [("action", .string "register"), ("device_id", .string deviceId),
    ("auth_token", .string "secret")]), "10.0.0.1"⟩

def heartbeat (token : String) : Request :=
  ⟨.message (.object [("action", .string "heartbeat"), ("session_token", .string token)]),
    "10.0.0.1"⟩

def disconnect (deviceId : String) : Request :=
  ⟨.message (.object [("action", .string "disconnect"), ("device_id", .string deviceId)]),
    "127.0.0.1"⟩

end Sample

end DeviceManager
