import NetPort.BackendDisconnect

/-! `create`, `update` (which `patch` calls) and `remove` of the backend's device service, a
statement at a time. The hooks before them check the data and the access to the device. -/
namespace DeviceService

open StatementPrograms SqlUpdate DeviceTables DeviceManager BackendDisconnect

/-- The statements; `updateDevice` writes what the keys of the data say. -/
inductive Write where
  | deviceIdTaken (deviceId : String)
  | insertDevice (device : Device)
  | device (id : Uuid)
  | liveSession (id : Uuid)
  | releaseReservation (id : Uuid) (port : ℕ)
  | reservePair (id : Uuid) (port : ℕ)
  | updateDevice (id : Uuid) (set : Device → Device)
  | deleteDevice (id : Uuid)
  | sendDeviceControlCommand (deviceId action : String)

@[reducible] def Written : Write → Type
  | .deviceIdTaken _ => Bool
  | .device _ => Option Device
  | .liveSession _ => Bool
  | .reservePair _ _ => Bool
  | _ => Unit

abbrev Service := Prog Write Written

/-- `number` is `Number(value)` where that is an integer. -/
def normalizePreferredPort (number : Json → Option ℤ) (value : Json) :
    Except Failure (Option ℕ) :=
  match value with
  | .null => .ok none
  | .string "" => .ok none
  | value =>
    let refused := Except.error (.thrown "Fixed port must be an even integer between 6000 and 6998")
    match number value with
    | none => refused
    | some port =>
      if port < 6000 ∨ port > 6998 ∨ port % 2 ≠ 0 then refused else .ok (some port.toNat)

def idCharacter (c : Char) : Bool :=
  ('a' ≤ c && c ≤ 'z') || ('A' ≤ c && c ≤ 'Z') || c.isDigit || c == '.' || c == '_' || c == '-'

def validateDeviceId (deviceId : String) : Except Failure Unit :=
  if deviceId.length < 3 ∨ deviceId.length > 64 then
    .error (.thrown "device_id must be between 3 and 64 characters")
  else if deviceId.toList.all idCharacter then .ok ()
  else .error (.thrown "device_id contains invalid characters")

def validateDeviceType (type : String) : Except Failure Unit :=
  if ["iot_gateway", "sensor", "camera", "router", "other"].contains type then .ok ()
  else .error (.thrown "Invalid device type")

/-- `a || b` on texts -/
def orElse (a : Option String) (b : String) : String :=
  match a with
  | none => b
  | some "" => b
  | some a => a

/-- The data of `create`, after the checks of the types. -/
structure NewDevice where
  deviceId : Option String
  name : Option String
  type : Option String
  status : Option DeviceStatus
  internalAddress : Option String
  internalPort : Option ℕ
  enableInputSsl : Bool
  enableTunnelSsl : Bool
  preferredPort : Option Json

/-- What `create` draws: `uuidv4()`, twice, and the hash of the token. -/
structure Drawn where
  id : Uuid
  suffix : String
  authTokenHash : String

def deviceData (user : User) (data : NewDevice) (drawn : Drawn) (preferredPort : Option ℕ) :
    Device :=
  let deviceId := orElse data.deviceId ("device-" ++ drawn.suffix)
  { id := drawn.id
    deviceId := deviceId
    name := orElse data.name deviceId
    type := orElse data.type "iot_gateway"
    userId := some user.id
    authTokenHash := drawn.authTokenHash
    status := data.status.getD .inactive
    assignedPort := none
    preferredPort := preferredPort
    internalAddress := some (orElse data.internalAddress "127.0.0.1")
    internalPort := data.internalPort
    enableInputSsl := data.enableInputSsl
    enableTunnelSsl := data.enableTunnelSsl
    lastHeartbeat := none
    totalBytesSent := 0
    totalBytesReceived := 0 }

def unavailable : Failure :=
  .thrown "Fixed port is not available or already assigned to another device"

def reservePreferredPort {α : Type} (id : Uuid) (port : ℕ) (rest : Service (Except Failure α)) :
    Service (Except Failure α) := do
  match ← perform (Write.reservePair id port) with
  | none => pure (.error .database)
  | some false => pure (.error unavailable)
  | some true => rest

def conflict (deviceId : String) : Failure :=
  .thrown ("Device with id \"" ++ deviceId ++ "\" already exists")

def insertDevice (device : Device) : Service (Except Failure Device) := do
  match ← perform (Write.deviceIdTaken device.deviceId) with
  | none => pure (.error .database)
  | some true => pure (.error (conflict device.deviceId))
  | some false =>
    match ← perform (Write.insertDevice device) with
    | none => pure (.error .database)
    | some _ =>
      match device.preferredPort with
      | none => pure (.ok device)
      | some port => reservePreferredPort device.id port (pure (.ok device))

def create (number : Json → Option ℤ) (user : User) (data : NewDevice) (drawn : Drawn) :
    Service (Except Failure Device) :=
  let checked : Except Failure (Option ℕ) := do
    let preferredPort ← match data.preferredPort with
      | none => .ok none
      | some value => normalizePreferredPort number value
    if orElse data.deviceId "" ≠ "" then validateDeviceId (orElse data.deviceId "")
    validateDeviceType (orElse data.type "iot_gateway")
    pure preferredPort
  match checked with
  | .error e => pure (.error e)
  | .ok preferredPort => insertDevice (deviceData user data drawn preferredPort)

/-- The data of `update`; `columns` is what the keys besides these write. -/
structure Changes where
  preferredPort : Option Json
  enableInputSsl : Option Bool
  enableTunnelSsl : Option Bool
  columns : Device → Device

def sslChanged (data : Changes) (device : Device) : Bool :=
  data.enableInputSsl.any (· != device.enableInputSsl) ||
    data.enableTunnelSsl.any (· != device.enableTunnelSsl)

/-- The `SET` clause: `preferred_port` and the flags are the checked ones. -/
def updateData (data : Changes) (preferredPort : Option (Option ℕ)) (device : Device) : Device :=
  let row := data.columns device
  { row with
    id := device.id
    preferredPort := preferredPort.getD row.preferredPort
    enableInputSsl := data.enableInputSsl.getD row.enableInputSsl
    enableTunnelSsl := data.enableTunnelSsl.getD row.enableTunnelSsl }

def readBack (id : Uuid) : Service (Except Failure Device) := do
  match ← perform (Write.device id) with
  | none => pure (.error .database)
  | some none => pure (.error (.thrown "Device not found"))
  | some (some device) => pure (.ok device)

def writeDevice (device : Device) (data : Changes) (preferredPort : Option (Option ℕ)) :
    Service (Except Failure Device) := do
  match ← perform (Write.updateDevice device.id (updateData data preferredPort)) with
  | none => pure (.error .database)
  | some _ =>
    if sslChanged data device then
      match ← perform (Write.liveSession device.id) with
      | none => pure (.error .database)
      | some false => readBack device.id
      | some true =>
        -- an error or a timeout is only logged
        let _ ← perform (Write.sendDeviceControlCommand device.deviceId "reload_tls")
        readBack device.id
    else readBack device.id

/-- The old reservation goes before the column changes, the new one comes before it. -/
def changePort (device : Device) (preferredPort : Option ℕ)
    (rest : Service (Except Failure Device)) : Service (Except Failure Device) := do
  let reserve := match preferredPort with
    | none => rest
    | some port => reservePreferredPort device.id port rest
  match ← perform (Write.liveSession device.id) with
  | none => pure (.error .database)
  | some true =>
    pure (.error (.thrown "Cannot change fixed port while device has an active session"))
  | some false =>
    match device.preferredPort with
    | none => reserve
    | some port =>
      match ← perform (Write.releaseReservation device.id port) with
      | none => pure (.error .database)
      | some _ => reserve

/-- The row that `update` and `remove` work on. -/
def withDevice {α : Type} (user : User) (id : Uuid) (f : Device → Service (Except Failure α)) :
    Service (Except Failure α) := do
  match ← perform (Write.device id) with
  | none => pure (.error .database)
  | some none => pure (.error (.thrown "Device not found"))
  | some (some device) =>
    if !canAccessDevice user device then pure (.error (.thrown "Permission denied")) else f device

def update (number : Json → Option ℤ) (user : User) (id : Uuid) (data : Changes) :
    Service (Except Failure Device) :=
  withDevice user id fun device =>
    match data.preferredPort with
    | none => writeDevice device data none
    | some value =>
      match normalizePreferredPort number value with
      | .error e => pure (.error e)
      | .ok preferredPort =>
        if preferredPort = device.preferredPort then writeDevice device data (some preferredPort)
        else changePort device preferredPort (writeDevice device data (some preferredPort))

def deleteRow (id : Uuid) : Service (Except Failure String) := do
  match ← perform (Write.deleteDevice id) with
  | none => pure (.error .database)
  | some _ => pure (.ok "Device deleted successfully")

def remove (user : User) (id : Uuid) : Service (Except Failure String) :=
  withDevice user id fun device => do
    match device.preferredPort with
    | none => deleteRow id
    | some port =>
      match ← perform (Write.releaseReservation id port) with
      | none => pure (.error .database)
      | some _ => deleteRow id

def WellKeyed (devices : List Device) : Prop :=
  (devices.map (·.id)).Nodup ∧ (devices.map (·.deviceId)).Nodup ∧
    (devices.filterMap (·.preferredPort)).Nodup ∧
    ∀ d ∈ devices, ∀ p ∈ d.preferredPort, 6000 ≤ p ∧ p ≤ 6998 ∧ p % 2 = 0

instance (devices : List Device) : Decidable (WellKeyed devices) :=
  inferInstanceAs (Decidable (_ ∧ _ ∧ _ ∧ _))

def putDevices (devices : List Device) (db : Db) : Option Db :=
  if WellKeyed devices then some { db with devices := devices } else none

/-- `ON DELETE SET NULL` would leave a row of the device that its CHECK refuses. -/
def deleteDevice (id : Uuid) (db : Db) : Option Db :=
  if (List.range' 6000 1001).any fun q => (db.ports q).deviceId == some id ||
      db.sessions.any fun u => u.deviceId == id && (db.ports q).sessionId == some u.id then none
  else
    some { db with
      devices := db.devices.filter (·.id != id)
      sessions := db.sessions.filter (·.deviceId != id)
      statistics := db.statistics.filter (·.deviceId != id)
      samples := db.samples.filter (·.deviceId != id) }

def State.putDb (s : State) (db : Option Db) : Option (State × Unit) :=
  db.map fun db => ({ s with db := db }, ())

def interp : (c : Write) → State → Option (State × Written c)
  | .deviceIdTaken deviceId, s => some (s, s.db.devices.any (·.deviceId == deviceId))
  | .insertDevice device, s => State.putDb s (putDevices (s.db.devices ++ [device]) s.db)
  | .device id, s => some (s, s.db.devices.find? (·.id == id))
  | .liveSession id, s =>
    some (s, s.db.sessions.any fun u =>
      u.deviceId == id && u.status == .active && s.db.now < u.expiresAt)
  | .releaseReservation id port, s =>
    some (s.mapDb (releaseDevicePortReservation id (some port)), ())
  | .reservePair id port, s =>
    let r := reserveDevicePortPair id (some port) s.db
    some (s.mapDb fun _ => r.1, r.2)
  | .updateDevice id set, s =>
    State.putDb s (putDevices (updateRows (·.id == id) set s.db.devices) s.db)
  | .deleteDevice id, s => State.putDb s (deleteDevice id s.db)
  | .sendDeviceControlCommand _ _, s => some (s, ())

end DeviceService
