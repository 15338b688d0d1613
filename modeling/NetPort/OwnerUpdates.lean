import Mathlib.Data.List.Forall2
import Mathlib.Data.List.Nodup
import NetPort.DeviceRequests
import NetPort.UserRequests

/-! `update` and `patch` of the device service with the keys that a request really carries: the
hooks, the object that is written, and the `UPDATE`. What is read after the `UPDATE` and the
message to a connected device are left out. -/
namespace OwnerUpdates

open PairedRuns DeviceTables
open BackendDisconnect (Failure)
open DeviceManager (Json)
open DeviceRequests (truthy)
open DeviceService (normalizePreferredPort unavailable validateDeviceId validateDeviceType)
open UserRequests (Data trim)
open RealtimeChannels (User isAdminUser)

inductive Column where
  | id
  | deviceId
  | name
  | description
  | type
  | status
  | authTokenHash
  | assignedPort
  | preferredPort
  | internalAddress
  | internalPort
  | enableInputSsl
  | enableTunnelSsl
  | protocol
  | capabilities
  | metadata
  | createdAt
  | updatedAt
  | lastHeartbeat
  | totalBytesReceived
  | totalBytesSent
  | userId
  deriving DecidableEq, Repr

def Column.key : Column → String
  | .id => "id"
  | .deviceId => "device_id"
  | .name => "name"
  | .description => "description"
  | .type => "type"
  | .status => "status"
  | .authTokenHash => "auth_token_hash"
  | .assignedPort => "assigned_port"
  | .preferredPort => "preferred_port"
  | .internalAddress => "internal_address"
  | .internalPort => "internal_port"
  | .enableInputSsl => "enable_input_ssl"
  | .enableTunnelSsl => "enable_tunnel_ssl"
  | .protocol => "protocol"
  | .capabilities => "capabilities"
  | .metadata => "metadata"
  | .createdAt => "created_at"
  | .updatedAt => "updated_at"
  | .lastHeartbeat => "last_heartbeat"
  | .totalBytesReceived => "total_bytes_received"
  | .totalBytesSent => "total_bytes_sent"
  | .userId => "user_id"

/-- Texts, JSON, flags and times are as they are printed. -/
inductive Value where
  | null
  | integer (n : ℤ)
  | uuid (id : Uuid)
  | printed (text : String)
  deriving DecidableEq, Repr

/-- A row of `devices`. -/
abbrev Row := Column → Value

/-- What JavaScript, the packages and the database make of values: `Number` where that is an
integer, `JSON.stringify`, `new Date()`, the identifier that the query builder writes for a key,
the casts to the types of the columns, and the constraints of the table. The name of a column
denotes that column. -/
structure Platform where
  number : Json → Option ℤ
  stringify : Json → String
  newDate : Json
  column : String → Option Column
  column_name : ∀ c : Column, column c.key = some c
  cast : Column → Json → Option Value
  constraints : List Row → Bool

structure Tables where
  devices : List Row
  /-- The primary key -/
  keyed : (devices.map fun row => row .id).Nodup
  sessions : List DeviceTables.Session
  ports : ℕ → PortAllocation
  now : ℕ

abbrev Service := Run Tables Failure

def thrown (message : String) : Failure := .thrown message

section Access

/-- `Number(device.user_id) === Number(user.id)` -/
def canAccessDevice (user : User) (device : Row) : Bool :=
  isAdminUser user || device .userId == .integer user.id

/-- `WHERE id = $1` -/
def deviceById (pf : Platform) (id : Json) : Service (Option Row) :=
  match pf.cast .id id with
  | none => .fail .database
  | some id => .read fun t => t.devices.find? fun row => row .id == id

def withDevice {α : Type} (pf : Platform) (user : User) (id : Json) (f : Row → Service α) :
    Service α := do
  match ← deviceById pf id with
  | none => .fail (thrown "Device not found")
  | some device =>
    if canAccessDevice user device then f device else .fail (thrown "Permission denied")

def permitted (pf : Platform) (user : User) (id : Json) : Service Unit :=
  if isAdminUser user then pure () else withDevice pf user id fun _ => pure ()

end Access

section Values

def lookup (key : String) (data : Data) : Option Json :=
  (data.find? fun entry => entry.1 == key).map (·.2)

/-- `data[key] = f(data[key])` where the data has the key. -/
def onKey (key : String) (f : Json → Except Failure Json) (data : Data) : Except Failure Data :=
  data.mapM fun entry =>
    if entry.1 = key then (f entry.2).map fun value => (key, value) else .ok entry

def portJson : Option ℕ → Json
  | none => .null
  | some port => .integer port

def checkDeviceId (data : Data) : Except Failure Unit :=
  match (lookup "device_id" data).filter truthy with
  | none => .ok ()
  | some (.string deviceId) => validateDeviceId deviceId
  | some _ => .error (thrown "device_id must be a string")

def checkDeviceType (data : Data) : Except Failure Unit :=
  match lookup "type" data with
  | none | some .null => .ok ()
  | some (.string type) => validateDeviceType type
  | some _ => .error (thrown "Invalid device type")

def validateInternalPort (pf : Platform) (value : Json) : Except Failure (Option ℕ) :=
  match value with
  | .null => .ok none
  | .string "" => .ok none
  | value =>
    let refused := Except.error (thrown "internal_port must be an integer between 1 and 65535")
    match pf.number value with
    | none => refused
    | some port => if port < 1 ∨ port > 65535 then refused else .ok (some port.toNat)

/-- The hook before `update`, and the same before `patch`, when the device was found. -/
def checkData (pf : Platform) (data : Data) : Except Failure Data := do
  let data ← onKey "preferred_port"
    (fun value => (normalizePreferredPort pf.number value).map portJson) data
  checkDeviceId data
  checkDeviceType data
  onKey "internal_port" (fun value => (validateInternalPort pf value).map portJson) data

end Values

section Ports

def portValue : Option ℕ → Value
  | none => .null
  | some port => .integer port

/-- The function of the database, which reads the other rows of `devices` first. -/
def reserveDevicePortPair (id : Uuid) (port : ℕ) (t : Tables) : Tables × Bool :=
  if t.devices.any fun row => row .preferredPort == .integer port && row .id != .uuid id then
    (t, false)
  else
    let r := DeviceTables.reserveDevicePortPair id (some port) ⟨[], [], t.ports, [], [], t.now⟩
    ({ t with ports := r.1.ports }, r.2)

def releaseDevicePortReservation (id : Uuid) (port : ℕ) (t : Tables) : Tables :=
  { t with ports := (DeviceTables.releaseDevicePortReservation id (some port)
    ⟨[], [], t.ports, [], [], t.now⟩).ports }

def reservePreferredPort (id : Value) (preferredPort : Option ℕ) : Service Unit :=
  match id, preferredPort with
  | _, none => pure ()
  | .uuid id, some port => do
    let reserved ← Run.read fun t => (reserveDevicePortPair id port t).2
    Run.write fun t => (reserveDevicePortPair id port t).1
    if reserved then pure () else .fail unavailable
  | _, _ => .fail .database

def releasePreferredPort (id preferredPort : Value) : Service Unit :=
  match id, preferredPort with
  | .uuid id, .integer port =>
    if port = 0 then pure () else .write (releaseDevicePortReservation id port.toNat)
  | _, _ => pure ()

def activeSession (id : Value) (t : Tables) : Bool :=
  t.sessions.any fun s => id == .uuid s.deviceId && s.status == .active && t.now < s.expiresAt

def changePreferredPort (device : Row) : Option (Option ℕ) → Service Unit
  | none => pure ()
  | some preferredPort =>
    if portValue preferredPort = device .preferredPort then pure ()
    else do
      if ← Run.read (activeSession (device .id)) then
        .fail (thrown "Cannot change fixed port while device has an active session")
      else do
        releasePreferredPort (device .id) (device .preferredPort)
        reservePreferredPort (device .id) preferredPort

end Ports

section Update

/-- `written[key] = value` -/
def setKey (key : String) (value : Json) (written : Data) : Data :=
  if written.any (·.1 == key) then
    written.map fun entry => if entry.1 = key then (key, value) else entry
  else written ++ [(key, value)]

def rewriteKey (key : String) (f : Json → Option Json) (data written : Data) : Data :=
  match (lookup key data).bind f with
  | none => written
  | some value => setKey key value written

def deleteKeys (keys : List String) (written : Data) : Data :=
  written.filter fun entry => !keys.contains entry.1

def stringified (pf : Platform) (value : Json) : Option Json :=
  if truthy value then some (.string (pf.stringify value)) else none

def boolean (value : Json) : Option Json := some (.bool (truthy value))

def sensitive (user : User) : List String :=
  ["auth_token_hash", "device_id", "id"] ++ if isAdminUser user then [] else ["user_id"]

def updateData (pf : Platform) (user : User) (data : Data) (preferredPort : Option (Option ℕ)) :
    Data :=
  let written := setKey "updated_at" pf.newDate data
  let written := rewriteKey "preferred_port" (fun _ => preferredPort.map portJson) data written
  let written := rewriteKey "capabilities" (stringified pf) data written
  let written := rewriteKey "metadata" (stringified pf) data written
  let written := deleteKeys (sensitive user) written
  let written := rewriteKey "enable_input_ssl" boolean data written
  rewriteKey "enable_tunnel_ssl" boolean data written

def assignments (pf : Platform) (written : Data) : Option (List (Column × Value)) :=
  written.mapM fun entry =>
    (pf.column entry.1).bind fun c => (pf.cast c entry.2).map fun value => (c, value)

def assign (assigned : List (Column × Value)) (row : Row) : Row := fun c =>
  ((assigned.find? fun a => a.1 == c).map (·.2)).getD (row c)

def assignWhere (id : Value) (assigned : List (Column × Value)) (devices : List Row) : List Row :=
  devices.map fun row => if row .id = id then assign assigned row else row

/-- No column is assigned twice, and the table keeps its constraints. -/
def Valid (pf : Platform) (assigned : List (Column × Value)) (devices : List Row) : Prop :=
  (assigned.map (·.1)).Nodup ∧ (devices.map fun row => row .id).Nodup ∧
    pf.constraints devices = true

instance (pf : Platform) (assigned : List (Column × Value)) (devices : List Row) :
    Decidable (Valid pf assigned devices) := by
  dsimp only [Valid]
  infer_instance

/-- `UPDATE devices SET … WHERE id = $1` -/
def updateDevices (pf : Platform) (id : Value) (written : Data) : Service Unit := fun t =>
  match assignments pf written with
  | none => (.error .database, t)
  | some assigned =>
    let devices := assignWhere id assigned t.devices
    if h : Valid pf assigned devices then
      (.ok (), { t with devices := devices, keyed := h.2.1 })
    else (.error .database, t)

def givenPort (pf : Platform) (data : Data) : Except Failure (Option (Option ℕ)) :=
  match lookup "preferred_port" data with
  | none => .ok none
  | some value => (normalizePreferredPort pf.number value).map some

def update (pf : Platform) (user : User) (id : Json) (data : Data) : Service Unit :=
  withDevice pf user id fun device => do
    let preferredPort ← Run.lift (givenPort pf data)
    changePreferredPort device preferredPort
    updateDevices pf (device .id) (updateData pf user data preferredPort)

def patch (pf : Platform) (user : User) (id : Json) (data : Data) : Service Unit :=
  update pf user id data

inductive Request where
  | update (id : Json) (data : Data)
  | patch (id : Json) (data : Data)

def Request.id : Request → Json
  | .update id _ | .patch id _ => id

def Request.data : Request → Data
  | .update _ data | .patch _ data => data

def respond (pf : Platform) (user : User) (r : Request) : Service Unit := do
  permitted pf user r.id
  let data ← Run.lift (checkData pf r.data)
  match r with
  | .update id _ => update pf user id data
  | .patch id _ => patch pf user id data

end Update

def maintained : List Column :=
  [.id, .deviceId, .userId, .authTokenHash, .assignedPort, .lastHeartbeat, .totalBytesSent,
    .totalBytesReceived, .createdAt]

/-- Only the row of the device is written, and not in the columns that the server maintains. -/
def RowKept (pf : Platform) (id : Json) (row row' : Row) : Prop :=
  (pf.cast .id id ≠ some (row .id) → row' = row) ∧ ∀ c ∈ maintained, row' c = row c

def Kept (pf : Platform) (user : User) (r : Request) (t : Tables) : Prop :=
  List.Forall₂ (RowKept pf r.id) t.devices (respond pf user r t).2.devices

structure Accepted (pf : Platform) (user : User) (r : Request) (t : Tables) (device : Row)
    (data : Data) (preferredPort : Option (Option ℕ)) (assigned : List (Column × Value)) :
    Prop where
  row : (deviceById pf r.id t).1 = .ok (some device)
  access : canAccessDevice user device = true
  checked : checkData pf r.data = .ok data
  port : givenPort pf data = .ok preferredPort
  change : (changePreferredPort device preferredPort t).1 = .ok ()
  columns : assignments pf (updateData pf user data preferredPort) = some assigned
  valid : Valid pf assigned (assignWhere (device .id) assigned t.devices)

/-- A key that is not taken out and denotes such a column comes with the value that is there. -/
def Harmless (pf : Platform) (user : User) (r : Request) (t : Tables) : Prop :=
  ∀ device data preferredPort assigned,
    Accepted pf user r t device data preferredPort assigned →
      ∀ entry ∈ r.data, entry.1 ∉ sensitive user → ∀ c ∈ maintained,
        pf.column entry.1 = some c → pf.cast c entry.2 = some (device c)

variable {pf : Platform} {user : User} {r : Request} {t s : Tables} {id : Json} {device row : Row}
  {data written : Data} {entry : String × Json} {key : String} {value : Json} {c : Column}
  {preferredPort : Option (Option ℕ)} {assigned : List (Column × Value)}

section Keys

theorem ok_of_bind {α β : Type} {x : Except Failure α} {f : α → Except Failure β} {b : β}
    (h : x >>= f = .ok b) : ∃ a, x = .ok a ∧ f a = .ok b := by
  cases x with
  | error e => cases h
  | ok a => exact ⟨a, rfl, h⟩

theorem ok_of_map {α β : Type} {x : Except Failure α} {f : α → β} {b : β}
    (h : x.map f = .ok b) : ∃ a, b = f a := by
  cases x with
  | error e => cases h
  | ok a =>
    cases h
    exact ⟨a, rfl⟩

theorem mem_setKey (other : entry.1 ≠ key) : entry ∈ setKey key value written ↔ entry ∈ written := by
  unfold setKey
  split
  · constructor
    · intro mem
      obtain ⟨e, he, same⟩ := List.mem_map.1 mem
      split at same
      · subst same
        exact absurd rfl other
      · exact same ▸ he
    · intro mem
      exact List.mem_map.2 ⟨entry, mem, if_neg other⟩
  · constructor
    · intro mem
      rcases List.mem_append.1 mem with old | new
      · exact old
      · exact absurd (congrArg Prod.fst (List.mem_singleton.1 new)) other
    · exact fun mem => List.mem_append_left _ mem

theorem mem_rewriteKey {f : Json → Option Json} (other : entry.1 ≠ key) :
    entry ∈ rewriteKey key f data written ↔ entry ∈ written := by
  unfold rewriteKey
  split
  · rfl
  · exact mem_setKey other

theorem mem_deleteKeys {keys : List String} :
    entry ∈ deleteKeys keys written ↔ entry ∈ written ∧ entry.1 ∉ keys := by
  simp [deleteKeys]

theorem key_ne (column : pf.column entry.1 = some c) {d : Column} (ne : c ≠ d) :
    entry.1 ≠ d.key := by
  intro same
  rw [same, pf.column_name] at column
  exact ne (Option.some.inj column).symm

theorem mem_updateData (column : pf.column entry.1 = some c) (inside : c ∈ maintained) :
    entry ∈ updateData pf user data preferredPort ↔ entry ∈ data ∧ entry.1 ∉ sensitive user := by
  have apart (d : Column) (outside : d ∉ maintained) : entry.1 ≠ d.key :=
    key_ne column fun same => outside (same ▸ inside)
  have tunnel : entry.1 ≠ "enable_tunnel_ssl" := apart .enableTunnelSsl (by decide)
  have input : entry.1 ≠ "enable_input_ssl" := apart .enableInputSsl (by decide)
  have metadata : entry.1 ≠ "metadata" := apart .metadata (by decide)
  have capabilities : entry.1 ≠ "capabilities" := apart .capabilities (by decide)
  have preferred : entry.1 ≠ "preferred_port" := apart .preferredPort (by decide)
  have updated : entry.1 ≠ "updated_at" := apart .updatedAt (by decide)
  rw [updateData, mem_rewriteKey tunnel, mem_rewriteKey input, mem_deleteKeys,
    mem_rewriteKey metadata, mem_rewriteKey capabilities, mem_rewriteKey preferred,
    mem_setKey updated]

theorem mem_onKey {f : Json → Except Failure Json} {data' : Data}
    (h : onKey key f data = .ok data') (other : entry.1 ≠ key) : entry ∈ data' ↔ entry ∈ data := by
  induction data generalizing data' with
  | nil =>
    cases h
    rfl
  | cons first rest ih =>
    rw [onKey, List.mapM_cons] at h
    obtain ⟨e, here, h⟩ := ok_of_bind h
    obtain ⟨rest', there, h⟩ := ok_of_bind h
    cases h
    have same : entry = e ↔ entry = first := by
      split at here
      · rename_i isKey
        obtain ⟨value, rfl⟩ := ok_of_map here
        constructor
        · intro hit
          exact absurd (congrArg Prod.fst hit) other
        · intro hit
          exact absurd ((congrArg Prod.fst hit).trans isKey) other
      · cases here
        rfl
    rw [List.mem_cons, List.mem_cons, same, ih there]

theorem mem_checkData (column : pf.column entry.1 = some c) (inside : c ∈ maintained)
    (h : checkData pf r.data = .ok data) : entry ∈ data ↔ entry ∈ r.data := by
  have apart (d : Column) (outside : d ∉ maintained) : entry.1 ≠ d.key :=
    key_ne column fun same => outside (same ▸ inside)
  have preferred : entry.1 ≠ "preferred_port" := apart .preferredPort (by decide)
  have internal : entry.1 ≠ "internal_port" := apart .internalPort (by decide)
  obtain ⟨normalized, first, h⟩ := ok_of_bind h
  obtain ⟨_, _, h⟩ := ok_of_bind h
  obtain ⟨_, _, h⟩ := ok_of_bind h
  rw [mem_onKey h internal, mem_onKey first preferred]

end Keys

section Columns

theorem mem_assignments (h : assignments pf written = some assigned) {a : Column × Value} :
    a ∈ assigned ↔ ∃ entry ∈ written, pf.column entry.1 = some a.1 ∧
      pf.cast a.1 entry.2 = some a.2 := by
  have related := UserRequests.mapM_forall₂ h
  clear h
  induction related with
  | nil => simp
  | @cons entry b written assigned here _ ih =>
    obtain ⟨c, column, given⟩ := Option.bind_eq_some_iff.1 here
    obtain ⟨value, cast, rfl⟩ := Option.map_eq_some_iff.1 given
    constructor
    · intro mem
      rcases List.mem_cons.1 mem with rfl | mem
      · exact ⟨entry, List.mem_cons_self, column, cast⟩
      · obtain ⟨e, he, there⟩ := ih.1 mem
        exact ⟨e, List.mem_cons_of_mem _ he, there⟩
    · rintro ⟨e, he, column', cast'⟩
      rcases List.mem_cons.1 he with rfl | he
      · rw [column] at column'
        cases column'
        rw [cast] at cast'
        cases cast'
        exact List.mem_cons_self
      · exact List.mem_cons_of_mem _ (ih.2 ⟨e, he, column', cast'⟩)

theorem cast_of_assignments (h : assignments pf written = some assigned) (mem : entry ∈ written)
    (column : pf.column entry.1 = some c) : ∃ v, pf.cast c entry.2 = some v := by
  have related := UserRequests.mapM_forall₂ h
  clear h
  induction related with
  | nil => cases mem
  | @cons first b written assigned here _ ih =>
    rcases List.mem_cons.1 mem with rfl | later
    · obtain ⟨d, found, given⟩ := Option.bind_eq_some_iff.1 here
      rw [column] at found
      cases found
      obtain ⟨v, cast, _⟩ := Option.map_eq_some_iff.1 given
      exact ⟨v, cast⟩
    · exact ih later

theorem assign_of_mem (once : (assigned.map (·.1)).Nodup) {v : Value} (mem : (c, v) ∈ assigned) :
    assign assigned row c = v := by
  cases found : assigned.find? fun a => a.1 == c with
  | none => exact absurd (List.find?_eq_none.1 found _ mem) (by simp)
  | some a =>
    have key : a.1 = c := by simpa using List.find?_some found
    have same := List.inj_on_of_nodup_map once (List.mem_of_find?_eq_some found) mem key
    rw [assign, found, same]
    rfl

/-- A column that nothing is assigned to, or what it has, is left as it is. -/
theorem assign_eq (h : ∀ v, (c, v) ∈ assigned → v = row c) : assign assigned row c = row c := by
  cases found : assigned.find? fun a => a.1 == c with
  | none => simp [assign, found]
  | some a =>
    have key : a.1 = c := by simpa using List.find?_some found
    have value := h a.2 (key ▸ List.mem_of_find?_eq_some found)
    rw [assign, found, ← value]
    rfl

end Columns

section Runs

theorem bind_eq {α β : Type} (m : Service α) (f : α → Service β) :
    (m >>= f) t = match m t with
      | (.ok a, s) => f a s
      | (.error e, s) => (.error e, s) := by
  change Run.bind m f t = _
  unfold Run.bind
  rcases m t with ⟨_ | _, _⟩ <;> rfl

theorem bind_devices {α β : Type} {m : Service α} {f : α → Service β}
    (still : (m t).2.devices = t.devices)
    (next : ∀ a s, m t = (.ok a, s) → (f a s).2.devices = t.devices) :
    ((m >>= f) t).2.devices = t.devices := by
  rw [bind_eq]
  rcases h : m t with ⟨e | a, s⟩
  · rw [h] at still
    exact still
  · exact next a s h

theorem deviceById_still : (deviceById pf id t).2 = t := by
  unfold deviceById
  cases pf.cast .id id <;> rfl

theorem deviceById_found (h : (deviceById pf id t).1 = .ok (some device)) :
    pf.cast .id id = some (device .id) ∧ device ∈ t.devices := by
  unfold deviceById at h
  cases given : pf.cast .id id with
  | none =>
    rw [given] at h
    cases h
  | some value =>
    rw [given] at h
    have found : t.devices.find? (fun row => row .id == value) = some device := Except.ok.inj h
    have same := List.find?_some found
    rw [beq_iff_eq] at same
    exact ⟨congrArg some same.symm, List.mem_of_find?_eq_some found⟩

theorem withDevice_found {α : Type} {f : Row → Service α}
    (row : (deviceById pf id t).1 = .ok (some device))
    (access : canAccessDevice user device = true) : withDevice pf user id f t = f device t := by
  have eq : deviceById pf id t = (.ok (some device), t) := Prod.ext row deviceById_still
  unfold withDevice
  rw [bind_eq, eq]
  exact congrFun (if_pos access) t

theorem withDevice_devices {α : Type} {f : Row → Service α}
    (next : ∀ device, (deviceById pf id t).1 = .ok (some device) →
      canAccessDevice user device = true → (f device t).2.devices = t.devices) :
    (withDevice pf user id f t).2.devices = t.devices := by
  unfold withDevice
  refine bind_devices (by rw [deviceById_still]) ?_
  intro found s eq
  have same : (deviceById pf id t).2 = t := deviceById_still
  rw [eq] at same
  subst same
  cases found with
  | none => rfl
  | some device =>
    dsimp only
    split
    · rename_i access
      exact next device (congrArg Prod.fst eq) access
    · rfl

theorem permitted_eq (row : (deviceById pf id t).1 = .ok (some device))
    (access : canAccessDevice user device = true) : permitted pf user id t = (.ok (), t) := by
  unfold permitted
  split
  · rfl
  · exact withDevice_found row access

theorem permitted_still : (permitted pf user id t).2 = t := by
  unfold permitted
  split
  · rfl
  · unfold withDevice
    rw [bind_eq]
    have still : (deviceById pf id t).2 = t := deviceById_still
    rcases h : deviceById pf id t with ⟨e | _ | device, s⟩
    · rwa [h] at still
    · rwa [h] at still
    · rw [h] at still
      dsimp only
      split
      · exact still
      · exact still

theorem reservePreferredPort_devices {id : Value} {port : Option ℕ} :
    (reservePreferredPort id port t).2.devices = t.devices := by
  have function (id : Uuid) (port : ℕ) : (reserveDevicePortPair id port t).1.devices = t.devices := by
    unfold reserveDevicePortPair
    split <;> rfl
  unfold reservePreferredPort
  split
  · rfl
  · rename_i id port
    change ((if (reserveDevicePortPair id port t).2 then _ else _ : Service Unit)
      (reserveDevicePortPair id port t).1).2.devices = _
    split <;> exact function id port
  · rfl

theorem releasePreferredPort_devices {id port : Value} :
    (releasePreferredPort id port t).2.devices = t.devices := by
  unfold releasePreferredPort
  split
  · split <;> rfl
  · rfl

theorem changePreferredPort_devices :
    (changePreferredPort device preferredPort t).2.devices = t.devices := by
  cases preferredPort with
  | none => rfl
  | some preferredPort =>
    change ((if portValue preferredPort = device .preferredPort then _ else _ : Service Unit)
      t).2.devices = _
    split
    · rfl
    · refine bind_devices rfl ?_
      intro live s read
      cases read
      split
      · rfl
      · refine bind_devices releasePreferredPort_devices ?_
        intro _ s released
        have kept := congrArg (fun r => r.2.devices) released
        rw [reservePreferredPort_devices]
        exact kept.symm.trans releasePreferredPort_devices

theorem updateDevices_refused (h : ∀ assigned, assignments pf written = some assigned →
      ¬ Valid pf assigned (assignWhere (device .id) assigned t.devices)) :
    (updateDevices pf (device .id) written t).2.devices = t.devices := by
  unfold updateDevices
  split
  · rfl
  · rename_i assigned columns
    dsimp only
    rw [dif_neg (h assigned columns)]

theorem updateDevices_devices (columns : assignments pf written = some assigned)
    (valid : Valid pf assigned (assignWhere (device .id) assigned t.devices)) :
    (updateDevices pf (device .id) written t).2.devices =
      assignWhere (device .id) assigned t.devices := by
  unfold updateDevices
  rw [columns]
  dsimp only
  rw [dif_pos valid]

theorem update_devices (next : ∀ device preferredPort assigned,
      (deviceById pf id t).1 = .ok (some device) → canAccessDevice user device = true →
      givenPort pf data = .ok preferredPort →
      (changePreferredPort device preferredPort t).1 = .ok () →
      assignments pf (updateData pf user data preferredPort) = some assigned →
      ¬ Valid pf assigned (assignWhere (device .id) assigned t.devices)) :
    (update pf user id data t).2.devices = t.devices := by
  refine withDevice_devices fun device row access => ?_
  refine bind_devices rfl ?_
  intro preferredPort s given
  obtain ⟨port, rfl⟩ := Prod.mk.inj given
  refine bind_devices changePreferredPort_devices ?_
  intro _ s changed
  have devices : s.devices = t.devices := by
    have still : (changePreferredPort device preferredPort t).2.devices = t.devices :=
      changePreferredPort_devices
    rwa [changed] at still
  rw [← devices]
  refine updateDevices_refused ?_
  intro assigned columns
  rw [devices]
  exact next device preferredPort assigned row access port (congrArg Prod.fst changed) columns

theorem update_accepted (row : (deviceById pf id t).1 = .ok (some device))
    (access : canAccessDevice user device = true) (port : givenPort pf data = .ok preferredPort)
    (change_ : (changePreferredPort device preferredPort t).1 = .ok ())
    (columns : assignments pf (updateData pf user data preferredPort) = some assigned)
    (valid : Valid pf assigned (assignWhere (device .id) assigned t.devices)) :
    (update pf user id data t).2.devices = assignWhere (device .id) assigned t.devices := by
  unfold update
  rw [withDevice_found row access, bind_eq, port]
  change ((changePreferredPort device preferredPort >>= fun _ => _) t).2.devices = _
  rcases changed : changePreferredPort device preferredPort t with ⟨_, s⟩
  rw [changed] at change_
  cases change_
  have devices : s.devices = t.devices := by
    have still : (changePreferredPort device preferredPort t).2.devices = t.devices :=
      changePreferredPort_devices
    rwa [changed] at still
  rw [bind_eq, changed, ← devices]
  rw [← devices] at valid
  exact updateDevices_devices columns valid

theorem respond_refused (h : ∀ device data preferredPort assigned,
    ¬ Accepted pf user r t device data preferredPort assigned) :
    (respond pf user r t).2.devices = t.devices := by
  unfold respond
  refine bind_devices (by rw [permitted_still]) ?_
  intro _ s passed
  have same : (permitted pf user r.id t).2 = t := permitted_still
  rw [passed] at same
  subst same
  refine bind_devices rfl ?_
  intro data s' given
  have pair : (checkData pf r.data, s) = (Except.ok data, s') := given
  obtain ⟨checked, rfl⟩ := Prod.mk.inj pair
  have refused : (update pf user r.id data s).2.devices = s.devices :=
    update_devices fun device preferredPort assigned row access port change columns valid =>
      h device data preferredPort assigned ⟨row, access, checked, port, change, columns, valid⟩
  cases r <;> exact refused

theorem respond_accepted (h : Accepted pf user r t device data preferredPort assigned) :
    (respond pf user r t).2.devices = assignWhere (device .id) assigned t.devices := by
  have written : (update pf user r.id data t).2.devices = assignWhere (device .id) assigned t.devices :=
    update_accepted h.row h.access h.port h.change h.columns h.valid
  unfold respond
  rw [bind_eq, permitted_eq h.row h.access]
  dsimp only
  rw [bind_eq, h.checked]
  cases r <;> exact written

end Runs

/-- An update keeps what the server maintains exactly when the keys that denote such a column, and
are not taken out, bring the value that is there. -/
theorem owner_update_exactly (pf : Platform) (user : User) (r : Request) (t : Tables) :
    Kept pf user r t ↔ Harmless pf user r t := by
  constructor
  · intro kept device data preferredPort assigned accepted entry mem free c inside column
    unfold Kept at kept
    rw [respond_accepted accepted] at kept
    obtain ⟨given, there⟩ := deviceById_found accepted.row
    have row := List.forall₂_same.1 (List.forall₂_map_right_iff.1 kept) device there
    rw [if_pos rfl] at row
    have written : entry ∈ updateData pf user data preferredPort :=
      (mem_updateData column inside).2 ⟨(mem_checkData column inside accepted.checked).2 mem, free⟩
    obtain ⟨v, cast⟩ := cast_of_assignments accepted.columns written column
    have new : (c, v) ∈ assigned :=
      (mem_assignments accepted.columns).2 ⟨entry, written, column, cast⟩
    rw [cast, ← row.2 c inside, assign_of_mem accepted.valid.1 new]
  · intro harmless
    by_cases any : ∃ device data preferredPort assigned,
        Accepted pf user r t device data preferredPort assigned
    · obtain ⟨device, data, preferredPort, assigned, accepted⟩ := any
      obtain ⟨given, there⟩ := deviceById_found accepted.row
      unfold Kept
      rw [respond_accepted accepted]
      refine List.forall₂_map_right_iff.2 (List.forall₂_same.2 ?_)
      intro row mem
      by_cases own : row .id = device .id
      · have same : row = device := List.inj_on_of_nodup_map t.keyed mem there own
        subst same
        rw [if_pos rfl]
        refine ⟨fun other => absurd given other, ?_⟩
        intro c inside
        refine assign_eq ?_
        intro v new
        obtain ⟨entry, written, column, cast⟩ := (mem_assignments accepted.columns).1 new
        obtain ⟨sent, free⟩ := (mem_updateData column inside).1 written
        have kept := harmless row data preferredPort assigned accepted entry
          ((mem_checkData column inside accepted.checked).1 sent) free c inside column
        exact Option.some.inj (cast.symm.trans kept)
      · rw [if_neg own]
        exact ⟨fun _ => rfl, fun _ _ => rfl⟩
    · simp only [not_exists] at any
      unfold Kept
      rw [respond_refused any]
      exact List.forall₂_same.2 fun row _ => ⟨fun _ => rfl, fun _ _ => rfl⟩

theorem Kept.column (kept : Kept pf user r t) (inside : c ∈ maintained) :
    (respond pf user r t).2.devices.map (fun row => row c) = t.devices.map fun row => row c := by
  unfold Kept at kept
  generalize (respond pf user r t).2.devices = devices' at kept ⊢
  generalize t.devices = devices at kept ⊢
  induction kept with
  | nil => rfl
  | cons first _ ih => rw [List.map_cons, List.map_cons, first.2 c inside, ih]

namespace Sample

def columns : List Column :=
  [.id, .deviceId, .name, .description, .type, .status, .authTokenHash, .assignedPort,
    .preferredPort, .internalAddress, .internalPort, .enableInputSsl, .enableTunnelSsl, .protocol,
    .capabilities, .metadata, .createdAt, .updatedAt, .lastHeartbeat, .totalBytesReceived,
    .totalBytesSent, .userId]

def numeric : List Column :=
  [.assignedPort, .preferredPort, .internalPort, .totalBytesReceived, .totalBytesSent, .userId]

def uuid : Json := .string "00000000-0000-0000-0000-000000000007"

def portInRange : Value → Bool
  | .integer n => 6000 ≤ n && n ≤ 7000
  | _ => true

theorem find_key (c : Column) : (columns.find? fun d => d.key == trim c.key) = some c := by
  cases c <;> decide +kernel

def postgres : Platform where
  number
    | .integer n => some n
    | _ => none
  stringify _ := "\x7b\x7d"
  newDate := .string "2026-01-01 00:00:00"
  column key := columns.find? fun c => c.key == trim key
  column_name := find_key
  cast c value :=
    match value with
    | .null => some .null
    | .integer n => if numeric.contains c then some (.integer n) else none
    | .string s =>
      if c = .id then if s = "00000000-0000-0000-0000-000000000007" then some (.uuid 7) else none
      else if numeric.contains c then none
      else some (.printed s)
    | _ => none
  constraints rows := rows.all fun row => portInRange (row .assignedPort)

def owner : User := ⟨2, "bob", some "user", "", none, none, none, some true⟩

def gateway : Row
  | .id => .uuid 7
  | .userId => .integer 2
  | .assignedPort => .integer 6010
  | .totalBytesSent => .integer 4096
  | .authTokenHash => .printed "5e88"
  | .deviceId => .printed "gateway-7"
  | _ => .null

def installed : Tables := ⟨[gateway], by decide, [], fun _ => .free, 0⟩

def taken : Request :=
  .patch uuid [("assigned_port", .integer 6900), ("total_bytes_sent", .integer 0),
    ("auth_token_hash ", .string "forged")]

end Sample

/-- The owner of a device writes columns that the server maintains. -/
theorem owner_writes_maintained :
    ((respond Sample.postgres Sample.owner Sample.taken Sample.installed).2.devices.map fun row =>
      [row .assignedPort, row .totalBytesSent, row .authTokenHash]) =
        [[.integer 6900, .integer 0, .printed "forged"]] ∧
    ¬ ∀ (pf : Platform) (user : User) (r : Request) (t : Tables), isAdminUser user = false →
      Kept pf user r t := by
  have written : ((respond Sample.postgres Sample.owner Sample.taken
      Sample.installed).2.devices.map fun row =>
        [row .assignedPort, row .totalBytesSent, row .authTokenHash]) =
      [[.integer 6900, .integer 0, .printed "forged"]] := by decide +kernel
  refine ⟨written, ?_⟩
  intro always
  have kept := always Sample.postgres Sample.owner Sample.taken Sample.installed (by decide)
  have port : (respond Sample.postgres Sample.owner Sample.taken
      Sample.installed).2.devices.map (fun row => row .assignedPort) = [.integer 6010] :=
    kept.column (by decide)
  exact absurd port (by decide +kernel)

end OwnerUpdates
