import NetPort.RequestIsolation
import NetPort.FixedPorts

/-! What a device request that throws leaves of `devices` and `port_allocations`: `create`,
`update` and `patch`, refused by a check, by the reservation or by a constraint. -/
namespace FailedWrites

open PairedRuns SqlUpdate DeviceTables PortOwnership BackendDisconnect DeviceRequests
open DeviceIsolation (checkedPort_still checkDeviceId_still validateInternalPort_still)
open DeviceManager (Json)
open DeviceService (Drawn orElse normalizePreferredPort validateDeviceType WellKeyed)

inductive Write where
  | create (data : CreateData) (drawn : Drawn) (authToken : String)
  | update (id : Option String) (data : UpdateData)
  | patch (id : Option String) (data : UpdateData)

def Write.request : Write → Request
  | .create data drawn authToken => .create data drawn authToken
  | .update id data => .update id data
  | .patch id data => .patch id data

structure SameStore (t t' : Tables) : Prop where
  devices : t'.devices = t.devices
  ports : t'.ports = t.ports

def Obtainable (id : Uuid) (port : ℕ) (t : Tables) : Prop :=
  (t.ports port).reservable id = true ∧ (t.ports (port + 1)).reservable id = true

structure Inserts (pf : Platform) (user : User) (data : CreateData) (drawn : Drawn) (t : Tables)
    (port : ℕ) : Prop where
  value : (checkedPort pf data.preferredPort t).1 = .ok (some (some port))
  deviceId : (checkDeviceId (orElse data.deviceId "") t).1 = .ok ()
  type : validateDeviceType (orElse data.type "iot_gateway") = .ok ()
  check : pf.check (newRow user data drawn (some port) t.now) = true
  keyed : WellKeyed ((t.devices ++ [newRow user data drawn (some port) t.now]).map Row.toDevice)

structure Passes (pf : Platform) (user : User) (id : Option String) (data : UpdateData) (t : Tables)
    (device : Row) (preferredPort internalPort : Option (Option ℕ)) : Prop where
  row : (deviceById pf id t).1 = .ok (some device)
  access : canAccessDevice user device.toDevice = true
  value : (checkedPort pf data.preferredPort t).1 = .ok preferredPort
  deviceId : (checkDeviceId (orElse data.deviceId "") t).1 = .ok ()
  type : validateDeviceType (data.type.getD "iot_gateway") = .ok ()
  internal : (validateInternalPort pf data.internalPort t).1 = .ok internalPort

def Accepted (pf : Platform) (user : User) (data : UpdateData) (t : Tables) (device : Row)
    (preferredPort internalPort : Option (Option ℕ)) : Prop :=
  ∃ columns, data.columns = .ok columns ∧
    pf.check (updatedRow user data columns preferredPort internalPort t.now device) = true ∧
    WellKeyed ((updateRows (·.id == device.id)
      (updatedRow user data columns preferredPort internalPort t.now) t.devices).map Row.toDevice)

def Contested (id : Uuid) (port : ℕ) (t : Tables) : Prop :=
  ∃ d ∈ t.devices, d.preferredPort = some port ∧ d.id ≠ id

def Granted (id : Uuid) (next : Option ℕ) (t : Tables) : Prop :=
  ∀ port ∈ next, ¬ Contested id port t ∧ Obtainable id port t

def ReservedAt (id : Uuid) (t : Tables) (q : ℕ) : Prop :=
  inPool q = true ∧ (t.ports q).status = .reserved ∧ (t.ports q).deviceId = some id

def Unreserved (id : Uuid) (old : Option ℕ) (t : Tables) : Prop :=
  ∀ port ∈ old, ¬ ReservedAt id t port ∧ ¬ ReservedAt id t (port + 1)

/-- Releasing the old fixed port and asking for the new one changes no row. -/
def Kept (id : Uuid) (old next : Option ℕ) (t : Tables) : Prop :=
  match next with
  | none => Unreserved id old t
  | some port =>
    (Contested id port t ∧ Unreserved id old t) ∨
    (¬ Contested id port t ∧ ¬ Obtainable id port t ∧ ∀ q, ¬ ReservedAt id t q) ∨
    (¬ Contested id port t ∧ (t.ports port = .reserved id t.now ∧
      t.ports (port + 1) = .reserved id t.now ∧
      ∀ q, ReservedAt id t q → q = port ∨ q = port + 1))

/-- A new device gets its pair; a changed fixed port is granted and its row accepted, or nothing was
reserved that could be lost. -/
def Harmless (pf : Platform) (user : User) (t : Tables) : Write → Prop
  | .create data drawn _ => ∀ port, Inserts pf user data drawn t port → Obtainable drawn.id port t
  | .update id data | .patch id data => ∀ device next internalPort,
    Passes pf user id data t device (some next) internalPort → next ≠ device.preferredPort →
      liveSessions device.id t = [] →
      (Granted device.id next t ∧ Accepted pf user data t device (some next) internalPort) ∨
        Kept device.id device.preferredPort next t

section Reservation

variable {id : Uuid} {port q : ℕ} {inputPort : Option ℕ} {db : Db}

theorem reservable_release (q : ℕ) :
    ((releaseDevicePortReservation id inputPort db).ports q).reservable id =
      (db.ports q).reservable id := by
  by_cases pool : inPool q = true
  · by_cases own : ((db.ports q).deviceId == some id && (db.ports q).status == .reserved &&
        match inputPort with
        | none => true
        | some port => q == port || q == port + 1) = true
    · rw [releaseDevicePortReservation, updatePorts_hit pool own]
      simp only [Bool.and_eq_true, beq_iff_eq] at own
      simp [PortAllocation.reservable, PortAllocation.free, own.1.1, own.1.2]
    · rw [releaseDevicePortReservation, updatePorts_other (Bool.eq_false_of_not_eq_true own)]
  · have same : (releaseDevicePortReservation id inputPort db).ports q = db.ports q := by
      simp [releaseDevicePortReservation, updatePorts, updateKeyed, pool]
    rw [same]

variable (range : 6000 ≤ port ∧ port ≤ 6998 ∧ port % 2 = 0)
include range

end Reservation

variable {pf : Platform} {user : User} {t s : Tables} {id : Uuid} {port : ℕ} {row : Row}
  {rows : List Row → List Row} {β : Type}

theorem SameStore.refl (t : Tables) : SameStore t t := ⟨rfl, rfl⟩

theorem deviceById_some (pf : Platform) (text : String) (t : Tables) :
    deviceById pf (some text) t =
      match pf.uuid text with
      | none => (.error (.invalidUuid text), t)
      | some id => (.ok (t.devices.find? (·.id == id)), t) := by
  simp only [deviceById]
  cases pf.uuid text <;> rfl

theorem deviceById_still (pf : Platform) (id : Option String) (t : Tables) :
    (deviceById pf id t).2 = t := by
  cases id with
  | none => rfl
  | some text =>
    rw [deviceById_some]
    cases pf.uuid text <;> rfl

theorem deviceById_found {key : Option String} {device : Row}
    (h : (deviceById pf key t).1 = .ok (some device)) :
    ∃ text, key = some text ∧ pf.uuid text = some device.id ∧ device ∈ t.devices := by
  cases key with
  | none => cases h
  | some text =>
    rw [deviceById_some] at h
    cases cast : pf.uuid text with
    | none =>
      rw [cast] at h
      cases h
    | some id =>
      rw [cast] at h
      have found : t.devices.find? (·.id == id) = some device := Except.ok.inj h
      have same := List.find?_some found
      rw [beq_iff_eq] at same
      exact ⟨text, rfl, same ▸ cast, List.mem_of_find?_eq_some found⟩

theorem withDevice_found {α : Type} {key : Option String} {device : Row} {g : Row → Service α}
    (found : (deviceById pf key t).1 = .ok (some device))
    (access : canAccessDevice user device.toDevice = true) :
    withDevice pf user key g t = g device t := by
  have read : deviceById pf key t = (.ok (some device), t) :=
    Prod.ext found (deviceById_still pf key t)
  simp only [withDevice, bind, Run.bind, read, access, if_true]

theorem permitted_still (pf : Platform) (user : User) (key : Option String) (t : Tables) :
    (permitted pf user key t).2 = t := by
  unfold permitted
  split
  · rfl
  · have still := deviceById_still pf key t
    simp only [withDevice, bind, Run.bind]
    rcases found : deviceById pf key t with ⟨_ | _ | device, t'⟩
    · rw [found] at still
      exact still
    · rw [found] at still
      exact still
    · rw [found] at still
      dsimp only
      split <;> exact still

/-- The statements of `update` after the reservations. -/
def writeRow (pf : Platform) (user : User) (key : Option String) (data : UpdateData)
    (preferredPort internalPort : Option (Option ℕ)) (device : Row) : Service Reply := do
  let columns ← Run.lift data.columns
  let now ← Run.read fun t => t.now
  let changed := updatedRow user data columns preferredPort internalPort now
  putDevices pf (changed device) (updateRows (·.id == device.id) changed)
  reloadTls data device
  readDevice pf key

section Update

variable {key : Option String} {data : UpdateData} {device : Row}
  {preferredPort internalPort : Option (Option ℕ)}

/-- The tables after the old fixed port is released. -/
structure Released (id : Uuid) (old : Option ℕ) (t s : Tables) : Prop where
  devices : s.devices = t.devices
  now : s.now = t.now
  ports : s.ports = match old with
    | none => t.ports
    | some port => (releaseDevicePortReservation id (some port) t.db).ports

section Released

variable {id : Uuid} {old : Option ℕ} (released : Released id old t s)
include released

theorem Released.reservable (q : ℕ) : (s.ports q).reservable id = (t.ports q).reservable id := by
  cases old with
  | none => rw [released.ports]
  | some port =>
    rw [released.ports]
    exact reservable_release q

end Released

end Update

namespace Sample

def blocked : Tables where
  users := []
  devices := []
  sessions := []
  ports q := if q = 6000 then ⟨none, none, none, none, .blocked, rfl⟩ else .free
  statistics := []
  samples := []
  now := 100
  commands := []

def data : CreateData where
  deviceId := some "gateway-3"
  name := none
  type := none
  status := none
  internalAddress := none
  internalPort := none
  enableInputSsl := false
  enableTunnelSsl := false
  preferredPort := some (.integer 6000)
  description := none
  protocol := none
  capabilities := none
  metadata := none

end Sample

end FailedWrites
