import NetPort.DeviceTables

/-! `reserve_device_port_pair` of migration 005 on every state that the constraints of the schema
admit: rows of `port_allocations` may be missing, a status may be NULL and a device unknown. -/
namespace PairReservations

open DeviceTables

/-- A row of `port_allocations`; `valid_allocation` does not fail on NULL. -/
structure Row where
  status : Option AllocationStatus
  deviceId : Option Uuid
  sessionId : Option Uuid
  allocatedAt : Option ℕ
  expiresAt : Option ℕ
  valid : ∀ s ∈ status, validAllocation s deviceId.isSome sessionId.isSome = true
  deriving DecidableEq

def Row.free : Row := ⟨some .free, none, none, none, none, by simp [validAllocation]⟩

def Row.reserved (device : Uuid) (now : ℕ) : Row :=
  ⟨some .reserved, some device, none, some now, none, by simp [validAllocation]⟩

def Known (devices : List Device) (row : Row) : Prop :=
  ∀ id ∈ row.deviceId, ∃ d ∈ devices, d.id = id

/-- The rows of `devices`, and those of `port_allocations` by their key. -/
structure Tables where
  devices : List Device
  ports : ℤ → Option Row
  now : ℕ
  range : ∀ p row, ports p = some row → 6000 ≤ p ∧ p ≤ 7000
  owners : ∀ p row, ports p = some row → Known devices row

/-- `UPDATE port_allocations SET … WHERE …` with a row of a known device. -/
def Tables.updatePorts (t : Tables) (cond : ℤ → Row → Bool) (set : Row)
    (known : Known t.devices set) : Tables where
  devices := t.devices
  ports p := (t.ports p).map fun row => if cond p row then set else row
  now := t.now
  range p row h := by
    obtain ⟨old, found, -⟩ := Option.map_eq_some_iff.1 h
    exact t.range p old found
  owners p row h := by
    obtain ⟨old, found, rfl⟩ := Option.map_eq_some_iff.1 h
    split
    · exact known
    · exact t.owners p old found

/-- `device_id = $1 AND status = 'reserved'` -/
def Row.reservedBy (device : Uuid) (row : Row) : Bool :=
  row.deviceId == some device && row.status == some .reserved

/-- `status IN ('free', 'reserved') AND (device_id IS NULL OR device_id = $1)` -/
def Row.reservable (device : Uuid) (row : Row) : Bool :=
  (row.status == some .free || row.status == some .reserved) &&
    (row.deviceId == none || row.deviceId == some device)

def releaseDevicePortReservation (device : Uuid) (t : Tables) : Tables :=
  t.updatePorts (fun _ row => row.reservedBy device) .free nofun

def inPair (port p : ℤ) : Bool := p == port || p == port + 1

/-- The last `UPDATE`, which fails when the device is not in `devices`. -/
def reserve (device : Uuid) (port : ℤ) (t : Tables) : Option Tables :=
  if h : ∃ d ∈ t.devices, d.id = device then
    some (t.updatePorts (fun p row => inPair port p && row.reservable device)
      (.reserved device t.now) fun _ own => Option.some.inj own ▸ h)
  else none

/-- `SELECT COUNT(*)` of the rows of the pair that the device may take. -/
def countReservable (device : Uuid) (port : ℤ) (t : Tables) : ℕ :=
  [port, port + 1].countP fun p => (t.ports p).any (·.reservable device)

/-- `none` is an exception, after which the tables are as before. -/
def reserveDevicePortPair (device : Uuid) (inputPort : Option ℤ) (t : Tables) :
    Option (Tables × Bool) :=
  match inputPort with
  | none => some (releaseDevicePortReservation device t, true)
  | some port =>
    if port < 6000 || port > 6998 || port % 2 != 0 then some (t, false)
    else if t.devices.any fun d => d.preferredPort.map Int.ofNat == some port && d.id != device then
      some (t, false)
    else
      let released := releaseDevicePortReservation device t
      if countReservable device port released < 2 then some (released, false)
      else
        (reserve device port released).map fun reserved =>
          (reserved, countReservable device port released == 2)

/-- A refusal leaves every row, and a reservation of a pair is the only one that the device then has
and changes no row but those of the pair and the device's own. -/
def AllOrNothing (device : Uuid) (inputPort : Option ℤ) (t : Tables) : Prop :=
  ∀ t' taken, reserveDevicePortPair device inputPort t = some (t', taken) →
    (taken = false → t'.ports = t.ports) ∧
    (taken = true → ∀ port, inputPort = some port →
      (∀ p, (t'.ports p).any (·.reservedBy device) = inPair port p) ∧
      ∀ p, (∀ row ∈ t.ports p, row.deviceId ≠ some device) → inPair port p = false →
        t'.ports p = t.ports p)

/-- The device can have the row: it is free, or reserved for the device already. -/
def Obtainable (device : Uuid) (t : Tables) (p : ℤ) : Prop :=
  ∃ row ∈ t.ports p, row.reservable device = true

def HoldsNothing (device : Uuid) (t : Tables) : Prop :=
  ∀ p, ∀ row ∈ t.ports p, row.reservedBy device = false

/-- The request is granted or refused before the release, or there is nothing to release. -/
def Harmless (device : Uuid) (t : Tables) (port : ℤ) : Prop :=
  port < 6000 ∨ 6998 < port ∨ port % 2 ≠ 0 ∨
    (∃ d ∈ t.devices, d.preferredPort.map Int.ofNat = some port ∧ d.id ≠ device) ∨
    (Obtainable device t port ∧ Obtainable device t (port + 1)) ∨ HoldsNothing device t

variable {device : Uuid} {t t' : Tables} {port p : ℤ} {row : Row}

@[simp] theorem reservable_free (device : Uuid) : Row.free.reservable device = true := rfl

@[simp] theorem reservedBy_free (device : Uuid) : Row.free.reservedBy device = false := rfl

@[simp] theorem reservedBy_reserved (device : Uuid) (now : ℕ) :
    (Row.reserved device now).reservedBy device = true := by
  simp [Row.reservedBy, Row.reserved]

theorem reservable_of_reservedBy (h : row.reservedBy device = true) :
    row.reservable device = true := by
  simp only [Row.reservedBy, Bool.and_eq_true, beq_iff_eq] at h
  simp [Row.reservable, h.1, h.2]

theorem release_ports (device : Uuid) (t : Tables) (p : ℤ) :
    (releaseDevicePortReservation device t).ports p =
      (t.ports p).map fun row => if row.reservedBy device then .free else row := rfl

theorem countReservable_release (device : Uuid) (port : ℤ) (t : Tables) :
    countReservable device port (releaseDevicePortReservation device t) =
      countReservable device port t := by
  have same (p : ℤ) : ((releaseDevicePortReservation device t).ports p).any (·.reservable device) =
      (t.ports p).any (·.reservable device) := by
    rw [release_ports]
    cases t.ports p with
    | none => rfl
    | some row =>
      by_cases own : row.reservedBy device = true
      · simp [own, reservable_of_reservedBy own]
      · simp [own]
  unfold countReservable
  simp only [same]

theorem countReservable_two : ¬ countReservable device port t < 2 ↔
    Obtainable device t port ∧ Obtainable device t (port + 1) := by
  have obtainable (p : ℤ) :
      Obtainable device t p ↔ (t.ports p).any (·.reservable device) = true := by
    simp [Obtainable, Option.any_eq_true]
  rw [obtainable, obtainable]
  simp only [countReservable, List.countP_cons, List.countP_nil]
  by_cases first : (t.ports port).any (·.reservable device) = true
  · by_cases second : (t.ports (port + 1)).any (·.reservable device) = true
    · simp [first, second]
    · simp [first, second]
  · by_cases second : (t.ports (port + 1)).any (·.reservable device) = true
    · simp [first, second]
    · simp [first, second]

theorem release_unchanged : (releaseDevicePortReservation device t).ports = t.ports ↔
    HoldsNothing device t := by
  constructor
  · intro same p row found
    have here := congrFun same p
    rw [release_ports, show t.ports p = some row from found] at here
    rw [← Bool.not_eq_true]
    intro own
    simp only [Option.map_some, own, if_true, Option.some.injEq] at here
    rw [← here] at own
    cases own
  · intro nothing
    funext p
    rw [release_ports]
    cases found : t.ports p with
    | none => rfl
    | some row => simp [nothing p row found]

theorem reserve_ports (h : reserve device port t = some t') (p : ℤ) :
    t'.ports p = (t.ports p).map fun row =>
      if inPair port p && row.reservable device then .reserved device t.now else row := by
  unfold reserve at h
  split at h
  · cases h
    rfl
  · cases h

theorem inPair_iff : inPair port p = true ↔ p = port ∨ p = port + 1 := by simp [inPair]

/-- The pair is the only reservation, and the other devices' rows stay. -/
theorem reserve_exact (obtainable : Obtainable device t port ∧ Obtainable device t (port + 1))
    (h : reserve device port (releaseDevicePortReservation device t) = some t') :
    (∀ p, (t'.ports p).any (·.reservedBy device) = inPair port p) ∧
      ∀ p, (∀ row ∈ t.ports p, row.deviceId ≠ some device) → inPair port p = false →
        t'.ports p = t.ports p := by
  have ports (p : ℤ) := reserve_ports h p
  constructor
  · intro p
    rw [ports, release_ports]
    by_cases pair : inPair port p = true
    · obtain ⟨row, found, can⟩ : Obtainable device t p := by
        rcases inPair_iff.1 pair with rfl | rfl
        · exact obtainable.1
        · exact obtainable.2
      rw [show t.ports p = some row from found, pair]
      by_cases own : row.reservedBy device = true
      · simp [own]
      · simp [own, can]
    · cases t.ports p with
      | none => simp [pair]
      | some row =>
        by_cases own : row.reservedBy device = true
        · simp [own, pair]
        · simp [own, pair]
  · intro p others pair
    rw [ports, release_ports]
    cases found : t.ports p with
    | none => rfl
    | some row =>
      have own : row.reservedBy device = false := by
        simp [Row.reservedBy, others row found]
      simp [own, pair]

/-- A reservation is all or nothing exactly when the device holds nothing that a late refusal could
lose. -/
theorem reserves_allOrNothing_iff (device : Uuid) (inputPort : Option ℤ) (t : Tables) :
    AllOrNothing device inputPort t ↔ ∀ port ∈ inputPort, Harmless device t port := by
  cases inputPort with
  | none =>
    simp only [Option.mem_def, reduceCtorEq, false_implies, implies_true, iff_true]
    rintro t' taken h
    cases h
    exact ⟨nofun, fun _ port none => nomatch none⟩
  | some port =>
    have unchanged (h : reserveDevicePortPair device (some port) t = some (t, false)) :
        AllOrNothing device (some port) t := by
      intro t' taken h'
      cases h.symm.trans h'
      exact ⟨fun _ => rfl, nofun⟩
    simp only [Option.mem_def, Option.some.injEq, forall_eq']
    by_cases range : (port < 6000 || port > 6998 || port % 2 != 0) = true
    · have early : Harmless device t port := by
        simp only [Bool.or_eq_true, decide_eq_true_eq, bne_iff_ne] at range
        rcases range with (low | high) | odd
        · exact .inl low
        · exact .inr (.inl high)
        · exact .inr (.inr (.inl odd))
      refine iff_of_true (unchanged ?_) early
      simp only [reserveDevicePortPair, range, if_true]
    by_cases taken : (t.devices.any fun d =>
        d.preferredPort.map Int.ofNat == some port && d.id != device) = true
    · have early : Harmless device t port := by
        obtain ⟨d, mem, preferred⟩ := List.any_eq_true.1 taken
        simp only [Bool.and_eq_true, beq_iff_eq, bne_iff_ne] at preferred
        exact .inr (.inr (.inr (.inl ⟨d, mem, preferred⟩)))
      refine iff_of_true (unchanged ?_) early
      simp only [reserveDevicePortPair, range, taken, if_true, if_false, Bool.false_eq_true]
    by_cases few : countReservable device port t < 2
    · have result : reserveDevicePortPair device (some port) t =
          some (releaseDevicePortReservation device t, false) := by
        simp only [reserveDevicePortPair, range, taken, countReservable_release, few, if_true,
          if_false, Bool.false_eq_true]
      constructor
      · intro all
        have same := (all _ _ result).1 rfl
        exact .inr (.inr (.inr (.inr (.inr (release_unchanged.1 same)))))
      · intro harmless t' got h
        cases result.symm.trans h
        refine ⟨fun _ => release_unchanged.2 ?_, nofun⟩
        have inside : ¬ (port < 6000 ∨ 6998 < port ∨ port % 2 ≠ 0) := by
          intro out
          apply range
          simp only [Bool.or_eq_true, decide_eq_true_eq, bne_iff_ne, or_assoc]
          exact out
        rcases harmless with low | high | odd | ⟨d, mem, preferred⟩ | both | nothing
        · exact absurd (.inl low) inside
        · exact absurd (.inr (.inl high)) inside
        · exact absurd (.inr (.inr odd)) inside
        · refine absurd (List.any_eq_true.2 ⟨d, mem, ?_⟩) taken
          simp only [Bool.and_eq_true, beq_iff_eq, bne_iff_ne]
          exact preferred
        · exact absurd few (countReservable_two.2 both)
        · exact nothing
    · have both := countReservable_two.1 few
      refine iff_of_true ?_ (.inr (.inr (.inr (.inr (.inl both)))))
      intro t' got h
      simp only [reserveDevicePortPair, range, taken, countReservable_release, few, if_false,
        Bool.false_eq_true, Option.map_eq_some_iff] at h
      obtain ⟨reserved, found, same⟩ := h
      cases same
      have two : countReservable device port t = 2 := by
        have most : countReservable device port t ≤ 2 := List.countP_le_length
        omega
      refine ⟨fun refused => ?_, fun _ p own => ?_⟩
      · rw [two] at refused
        cases refused
      · cases own
        exact reserve_exact both found

def Row.of (row : PortAllocation) : Row where
  status := some row.status
  deviceId := row.deviceId
  sessionId := row.sessionId
  allocatedAt := row.allocatedAt
  expiresAt := row.expiresAt
  valid := by
    rintro s ⟨⟩
    exact row.valid

structure Models (t : Tables) (db : Db) : Prop where
  devices : t.devices = db.devices
  now : t.now = db.now
  ports : ∀ p : ℤ, t.ports p = if 6000 ≤ p ∧ p ≤ 7000 then some (.of (db.ports p.toNat)) else none

variable {db : Db}

theorem reservedBy_of (row : PortAllocation) : (Row.of row).reservedBy device =
    (row.deviceId == some device && row.status == .reserved) := by
  simp [Row.reservedBy, Row.of]

theorem reservable_of (row : PortAllocation) :
    (Row.of row).reservable device = row.reservable device := by
  simp [Row.reservable, PortAllocation.reservable, Row.of]

/-- The same `UPDATE` on both. -/
theorem Models.update (h : Models t db) {cond : ℤ → Row → Bool} {set : Row}
    (known : Known t.devices set) {cond' : ℕ → PortAllocation → Bool} {set' : PortAllocation}
    (same : set = .of set')
    (agree : ∀ (p : ℕ) (row : PortAllocation), cond (p : ℤ) (.of row) = cond' p row) :
    Models (t.updatePorts cond set known) (updatePorts cond' set' db) := by
  refine ⟨h.devices, h.now, fun p => ?_⟩
  simp only [Tables.updatePorts, h.ports p]
  by_cases range : 6000 ≤ p ∧ p ≤ 7000
  · have natural : (p.toNat : ℤ) = p := Int.toNat_of_nonneg (by omega)
    have pool : inPool p.toNat = true := by
      simp only [inPool, Bool.and_eq_true, decide_eq_true_eq]
      omega
    have hit := agree p.toNat (db.ports p.toNat)
    rw [natural] at hit
    rw [if_pos range, if_pos range]
    simp only [Option.map_some, hit, same, updatePorts, SqlUpdate.updateKeyed, pool, Bool.true_and]
    by_cases changed : cond' p.toNat (db.ports p.toNat) = true
    · rw [if_pos changed, if_pos changed]
    · rw [if_neg changed, if_neg changed]
  · rw [if_neg range, if_neg range]
    rfl

theorem Models.release (h : Models t db) : Models (releaseDevicePortReservation device t)
    (DeviceTables.releaseDevicePortReservation device none db) := by
  refine h.update _ rfl fun p row => ?_
  rw [reservedBy_of, Bool.and_true]

theorem Models.reservable (h : Models t db) (device : Uuid) (p : ℕ) (low : 6000 ≤ p)
    (high : p ≤ 7000) :
    (t.ports p).any (·.reservable device) = (db.ports p).reservable device := by
  rw [h.ports, if_pos (by omega), Option.any_some, reservable_of, Int.toNat_natCast]

/-- For a device that is known, the function of the other modules does the same. -/
theorem Models.reserveDevicePortPair (h : Models t db) (known : ∃ d ∈ db.devices, d.id = device)
    (inputPort : Option ℕ) :
    ∃ t', reserveDevicePortPair device (inputPort.map Int.ofNat) t =
        some (t', (DeviceTables.reserveDevicePortPair device inputPort db).2) ∧
      Models t' (DeviceTables.reserveDevicePortPair device inputPort db).1 := by
  cases inputPort with
  | none => exact ⟨_, rfl, h.release⟩
  | some port =>
    have range : (decide ((Int.ofNat port) < 6000) || decide (Int.ofNat port > 6998) ||
        Int.ofNat port % 2 != 0) =
        (decide (port < 6000) || decide (port > 6998) || port % 2 != 0) := by
      rw [Bool.eq_iff_iff]
      simp only [Bool.or_eq_true, decide_eq_true_eq, bne_iff_ne, Int.ofNat_eq_natCast]
      omega
    have taken : (t.devices.any fun d =>
        d.preferredPort.map Int.ofNat == some (Int.ofNat port) && d.id != device) =
        db.devices.any fun d => d.preferredPort == some port && d.id != device := by
      rw [h.devices]
      refine congrArg db.devices.any (funext fun d => ?_)
      cases d.preferredPort with
      | none => rfl
      | some p =>
        have same : ((p : ℤ) == port) = (p == port) := by
          rw [Bool.eq_iff_iff, beq_iff_eq, beq_iff_eq, Int.natCast_inj]
        simp [same]
    rw [Option.map_some]
    unfold PairReservations.reserveDevicePortPair DeviceTables.reserveDevicePortPair
    dsimp only
    rw [range, taken]
    split
    · exact ⟨t, rfl, h⟩
    split
    · exact ⟨t, rfl, h⟩
    rename_i inside _
    simp only [Bool.or_eq_true, decide_eq_true_eq, bne_iff_ne, not_or, not_not] at inside
    generalize freed : DeviceTables.releaseDevicePortReservation device none db = released'
    have released : Models (releaseDevicePortReservation device t) released' := freed ▸ h.release
    have first := released.reservable device port (by omega) (by omega)
    have second := released.reservable device (port + 1) (by omega) (by omega)
    have count : countReservable device (Int.ofNat port) (releaseDevicePortReservation device t) =
        [port, port + 1].countP fun p => (released'.ports p).reservable device := by
      simp only [countReservable, List.countP_cons, List.countP_nil, Int.ofNat_eq_natCast, first]
      rw [← second]
      rfl
    rw [count]
    split
    · exact ⟨_, rfl, released⟩
    · rename_i enough
      have known : ∃ d ∈ (releaseDevicePortReservation device t).devices, d.id = device :=
        h.devices ▸ known
      have two : ([port, port + 1].countP fun p =>
          (released'.ports p).reservable device) = 2 := by
        have most : ([port, port + 1].countP fun p => (released'.ports p).reservable device) ≤ 2 :=
          List.countP_le_length
        omega
      rw [reserve, dif_pos known, two]
      refine ⟨_, rfl, released.update _ ?_ fun p row => ?_⟩
      · rw [released.now, ← freed]
        rfl
      · have pair : inPair (Int.ofNat port) (p : ℤ) = (p == port || p == port + 1) := by
          rw [Bool.eq_iff_iff]
          simp only [inPair, Bool.or_eq_true, beq_iff_eq, Int.ofNat_eq_natCast]
          omega
        rw [reservable_of, pair]

namespace Sample

def holder : Device where
  id := 1
  deviceId := "d"
  name := ""
  type := ""
  userId := none
  authTokenHash := ""
  status := .active
  assignedPort := none
  preferredPort := none
  internalAddress := none
  internalPort := none
  enableInputSsl := false
  enableTunnelSsl := false
  lastHeartbeat := none
  totalBytesSent := 0
  totalBytesReceived := 0

def held (p : ℤ) : Option Row :=
  if p = 6000 ∨ p = 6001 then some (.reserved 1 0)
  else if p = 6002 ∨ p = 6003 then 
    some ⟨some .blocked, none, none, none, none, by simp [validAllocation]⟩
  else none

def tables : Tables where
  devices := [holder]
  ports := held
  now := 0
  range p r h := by
    simp only [held] at h
    split at h
    · omega
    · split at h
      · omega
      · cases h
  owners p r h := by
    simp only [held] at h
    split at h
    · cases h
      rintro id ⟨⟩
      exact ⟨holder, by simp, rfl⟩
    · split at h
      · cases h
        exact nofun
      · cases h

end Sample

theorem refused_and_released : ¬ ∀ (device : Uuid) (inputPort : Option ℤ) (t : Tables),
    AllOrNothing device inputPort t := by
  intro always
  have refused : reserveDevicePortPair 1 (some 6002) Sample.tables =
      some (releaseDevicePortReservation 1 Sample.tables, false) := by
    have count : countReservable 1 6002 (releaseDevicePortReservation 1 Sample.tables) < 2 := by
      decide +kernel
    simp only [reserveDevicePortPair]
    rw [if_neg (by decide), if_neg (by decide +kernel), if_pos count]
  have kept := (always 1 (some 6002) Sample.tables _ _ refused).1 rfl
  have nothing := release_unchanged.1 kept 6000 (.reserved 1 0) rfl
  exact absurd nothing (by decide)

end PairReservations
