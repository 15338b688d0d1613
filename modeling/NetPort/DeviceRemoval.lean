import NetPort.FixedPorts

/-! Whether a device can be removed: its row goes with its sessions, unless a port row is left that
the foreign keys would clear against its CHECK. -/
namespace DeviceRemoval

open StatementPrograms StepRuns SqlUpdate DeviceTables DeviceManager PortOwnership
  BackendDisconnect DeviceService ProgramPools FixedPorts

/-- A row that the foreign keys would clear when the device goes. -/
def Names (id : Uuid) (db : Db) (q : ℕ) : Prop :=
  (db.ports q).deviceId = some id ∨
    ∃ u ∈ db.sessions, u.deviceId = id ∧ (db.ports q).sessionId = some u.id

structure Removed (id : Uuid) (before after : Db) : Prop where
  device : ∀ d ∈ after.devices, d.id ≠ id
  sessions : ∀ u ∈ after.sessions, u.deviceId ≠ id
  ports : ∀ (q : ℕ), inPool q = true → (before.ports q).deviceId = some id → after.ports q = .free

/-- The row is reserved for the device and one of its fixed pair. -/
def Fixed (device : Device) (db : Db) (q : ℕ) : Prop :=
  (db.ports q).deviceId = some device.id ∧ (db.ports q).status = .reserved ∧
    ∃ p ∈ device.preferredPort, q = p ∨ q = p + 1

def OnlyFixedPair (device : Device) (db : Db) : Prop :=
  ∀ (q : ℕ), inPool q = true → Names device.id db q → Fixed device db q

variable {id : Uuid} {db db' : Db} {q port : ℕ} {device : Device} {user : User} {s : State}

theorem deleteDevice_none_iff :
    deleteDevice id db = none ↔ ∃ q, inPool q = true ∧ Names id db q := by
  have range (q : ℕ) : q ∈ List.range' 6000 1001 ↔ inPool q = true := by
    simp only [List.mem_range'_1, inPool, Bool.and_eq_true, decide_eq_true_eq]
    omega
  unfold deleteDevice
  split
  · rename_i blocked
    obtain ⟨q, inside, names⟩ := List.any_eq_true.1 blocked
    refine iff_of_true rfl ⟨q, (range q).1 inside, ?_⟩
    simpa [Names] using names
  · rename_i unused
    refine iff_of_false (by simp) ?_
    rintro ⟨q, inside, names⟩
    refine unused (List.any_eq_true.2 ⟨q, (range q).2 inside, ?_⟩)
    simpa [Names] using names

theorem not_names_free (free : db.ports q = .free) : ¬ Names id db q := by
  rintro (owner | ⟨u, _, _, session⟩)
  · rw [free] at owner
    cases owner
  · rw [free] at session
    cases session

def released (device : Device) (db : Db) : Db :=
  match device.preferredPort with
  | none => db
  | some port => releaseDevicePortReservation device.id (some port) db

@[simp] theorem released_sessions : (released device db).sessions = db.sessions := by
  unfold released
  split <;> rfl

theorem released_of_fixed (pool : inPool q = true) (h : Fixed device db q) :
    (released device db).ports q = .free := by
  obtain ⟨own, reserved, port, preferred, pair⟩ := h
  have hit : ((db.ports q).deviceId == some device.id && (db.ports q).status == .reserved &&
      (q == port || q == port + 1)) = true := by
    rcases pair with rfl | rfl
    · simp [own, reserved]
    · simp [own, reserved]
  simp only [released, Option.mem_def.1 preferred]
  exact updatePorts_hit pool hit

theorem released_of_not_fixed (h : ¬ Fixed device db q) :
    (released device db).ports q = db.ports q := by
  unfold released
  split
  · rfl
  · rename_i port preferred
    refine updatePorts_other (Bool.eq_false_iff.2 fun hit => h ?_)
    simp only [Bool.and_eq_true, Bool.or_eq_true, beq_iff_eq] at hit
    exact ⟨hit.1.1, hit.1.2, port, preferred, hit.2⟩

/-- The release frees the fixed pair and leaves the other rows of the device. -/
theorem names_released (pool : inPool q = true) :
    Names device.id (released device db) q ↔ Names device.id db q ∧ ¬ Fixed device db q := by
  by_cases fixed : Fixed device db q
  · have free := released_of_fixed pool fixed
    exact iff_of_false (not_names_free free) fun h => h.2 fixed
  · have same := released_of_not_fixed fixed
    simp only [Names, released_sessions, same, fixed, not_false_eq_true, and_true]

theorem deletes_iff : (deleteDevice device.id (released device db)).isSome = true ↔
    OnlyFixedPair device db := by
  rw [Option.isSome_iff_ne_none, ne_eq, deleteDevice_none_iff]
  constructor
  · intro none q pool names
    by_contra apart
    exact none ⟨q, pool, (names_released pool).2 ⟨names, apart⟩⟩
  · rintro only ⟨q, pool, names⟩
    obtain ⟨named, apart⟩ := (names_released pool).1 names
    exact apart (only q pool named)

theorem run_deleteRow : run DeviceService.interp (deleteRow id) s =
    match deleteDevice id s.db with
    | none => (.error .database, s)
    | some db => (.ok "Device deleted successfully", { s with db := db }) := by
  simp only [deleteRow, perform_bind, run, DeviceService.interp, State.putDb]
  cases deleteDevice id s.db <;> rfl

/-- `remove` finds the row, releases the fixed pair and deletes the row. -/
theorem run_remove (found : s.db.devices.find? (·.id == device.id) = some device)
    (authorised : canAccessDevice user device = true) :
    run DeviceService.interp (remove user device.id) s =
      run DeviceService.interp (deleteRow device.id)
        { s with db := released device s.db } := by
  simp only [remove, withDevice, perform_bind, run, DeviceService.interp, found, authorised,
    Bool.not_true, Bool.false_eq_true, if_false]
  unfold released
  cases device.preferredPort <;> rfl

theorem removed_of_delete (only : OnlyFixedPair device db)
    (e : deleteDevice device.id (released device db) = some db') :
    Removed device.id db db' := by
  unfold deleteDevice at e
  split at e
  · cases e
  · cases e
    constructor
    · intro d hd
      simpa using (List.mem_filter.1 hd).2
    · intro u hu
      simpa using (List.mem_filter.1 hu).2
    · intro q pool own
      exact released_of_fixed pool (only q pool (Or.inl own))

/-- A device is removed, with its sessions and its hold on every port, exactly where no port row
but the reserved ones of its fixed pair names it or a session of it. -/
theorem removed_iff (user : User) (device : Device) (s : State)
    (found : s.db.devices.find? (·.id == device.id) = some device)
    (authorised : canAccessDevice user device = true) :
    ((run DeviceService.interp (remove user device.id) s).1 = .ok "Device deleted successfully" ∧
      Removed device.id s.db (run DeviceService.interp (remove user device.id) s).2.db) ↔
      OnlyFixedPair device s.db := by
  rw [run_remove found authorised, run_deleteRow, ← deletes_iff]
  cases deletes : deleteDevice device.id (released device s.db) with
  | none => simp
  | some db =>
    have only : OnlyFixedPair device s.db := deletes_iff.1 (by rw [deletes]; rfl)
    exact iff_of_true ⟨rfl, removed_of_delete only deletes⟩ rfl

def pinned : State :=
  (run DeviceService.interp (update integerOf administrator 1
    ⟨some (.integer 6000), none, none, fun d => d⟩) Sample.start).2

def pinnedA : Device := { Sample.device 1 "A" with preferredPort := some 6000 }

theorem pinned_removed :
    (run DeviceService.interp (remove administrator pinnedA.id) pinned).1 =
        .ok "Device deleted successfully" ∧
      Removed pinnedA.id pinned.db
        (run DeviceService.interp (remove administrator pinnedA.id) pinned).2.db := by
  have only : OnlyFixedPair pinnedA pinned.db := deletes_iff.1 (by decide +kernel)
  exact (removed_iff administrator pinnedA pinned (by decide +kernel) (by decide)).2 only

/-- A registers, and an administrator cannot remove it. -/
theorem connected_not_removed : ∃ log w device, sample.Run log w ∧
    w.store.db.devices.find? (·.id == 1) = some device ∧
    canAccessDevice administrator device = true ∧
    (run DeviceService.interp (remove administrator 1) w.store).1 = .error .database ∧
    device ∈ (run DeviceService.interp (remove administrator 1) w.store).2.db.devices := by
  obtain ⟨log, w, run, found⟩ := start_idle.follow_any (served 0 (.registerDeviceSession "A") 5)
    (fun r => (r.2.store.db.devices.find? (·.id == 1)).any fun device => decide
      (canAccessDevice administrator device = true ∧
        (run DeviceService.interp (remove administrator 1) r.2.store).1 = .error .database ∧
        device ∈ (run DeviceService.interp (remove administrator 1) r.2.store).2.db.devices))
    (by decide +kernel)
  obtain ⟨device, here, refused⟩ := (Option.any_eq_true _ _).1 found
  obtain ⟨authorised, refused, still⟩ := of_decide_eq_true refused
  exact ⟨log, w, device, run, here, authorised, refused, still⟩

end DeviceRemoval
