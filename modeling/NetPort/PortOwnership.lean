import NetPort.DeviceTables

/-! Which session owns which pair of `port_allocations`, and what each SQL function does to
the rows of the pairs it does not touch. -/
namespace PortOwnership

open SqlUpdate DeviceTables

variable {db : Db} {port q : ℕ}

/-- Allocated rows are those that were allocated before, unchanged. -/
def Frees (db db' : Db) : Prop :=
  ∀ q, (db'.ports q).status = .allocated → db'.ports q = db.ports q

theorem Frees.refl (db : Db) : Frees db db := fun _ _ => rfl

theorem Frees.trans {a b c : Db} (h : Frees a b) (h' : Frees b c) : Frees a c := by
  intro q allocated
  have second := h' q allocated
  rw [second] at allocated
  exact second.trans (h q allocated)

theorem Frees.not_allocated {db' : Db} (h : Frees db db')
    (free : (db.ports q).status ≠ .allocated) : (db'.ports q).status ≠ .allocated := by
  intro allocated
  rw [h q allocated] at allocated
  exact free allocated

section Rows

variable {cond : ℕ → PortAllocation → Bool} {row : PortAllocation} {device : Uuid}
  {inputPort : Option ℕ}

@[simp] theorem updatePorts_sessions : (updatePorts cond row db).sessions = db.sessions := rfl

theorem updatePorts_other (h : cond q (db.ports q) = false) :
    (updatePorts cond row db).ports q = db.ports q := by
  simp [updatePorts, updateKeyed, h]

theorem updatePorts_hit (pool : inPool q = true) (h : cond q (db.ports q) = true) :
    (updatePorts cond row db).ports q = row := by
  simp [updatePorts, updateKeyed, pool, h]

theorem frees_updatePorts (hrow : row.status ≠ .allocated) : Frees db (updatePorts cond row db) := by
  intro q allocated
  simp only [updatePorts, updateKeyed] at allocated ⊢
  split at allocated
  · exact absurd allocated hrow
  · rename_i miss
    rw [if_neg miss]

theorem freeDevicePort_other (h : q ≠ port) : (freeDevicePort port db).ports q = db.ports q :=
  updatePorts_other (by simp [h])

theorem frees_freeDevicePort (port : ℕ) (db : Db) : Frees db (freeDevicePort port db) :=
  frees_updatePorts (by decide)

theorem releaseDevicePortReservation_allocated (h : (db.ports q).status = .allocated) :
    (releaseDevicePortReservation device inputPort db).ports q = db.ports q :=
  updatePorts_other (by simp [h])

theorem reservable_allocated (h : row.status = .allocated) : row.reservable device = false := by
  simp [PortAllocation.reservable, h]

theorem reserveDevicePortPair_allocated (h : (db.ports q).status = .allocated) :
    (reserveDevicePortPair device inputPort db).1.ports q = db.ports q := by
  have released : (releaseDevicePortReservation device none db).ports q = db.ports q :=
    releaseDevicePortReservation_allocated h
  unfold reserveDevicePortPair
  split
  · exact released
  · dsimp only
    split_ifs
    · rfl
    · rfl
    · exact released
    · refine (updatePorts_other ?_).trans released
      rw [released, reservable_allocated h, Bool.and_false]

theorem frees_release (device : Uuid) (inputPort : Option ℕ) (db : Db) :
    Frees db (releaseDevicePortReservation device inputPort db) := frees_updatePorts (by decide)

theorem frees_reserve (device : Uuid) (inputPort : Option ℕ) (db : Db) :
    Frees db (reserveDevicePortPair device inputPort db).1 := by
  unfold reserveDevicePortPair
  split
  · exact frees_release device none db
  · dsimp only
    split_ifs
    · exact Frees.refl db
    · exact Frees.refl db
    · exact frees_release device none db
    · exact (frees_release device none db).trans
        (frees_updatePorts (by simp [PortAllocation.reserved]))

theorem reserveDevicePortPair_ports_only (device : Uuid) (inputPort : Option ℕ) (db : Db) :
    ∃ ports, (reserveDevicePortPair device inputPort db).1 = { db with ports := ports } := by
  unfold reserveDevicePortPair
  split
  · exact ⟨_, rfl⟩
  · dsimp only
    split_ifs <;> exact ⟨_, rfl⟩

theorem freeDevicePortPair_ports_only (port : ℕ) (db : Db) :
    ∃ ports, freeDevicePortPair port db = { db with ports := ports } := by
  unfold freeDevicePortPair
  dsimp only
  split
  · exact ⟨_, rfl⟩
  · obtain ⟨ports, h⟩ := reserveDevicePortPair_ports_only _ _
      (freeDevicePort (port + 1) (freeDevicePort port db))
    exact ⟨ports, h⟩

theorem freeDevicePortPairs_ports_only (ports : List ℕ) (db : Db) :
    ∃ rows, freeDevicePortPairs ports db = { db with ports := rows } := by
  induction ports generalizing db with
  | nil => exact ⟨db.ports, rfl⟩
  | cons port ports ih =>
    obtain ⟨rows, h⟩ := freeDevicePortPair_ports_only port db
    obtain ⟨rows', h'⟩ := ih (freeDevicePortPair port db)
    refine ⟨rows', ?_⟩
    change freeDevicePortPairs ports (freeDevicePortPair port db) = _
    rw [h', h]

@[simp] theorem freeDevicePortPairs_sessions (ports : List ℕ) :
    (freeDevicePortPairs ports db).sessions = db.sessions := by
  obtain ⟨rows, h⟩ := freeDevicePortPairs_ports_only ports db
  rw [h]

@[simp] theorem freeDevicePortPairs_devices (ports : List ℕ) :
    (freeDevicePortPairs ports db).devices = db.devices := by
  obtain ⟨rows, h⟩ := freeDevicePortPairs_ports_only ports db
  rw [h]

@[simp] theorem freeDevicePortPairs_now (ports : List ℕ) :
    (freeDevicePortPairs ports db).now = db.now := by
  obtain ⟨rows, h⟩ := freeDevicePortPairs_ports_only ports db
  rw [h]

theorem freeDevicePortPair_other (h : q ≠ port) (h' : q ≠ port + 1)
    (a : (db.ports q).status = .allocated) : (freeDevicePortPair port db).ports q = db.ports q := by
  have freed : (freeDevicePort (port + 1) (freeDevicePort port db)).ports q = db.ports q :=
    (freeDevicePort_other h').trans (freeDevicePort_other h)
  unfold freeDevicePortPair
  dsimp only
  split
  · exact freed
  · rw [reserveDevicePortPair_allocated (by rw [freed]; exact a), freed]

/-- Both calls of `free_device_port` are one update. -/
theorem freeDevicePorts_eq (port : ℕ) (db : Db) : freeDevicePort (port + 1) (freeDevicePort port db) =
    updatePorts (fun p row => (p == port || p == port + 1) &&
      (row.status == .allocated || row.status == .reserved)) .free db := by
  unfold freeDevicePort updatePorts
  congr 1
  funext p
  by_cases first : p = port
  · subst first
    simp [updateKeyed]
  · simp [updateKeyed, first]

theorem frees_freeDevicePorts (port : ℕ) (db : Db) :
    Frees db (freeDevicePort (port + 1) (freeDevicePort port db)) :=
  (frees_freeDevicePort port db).trans (frees_freeDevicePort (port + 1) _)

theorem frees_freeDevicePortPair (port : ℕ) (db : Db) : Frees db (freeDevicePortPair port db) := by
  unfold freeDevicePortPair
  dsimp only
  split
  · exact frees_freeDevicePorts port db
  · exact (frees_freeDevicePorts port db).trans (frees_reserve _ _ _)

theorem frees_freeDevicePortPairs (ports : List ℕ) (db : Db) :
    Frees db (freeDevicePortPairs ports db) := by
  induction ports generalizing db with
  | nil => exact Frees.refl db
  | cons port ports ih => exact (frees_freeDevicePortPair port db).trans (ih _)

theorem freeDevicePortPairs_other (ports : List ℕ) (db : Db)
    (h : ∀ port ∈ ports, q ≠ port ∧ q ≠ port + 1) (a : (db.ports q).status = .allocated) :
    (freeDevicePortPairs ports db).ports q = db.ports q := by
  induction ports generalizing db with
  | nil => rfl
  | cons port ports ih =>
    have first := freeDevicePortPair_other (h port (by simp)).1 (h port (by simp)).2 a
    have rest := ih (freeDevicePortPair port db) (fun p hp => h p (by simp [hp]))
      (by rw [first]; exact a)
    exact rest.trans first

end Rows

/-- The freed rows depend on the preferred ports and the rows, not on the sessions. -/
theorem reserveDevicePortPair_with_sessions (device : Uuid) (inputPort : Option ℕ) (db : Db)
    (sessions : List Session) :
    (reserveDevicePortPair device inputPort { db with sessions := sessions }).1 =
      { (reserveDevicePortPair device inputPort db).1 with sessions := sessions } := by
  cases inputPort with
  | none => rfl
  | some port =>
    unfold reserveDevicePortPair
    dsimp only [updatePorts, releaseDevicePortReservation]
    split_ifs <;> rfl

theorem freeDevicePortPairs_with_sessions (ports : List ℕ) (db : Db) (sessions : List Session) :
    freeDevicePortPairs ports { db with sessions := sessions } =
      { freeDevicePortPairs ports db with sessions := sessions } := by
  induction ports generalizing db with
  | nil => rfl
  | cons port ports ih =>
    have one : freeDevicePortPair port { db with sessions := sessions } =
        { freeDevicePortPair port db with sessions := sessions } := by
      unfold freeDevicePortPair
      dsimp only
      split
      · rfl
      · exact reserveDevicePortPair_with_sessions _ _
          (freeDevicePort (port + 1) (freeDevicePort port db)) sessions
    change freeDevicePortPairs ports (freeDevicePortPair port { db with sessions := sessions }) = _
    rw [one, ih]
    rfl

def Owns (db : Db) (s : Session) : Prop :=
  (db.ports s.assignedPort).OwnedBy s.deviceId s.id ∧
    (db.ports (s.assignedPort + 1)).OwnedBy s.deviceId s.id

instance (db : Db) (s : Session) : Decidable (Owns db s) :=
  inferInstanceAs (Decidable (_ ∧ _))

structure PortInvariant (db : Db) : Prop where
  ids : (db.sessions.map (·.id)).Nodup
  range : ∀ s ∈ db.sessions, 6000 ≤ s.assignedPort ∧ s.assignedPort < 7000
  even : ∀ s ∈ db.sessions, s.assignedPort % 2 = 0
  owned : ∀ s ∈ db.sessions, s.status = .active → Owns db s

namespace PortInvariant

variable {s t : Session}

/-- Two active sessions on one port are both recorded in its row, hence the same. -/
theorem same_port (h : PortInvariant db) (hs : s ∈ db.sessions) (ht : t ∈ db.sessions)
    (as : s.status = .active) (at' : t.status = .active) (e : s.assignedPort = t.assignedPort) :
    s = t := by
  have rowS := (h.owned s hs as).1.2.2
  have rowT := (h.owned t ht at').1.2.2
  rw [e, rowT] at rowS
  exact eq_of_key h.ids hs ht (Option.some.inj rowS).symm

/-- A change of rows that leaves the pairs of the active sessions alone. -/
theorem of_ports (h : PortInvariant db) {db' : Db} (sessions : db'.sessions = db.sessions)
    (rows : ∀ s ∈ db.sessions, s.status = .active →
      db'.ports s.assignedPort = db.ports s.assignedPort ∧
        db'.ports (s.assignedPort + 1) = db.ports (s.assignedPort + 1)) : PortInvariant db' := by
  refine ⟨by rw [sessions]; exact h.ids, by rw [sessions]; exact h.range,
    by rw [sessions]; exact h.even, ?_⟩
  intro s hs as
  rw [sessions] at hs
  obtain ⟨first, second⟩ := rows s hs as
  unfold Owns
  rw [first, second]
  exact h.owned s hs as

/-- A change of sessions that keeps their identity and activates none. -/
theorem update_sessions (h : PortInvariant db) (cond : Session → Bool) {set : Session → Session}
    (id : ∀ s, (set s).id = s.id) (device : ∀ s, (set s).deviceId = s.deviceId)
    (port : ∀ s, (set s).assignedPort = s.assignedPort)
    (active : ∀ s, (set s).status = .active → s.status = .active) :
    PortInvariant { db with sessions := updateRows cond set db.sessions } := by
  refine ⟨?_, ?_, ?_, ?_⟩
  · change ((updateRows cond set db.sessions).map (·.id)).Nodup
    rw [map_updateRows id]
    exact h.ids
  · intro s hs
    rcases mem_updateRows.1 hs with ⟨r, hr, _, rfl⟩ | ⟨hr, _⟩
    · rw [port]; exact h.range r hr
    · exact h.range s hr
  · intro s hs
    rcases mem_updateRows.1 hs with ⟨r, hr, _, rfl⟩ | ⟨hr, _⟩
    · rw [port]; exact h.even r hr
    · exact h.even s hr
  · intro s hs as
    rcases mem_updateRows.1 hs with ⟨r, hr, _, rfl⟩ | ⟨hr, _⟩
    · have owned := h.owned r hr (active r as)
      simpa only [Owns, id, device, port] using owned
    · exact h.owned s hr as

/-- Freeing pairs by number is safe as long as no active session holds one of them. -/
theorem free_pairs (h : PortInvariant db) (ports : List ℕ) (even : ∀ port ∈ ports, port % 2 = 0)
    (unused : ∀ s ∈ db.sessions, s.status = .active → s.assignedPort ∉ ports) :
    PortInvariant (freeDevicePortPairs ports db) := by
  refine h.of_ports (freeDevicePortPairs_sessions ports) ?_
  intro s hs as
  have apart : ∀ port ∈ ports, s.assignedPort ≠ port := by
    rintro port hp rfl
    exact unused s hs as hp
  have parity := h.even s hs
  constructor
  · refine freeDevicePortPairs_other ports db ?_ (h.owned s hs as).1.1
    intro port hp
    have := apart port hp
    have := even port hp
    omega
  · refine freeDevicePortPairs_other ports db ?_ (h.owned s hs as).2.1
    intro port hp
    have := apart port hp
    have := even port hp
    omega

theorem with_devices (h : PortInvariant db) (devices : List Device) :
    PortInvariant { db with devices := devices } :=
  ⟨h.ids, h.range, h.even, h.owned⟩

theorem with_now (h : PortInvariant db) (now : ℕ) : PortInvariant { db with now := now } :=
  ⟨h.ids, h.range, h.even, h.owned⟩

theorem permuted (h : PortInvariant db) {sessions : List Session}
    (p : sessions.Perm db.sessions) : PortInvariant { db with sessions := sessions } :=
  ⟨(p.map _).nodup_iff.2 h.ids, fun s hs => h.range s (p.mem_iff.1 hs),
    fun s hs => h.even s (p.mem_iff.1 hs), fun s hs as => h.owned s (p.mem_iff.1 hs) as⟩

theorem reserve (h : PortInvariant db) (device : Uuid) (inputPort : Option ℕ) :
    PortInvariant (reserveDevicePortPair device inputPort db).1 := by
  obtain ⟨ports, only⟩ := reserveDevicePortPair_ports_only device inputPort db
  refine h.of_ports (by rw [only]) ?_
  intro s hs as
  have owned := h.owned s hs as
  exact ⟨reserveDevicePortPair_allocated owned.1.1, reserveDevicePortPair_allocated owned.2.1⟩

theorem release (h : PortInvariant db) (device : Uuid) (inputPort : Option ℕ) :
    PortInvariant (releaseDevicePortReservation device inputPort db) := by
  refine h.of_ports rfl ?_
  intro s hs as
  have owned := h.owned s hs as
  exact ⟨releaseDevicePortReservation_allocated owned.1.1,
    releaseDevicePortReservation_allocated owned.2.1⟩

/-- Sessions that the statement takes out of service give their pairs back. -/
theorem retire (h : PortInvariant db) (hit : Session → Bool) (set : Session → Session)
    (id : ∀ s, (set s).id = s.id) (device : ∀ s, (set s).deviceId = s.deviceId)
    (port : ∀ s, (set s).assignedPort = s.assignedPort)
    (hitActive : ∀ s, hit s = true → s.status = .active)
    (retired : ∀ s, (set s).status ≠ .active) :
    PortInvariant (freeDevicePortPairs ((db.sessions.filter hit).map (·.assignedPort))
      { db with sessions := updateRows hit set db.sessions }) := by
  have updated := h.update_sessions hit id device port
    (fun s as => absurd as (retired s))
  refine updated.free_pairs _ ?_ ?_
  · intro p hp
    obtain ⟨s, hs, rfl⟩ := List.mem_map.1 hp
    exact h.even s (List.mem_filter.1 hs).1
  · intro t ht at' hp
    obtain ⟨s, hs, e⟩ := List.mem_map.1 hp
    obtain ⟨hs, hitS⟩ := List.mem_filter.1 hs
    rcases mem_updateRows.1 ht with ⟨r, _, _, rfl⟩ | ⟨ht, miss⟩
    · exact retired r at'
    · have same := h.same_port hs ht (hitActive s hitS) at' e
      rw [same, miss] at hitS
      exact Bool.noConfusion hitS

theorem cleanup_device (h : PortInvariant db) (deviceId : String) :
    PortInvariant (cleanupDeviceSessions deviceId db) := by
  refine PortInvariant.with_devices ?_ _
  refine h.retire _ _ (fun _ => rfl) (fun _ => rfl) (fun _ => rfl) ?_ (fun _ => by simp)
  intro s hit
  simp only [Bool.and_eq_true, beq_iff_eq] at hit
  exact hit.2

theorem not_overdue {now : ℕ} (as : s.status = .active) (h : s.overdue now = false) :
    s.live now = true := by
  simp only [Session.overdue, as, beq_self_eq_true, Bool.and_true, decide_eq_false_iff_not] at h
  simpa [Session.live, as] using h

theorem cleanup_expired (h : PortInvariant db) : PortInvariant (cleanupExpiredSessions db) := by
  refine PortInvariant.with_devices ?_ _
  have retired := h.retire (·.overdue db.now) (fun s => { s with status := .expired })
    (fun _ => rfl) (fun _ => rfl) (fun _ => rfl)
    (fun s hit => by simpa using (Bool.and_eq_true_iff.1 hit).2) (fun _ => by simp)
  rw [freeDevicePortPairs_with_sessions] at retired
  have covered : ∀ s ∈ updateRows (·.overdue db.now) (fun s => { s with status := .expired })
      db.sessions, s.status = .active → s.live db.now = true := by
    intro s hs as
    rcases mem_updateRows.1 hs with ⟨r, _, _, rfl⟩ | ⟨_, miss⟩
    · exact absurd as (by simp)
    · exact not_overdue as miss
  simp only [freeDevicePortPairs_now, freeDevicePortPairs_sessions]
  refine retired.of_ports rfl ?_
  intro s hs as
  have live := covered s hs as
  constructor <;> refine updatePorts_other ?_
  · simp only [Bool.and_eq_false_iff, Bool.not_eq_false', List.any_eq_true]
    exact .inr ⟨s, hs, by simp [live]⟩
  · simp only [Bool.and_eq_false_iff, Bool.not_eq_false', List.any_eq_true]
    exact .inr ⟨s, hs, by simp [live]⟩

theorem findPair_spec {dev : Device} (h : findPair dev db = some port) :
    6000 ≤ port ∧ port < 7000 ∧ port % 2 = 0 ∧ (db.ports port).status ≠ .allocated ∧
      (db.ports (port + 1)).status ≠ .allocated := by
  have available := List.find?_some h
  simp only [pairAvailable, Bool.and_eq_true, decide_eq_true_eq, beq_iff_eq] at available
  obtain ⟨⟨⟨⟨⟨joined, low⟩, high⟩, even⟩, _⟩, _⟩ := available
  refine ⟨low, high, even, ?_⟩
  split at joined
  · simp only [Bool.and_eq_true, beq_iff_eq] at joined
    obtain ⟨⟨⟨first, _⟩, second⟩, _⟩ := joined
    simp [first, second]
  · simp only [Bool.and_eq_true] at joined
    obtain ⟨⟨_, first⟩, second⟩ := joined
    constructor
    · intro a
      rw [reservable_allocated a] at first
      exact Bool.noConfusion first
    · intro a
      rw [reservable_allocated a] at second
      exact Bool.noConfusion second

/-- The statement inserts at most one session, on a pair that no session held. -/
theorem registerSession_spec {deviceId token : String} {timeout : ℕ} {sid : Uuid} {db' : Db}
    {r : Option (ℕ × ℕ)} (h : registerSession deviceId token timeout sid db = some (db', r)) :
    (db' = db ∧ r = none) ∨ ∃ dev port, dev ∈ db.devices ∧ dev.deviceId = deviceId ∧
      dev.status.admitted = true ∧ findPair dev db = some port ∧
      (∀ s ∈ db.sessions, s.id ≠ sid ∧ s.sessionToken ≠ token) ∧ r = some (port, port + 1) ∧
      db' = updatePorts (fun p _ => p == port || p == port + 1)
        (.allocated dev.id sid db.now (db.now + timeout))
        { db with sessions := db.sessions ++ [{
            id := sid, deviceId := dev.id, sessionToken := token, assignedPort := port,
            startedAt := db.now, expiresAt := db.now + timeout, bytesSent := 0,
            bytesReceived := 0, activeConnections := 0, status := .active }] } := by
  unfold registerSession at h
  split at h
  · simp only [Option.some.injEq, Prod.mk.injEq] at h
    exact .inl ⟨h.1.symm, h.2.symm⟩
  · rename_i dev hdev
    split at h
    · simp only [Option.some.injEq, Prod.mk.injEq] at h
      exact .inl ⟨h.1.symm, h.2.symm⟩
    · rename_i port hport
      split at h
      · exact absurd h (by simp)
      · rename_i fresh
        simp only [Option.some.injEq, Prod.mk.injEq] at h
        have admitted := List.find?_some hdev
        simp only [Bool.and_eq_true, beq_iff_eq] at admitted
        refine .inr ⟨dev, port, List.mem_of_find?_eq_some hdev, admitted.1, admitted.2, hport, ?_,
          h.2.symm, h.1.symm⟩
        intro s hs
        simp only [List.any_eq_true, Bool.or_eq_true, beq_iff_eq, not_exists, not_and,
          not_or] at fresh
        exact fresh s hs

theorem register (h : PortInvariant db) {deviceId token : String} {timeout : ℕ} {sid : Uuid}
    {db' : Db} {r : Option (ℕ × ℕ)}
    (e : registerSession deviceId token timeout sid db = some (db', r)) : PortInvariant db' := by
  rcases registerSession_spec e with ⟨rfl, _⟩ | ⟨dev, port, _, _, _, hport, fresh, _, rfl⟩
  · exact h
  · obtain ⟨low, high, even, first, second⟩ := findPair_spec hport
    have pool : inPool port = true := by simp [inPool]; omega
    have pool' : inPool (port + 1) = true := by simp [inPool]; omega
    refine ⟨?_, ?_, ?_, ?_⟩
    · simp only [updatePorts_sessions, List.map_append, List.map_cons, List.map_nil]
      refine List.Nodup.append h.ids (by simp) ?_
      simp only [List.disjoint_singleton, List.mem_map, not_exists, not_and]
      exact fun s hs => (fresh s hs).1
    · intro s hs
      rcases List.mem_append.1 hs with hs | hs
      · exact h.range s hs
      · rw [List.mem_singleton.1 hs]; exact ⟨low, high⟩
    · intro s hs
      rcases List.mem_append.1 hs with hs | hs
      · exact h.even s hs
      · rw [List.mem_singleton.1 hs]; exact even
    · intro s hs as
      rcases List.mem_append.1 hs with hs | hs
      · have owned := h.owned s hs as
        have parity := h.even s hs
        have apart : s.assignedPort ≠ port := by
          intro e
          rw [← e] at first
          exact first owned.1.1
        constructor
        · rw [updatePorts_other (by simp; omega)]
          exact owned.1
        · rw [updatePorts_other (by simp; omega)]
          exact owned.2
      · rw [List.mem_singleton.1 hs]
        constructor
        · rw [updatePorts_hit pool (by simp)]
          exact ⟨rfl, rfl, rfl⟩
        · rw [updatePorts_hit pool' (by simp)]
          exact ⟨rfl, rfl, rfl⟩

end PortInvariant

end PortOwnership
