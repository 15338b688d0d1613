import NetPort.DeviceManager
import NetPort.PortOwnership

/-! What one step of the device manager or of the background does to sessions and rows: all
but the statement that inserts a session only retire sessions and free rows. -/
namespace AllocationRows

open StatementPrograms SqlUpdate DeviceTables ProxyRuntimes DeviceManager PortOwnership

variable {cfg : Config} {db db' : Db} {s t : State} {q : ℕ}

def rowKey (s : Session) : Uuid × Uuid × ℕ := (s.id, s.deviceId, s.assignedPort)

/-- The sessions keep the columns that `key` reads, and none becomes active. -/
structure Retires {κ : Type} (key : Session → κ) (db db' : Db) : Prop where
  keys : (db'.sessions.map key).Perm (db.sessions.map key)
  active : ∀ u ∈ db'.sessions, u.status = .active →
    ∃ v ∈ db.sessions, v.status = .active ∧ key v = key u
  frees : Frees db db'

def Lasting {κ : Type} (key : Session → κ) : Prop :=
  ∀ u status expiresAt, key { u with status := status, expiresAt := expiresAt } = key u

theorem lasting_rowKey : Lasting rowKey := fun _ _ _ => rfl

section Retired

variable {κ : Type} {key : Session → κ}

namespace Retires

theorem refl (db : Db) : Retires key db db :=
  ⟨.refl _, fun u hu active => ⟨u, hu, active, rfl⟩, Frees.refl db⟩

theorem trans {a b c : Db} (h : Retires key a b) (h' : Retires key b c) : Retires key a c := by
  refine ⟨h'.keys.trans h.keys, ?_, h.frees.trans h'.frees⟩
  intro u hu active
  obtain ⟨v, hv, activeV, same⟩ := h'.active u hu active
  obtain ⟨w, hw, activeW, same'⟩ := h.active v hv activeV
  exact ⟨w, hw, activeW, same'.trans same⟩

theorem of_frees (sessions : db'.sessions = db.sessions) (frees : Frees db db') :
    Retires key db db' := by
  refine ⟨by rw [sessions], ?_, frees⟩
  intro u hu active
  exact ⟨u, by rw [← sessions]; exact hu, active, rfl⟩

theorem of_eq (sessions : db'.sessions = db.sessions) (ports : db'.ports = db.ports) :
    Retires key db db' := by
  apply of_frees sessions
  intro q _
  rw [ports]

theorem update (db : Db) {cond : Session → Bool} {set : Session → Session}
    (same : ∀ u, key (set u) = key u)
    (active : ∀ u, (set u).status = .active → u.status = .active) :
    Retires key db { db with sessions := updateRows cond set db.sessions } := by
  refine ⟨?_, ?_, fun _ _ => rfl⟩
  · rw [map_updateRows same]
  · intro u hu activeU
    rcases mem_updateRows.1 hu with ⟨v, hv, _, rfl⟩ | ⟨hu, _⟩
    · exact ⟨v, hv, active v activeU, (same v).symm⟩
    · exact ⟨u, hu, activeU, rfl⟩

theorem free_pairs (ports : List ℕ) : Retires key db (freeDevicePortPairs ports db) :=
  of_frees (freeDevicePortPairs_sessions ports) (frees_freeDevicePortPairs ports db)

theorem free_pair (port : ℕ) : Retires key db (freeDevicePortPair port db) := free_pairs [port]

theorem reserve (device : Uuid) (inputPort : Option ℕ) :
    Retires key db (reserveDevicePortPair device inputPort db).1 := by
  obtain ⟨_, only⟩ := reserveDevicePortPair_ports_only device inputPort db
  exact of_frees (by rw [only]) (frees_reserve device inputPort db)

theorem cleanup_device (lasting : Lasting key) (deviceId : String) :
    Retires key db (cleanupDeviceSessions deviceId db) := by
  let hit := fun u : Session => sessionOf deviceId db u && u.status == .active
  let expired := { db with
    sessions := updateRows hit (fun u => { u with status := .expired, expiresAt := db.now })
      db.sessions }
  let freed := freeDevicePortPairs ((db.sessions.filter hit).map (·.assignedPort)) expired
  have first : Retires key db expired := by
    apply update
    · exact fun u => lasting u .expired db.now
    · exact fun _ active => absurd active (by simp)
  have second : Retires key expired freed := free_pairs _
  have third : Retires key freed (cleanupDeviceSessions deviceId db) := of_eq rfl rfl
  exact (first.trans second).trans third

theorem cleanup_expired (lasting : Lasting key) : Retires key db (cleanupExpiredSessions db) := by
  let freed := freeDevicePortPairs
    ((db.sessions.filter (·.overdue db.now)).map (·.assignedPort)) db
  let expired := { freed with
    sessions := updateRows (·.overdue freed.now) (fun u => { u with status := .expired })
      freed.sessions }
  have first : Retires key db freed := free_pairs _
  have second : Retires key freed expired := by
    apply update
    · exact fun u => lasting u .expired u.expiresAt
    · exact fun _ active => absurd active (by simp)
  have third : Retires key expired (cleanupExpiredSessions db) :=
    of_frees rfl (frees_updatePorts (by decide))
  exact (first.trans second).trans third

end Retires

theorem interp_retires {c : Cmd} {r : Res c} (lasting : Lasting key)
    (other : ∀ deviceId token, c ≠ .registerSession deviceId token)
    (traffic : ∀ token sent received connections,
      c = .addSessionTraffic token sent received connections →
      ∀ u, key { u with
        bytesSent := u.bytesSent + sent
        bytesReceived := u.bytesReceived + received
        activeConnections := connections } = key u)
    (e : interp cfg c s = some (t, r)) : Retires key s.db t.db := by
  cases c with
  | registerSession deviceId token => exact absurd rfl (other deviceId token)
  | cleanupDeviceSessions deviceId => cases e; exact Retires.cleanup_device lasting deviceId
  | setRegistered deviceId port => cases e; exact .of_eq rfl rfl
  | touchDevice token => cases e; exact .of_eq rfl rfl
  | deactivateDevice deviceId => cases e; exact .of_eq rfl rfl
  | deleteOldSamples => cases e; exact .of_eq rfl rfl
  | freeDevicePortPair port => cases e; exact .free_pair port
  | freeSessionPairs deviceId => cases e; exact .free_pairs _
  | touchSession token =>
    cases e
    apply Retires.update
    · exact fun u => lasting u u.status _
    · exact fun _ active => active
  | terminateSession token =>
    cases e
    apply Retires.update
    · exact fun u => lasting u .terminated _
    · exact fun _ active => absurd active (by simp)
  | terminateSessions deviceId =>
    cases e
    apply Retires.update
    · exact fun u => lasting u .terminated _
    · exact fun _ active => absurd active (by simp)
  | addSessionTraffic token sent received connections =>
    obtain ⟨db', hdb, e⟩ := Option.map_eq_some_iff.1 e
    cases e
    obtain ⟨_, rfl⟩ := addSessionTraffic_spec hdb
    apply Retires.update
    · exact traffic token sent received connections rfl
    · exact fun _ active => active
  | addDeviceTotals token sent received =>
    obtain ⟨db', hdb, e⟩ := Option.map_eq_some_iff.1 e
    cases e
    obtain ⟨_, rfl⟩ := addDeviceTotals_spec hdb
    exact .of_eq rfl rfl
  | insertSample token sent received connections =>
    obtain ⟨db', hdb, e⟩ := Option.map_eq_some_iff.1 e
    cases e
    obtain ⟨_, rfl⟩ := insertSample_spec hdb
    exact .of_eq rfl rfl
  | upsertHourly token sent received connections =>
    obtain ⟨db', hdb, e⟩ := Option.map_eq_some_iff.1 e
    cases e
    obtain ⟨_, rfl⟩ := upsertHourly_statistics_only hdb
    exact .of_eq rfl rfl
  | _ => cases e; exact Retires.refl _

theorem background_retires (lasting : Lasting key) (st : Background s t) :
    Retires key s.db t.db := by
  obtain ⟨e, ok, rfl⟩ := st
  cases e with
  | sweep => exact Retires.cleanup_expired lasting
  | cleanup deviceId => exact Retires.cleanup_device lasting deviceId
  | reserve device inputPort => exact .reserve device inputPort
  | release device inputPort => exact .of_frees rfl (frees_release device inputPort s.db)
  | rescan sessions =>
    refine ⟨ok.map key, fun u hu active => ⟨u, ok.mem_iff.1 hu, active, rfl⟩, fun _ _ => rfl⟩
  | editDevices devices => exact .of_eq rfl rfl
  | tick now => exact .of_eq rfl rfl
  | _ => exact Retires.refl _

end Retired

structure RowInvariant (db : Db) : Prop where
  ids : (db.sessions.map (·.id)).Nodup
  even : ∀ s ∈ db.sessions, s.assignedPort % 2 = 0
  rows : ∀ q, (db.ports q).status = .allocated → ∃ s ∈ db.sessions,
    (db.ports q).sessionId = some s.id ∧ (q = s.assignedPort ∨ q = s.assignedPort + 1)

namespace RowInvariant

theorem retires (h : RowInvariant db) (r : Retires rowKey db db') : RowInvariant db' := by
  refine ⟨?_, ?_, ?_⟩
  · have ids : (db'.sessions.map (·.id)).Perm (db.sessions.map (·.id)) := by
      simpa [Function.comp_def, rowKey] using r.keys.map Prod.fst
    exact ids.nodup_iff.2 h.ids
  · intro u hu
    obtain ⟨v, hv, same⟩ := List.mem_map.1 (r.keys.mem_iff.1 (List.mem_map_of_mem hu))
    simp only [rowKey, Prod.mk.injEq] at same
    rw [← same.2.2]
    exact h.even v hv
  · intro q allocated
    have row := r.frees q allocated
    rw [row] at allocated ⊢
    obtain ⟨v, hv, names, pair⟩ := h.rows q allocated
    obtain ⟨u, hu, same⟩ := List.mem_map.1 (r.keys.mem_iff.2 (List.mem_map_of_mem hv))
    simp only [rowKey, Prod.mk.injEq] at same
    refine ⟨u, hu, ?_⟩
    rw [same.1, same.2.2]
    exact ⟨names, pair⟩

theorem register (h : RowInvariant db) {deviceId token : String} {timeout : ℕ} {sid : Uuid}
    {r : Option (ℕ × ℕ)} (e : registerSession deviceId token timeout sid db = some (db', r)) :
    RowInvariant db' := by
  rcases PortInvariant.registerSession_spec e with
    ⟨rfl, _⟩ | ⟨dev, port, _, _, _, hport, fresh, _, rfl⟩
  · exact h
  · obtain ⟨_, _, even, _, _⟩ := PortInvariant.findPair_spec hport
    refine ⟨?_, ?_, ?_⟩
    · simp only [updatePorts_sessions, List.map_append, List.map_cons, List.map_nil]
      refine List.Nodup.append h.ids (by simp) ?_
      simp only [List.disjoint_singleton, List.mem_map, not_exists, not_and]
      exact fun s hs => (fresh s hs).1
    · intro s hs
      rcases List.mem_append.1 hs with hs | hs
      · exact h.even s hs
      · rw [List.mem_singleton.1 hs]; exact even
    · intro q allocated
      simp only [updatePorts, updateKeyed] at allocated ⊢
      by_cases hit : (inPool q && (q == port || q == port + 1)) = true
      · rw [if_pos hit]
        refine ⟨_, List.mem_append_right _ (List.mem_singleton_self _), rfl, ?_⟩
        simpa using (Bool.and_eq_true_iff.1 hit).2
      · rw [if_neg hit] at allocated ⊢
        obtain ⟨s, hs, names⟩ := h.rows q allocated
        exact ⟨s, List.mem_append_left _ hs, names⟩

theorem interp (h : RowInvariant s.db) {c : Cmd} {r : Res c} (e : interp cfg c s = some (t, r)) :
    RowInvariant t.db := by
  by_cases registers : ∃ deviceId token, c = .registerSession deviceId token
  · obtain ⟨deviceId, token, rfl⟩ := registers
    obtain ⟨⟨db', ports⟩, hdb, e⟩ := Option.map_eq_some_iff.1 e
    cases e
    exact h.register hdb
  · apply h.retires
    apply interp_retires lasting_rowKey _ _ e
    · exact fun deviceId token e => registers ⟨deviceId, token, e⟩
    · exact fun _ _ _ _ _ _ => rfl

theorem of_initial (h : Initial s) : RowInvariant s.db := by
  constructor <;> simp [h.noSessions, h.allFree, PortAllocation.free]

theorem step {permit : Cmd → State → Prop} {k k' : Control ℤ}
    (h : RowInvariant s.db) (st : (controlServer cfg).Step permit (k, s) (k', t)) :
    RowInvariant t.db := by
  cases st with
  | accept q a s => exact h
  | interfere st => exact h.retires (background_retires lasting_rowKey st)
  | execute ok e => exact h.interp e
  | fail failed => exact h

theorem reachable {permit : Cmd → State → Prop} {k : Control ℤ}
    (h : (controlServer cfg).Reachable permit Initial (k, s)) : RowInvariant s.db := by
  obtain ⟨a, s₀, hs, steps⟩ := h
  generalize e : (k, s) = c at steps
  induction steps generalizing k s with
  | refl => cases e; exact of_initial hs
  | tail _ st ih => cases e; exact step (ih rfl) st

theorem pair_of_owned (h : RowInvariant db) {u : Session} (hu : u ∈ db.sessions)
    (owned : (db.ports q).OwnedBy u.deviceId u.id) :
    q = u.assignedPort ∨ q = u.assignedPort + 1 := by
  obtain ⟨v, hv, names, pair⟩ := h.rows q owned.1
  rw [owned.2.2] at names
  rw [eq_of_key h.ids hu hv (Option.some.inj names)]
  exact pair

end RowInvariant

end AllocationRows
