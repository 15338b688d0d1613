import NetPort.DeviceManager
import NetPort.PortOwnership

/-! Exclusive ownership of port pairs over all interleavings of the control thread with the
expiry sweep and the backend. -/
namespace PortExclusivity

open StatementPrograms SqlUpdate DeviceTables ProxyRuntimes DeviceManager PortOwnership

variable {cfg : Config} {s t : State}

/-- No two active sessions share a port, and each owns both rows of its pair. -/
def PortExclusive (db : Db) : Prop :=
  (db.sessions.filter (·.status == .active)).Pairwise (fun s t => s.assignedPort ≠ t.assignedPort) ∧
    ∀ s ∈ db.sessions, s.status = .active → Owns db s

instance (db : Db) : Decidable (PortExclusive db) := inferInstanceAs (Decidable (_ ∧ _))

/-- No active session has the port of a session row, of whatever status, of the device. -/
def PairsUnclaimed (deviceId : String) (db : Db) : Prop :=
  ∀ s ∈ db.sessions, s.status = .active → s.assignedPort ∉ sessionPortsOf deviceId db

/-- The statement that frees the pairs of all session rows runs only when they are unclaimed. -/
def FreesUnclaimed : Cmd → State → Prop
  | .freeSessionPairs deviceId, s => PairsUnclaimed deviceId s.db
  | _, _ => True

theorem exclusive_of_invariant {db : Db} (h : PortInvariant db) : PortExclusive db := by
  refine ⟨?_, h.owned⟩
  have nodup : db.sessions.Nodup := h.ids.of_map _
  refine List.Pairwise.imp_of_mem ?_ (nodup.filter _)
  intro a b ha hb ne e
  simp only [List.mem_filter, beq_iff_eq] at ha hb
  exact ne (h.same_port ha.1 hb.1 ha.2 hb.2 e)

/-- Commands other than a bare `free_device_port_pair` keep the invariant. -/
theorem interp_preserves_invariant {c : Cmd} {r : Res c} (h : PortInvariant s.db)
    (ok : FreesUnclaimed c s) (bare : ∀ port, c ≠ .freeDevicePortPair port)
    (e : interp cfg c s = some (t, r)) : PortInvariant t.db := by
  cases c with
  | registerSession deviceId token =>
    obtain ⟨⟨db', ports⟩, hdb, e⟩ := Option.map_eq_some_iff.1 e
    cases e
    exact h.register hdb
  | cleanupDeviceSessions deviceId => cases e; exact h.cleanup_device deviceId
  | setRegistered deviceId port => cases e; exact h.with_devices _
  | touchDevice token => cases e; exact h.with_devices _
  | deactivateDevice deviceId => cases e; exact h.with_devices _
  | touchSession token =>
    cases e
    exact h.update_sessions _ (fun _ => rfl) (fun _ => rfl) (fun _ => rfl) (fun _ a => a)
  | terminateSession token =>
    cases e
    exact h.update_sessions _ (fun _ => rfl) (fun _ => rfl) (fun _ => rfl) (fun _ a => by simp at a)
  | terminateSessions deviceId =>
    cases e
    exact h.update_sessions _ (fun _ => rfl) (fun _ => rfl) (fun _ => rfl) (fun _ a => by simp at a)
  | freeDevicePortPair port => exact absurd rfl (bare port)
  | freeSessionPairs deviceId =>
    cases e
    refine h.free_pairs _ ?_ ok
    intro p hp
    obtain ⟨u, hu, rfl⟩ := List.mem_map.1 hp
    exact h.even u (List.mem_filter.1 hu).1
  | addSessionTraffic token sent received connections =>
    obtain ⟨db', hdb, e⟩ := Option.map_eq_some_iff.1 e
    cases e
    obtain ⟨_, rfl⟩ := addSessionTraffic_spec hdb
    exact h.update_sessions _ (fun _ => rfl) (fun _ => rfl) (fun _ => rfl) (fun _ a => a)
  | addDeviceTotals token sent received =>
    obtain ⟨db', hdb, e⟩ := Option.map_eq_some_iff.1 e
    cases e
    obtain ⟨_, rfl⟩ := addDeviceTotals_spec hdb
    exact h.with_devices _
  | insertSample token sent received connections =>
    obtain ⟨db', hdb, e⟩ := Option.map_eq_some_iff.1 e
    cases e
    obtain ⟨_, rfl⟩ := insertSample_spec hdb
    exact ⟨h.ids, h.range, h.even, h.owned⟩
  | upsertHourly token sent received connections =>
    obtain ⟨db', hdb, e⟩ := Option.map_eq_some_iff.1 e
    cases e
    obtain ⟨_, rfl⟩ := upsertHourly_statistics_only hdb
    exact ⟨h.ids, h.range, h.even, h.owned⟩
  | deleteOldSamples => cases e; exact ⟨h.ids, h.range, h.even, h.owned⟩
  -- the other commands do not write to the tables
  | _ => cases e; exact h

theorem background_preserves_invariant (h : PortInvariant s.db) (st : Background s t) :
    PortInvariant t.db := by
  obtain ⟨e, ok, rfl⟩ := st
  cases e with
  | sweep => exact h.cleanup_expired
  | cleanup deviceId => exact h.cleanup_device deviceId
  | reserve device inputPort => exact h.reserve device inputPort
  | release device inputPort => exact h.release device inputPort
  | editDevices devices => exact h.with_devices devices
  | tick now => exact h.with_now now
  | rescan sessions => exact h.permuted ok
  | acceptorExit connectionsData isTunnel => exact h
  | answer outcome => exact h
  | draw sessionId token => exact h

/-- Nothing in the background activates a session or moves an active one. -/
theorem background_active {u : Session} (st : Background s t) (hu : u ∈ t.db.sessions)
    (active : u.status = .active) : u ∈ s.db.sessions := by
  obtain ⟨e, ok, rfl⟩ := st
  have kept {hit : Session → Bool} {set : Session → Session} {rows : List Session}
      (retired : ∀ s, (set s).status ≠ .active) (hu : u ∈ updateRows hit set rows) : u ∈ rows := by
    rcases mem_updateRows.1 hu with ⟨r, _, _, rfl⟩ | ⟨hu, _⟩
    · exact absurd active (retired r)
    · exact hu
  cases e with
  | sweep =>
    have hu' : u ∈ updateRows (·.overdue s.db.now) (fun s => { s with status := .expired })
        s.db.sessions := by
      simpa [next, State.mapDb, cleanupExpiredSessions] using hu
    exact kept (fun _ => by simp) hu'
  | cleanup deviceId =>
    simp only [next, State.mapDb, cleanupDeviceSessions, freeDevicePortPairs_sessions] at hu
    exact kept (fun _ => by simp) hu
  | reserve device inputPort =>
    obtain ⟨ports, only⟩ := reserveDevicePortPair_ports_only device inputPort s.db
    simpa [next, State.mapDb, only] using hu
  | rescan sessions => exact ok.mem_iff.1 hu
  | _ => exact hu

/-- What `terminate_device_session` knows of a port once it has read its session: every active
session there carries its token, until none is left. -/
structure Expects (who : Session → Prop) (port : ℕ) (s : State) : Prop where
  inv : PortInvariant s.db
  even : port % 2 = 0
  only : ∀ u ∈ s.db.sessions, u.status = .active → u.assignedPort = port → who u

theorem stable_expects (cfg : Config) (who : Session → Prop) (port : ℕ) :
    (controlServer cfg).Stable (Expects who port) := by
  intro s t h st
  refine ⟨background_preserves_invariant h.inv st, h.even, ?_⟩
  intro u hu active e
  exact h.only u (background_active st hu active) active e

theorem stable_invariant : (controlServer cfg).Stable fun s => PortInvariant s.db :=
  fun _ _ h st => background_preserves_invariant h st

theorem keeps_plain {α : Type} {p : Control α} (hp : Issues Plain p) :
    (controlServer cfg).Keeps FreesUnclaimed (fun s => PortInvariant s.db) p := by
  refine Server.keeps_of_issues stable_invariant ?_ hp
  intro c s t r plain h ok e
  refine interp_preserves_invariant h ok ?_ e
  rintro port rfl
  exact plain

theorem keeps_code (cfg : Config) (code : ℤ) :
    (controlServer cfg).Keeps FreesUnclaimed (fun s => PortInvariant s.db)
      (pure code : Control ℤ) :=
  Server.keeps_ret stable_invariant code

theorem expects_of_read {token : String} {d : DeviceSession} (h : PortInvariant s.db)
    (read : (sessionByToken token s.db).map (fun r => deviceSession r.1 r.2) = some d) :
    Expects (·.sessionToken = token) d.assignedPort s := by
  obtain ⟨⟨u, dev⟩, found, rfl⟩ := Option.map_eq_some_iff.1 read
  obtain ⟨v, active, joined⟩ := Option.bind_eq_some_iff.1 found
  obtain ⟨_, _, pair⟩ := Option.map_eq_some_iff.1 joined
  obtain ⟨rfl, rfl⟩ := Prod.mk.inj pair
  have mem := List.mem_of_find?_eq_some active
  have named := List.find?_some active
  simp only [Session.named, Bool.and_eq_true, beq_iff_eq] at named
  have range := h.range v mem
  have port : uint16 v.assignedPort = v.assignedPort := by unfold uint16; omega
  refine ⟨h, ?_, ?_⟩
  · simp only [deviceSession, port]
    exact h.even v mem
  · intro w hw act e
    simp only [deviceSession, port] at e
    rw [h.same_port hw mem act named.2 e]
    exact named.1

theorem safe_releaseSession {token : String} {port : ℕ}
    (h : Expects (·.sessionToken = token) port s) :
    (controlServer cfg).Safe FreesUnclaimed (fun s => PortInvariant s.db)
      (releaseSession token port) (fun _ t => PortInvariant t.db) s := by
  have expects := stable_expects cfg (·.sessionToken = token) port
  have vacated := stable_expects cfg (fun _ => False) port
  refine Server.safe_call expects (fun t ht => ht.inv) h ?_ ?_
  · intro t ht _
    exact Server.safe_ret expects (fun u hu => hu.inv) (fun u hu => hu.inv) ht
  · intro t u _ ht _ e
    cases e
    refine Server.safe_call expects (fun t ht => ht.inv) ht ?_ ?_
    · intro v hv _
      exact Server.safe_ret expects (fun u hu => hu.inv) (fun u hu => hu.inv) hv
    · intro v w _ hv _ e
      cases e
      have gone : Expects (fun _ => False) port (v.mapDb (terminateSession token)) := by
        refine ⟨hv.inv.update_sessions _ (fun _ => rfl) (fun _ => rfl) (fun _ => rfl)
          (fun _ a => by simp at a), hv.even, ?_⟩
        intro u hu active e
        rcases mem_updateRows.1 hu with ⟨r, _, _, rfl⟩ | ⟨hu, other⟩
        · simp at active
        · have named := hv.only u hu active e
          simp [Session.named, named, active] at other
      split
      · refine Server.safe_call vacated (fun t ht => ht.inv) gone ?_ ?_
        · intro x hx _
          exact Server.safe_ret vacated (fun u hu => hu.inv) (fun u hu => hu.inv) hx
        · intro x y _ hx _ e
          cases e
          refine keeps_code cfg 0 _ ?_
          refine hx.inv.free_pairs [port] (by simpa using hx.even) ?_
          intro u hu active hp
          exact hx.only u hu active (List.mem_singleton.1 hp)
      · exact keeps_code cfg 0 _ gone.inv

theorem keeps_terminateDeviceSession (token : String) :
    (controlServer cfg).Keeps FreesUnclaimed (fun s => PortInvariant s.db)
      (terminateDeviceSession token) := by
  intro s h
  refine Server.safe_call stable_invariant (fun _ ht => ht) h
    (fun t ht _ => keeps_code cfg (-1) t ht) ?_
  intro t u _ ht _ e
  cases e
  refine Server.safe_call stable_invariant (fun _ ht => ht) ht
    (fun t ht _ => keeps_code cfg (-1) t ht) ?_
  intro v w r hv _ e
  obtain ⟨rfl, rfl⟩ := Prod.mk.inj (Option.some.inj e)
  cases read : (sessionByToken token v.db).map (fun r => deviceSession r.1 r.2) with
  | none => exact keeps_code cfg (-1) v hv
  | some d =>
    have expects := expects_of_read hv read
    have stable := stable_expects cfg (·.sessionToken = token) d.assignedPort
    change Server.Safe _ _ _ (ite _ _ _) _ _
    split
    · refine Server.safe_call stable (fun t ht => ht.inv) expects
        (fun t ht _ => safe_releaseSession ht) ?_
      intro x y _ hx _ e
      cases e
      exact safe_releaseSession ⟨hx.inv, hx.even, hx.only⟩
    · exact safe_releaseSession expects

theorem keeps_registerDeviceSession (deviceId : String) :
    (controlServer cfg).Keeps FreesUnclaimed (fun s => PortInvariant s.db)
      (registerDeviceSession deviceId) := by
  have bare : Issues (fun c => ∀ port, c ≠ .freeDevicePortPair port)
      (registerDeviceSession deviceId) := by
    refine issues_registerDeviceSession deviceId ?_ fun _ _ => nofun
    rintro _ inner port rfl
    exact absurd inner id
  refine Server.keeps_of_issues stable_invariant ?_ bare
  intro c s t r bare h ok e
  exact interp_preserves_invariant h ok bare e

theorem compositional_keeps (cfg : Config) : Compositional fun {α} (p : Control α) =>
    (controlServer cfg).Keeps FreesUnclaimed (fun s => PortInvariant s.db) p :=
  ⟨keeps_plain, Server.keeps_bind, keeps_registerDeviceSession, keeps_terminateDeviceSession⟩

theorem invariant_of_initial (h : Initial s) : PortInvariant s.db := by
  constructor <;> simp [h.noSessions]

/-- In every run in which the pairs of a disconnected device's old sessions are unclaimed when
they are freed, ports are exclusive in every state. -/
theorem ports_exclusive_of_frees_unclaimed {c : Control ℤ × State}
    (h : (controlServer cfg).Reachable FreesUnclaimed Initial c) : PortExclusive c.2.db :=
  exclusive_of_invariant
    (Server.reachable_inv stable_invariant (fun _ => invariant_of_initial)
      (compositional_keeps cfg).handler h)

instance (c : Cmd) (s : State) : Decidable (FreesUnclaimed c s) := by
  rcases c <;> dsimp only [FreesUnclaimed, PairsUnclaimed] <;> infer_instance

theorem ports_exclusive_after_disconnect :
    PortExclusive (play Sample.cfg [.inl (Sample.register "A"), .inr (.draw 101 "t101"),
      .inl (Sample.register "B"), .inl (Sample.disconnect "A")] Sample.start).db := by
  have reachable := play_reachable Sample.cfg FreesUnclaimed
    [.inl (Sample.register "A"), .inr (.draw 101 "t101"), .inl (Sample.register "B"),
      .inl (Sample.disconnect "A")] Sample.start Sample.initial_start (by decide +kernel)
  have exclusive := ports_exclusive_of_frees_unclaimed reachable
  exact exclusive

namespace Counterexample

/-- A's expired pair goes to B; the late disconnect of A frees it, and C is given it again. -/
def lateDisconnect : List (Request ⊕ Event) :=
  [.inl (Sample.register "A"), .inr (.tick 3601), .inr .sweep, .inr (.draw 101 "t101"),
    .inl (Sample.register "B"), .inl (Sample.disconnect "A"), .inr (.draw 102 "t102"),
    .inl (Sample.register "C")]

theorem late_disconnect_breaks_exclusivity :
    ∃ c, (controlServer Sample.cfg).Reachable (fun _ _ => True) Initial c ∧
      ¬ PortExclusive c.2.db := by
  have reachable := play_reachable Sample.cfg _ lateDisconnect Sample.start
    Sample.initial_start (playPermitted_true _ _ _)
  refine ⟨_, reachable, ?_⟩
  change ¬ PortExclusive (play Sample.cfg lateDisconnect Sample.start).db
  decide +kernel

end Counterexample

end PortExclusivity
