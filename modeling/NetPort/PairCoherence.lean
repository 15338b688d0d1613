import NetPort.AllocationRows

/-! The rows of `port_allocations` come in pairs: whatever the functions of the database and the
statements of the device manager do, in any order, both rows of a pair say the same. -/
namespace PairCoherence

open StatementPrograms SqlUpdate DeviceTables ProxyRuntimes DeviceManager PortOwnership
open AllocationRows

def freePair : ℤ → Db → Db
  | .ofNat port, db => freeDevicePortPair port db
  | .negSucc _, db => db

def reservePair (device : Uuid) : Option ℤ → Db → Db × Bool
  | none, db => reserveDevicePortPair device none db
  | some (.ofNat port), db => reserveDevicePortPair device (some port) db
  | some (.negSucc _), db => (db, false)

def releasePair (device : Uuid) : Option ℤ → Db → Db
  | none, db => releaseDevicePortReservation device none db
  | some (.ofNat port), db => releaseDevicePortReservation device (some port) db
  | some (.negSucc _), db => db

/-- The bare `free_device_port_pair` of another caller is an event of its own. -/
def BareFree (c : Cmd) : Prop := ∃ port, c = .freeDevicePortPair port

def OddRelease (e : Event) : Prop := ∃ device port, e = .release device (some port) ∧ port % 2 = 1

/-- What other callers do between two statements of the control thread. -/
inductive Others (cfg : Config) (s : State) : State → Prop
  | event (e : Event) (enabled : Enabled s e) (even : ¬ OddRelease e) : Others cfg s (next s e)
  | statement {c : Cmd} {t : State} {r : Res c} (bare : ¬ BareFree c)
      (h : interp cfg c s = some (t, r)) : Others cfg s t
  | free (port : ℤ) (even : port % 2 = 0) (below : port < 7000) :
      Others cfg s (s.mapDb (freePair port))
  | reserve (device : Uuid) (port : Option ℤ) :
      Others cfg s (s.mapDb fun db => (reservePair device port db).1)
  | release (device : Uuid) (port : Option ℤ) (even : ∀ p, port = some p → p % 2 = 0) :
      Others cfg s (s.mapDb (releasePair device port))

def pairServer (cfg : Config) : Server Cmd Res State Request ℤ :=
  { controlServer cfg with env := Others cfg }

def AllFree (s : State) : Prop := s.db.sessions = [] ∧ ∀ port, s.db.ports port = .free

def SameAllocation (row row' : PortAllocation) : Prop :=
  row.status = row'.status ∧ row.deviceId = row'.deviceId ∧ row.sessionId = row'.sessionId

def Coherent (db : Db) : Prop :=
  ∀ p, 6000 ≤ p → p ≤ 6998 → p % 2 = 0 → SameAllocation (db.ports p) (db.ports (p + 1))

/-- The pairs that the statement of `register_device_session` may choose from. -/
def availablePairs (dev : Device) (db : Db) : ℕ :=
  (List.range' 6000 1001).countP (pairAvailable dev db)

/-- `portsFree` of the backend: free even rows with `port >= 6000` and `port <= 6999`. -/
def portsFree (db : Db) : ℕ :=
  (List.range' 6000 1001).countP fun p =>
    (db.ports p).status == .free && p ≤ 6999 && p % 2 == 0

structure Invariant (db : Db) : Prop where
  even : ∀ s ∈ db.sessions, s.assignedPort % 2 = 0
  pairs : Coherent db
  unset : ∀ q, (db.ports q).status = .free → (db.ports q).expiresAt = none

variable {cfg : Config} {db db' : Db} {s t : State} {dev : Device} {device : Uuid} {port : ℕ}
  {cond : ℕ → PortAllocation → Bool} {row : PortAllocation}

theorem same_side {p : ℕ} (evenP : p % 2 = 0) (even : port % 2 = 0) :
    (p == port || p == port + 1) = (p + 1 == port || p + 1 == port + 1) := by
  rw [Bool.eq_iff_iff]
  simp only [Bool.or_eq_true, beq_iff_eq]
  omega

theorem Coherent.update (h : Coherent db)
    (same : ∀ p, 6000 ≤ p → p ≤ 6998 → p % 2 = 0 →
      cond p (db.ports p) = cond (p + 1) (db.ports (p + 1))) :
    Coherent (updatePorts cond row db) := by
  intro p low high even
  have pool : inPool p = true ∧ inPool (p + 1) = true := by
    simp only [inPool, Bool.and_eq_true, decide_eq_true_eq]
    omega
  simp only [updatePorts, updateKeyed, pool.1, pool.2, Bool.true_and, ← same p low high even]
  split
  · exact ⟨rfl, rfl, rfl⟩
  · exact h p low high even

namespace Invariant

theorem of_eq (h : Invariant db) (sessions : db'.sessions = db.sessions)
    (ports : db'.ports = db.ports) : Invariant db' := by
  obtain ⟨even, pairs, unset⟩ := h
  refine ⟨?_, ?_, ?_⟩
  · rw [sessions]
    exact even
  · intro p
    rw [ports]
    exact pairs p
  · intro q
    rw [ports]
    exact unset q

theorem update (h : Invariant db) (unset : row.status = .free → row.expiresAt = none)
    (same : ∀ p, 6000 ≤ p → p ≤ 6998 → p % 2 = 0 →
      cond p (db.ports p) = cond (p + 1) (db.ports (p + 1))) :
    Invariant (updatePorts cond row db) := by
  refine ⟨h.even, h.pairs.update same, ?_⟩
  intro q free
  simp only [updatePorts, updateKeyed] at free ⊢
  split at free
  · rename_i hit
    rw [if_pos hit]
    exact unset free
  · rename_i miss
    rw [if_neg miss]
    exact h.unset q free

theorem sessions (h : Invariant db)
    (even : ∀ s ∈ db'.sessions, ∃ u ∈ db.sessions, s.assignedPort = u.assignedPort)
    (ports : db'.ports = db.ports) : Invariant db' := by
  refine ⟨?_, ?_, ?_⟩
  · intro s hs
    obtain ⟨u, hu, same⟩ := even s hs
    rw [same]
    exact h.even u hu
  · intro p
    rw [ports]
    exact h.pairs p
  · intro q
    rw [ports]
    exact h.unset q

/-- `UPDATE device_sessions` never writes the port. -/
theorem update_sessions (h : Invariant db) {hit : Session → Bool} {set : Session → Session}
    (same : ∀ u, (set u).assignedPort = u.assignedPort) :
    Invariant { db with sessions := updateRows hit set db.sessions } := by
  refine h.sessions ?_ rfl
  intro u hu
  rcases mem_updateRows.1 hu with ⟨v, hv, _, rfl⟩ | ⟨hu, _⟩
  · exact ⟨v, hv, same v⟩
  · exact ⟨u, hu, rfl⟩

/-- Whether a row is free, reserved or allocated, and to whom, it says for both of its pair. -/
theorem reservable (h : Invariant db) {p : ℕ} (low : 6000 ≤ p) (high : p ≤ 6998)
    (even : p % 2 = 0) :
    (db.ports p).reservable device = (db.ports (p + 1)).reservable device := by
  obtain ⟨status, owner, _⟩ := h.pairs p low high even
  simp [PortAllocation.reservable, status, owner]

theorem release (h : Invariant db) (device : Uuid) (inputPort : Option ℕ)
    (even : ∀ p, inputPort = some p → p % 2 = 0) :
    Invariant (releaseDevicePortReservation device inputPort db) := by
  refine h.update (fun _ => rfl) ?_
  intro p low high evenP
  obtain ⟨status, owner, _⟩ := h.pairs p low high evenP
  cases inputPort with
  | none => simp only [status, owner]
  | some port => simp only [status, owner, same_side evenP (even port rfl)]

theorem reserve (h : Invariant db) (device : Uuid) (inputPort : Option ℕ) :
    Invariant (reserveDevicePortPair device inputPort db).1 := by
  unfold reserveDevicePortPair
  split
  · exact h.release device none nofun
  · rename_i port
    have released := h.release device none nofun
    dsimp only
    split_ifs with out taken few
    · exact h
    · exact h
    · exact released
    · refine released.update (fun _ => rfl) ?_
      intro p low high evenP
      have even : port % 2 = 0 := by
        simp only [Bool.or_eq_true, decide_eq_true_eq, bne_iff_ne] at out
        omega
      rw [same_side evenP even, released.reservable low high evenP]

theorem free_pair (h : Invariant db) (even : port % 2 = 0) :
    Invariant (freeDevicePortPair port db) := by
  have freed : Invariant (freeDevicePort (port + 1) (freeDevicePort port db)) := by
    rw [freeDevicePorts_eq]
    refine h.update (fun _ => rfl) ?_
    intro p low high evenP
    rw [same_side evenP even, (h.pairs p low high evenP).1]
  unfold freeDevicePortPair
  dsimp only
  split
  · exact freed
  · exact freed.reserve _ _

theorem free_pairs {ports : List ℕ} (h : Invariant db) (even : ∀ p ∈ ports, p % 2 = 0) :
    Invariant (freeDevicePortPairs ports db) := by
  induction ports generalizing db with
  | nil => exact h
  | cons port ports ih =>
    exact ih (h.free_pair (even port List.mem_cons_self)) fun p hp =>
      even p (List.mem_cons_of_mem port hp)

theorem free_session_pairs (h : Invariant db) {db' : Db} (h' : Invariant db')
    (hit : Session → Bool) :
    Invariant (freeDevicePortPairs ((db.sessions.filter hit).map (·.assignedPort)) db') := by
  apply h'.free_pairs
  intro p hp
  obtain ⟨u, hu, rfl⟩ := List.mem_map.1 hp
  exact h.even u (List.mem_filter.1 hu).1

theorem cleanup_device (h : Invariant db) (deviceId : String) :
    Invariant (cleanupDeviceSessions deviceId db) := by
  let hit := fun u : Session => sessionOf deviceId db u && u.status == .active
  let expired := { db with
    sessions := updateRows hit (fun u => { u with status := .expired, expiresAt := db.now })
      db.sessions }
  have first : Invariant expired := h.update_sessions fun _ => rfl
  have freed := h.free_session_pairs first hit
  exact freed.of_eq rfl rfl

/-- The bulk release looks at both rows of a pair through the same sessions. -/
theorem cleanup_expired (h : Invariant db) : Invariant (cleanupExpiredSessions db) := by
  let freed := freeDevicePortPairs
    ((db.sessions.filter (·.overdue db.now)).map (·.assignedPort)) db
  let expired := { freed with
    sessions := updateRows (·.overdue freed.now) (fun u => { u with status := .expired })
      freed.sessions }
  have first : Invariant freed := h.free_session_pairs h (·.overdue db.now)
  have second : Invariant expired := first.update_sessions fun _ => rfl
  let released := updatePorts (fun p row => row.status == .allocated &&
      !expired.sessions.any fun u =>
        u.live expired.now && (p == u.assignedPort || p == u.assignedPort + 1))
    .free expired
  suffices third : Invariant released from third.of_eq rfl rfl
  refine second.update (fun _ => rfl) ?_
  intro p low high evenP
  have covered : (expired.sessions.any fun u =>
        u.live expired.now && (p == u.assignedPort || p == u.assignedPort + 1)) =
      expired.sessions.any fun u =>
        u.live expired.now && (p + 1 == u.assignedPort || p + 1 == u.assignedPort + 1) := by
    rw [Bool.eq_iff_iff, List.any_eq_true, List.any_eq_true]
    refine exists_congr fun u => and_congr_right fun hu => ?_
    rw [same_side evenP (second.even u hu)]
  rw [(second.pairs p low high evenP).1, covered]

theorem register (h : Invariant db) {deviceId token : String} {timeout : ℕ} {sid : Uuid}
    {r : Option (ℕ × ℕ)} (e : registerSession deviceId token timeout sid db = some (db', r)) :
    Invariant db' := by
  rcases PortInvariant.registerSession_spec e with
    ⟨rfl, _⟩ | ⟨dev, port, _, _, _, hport, _, _, rfl⟩
  · exact h
  · obtain ⟨_, _, even, _, _⟩ := PortInvariant.findPair_spec hport
    refine Invariant.update ?_ nofun ?_
    · refine ⟨?_, h.pairs, h.unset⟩
      intro u hu
      rcases List.mem_append.1 hu with hu | hu
      · exact h.even u hu
      · rw [List.mem_singleton.1 hu]
        exact even
    · intro p low high evenP
      exact same_side evenP even

theorem of_allFree (h : AllFree s) : Invariant s.db := by
  constructor <;> simp [h.1, h.2, Coherent, SameAllocation, PortAllocation.free]

end Invariant

/-- Every command; a bare `free_device_port_pair` only for an even port. -/
theorem interp_invariant (h : Invariant s.db) {c : Cmd} {r : Res c}
    (even : ∀ port, c = .freeDevicePortPair port → port % 2 = 0)
    (e : interp cfg c s = some (t, r)) : Invariant t.db := by
  cases c with
  | registerSession deviceId token =>
    obtain ⟨⟨db', ports⟩, hdb, e⟩ := Option.map_eq_some_iff.1 e
    cases e
    exact h.register hdb
  | cleanupDeviceSessions deviceId => cases e; exact h.cleanup_device deviceId
  | setRegistered deviceId port => cases e; exact h.of_eq rfl rfl
  | touchDevice token => cases e; exact h.of_eq rfl rfl
  | deactivateDevice deviceId => cases e; exact h.of_eq rfl rfl
  | deleteOldSamples => cases e; exact h.of_eq rfl rfl
  | freeDevicePortPair port => cases e; exact h.free_pair (even port rfl)
  | freeSessionPairs deviceId => cases e; exact h.free_session_pairs h (sessionOf deviceId s.db)
  | touchSession token => cases e; exact h.update_sessions fun _ => rfl
  | terminateSession token => cases e; exact h.update_sessions fun _ => rfl
  | terminateSessions deviceId => cases e; exact h.update_sessions fun _ => rfl
  | addSessionTraffic token sent received connections =>
    obtain ⟨db', hdb, e⟩ := Option.map_eq_some_iff.1 e
    cases e
    obtain ⟨_, rfl⟩ := addSessionTraffic_spec hdb
    exact h.update_sessions fun _ => rfl
  | addDeviceTotals token sent received =>
    obtain ⟨db', hdb, e⟩ := Option.map_eq_some_iff.1 e
    cases e
    obtain ⟨_, rfl⟩ := addDeviceTotals_spec hdb
    exact h.of_eq rfl rfl
  | insertSample token sent received connections =>
    obtain ⟨db', hdb, e⟩ := Option.map_eq_some_iff.1 e
    cases e
    obtain ⟨_, rfl⟩ := insertSample_spec hdb
    exact h.of_eq rfl rfl
  | upsertHourly token sent received connections =>
    obtain ⟨db', hdb, e⟩ := Option.map_eq_some_iff.1 e
    cases e
    obtain ⟨_, rfl⟩ := upsertHourly_statistics_only hdb
    exact h.of_eq rfl rfl
  | _ => cases e; exact h

theorem others_invariant (h : Invariant s.db) (st : Others cfg s t) : Invariant t.db := by
  cases st with
  | event e enabled even =>
    cases e with
    | sweep => exact h.cleanup_expired
    | cleanup deviceId => exact h.cleanup_device deviceId
    | reserve device inputPort => exact h.reserve device inputPort
    | release device inputPort =>
      refine h.release device inputPort ?_
      rintro p rfl
      have notOdd : ¬ p % 2 = 1 := fun odd => even ⟨device, p, rfl, odd⟩
      omega
    | rescan sessions =>
      exact h.sessions (fun u hu => ⟨u, enabled.mem_iff.1 hu, rfl⟩) rfl
    | editDevices | tick => exact h.of_eq rfl rfl
    | acceptorExit | answer | draw => exact h
  | statement bare e => exact interp_invariant h (fun port is => absurd ⟨port, is⟩ bare) e
  | free port even below =>
    cases port with
    | ofNat port =>
      have : (port : ℤ) % 2 = 0 := even
      exact h.free_pair (by omega)
    | negSucc _ => exact h
  | reserve device port =>
    match port with
    | none => exact h.reserve device none
    | some (.ofNat port) => exact h.reserve device (some port)
    | some (.negSucc _) => exact h
  | release device port even =>
    match port with
    | none => exact h.release device none nofun
    | some (.ofNat port) =>
      refine h.release device (some port) ?_
      rintro p ⟨⟩
      have : (port : ℤ) % 2 = 0 := even _ rfl
      omega
    | some (.negSucc _) => exact h

theorem stable_invariant : (pairServer cfg).Stable fun s => Invariant s.db :=
  fun _ _ h st => others_invariant h st

/-- Programs that issue no bare `free_device_port_pair` of an odd port. -/
theorem keeps_even {α : Type} {p : Control α}
    (hp : Issues (fun c => ∀ port, c = .freeDevicePortPair port → port % 2 = 0) p) :
    (pairServer cfg).Keeps (fun _ _ => True) (fun s => Invariant s.db) p := by
  refine Server.keeps_of_issues stable_invariant ?_ hp
  intro c s t r even h _ e
  exact interp_invariant h even e

theorem even_of_plain (c : Cmd) (h : Plain c) (port : ℕ) (e : c = .freeDevicePortPair port) :
    port % 2 = 0 := by
  subst e
  exact absurd h id

theorem even_of_inner (c : Cmd) (h : Inner c) :
    ∀ port, c = .freeDevicePortPair port → port % 2 = 0 :=
  even_of_plain c (plain_of_inner c h)

theorem keeps_plain {α : Type} {p : Control α} (hp : Issues Plain p) :
    (pairServer cfg).Keeps (fun _ _ => True) (fun s => Invariant s.db) p :=
  keeps_even (hp.imp even_of_plain)

theorem keeps_registerDeviceSession (deviceId : String) :
    (pairServer cfg).Keeps (fun _ _ => True) (fun s => Invariant s.db)
      (registerDeviceSession deviceId) :=
  keeps_even (issues_registerDeviceSession deviceId even_of_inner fun _ => nofun)

theorem even_releaseSession (token : String) (even : port % 2 = 0) :
    Issues (fun c => ∀ port, c = .freeDevicePortPair port → port % 2 = 0)
      (releaseSession token port) := by
  refine issues_releaseSession token even_of_inner ?_
  rintro p ⟨⟩
  exact even

/-- The port that `terminate_device_session` frees is the one it read from the session. -/
theorem keeps_terminateDeviceSession (token : String) :
    (pairServer cfg).Keeps (fun _ _ => True) (fun s => Invariant s.db)
      (terminateDeviceSession token) := by
  have failed : (pairServer cfg).Keeps (fun _ _ => True) (fun s => Invariant s.db)
      (pure (-1) : Control ℤ) := Server.keeps_ret stable_invariant (-1)
  intro s h
  refine Server.safe_call stable_invariant (fun _ ht => ht) h (fun t ht _ => failed t ht) ?_
  intro t u _ ht _ e
  cases e
  refine Server.safe_call stable_invariant (fun _ ht => ht) ht (fun t ht _ => failed t ht) ?_
  intro v w r hv _ e
  obtain ⟨rfl, rfl⟩ := Prod.mk.inj (Option.some.inj e)
  cases read : (sessionByToken token v.db).map (fun r => deviceSession r.1 r.2) with
  | none => exact failed v hv
  | some d =>
    obtain ⟨⟨u, dev⟩, found, rfl⟩ := Option.map_eq_some_iff.1 read
    obtain ⟨w, active, joined⟩ := Option.bind_eq_some_iff.1 found
    obtain ⟨_, _, pair⟩ := Option.map_eq_some_iff.1 joined
    obtain ⟨rfl, rfl⟩ := Prod.mk.inj pair
    have even : uint16 w.assignedPort % 2 = 0 := by
      have := hv.even w (List.mem_of_find?_eq_some active)
      unfold uint16
      omega
    refine keeps_even ?_ v hv
    change Issues _ (ite _ _ _)
    split
    · exact ⟨nofun, fun _ => even_releaseSession token even⟩
    · exact even_releaseSession token even

theorem compositional_keeps (cfg : Config) : Compositional fun {α} (p : Control α) =>
    (pairServer cfg).Keeps (fun _ _ => True) (fun s => Invariant s.db) p :=
  ⟨keeps_plain, Server.keeps_bind, keeps_registerDeviceSession, keeps_terminateDeviceSession⟩

/-- An unpinned registration may choose a pair exactly when its even row is free. -/
theorem pairAvailable_iff (h : Invariant db) (unpinned : dev.preferredPort = none) {p : ℕ}
    (low : 6000 ≤ p) : pairAvailable dev db p = true ↔
      (db.ports p).status = .free ∧ p ≤ 6999 ∧ p % 2 = 0 := by
  have lapsed {row : PortAllocation} (unset : row.expiresAt = none) :
      row.expiresAt.all (· ≤ db.now) = true := by simp [unset]
  have unowned {row : PortAllocation} (free : row.status = .free) : row.deviceId = none := by
    have valid := row.valid
    rw [free] at valid
    simpa [validAllocation] using (Bool.and_eq_true_iff.1 valid).1
  constructor
  · intro available
    simp only [pairAvailable, unpinned, Bool.and_eq_true, decide_eq_true_eq, beq_iff_eq] at available
    obtain ⟨⟨⟨⟨⟨⟨⟨⟨free, _⟩, _⟩, _⟩, _⟩, below⟩, even⟩, _⟩, _⟩ := available
    exact ⟨free, Nat.le_of_lt_succ below, even⟩
  · rintro ⟨free, high, even⟩
    obtain ⟨status, _, _⟩ := h.pairs p low (by omega) even
    have free' : (db.ports (p + 1)).status = .free := status ▸ free
    simp only [pairAvailable, unpinned, free, free', unowned free, unowned free',
      lapsed (h.unset p free), lapsed (h.unset (p + 1) free')]
    simpa [low, even] using Nat.lt_succ_of_le high

theorem availablePairs_eq (h : Invariant db) (unpinned : dev.preferredPort = none) :
    availablePairs dev db = portsFree db := by
  apply List.countP_congr
  intro p hp
  rw [pairAvailable_iff h unpinned (List.mem_range'_1.1 hp).1]
  simp only [Bool.and_eq_true, beq_iff_eq, decide_eq_true_eq, and_assoc]

theorem pairs_coherent {k : Control ℤ}
    (h : (pairServer cfg).Reachable (fun _ _ => True) AllFree (k, s)) :
    Coherent s.db ∧ ∀ dev : Device, dev.preferredPort = none →
      availablePairs dev s.db = portsFree s.db := by
  have inv := Server.reachable_inv stable_invariant (fun _ => Invariant.of_allFree)
    (compositional_keeps cfg).handler h
  exact ⟨inv.pairs, fun dev unpinned => availablePairs_eq inv unpinned⟩

def twoPairsTaken : State :=
  (run (interp Sample.cfg) (processJsonMessage Sample.cfg (Sample.register "A"))
    Sample.start).2.mapDb fun db => (reservePair 2 (some 6010) db).1

theorem twoPairsTaken_reachable : ∃ k,
    (pairServer Sample.cfg).Reachable (fun _ _ => True) AllFree (k, twoPairsTaken) := by
  have served := Server.steps_run (S := pairServer Sample.cfg) (fun _ _ => .inr)
    (processJsonMessage Sample.cfg (Sample.register "A")) Sample.start (permitted_true _ _ _)
  have steps := (Relation.ReflTransGen.single (.accept (Sample.register "A") 0 Sample.start)).trans
    served
  exact ⟨_, 0, Sample.start, ⟨rfl, fun _ => rfl⟩,
    steps.tail (.interfere (.reserve 2 (some 6010)))⟩

theorem pairs_left_for_c : Coherent twoPairsTaken.db ∧
    availablePairs (Sample.device 3 "C") twoPairsTaken.db = 498 := by
  obtain ⟨k, reachable⟩ := twoPairsTaken_reachable
  obtain ⟨coherent, left⟩ := pairs_coherent reachable
  refine ⟨coherent, (left (Sample.device 3 "C") rfl).trans ?_⟩
  decide +kernel

end PairCoherence
