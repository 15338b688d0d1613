import Mathlib.Data.List.Pairwise
import NetPort.DeviceService
import NetPort.PinnedPairs
import NetPort.ProgramPools

/-! Requests of the backend and of the devices, any number at a time, a statement of one of them
after a statement of another; the expiry sweep runs in between. -/
namespace FixedPorts

open StatementPrograms StepRuns SqlUpdate DeviceTables ProxyRuntimes DeviceManager
  AllocationRows ProgramPools PinnedPairs

inductive Statement where
  | control (c : Cmd)
  | disconnect (q : BackendDisconnect.Query)
  | service (c : DeviceService.Write)

@[reducible] def Answer : Statement → Type
  | .control c => Res c
  | .disconnect q => BackendDisconnect.Answer q
  | .service c => DeviceService.Written c

inductive Request where
  | message (r : DeviceManager.Request)
  | registerDeviceSession (deviceId : String)
  | terminateDeviceSession (token : String)
  | terminateDeviceByDeviceId (deviceId : String)
  | create (user : BackendDisconnect.User) (data : DeviceService.NewDevice)
      (drawn : DeviceService.Drawn)
  | update (user : BackendDisconnect.User) (id : Uuid) (data : DeviceService.Changes)
  | remove (user : BackendDisconnect.User) (id : Uuid)
  | disconnect (user : Option BackendDisconnect.User) (id : Uuid)

inductive Event where
  | sweep
  | cleanup (deviceId : String)
  | tick (now : ℕ)
  | rescan (sessions : List Session)
  | draw (sessionId : Uuid) (token : String)

abbrev Thread := Prog Statement Answer Unit

def done {α : Type} (p : Prog Statement Answer α) : Thread := p >>= fun _ => .ret ()

def control {α : Type} (p : Control α) : Thread := done (lift .control (fun _ r => r) p)

def service {α : Type} (p : DeviceService.Service α) : Thread :=
  done (lift .service (fun _ r => r) p)

/-- A failed statement fails the request; nothing else of an answer is kept. -/
def handler (cfg : Config) (number : Json → Option ℤ) : Request → Thread
  | .message r => control (processJsonMessage cfg r)
  | .registerDeviceSession deviceId => control (registerDeviceSession deviceId)
  | .terminateDeviceSession token => control (terminateDeviceSession token)
  | .terminateDeviceByDeviceId deviceId => control (terminateDeviceByDeviceId deviceId)
  | .create user data drawn => service (DeviceService.create number user data drawn)
  | .update user id data => service (DeviceService.update number user id data)
  | .remove user id => service (DeviceService.remove user id)
  | .disconnect user id =>
    done (lift .disconnect (fun _ r => r) (BackendDisconnect.disconnect user id))

/-- The statements of `disconnect` on the shared state. -/
def interpDisconnect (q : BackendDisconnect.Query) (s : State) :
    Option (State × BackendDisconnect.Answer q) :=
  (BackendDisconnect.interp q ⟨.ret 0, s, []⟩).map fun r => (r.1.state, r.2)

def interp (cfg : Config) : (c : Statement) → State → Option (State × Answer c)
  | .control c, s => DeviceManager.interp cfg c s
  | .disconnect q, s => interpDisconnect q s
  | .service c, s => DeviceService.interp c s

def Fails : Statement → Prop
  | .control c => Fallible c
  | _ => True

def Happens (s : State) : Event → Prop
  | .tick now => s.db.now ≤ now
  | .rescan sessions => sessions.Perm s.db.sessions
  | _ => True

def after (s : State) : Event → State
  | .sweep => s.mapDb cleanupExpiredSessions
  | .cleanup deviceId => s.mapDb (DeviceTables.cleanupDeviceSessions deviceId)
  | .tick now => s.mapDb fun db => { db with now := now }
  | .rescan sessions => s.mapDb fun db => { db with sessions := sessions }
  | .draw sessionId token => { s with nextSessionId := sessionId, nextSessionToken := token }

def machine (cfg : Config) : Machine Statement Answer State Event :=
  ⟨interp cfg, Fails, Happens, after⟩

structure Fresh (s : State) : Prop where
  noSessions : s.db.sessions = []
  allFree : ∀ port, s.db.ports port = .free
  ids : (s.db.devices.map (·.id)).Nodup
  unpinned : ∀ d ∈ s.db.devices, d.preferredPort = none

def installation (cfg : Config) (number : Json → Option ℤ) :
    System (Pool ℕ Statement Answer Unit State) (Action ℕ Request Event) :=
  pool (machine cfg) (fun _ => handler cfg number) Fresh

/-- What a statement must not do to a pair that some device prefers. -/
def CarefulStatement : Statement → State → Prop
  | .control (.terminateSession token), s => RetiresUnpinned (·.named token) s.db
  | .control (.terminateSessions deviceId), s =>
    RetiresUnpinned (fun u => (deviceRow deviceId s.db).any (·.id == u.deviceId) &&
      u.status == .active) s.db
  | .disconnect (.terminateSessions id), s =>
    RetiresUnpinned (fun u => u.deviceId == id && u.status == .active) s.db
  | .disconnect (.reserveDevicePortPair id port), s => KeepsReservation id port s.db
  | .service (.reservePair id port), s => KeepsReservation id port s.db
  | .service (.releaseReservation id port), s => ReleasesUnpinned id (some port) s.db
  | .service (.insertDevice device), _ => device.preferredPort = none
  | .service (.updateDevice id set), s =>
    ∀ d ∈ s.db.devices, d.id = id → ∀ p ∈ (set d).preferredPort, Held s.db (set d).id p
  | _, _ => True

instance (c : Statement) (s : State) : Decidable (CarefulStatement c s) := by
  unfold CarefulStatement
  split <;> infer_instance

/-- Every preferred pair is held, and no other device is given it. -/
def FixedPortsHeld (db : Db) : Prop :=
  ∀ d ∈ db.devices, ∀ p ∈ d.preferredPort, Held db d.id p ∧
    ∀ e ∈ db.devices, e.id ≠ d.id →
      findPair e db ≠ some p ∧ (reserveDevicePortPair e.id (some p) db).2 = false

instance (db : Db) : Decidable (FixedPortsHeld db) :=
  inferInstanceAs (Decidable (∀ _ ∈ _, _))

def Possible : (c : Statement) → Answer c → Prop
  | .control (.sessionByToken _), r => ∀ d : DeviceSession, r = some d → d.assignedPort % 2 = 0
  | .disconnect (.activeSessions _), ports => ∀ p ∈ (ports : List ℕ), p % 2 = 0
  | _, _ => True

def Good : Statement → Prop
  | .control (.freeDevicePortPair port) => port % 2 = 0
  | .disconnect (.freeDevicePortPair port) => port % 2 = 0
  | _ => True

variable {cfg : Config} {number : Json → Option ℤ} {db db' : Db} {s t : State}

section Issued

variable {α : Type} {p : Control α} {port : ℕ}

def Even (p : Control α) : Prop :=
  IssuesAfter (fun c => Possible (.control c)) (fun c => Good (.control c)) p

theorem good_of_plain (c : Cmd) (h : Plain c) : Good (.control c) := by
  cases c <;> first | exact absurd h id | trivial

theorem good_of_inner (c : Cmd) (h : Inner c) : Good (.control c) :=
  good_of_plain c (plain_of_inner c h)

theorem even_register (deviceId : String) : Even (registerDeviceSession deviceId) :=
  .of_issues (issues_registerDeviceSession deviceId good_of_inner fun _ => trivial)

theorem even_releaseSession (token : String) (even : port % 2 = 0) :
    Even (releaseSession token port) :=
  .of_issues (issues_releaseSession token good_of_inner even)

theorem even_terminate (token : String) : Even (terminateDeviceSession token) := by
  refine ⟨trivial, trivial, fun _ _ => ⟨trivial, trivial, fun r even => ?_⟩⟩
  cases r with
  | none => trivial
  | some d =>
    have port : d.assignedPort % 2 = 0 := even d rfl
    change Even (ite _ _ _)
    split
    · exact ⟨trivial, even_releaseSession token port, fun _ _ => even_releaseSession token port⟩
    · exact even_releaseSession token port

theorem compositional_even : Compositional fun {α} (p : Control α) => Even p :=
  ⟨fun h => .of_issues (h.imp good_of_plain), .bind, even_register, even_terminate⟩

theorem Even.control (h : Even p) : IssuesAfter Possible Good (control p) := by
  refine IssuesAfter.bind ?_ fun _ => trivial
  exact IssuesAfter.lift (fun _ good => good) (fun _ _ possible => possible) h

theorem even_service (p : DeviceService.Service α) : IssuesAfter Possible Good (service p) := by
  have all : IssuesAfter (fun _ _ => True) (fun _ => True) p :=
    .of_issues (issues_of_all (fun _ => trivial) p)
  refine IssuesAfter.bind ?_ fun _ => trivial
  refine IssuesAfter.lift (fun c _ => ?_) (fun _ _ _ => trivial) all
  cases c <;> trivial

end Issued

section Disconnect

open BackendDisconnect

variable {ports : List ℕ}

/-- What `disconnect` issues. -/
def EvenQueries {α : Type} (p : Backend α) : Prop :=
  IssuesAfter (fun q => Possible (.disconnect q)) (fun q => Good (.disconnect q)) p

theorem even_broadcast (device : Device) : EvenQueries (broadcast device) := by
  refine ⟨trivial, trivial, fun r _ => ?_⟩
  trivial

theorem even_reservePreferredPort (device : Device) (port : ℕ) :
    EvenQueries (reservePreferredPort device port) := by
  refine ⟨trivial, trivial, fun r _ => ?_⟩
  cases r with
  | false => trivial
  | true => exact even_broadcast device

theorem even_freeListed (even : ∀ p ∈ ports, p % 2 = 0) : EvenQueries (freeListed ports) := by
  induction ports with
  | nil => trivial
  | cons port ports ih =>
    obtain ⟨evenPort, evenRest⟩ := List.forall_mem_cons.1 even
    unfold freeListed
    split
    · exact ih evenRest
    · exact ⟨evenPort, trivial, fun _ _ => ih evenRest⟩

theorem even_disconnectListed (device : Device) (even : ∀ p ∈ ports, p % 2 = 0) :
    EvenQueries (disconnectListed device ports) := by
  -- the control thread's answer makes no difference
  refine ⟨trivial, trivial, fun _ _ => ⟨trivial, ⟨trivial, trivial, fun _ _ => ?_⟩,
    fun _ _ => ⟨trivial, trivial, fun _ _ => ?_⟩⟩⟩
  all_goals
    change EvenQueries (freeListed ports >>= _)
    apply IssuesAfter.bind (even_freeListed even)
    intro freed
    cases freed with
    | false => trivial
    | true =>
      rw [if_pos rfl]
      cases device.preferredPort with
      | none => exact even_broadcast device
      | some port =>
        dsimp only
        split
        · exact even_broadcast device
        · exact even_reservePreferredPort device port

theorem even_disconnect (user : Option User) (id : Uuid) : EvenQueries (disconnect user id) := by
  cases user with
  | none => trivial
  | some user =>
    refine ⟨trivial, trivial, fun r _ => ?_⟩
    cases r with
    | none => trivial
    | some device =>
      change EvenQueries (ite _ _ _)
      split
      · trivial
      · exact ⟨trivial, trivial, fun ports even => even_disconnectListed device even⟩

end Disconnect

theorem even_handler (r : Request) : IssuesAfter Possible Good (handler cfg number r) := by
  cases r with
  | message r => exact Even.control (compositional_even.handler r)
  | registerDeviceSession deviceId => exact Even.control (even_register deviceId)
  | terminateDeviceSession token => exact Even.control (even_terminate token)
  | terminateDeviceByDeviceId deviceId =>
    exact Even.control (compositional_even.plain (plain_terminateDeviceByDeviceId deviceId))
  | create user data drawn => exact even_service _
  | update user id data => exact even_service _
  | remove user id => exact even_service _
  | disconnect user id =>
    refine IssuesAfter.bind ?_ fun _ => trivial
    exact IssuesAfter.lift (fun _ good => good) (fun _ _ possible => possible)
      (even_disconnect user id)

theorem possible_answer (h : Invariant s.db) (c : Statement) {r : Answer c}
    (e : interp cfg c s = some (t, r)) : Possible c r := by
  cases c with
  | control c =>
    cases c with
    | sessionByToken token =>
      cases e
      intro d read
      obtain ⟨⟨u, dev⟩, found, rfl⟩ := Option.map_eq_some_iff.1 read
      obtain ⟨v, active, joined⟩ := Option.bind_eq_some_iff.1 found
      obtain ⟨_, _, pair⟩ := Option.map_eq_some_iff.1 joined
      obtain ⟨rfl, rfl⟩ := Prod.mk.inj pair
      have := h.rows.even v (List.mem_of_find?_eq_some active)
      simp only [deviceSession, uint16]
      omega
    | _ => trivial
  | disconnect q =>
    cases q with
    | activeSessions id =>
      cases e
      intro p hp
      obtain ⟨u, hu, rfl⟩ := List.mem_map.1 hp
      exact h.rows.even u (List.mem_filter.1 hu).1
    | _ => trivial
  | service c => trivial

theorem constraints_of_wellKeyed (h : DeviceService.WellKeyed db.devices) : Constraints db := by
  obtain ⟨ids, _, unique, range⟩ := h
  refine ⟨ids, ?_, ?_⟩
  · rintro i j p ⟨d, hd, rfl, preferred⟩ ⟨e, he, rfl, same⟩
    have pairs := List.pairwise_filterMap.1 unique
    have : Std.Symm fun d e : Device => ∀ b, d.preferredPort = some b →
        ∀ b', e.preferredPort = some b' → b ≠ b' :=
      ⟨fun _ _ apart b hb b' hb' => (apart b' hb' b hb).symm⟩
    by_cases one : d = e
    · rw [one]
    · exact absurd rfl (pairs.forall hd he one p preferred p same)
  · rintro i p ⟨d, hd, _, preferred⟩
    exact range d hd p preferred

theorem of_tables (h : Invariant db) (sessions : db'.sessions = db.sessions)
    (devices : db'.devices = db.devices) (ports : db'.ports = db.ports) : Invariant db' := by
  refine h.rows_only sessions devices ?_ ?_
  · intro q _
    rw [ports]
  · exact fun id p _ _ => .inr ⟨by rw [ports], by rw [ports]⟩

theorem terminate (h : Invariant db) {hit : Session → Bool} (careful : RetiresUnpinned hit db)
    {set : Session → Session} (keys : ∀ u, rowKey (set u) = rowKey u)
    (retired : ∀ u, (set u).status = .terminated) :
    Invariant { db with sessions := updateRows hit set db.sessions } := by
  refine h.update_sessions keys ?_ ?_
  · intro u active
    rw [retired] at active
    exact absurd active (by simp)
  · rintro id p ⟨d, hd, rfl, preferred⟩ u hu hitU allocated
    exact absurd allocated (careful d hd p preferred u hu hitU)

theorem keep_control (h : Invariant s.db) {c : Cmd} {r : Res c} (good : Good (.control c))
    (careful : CarefulStatement (.control c) s) (e : DeviceManager.interp cfg c s = some (t, r)) :
    Invariant t.db := by
  cases c with
  | registerSession deviceId token =>
    obtain ⟨⟨db', ports⟩, hdb, e⟩ := Option.map_eq_some_iff.1 e
    cases e
    exact h.register hdb
  | cleanupDeviceSessions deviceId => cases e; exact h.cleanup_device deviceId
  | setRegistered deviceId port => cases e; exact h.update_devices (fun _ => rfl) fun _ => rfl
  | touchDevice token => cases e; exact h.update_devices (fun _ => rfl) fun _ => rfl
  | deactivateDevice deviceId => cases e; exact h.update_devices (fun _ => rfl) fun _ => rfl
  | deleteOldSamples => cases e; exact of_tables h rfl rfl rfl
  | freeDevicePortPair port =>
    cases e
    exact h.free_pair good
  | freeSessionPairs deviceId =>
    cases e
    refine h.free_pairs ?_
    intro port hport
    obtain ⟨u, hu, rfl⟩ := List.mem_map.1 hport
    exact h.rows.even u (List.mem_filter.1 hu).1
  | touchSession token =>
    cases e
    exact h.update_sessions (fun _ => rfl) (fun _ active => active)
      fun _ _ _ _ _ _ allocated => allocated.1
  | terminateSession token => cases e; exact terminate h careful (fun _ => rfl) fun _ => rfl
  | terminateSessions deviceId => cases e; exact terminate h careful (fun _ => rfl) fun _ => rfl
  | addSessionTraffic token sent received connections =>
    obtain ⟨db', hdb, e⟩ := Option.map_eq_some_iff.1 e
    cases e
    obtain ⟨_, rfl⟩ := addSessionTraffic_spec hdb
    exact h.update_sessions (fun _ => rfl) (fun _ active => active)
      fun _ _ _ _ _ _ allocated => allocated.1
  | addDeviceTotals token sent received =>
    obtain ⟨db', hdb, e⟩ := Option.map_eq_some_iff.1 e
    cases e
    obtain ⟨_, rfl⟩ := addDeviceTotals_spec hdb
    exact h.update_devices (fun _ => rfl) fun _ => rfl
  | insertSample token sent received connections =>
    obtain ⟨db', hdb, e⟩ := Option.map_eq_some_iff.1 e
    cases e
    obtain ⟨_, rfl⟩ := insertSample_spec hdb
    exact of_tables h rfl rfl rfl
  | upsertHourly token sent received connections =>
    obtain ⟨db', hdb, e⟩ := Option.map_eq_some_iff.1 e
    cases e
    obtain ⟨_, rfl⟩ := upsertHourly_statistics_only hdb
    exact of_tables h rfl rfl rfl
  | _ => cases e; exact h

theorem keep_disconnect (h : Invariant s.db) {q : BackendDisconnect.Query}
    {r : BackendDisconnect.Answer q} (good : Good (.disconnect q))
    (careful : CarefulStatement (.disconnect q) s) (e : interpDisconnect q s = some (t, r)) :
    Invariant t.db := by
  cases q with
  | deactivate id => cases e; exact h.update_devices (fun _ => rfl) fun _ => rfl
  | terminateSessions id => cases e; exact terminate h careful (fun _ => rfl) fun _ => rfl
  | freeDevicePortPair port =>
    cases e
    exact h.free_pair good
  | reserveDevicePortPair id port => cases e; exact h.reserve careful
  | _ => cases e; exact h

/-- New rows of `devices`, all of whose preferred pairs are held. -/
theorem put_devices (h : Invariant db) {devices : List Device}
    (e : DeviceService.putDevices devices db = some db')
    (held : ∀ d ∈ devices, ∀ p ∈ d.preferredPort, Held db d.id p) : Invariant db' := by
  unfold DeviceService.putDevices at e
  split at e
  · rename_i keys
    cases e
    refine ⟨constraints_of_wellKeyed keys, ⟨h.rows.ids, h.rows.even, h.rows.rows⟩, h.outside, ?_⟩
    rintro id p ⟨d, hd, rfl, preferred⟩
    exact held d hd p preferred
  · cases e

theorem delete_device (h : Invariant db) {id : Uuid}
    (e : DeviceService.deleteDevice id db = some db') : Invariant db' := by
  unfold DeviceService.deleteDevice at e
  split at e
  · cases e
  · rename_i unused
    cases e
    have sublist := (List.filter_sublist (l := db.devices) (p := (·.id != id))).map (·.id)
    refine ⟨h.constraints.fewer (h.constraints.ids.sublist sublist) ?_, ⟨?_, ?_, ?_⟩, h.outside, ?_⟩
    · rintro i p ⟨d, hd, rfl, preferred⟩
      exact ⟨d, (List.mem_filter.1 hd).1, rfl, preferred⟩
    · exact h.rows.ids.sublist (List.filter_sublist.map _)
    · exact fun u hu => h.rows.even u (List.mem_filter.1 hu).1
    · intro q allocated
      obtain ⟨u, hu, names, pair⟩ := h.rows.rows q allocated
      refine ⟨u, List.mem_filter.2 ⟨hu, ?_⟩, names, pair⟩
      by_contra owned
      have owner : u.deviceId = id := by simpa using owned
      have pool : inPool q = true := by
        by_contra out
        exact h.outside q (by simpa using out) allocated
      have range : 6000 ≤ q ∧ q < 6000 + 1001 := by
        simp only [inPool, Bool.and_eq_true, decide_eq_true_eq] at pool
        omega
      apply unused
      refine List.any_eq_true.2 ⟨q, List.mem_range'_1.2 range, ?_⟩
      rw [Bool.or_eq_true]
      exact .inr (List.any_eq_true.2 ⟨u, hu, by simp [owner, names]⟩)
    · rintro i p ⟨d, hd, rfl, preferred⟩
      obtain ⟨hd, other⟩ := List.mem_filter.1 hd
      refine (h.held d.id p ⟨d, hd, rfl, preferred⟩).keep ⟨rfl, rfl⟩ ?_
      intro u hu allocated
      refine ⟨u, List.mem_filter.2 ⟨hu, ?_⟩, allocated.1, rfl, rfl⟩
      rw [allocated.2.1]
      exact other

theorem keep_service (h : Invariant s.db) {c : DeviceService.Write} {r : DeviceService.Written c}
    (careful : CarefulStatement (.service c) s) (e : DeviceService.interp c s = some (t, r)) :
    Invariant t.db := by
  cases c with
  | insertDevice device =>
    obtain ⟨db', hdb, e⟩ := Option.map_eq_some_iff.1 e
    cases e
    refine put_devices h hdb ?_
    intro d hd p preferred
    rcases List.mem_append.1 hd with old | new
    · exact h.held d.id p ⟨d, old, rfl, preferred⟩
    · rw [List.mem_singleton.1 new, show device.preferredPort = none from careful] at preferred
      cases preferred
  | updateDevice id set =>
    obtain ⟨db', hdb, e⟩ := Option.map_eq_some_iff.1 e
    cases e
    refine put_devices h hdb ?_
    intro d hd p preferred
    rcases mem_updateRows.1 hd with ⟨d', hd', hit, rfl⟩ | ⟨hd, _⟩
    · exact careful d' hd' (by simpa using hit) p preferred
    · exact h.held d.id p ⟨d, hd, rfl, preferred⟩
  | deleteDevice id =>
    obtain ⟨db', hdb, e⟩ := Option.map_eq_some_iff.1 e
    cases e
    exact delete_device h hdb
  | releaseReservation id port => cases e; exact h.release careful
  | reservePair id port => cases e; exact h.reserve careful
  | _ => cases e; exact h

theorem keep_statement (h : Invariant s.db) {c : Statement} {r : Answer c} (good : Good c)
    (careful : CarefulStatement c s) (e : interp cfg c s = some (t, r)) : Invariant t.db := by
  cases c with
  | control c => exact keep_control h good careful e
  | disconnect q => exact keep_disconnect h good careful e
  | service c => exact keep_service h careful e

theorem keep_event (h : Invariant s.db) {e : Event} (happens : Happens s e) :
    Invariant (after s e).db := by
  cases e with
  | sweep => exact h.cleanup_expired
  | cleanup deviceId => exact h.cleanup_device deviceId
  | tick now => exact of_tables h rfl rfl rfl
  | rescan sessions =>
    have retires : Retires rowKey s.db { s.db with sessions := sessions } :=
      ⟨happens.map rowKey, fun u hu active => ⟨u, happens.mem_iff.1 hu, active, rfl⟩,
        fun _ _ => rfl⟩
    refine h.retires retires (h.constraints.of_devices rfl) ?_
    intro id p hp
    refine (h.held id p hp).keep ⟨rfl, rfl⟩ ?_
    exact fun u hu allocated => ⟨u, happens.mem_iff.2 hu, allocated.1, rfl, rfl⟩
  | draw sessionId token => exact h

theorem Fresh.invariant (h : Fresh s) : Invariant s.db := by
  have unpinned (id p) : ¬ Pinned s.db id p := by
    rintro ⟨d, hd, _, preferred⟩
    rw [h.unpinned d hd] at preferred
    cases preferred
  refine ⟨⟨h.ids, ?_, ?_⟩, ?_, ?_, ?_⟩
  · exact fun i j p hp _ => absurd hp (unpinned i p)
  · exact fun i p hp => absurd hp (unpinned i p)
  · constructor <;> simp [h.noSessions, h.allFree, PortAllocation.free]
  · simp [h.allFree, PortAllocation.free]
  · exact fun id p hp => absurd hp (unpinned id p)

theorem fixedPortsHeld_of_invariant (h : Invariant db) : FixedPortsHeld db := by
  intro d hd p preferred
  have hp : Pinned db d.id p := ⟨d, hd, rfl, preferred⟩
  refine ⟨h.held d.id p hp, fun e he apart => ⟨?_, ?_⟩⟩
  · intro found
    exact apart (h.findPair_own he hp found)
  · have range := h.constraints.range d.id p hp
    have inRange : (decide (p < 6000) || decide (p > 6998) || p % 2 != 0) = false := by
      simp only [Bool.or_eq_false_iff, decide_eq_false_iff_not, bne_eq_false_iff_eq]
      omega
    have taken : (db.devices.any fun d => d.preferredPort == some p && d.id != e.id) = true :=
      List.any_eq_true.2 ⟨d, hd, by simp [show d.preferredPort = some p from preferred, apart.symm]⟩
    simp only [reserveDevicePortPair, inRange, taken, if_true, if_false, Bool.false_eq_true]

theorem fixed_ports_held {log : List (Pool ℕ Statement Answer Unit State × Action ℕ Request Event)}
    {w : Pool ℕ Statement Answer Unit State} (run : (installation cfg number).Run log w)
    (careful : ∀ e ∈ log, Careful CarefulStatement e.1 e.2) : FixedPortsHeld w.store.db := by
  apply fixedPortsHeld_of_invariant
  have start : ∀ s, Fresh s → Invariant s.db := fun _ => Fresh.invariant
  refine ProgramPools.invariant start (fun _ => even_handler) ?_ ?_ ?_ run careful
  · exact fun c _ _ _ h e => possible_answer h c e
  · exact fun _ _ _ _ h good careful e => keep_statement h good careful e
  · exact fun _ _ h happens => keep_event h happens

instance (c : Statement) : Decidable (Fails c) := by
  rcases c with c | q | c
  · rcases c <;> dsimp only [Fails, Fallible] <;> infer_instance
  · exact isTrue trivial
  · exact isTrue trivial

instance (s : State) (e : Event) : Decidable (Happens s e) := by
  rcases e <;> dsimp only [Happens] <;> infer_instance

instance (cfg : Config) (c : Statement) : Decidable ((machine cfg).fails c) :=
  inferInstanceAs (Decidable (Fails c))

instance (cfg : Config) (s : State) (e : Event) : Decidable ((machine cfg).happens s e) :=
  inferInstanceAs (Decidable (Happens s e))

def integerOf : Json → Option ℤ
  | .integer n => some n
  | _ => none

def administrator : BackendDisconnect.User := ⟨1, "admin", "admin"⟩

def sample : System (Pool ℕ Statement Answer Unit State) (Action ℕ Request Event) :=
  installation Sample.cfg integerOf

instance (w : Pool ℕ Statement Answer Unit State) (a : Action ℕ Request Event) :
    Decidable (sample.enabled w a) :=
  inferInstanceAs (Decidable (Enabled (machine Sample.cfg) w a))

def idle : Pool ℕ Statement Answer Unit State := ⟨fun _ => .ret (), Sample.start⟩

theorem start_idle : sample.Run [] idle := by
  refine .start ⟨fun _ => ⟨(), rfl⟩, rfl, fun _ => rfl, by decide, ?_⟩
  intro d hd
  simp only [idle, Sample.start, List.mem_cons, List.not_mem_nil, or_false] at hd
  rcases hd with rfl | rfl | rfl <;> rfl

def served (i : ℕ) (r : Request) (steps : ℕ) : List (Action ℕ Request Event) :=
  .start i r :: List.replicate steps (.execute i)

def preferringA : Db → Bool := fun db =>
  db.devices.any fun d => d.deviceId == "A" && d.preferredPort == some 6000

/-- A device is given a fixed port while it has no session, and then registers. -/
theorem pinned_then_registered : ∃ log w, sample.Run log w ∧ preferringA w.store.db = true ∧
    (w.store.db.ports 6000).status = .allocated ∧ FixedPortsHeld w.store.db := by
  obtain ⟨log, w, run, found⟩ := start_idle.follow_any
    (served 0 (.update administrator 1 ⟨some (.integer 6000), none, none, id⟩) 5 ++
      served 1 (.registerDeviceSession "A") 5)
    (fun r => decide ((∀ e ∈ r.1, Careful CarefulStatement e.1 e.2) ∧
      preferringA r.2.store.db = true ∧ (r.2.store.db.ports 6000).status = .allocated))
    (by decide +kernel)
  obtain ⟨careful, preferring, allocated⟩ := of_decide_eq_true found
  exact ⟨log, w, run, preferring, allocated, fixed_ports_held run careful⟩

/-- A has the pair 6000 when a device is created with that fixed port: the request fails, the
device stays and prefers the port, and another device holds the pair. -/
theorem create_pins_taken_pair : ∃ log w, sample.Run log w ∧ ¬ FixedPortsHeld w.store.db := by
  obtain ⟨log, w, run, found⟩ := start_idle.follow_any
    (served 0 (.registerDeviceSession "A") 5 ++
      served 1 (.create administrator ⟨some "new", none, none, none, none, none, false, false,
        some (.integer 6000)⟩ ⟨9, "", ""⟩) 3)
    (fun r => decide (¬ FixedPortsHeld r.2.store.db)) (by decide +kernel)
  exact ⟨log, w, run, of_decide_eq_true found⟩

end FixedPorts
