import NetPort.DeviceManager
import NetPort.RuntimeInvariant

/-! Whose runtime a device is attached to, and which runtimes a disconnect reaches, over all
interleavings of the control thread with acceptor threads, the sweep and the backend. -/
namespace RuntimeOwnership

open Relation StatementPrograms DeviceTables ProxyRuntimes RuntimeInvariant DeviceManager

variable {cfg : Config} {s t : State} {p q : Proxy} {d : String} {ip tp : ℕ}

/-! Every reachable state satisfies the invariant of the dynamic servers. -/

theorem invariant_of_initial (h : Initial s) : ProxyInvariant s.proxy :=
  Fresh.invariant ⟨h.staticServers, h.emptyRegistry, h.noRuntimes, h.onePort, h.oldFds⟩

def OnProxy : Cmd → Prop
  | .ensureDynamicServer _ _ _ _ => True
  | .stopDynamicServer _ _ _ => True
  | _ => False

theorem interp_proxy {c : Cmd} {r : Res c} (off : ¬ OnProxy c)
    (e : interp cfg c s = some (t, r)) : t.proxy = s.proxy := by
  cases c with
  | ensureDynamicServer deviceId inputPort tunnelPort info => exact absurd trivial off
  | stopDynamicServer deviceId inputPort tunnelPort => exact absurd trivial off
  | registerSession deviceId token => obtain ⟨_, _, e⟩ := Option.map_eq_some_iff.1 e; cases e; rfl
  | addSessionTraffic token sent received connections =>
    obtain ⟨_, _, e⟩ := Option.map_eq_some_iff.1 e
    cases e
    rfl
  | addDeviceTotals token sent received =>
    obtain ⟨_, _, e⟩ := Option.map_eq_some_iff.1 e
    cases e
    rfl
  | insertSample token sent received connections =>
    obtain ⟨_, _, e⟩ := Option.map_eq_some_iff.1 e
    cases e
    rfl
  | upsertHourly token sent received connections =>
    obtain ⟨_, _, e⟩ := Option.map_eq_some_iff.1 e
    cases e
    rfl
  | _ => cases e; rfl

theorem interp_preserves_invariant {c : Cmd} {r : Res c} (h : ProxyInvariant s.proxy)
    (e : interp cfg c s = some (t, r)) : ProxyInvariant t.proxy := by
  by_cases on : OnProxy c
  · cases c with
    | ensureDynamicServer deviceId inputPort tunnelPort info =>
      cases e
      exact (ensureDynamicServerForDevice_spec h rfl).1
    | stopDynamicServer deviceId inputPort tunnelPort => cases e; exact h.stopWhere _
    | _ => exact absurd on id
  · rw [interp_proxy on e]
    exact h

theorem background_preserves_invariant (h : ProxyInvariant s.proxy) (st : Background s t) :
    ProxyInvariant t.proxy := by
  obtain ⟨e, _, rfl⟩ := st
  cases e with
  | acceptorExit connectionsData isTunnel => exact h.acceptorExit connectionsData isTunnel
  | answer outcome => exact ⟨h.enabled, h.registry, h.sockets⟩
  | _ => exact h

theorem stable_invariant (cfg : Config) :
    (controlServer cfg).Stable fun s => ProxyInvariant s.proxy :=
  fun _ _ h st => background_preserves_invariant h st

theorem reachable_invariant {permit : Cmd → State → Prop} {c : Control ℤ × State}
    (h : (controlServer cfg).Reachable permit Initial c) : ProxyInvariant c.2.proxy := by
  refine Server.reachable_inv (stable_invariant cfg) (fun _ => invariant_of_initial) ?_ h
  intro r
  have all : Issues (fun _ => True) ((controlServer cfg).handler r) :=
    issues_of_all (fun _ => trivial) _
  refine Server.keeps_of_issues (stable_invariant cfg) ?_ all
  intro c s t r _ h _ e
  exact interp_preserves_invariant h e

/-! A device is attached to the runtime that listens on its ports. -/

/-- A runtime that listens for input on `ip` or for the tunnel on `tp`. -/
def ListensOn (k : Kernel) (ip tp : ℕ) (r : ProxyServer) : Prop :=
  isRuntimeListenerActive k r ip false = true ∨ isRuntimeListenerActive k r tp true = true

/-- Some runtime of the device accepts on both ports, and no runtime of another device
listens on either. -/
def AttachedTo (p : Proxy) (d : String) (ip tp : ℕ) : Prop :=
  (∃ r ∈ p.runtimes, Accepts p.kernel ip tp r ∧ r.deviceId = d) ∧
    ∀ r ∈ p.runtimes, ListensOn p.kernel ip tp r → r.deviceId = d

/-- The lookup of `ensure_dynamic_server_for_device` meets an entry of another device. -/
def ForeignHealthy (cfg : Config) (p : Proxy) (d : String) (ip tp : ℕ) (info : DeviceInfo) : Prop :=
  ∃ e ∈ p.registry, isHealthy ip tp (wantsSsl cfg info.enableInputSsl)
    (wantsSsl cfg info.enableTunnelSsl) p e = true ∧ e.deviceId ≠ d

instance (k : Kernel) (ip tp : ℕ) (r : ProxyServer) : Decidable (ListensOn k ip tp r) :=
  inferInstanceAs (Decidable (_ ∨ _))

instance (k : Kernel) (ip tp : ℕ) (r : ProxyServer) : Decidable (Accepts k ip tp r) :=
  inferInstanceAs (Decidable (_ ∧ _))

instance (p : Proxy) (d : String) (ip tp : ℕ) : Decidable (AttachedTo p d ip tp) :=
  inferInstanceAs (Decidable (_ ∧ _))

instance (cfg : Config) (p : Proxy) (d : String) (ip tp : ℕ) (info : DeviceInfo) :
    Decidable (ForeignHealthy cfg p d ip tp info) := inferInstanceAs (Decidable (∃ _ ∈ _, _))

/-- An active listener has a descriptor, and it is the one that listens on the port. -/
theorem listener_socket {k : Kernel} {r : ProxyServer} {port : ℕ} {isTunnel : Bool}
    (active : isRuntimeListenerActive k r port isTunnel = true) :
    ∃ f l, (if isTunnel then r.output else r.input) = some f ∧ l ∈ k.listening ∧ l.1 = f ∧
      (if isTunnel then r.outputPort else r.inputPort) = port := by
  simp only [isRuntimeListenerActive, Bool.and_eq_true, beq_iff_eq, Option.any_eq_true,
    Kernel.acceptsOn, List.any_eq_true] at active
  obtain ⟨⟨_, bound⟩, f, hf, l, hl, named⟩ := active
  exact ⟨f, l, hf, hl, named, bound⟩

theorem listener_unique (h : ProxyInvariant p) {r r' : ProxyServer} {port : ℕ} {isTunnel : Bool}
    (hr : r ∈ p.runtimes) (hr' : r' ∈ p.runtimes)
    (active : isRuntimeListenerActive p.kernel r port isTunnel = true)
    (active' : isRuntimeListenerActive p.kernel r' port isTunnel = true) : r = r' := by
  obtain ⟨f, l, fd, hl, named, bound⟩ := listener_socket active
  obtain ⟨f', l', fd', hl', named', bound'⟩ := listener_socket active'
  obtain ⟨i, hi⟩ := List.getElem?_of_mem hr
  obtain ⟨j, hj⟩ := List.getElem?_of_mem hr'
  have side : ∃ (fd : ProxyServer → Option ℕ) (bound : ProxyServer → ℕ),
      SideInvariant fd bound p.runtimes p.kernel ∧ fd r = some f ∧ fd r' = some f' ∧
        bound r = port ∧ bound r' = port := by
    cases isTunnel with
    | false => exact ⟨_, _, h.sockets.inputs, fd, fd', bound, bound'⟩
    | true => exact ⟨_, _, h.sockets.outputs, fd, fd', bound, bound'⟩
  obtain ⟨_, _, inv, hf, hf', onPort, onPort'⟩ := side
  have port : l.2 = l'.2 := by
    rw [inv.bound r hr f l.2 hf (by rw [← named]; exact hl),
      inv.bound r' hr' f' l'.2 hf' (by rw [← named']; exact hl'), onPort, onPort']
  have same : f = f' := by rw [← named, ← named', h.sockets.kernel.onePort l hl l' hl' port]
  have index := inv.distinct i j r r' f hi hj hf (by rw [same]; exact hf')
  rw [index, hj] at hi
  exact (Option.some.inj hi).symm

/-- A runtime that accepts on both ports is the only one that listens on either. -/
theorem accepts_unique (h : ProxyInvariant p) {r r' : ProxyServer} (hr : r ∈ p.runtimes)
    (hr' : r' ∈ p.runtimes) (accepts : Accepts p.kernel ip tp r)
    (listens : ListensOn p.kernel ip tp r') : r = r' := by
  rcases listens with input | tunnel
  · exact listener_unique h hr hr' accepts.1 input
  · exact listener_unique h hr hr' accepts.2 tunnel

theorem attachedTo_iff (h : ProxyInvariant p) {r : ProxyServer} (hr : r ∈ p.runtimes)
    (accepts : Accepts p.kernel ip tp r) : AttachedTo p d ip tp ↔ r.deviceId = d := by
  constructor
  · exact fun attached => attached.2 r hr (.inl accepts.1)
  · intro device
    refine ⟨⟨r, hr, accepts, device⟩, ?_⟩
    intro r' hr' listens
    rw [← accepts_unique h hr hr' accepts listens]
    exact device

/-- A healthy entry points to a runtime of its device that accepts on both ports. -/
theorem healthy_runtime (h : ProxyInvariant p) {e : DynamicServerRuntime} (he : e ∈ p.registry)
    {enableInputSsl enableTunnelSsl : Bool}
    (healthy : isHealthy ip tp enableInputSsl enableTunnelSsl p e = true) :
    ∃ r ∈ p.runtimes, r.deviceId = e.deviceId ∧ Accepts p.kernel ip tp r := by
  simp only [isHealthy, Bool.and_eq_true, Option.any_eq_true] at healthy
  obtain ⟨_, r, pointed, ⟨_, input⟩, tunnel⟩ := healthy
  obtain ⟨i, hi, hr⟩ := Option.bind_eq_some_iff.1 pointed
  obtain ⟨r', hr', device, _⟩ := h.registry.points e he i hi
  rw [hr] at hr'
  cases hr'
  exact ⟨r, List.mem_of_getElem? hr, device, input, tunnel⟩

/-- In every reachable state, a device for which `ensure_dynamic_server_for_device` returns an
index is attached to its own runtime exactly when the lookup meets no healthy foreign entry. -/
theorem attached_iff_no_foreign_healthy {c : Control ℤ × State} {info : DeviceInfo}
    (h : (controlServer cfg).Reachable (fun _ _ => True) Initial c)
    (up : (ensureDynamicServerForDevice cfg d ip tp info c.2.proxy).2.isSome = true) :
    AttachedTo (ensureDynamicServerForDevice cfg d ip tp info c.2.proxy).1 d ip tp ↔
      ¬ ForeignHealthy cfg c.2.proxy d ip tp info := by
  have inv := reachable_invariant h
  generalize c.2.proxy = p at inv up ⊢
  generalize e : ensureDynamicServerForDevice cfg d ip tp info p = result at up ⊢
  obtain ⟨q, o⟩ := result
  obtain ⟨invQ, started⟩ := ensureDynamicServerForDevice_spec inv e
  rcases started up with ⟨entry, found, rfl⟩ | ⟨unhealthy, i, r, hr, device, accepts⟩
  · have mem := List.mem_of_find?_eq_some found
    have healthy := List.find?_some found
    obtain ⟨r, hr, device, accepts⟩ := healthy_runtime inv mem healthy
    rw [attachedTo_iff inv hr accepts, device]
    constructor
    · rintro own ⟨e, he, healthy', foreign⟩
      obtain ⟨r', hr', device', accepts'⟩ := healthy_runtime inv he healthy'
      rw [← accepts_unique inv hr hr' accepts (.inl accepts'.1)] at device'
      exact foreign (device'.symm.trans (device.trans own))
    · intro none
      by_contra foreign
      exact none ⟨entry, mem, healthy, foreign⟩
  · have attached : AttachedTo q d ip tp :=
      (attachedTo_iff invQ (List.mem_of_getElem? hr) accepts).2 device
    have none : ¬ ForeignHealthy cfg p d ip tp info := by
      rintro ⟨e, he, healthy, _⟩
      exact List.find?_eq_none.1 unhealthy e he healthy
    exact ⟨fun _ => none, fun _ => attached⟩

def registerA : List (Request ⊕ Event) := [.inl (Sample.register "A")]

def infoOf (id : Uuid) (deviceId : String) : DeviceInfo :=
  deviceInfo (Sample.device id deviceId) .active

theorem attached_after_registration :
    AttachedTo (ensureDynamicServerForDevice Sample.cfg "A" 6000 6001 (infoOf 1 "A")
      (play Sample.cfg registerA Sample.start).proxy).1 "A" 6000 6001 := by
  have reachable := play_reachable Sample.cfg (fun _ _ => True) registerA Sample.start
    Sample.initial_start (playPermitted_true _ _ _)
  have up : (ensureDynamicServerForDevice Sample.cfg "A" 6000 6001 (infoOf 1 "A")
      (play Sample.cfg registerA Sample.start).proxy).2.isSome = true := by decide +kernel
  have own : ¬ ForeignHealthy Sample.cfg (play Sample.cfg registerA Sample.start).proxy "A" 6000
      6001 (infoOf 1 "A") := by decide +kernel
  exact (attached_iff_no_foreign_healthy reachable up).2 own

namespace Counterexample

def Holds (db : Db) (device : Uuid) (port : ℕ) : Prop :=
  ∃ u ∈ db.sessions, u.deviceId = device ∧ u.status = .active ∧ u.assignedPort = port

instance (db : Db) (device : Uuid) (port : ℕ) : Decidable (Holds db device port) :=
  inferInstanceAs (Decidable (∃ _ ∈ _, _))

/-- A's session lapses and the sweep frees its pair; B registers and is given it. -/
def recycledPair : List (Request ⊕ Event) :=
  [.inl (Sample.register "A"), .inr (.tick 3601), .inr .sweep, .inr (.draw 101 "t101"),
    .inl (Sample.register "B")]

/-- B has the pair, and each of its heartbeats finds the listeners started for A. -/
theorem recycled_pair_attaches_to_foreign_runtime :
    ∃ c, (controlServer Sample.cfg).Reachable (fun _ _ => True) Initial c ∧
      Holds c.2.db 2 6000 ∧
      (ensureDynamicServerForDevice Sample.cfg "B" 6000 6001 (infoOf 2 "B") c.2.proxy).2.isSome =
        true ∧
      ¬ AttachedTo (ensureDynamicServerForDevice Sample.cfg "B" 6000 6001 (infoOf 2 "B")
        c.2.proxy).1 "B" 6000 6001 := by
  have reachable := play_reachable Sample.cfg (fun _ _ => True) recycledPair Sample.start
    Sample.initial_start (playPermitted_true _ _ _)
  have pair : Holds (play Sample.cfg recycledPair Sample.start).db 2 6000 := by decide +kernel
  have up : (ensureDynamicServerForDevice Sample.cfg "B" 6000 6001 (infoOf 2 "B")
      (play Sample.cfg recycledPair Sample.start).proxy).2.isSome = true := by decide +kernel
  have foreign : ¬ AttachedTo (ensureDynamicServerForDevice Sample.cfg "B" 6000 6001 (infoOf 2 "B")
      (play Sample.cfg recycledPair Sample.start).proxy).1 "B" 6000 6001 := by decide +kernel
  exact ⟨_, reachable, pair, up, foreign⟩

end Counterexample

/-! A disconnect stops the runtimes it reaches. -/

/-- The runtime was started for the device and has not been told to stop. -/
def LiveFor (d : String) (p : Proxy) (i : ℕ) : Prop :=
  ∃ r, p.runtimes[i]? = some r ∧ r.deviceId = d ∧ told r = false

def AllTold (d : String) (p : Proxy) : Prop := ∀ r ∈ p.runtimes, r.deviceId = d → told r = true

/-- The pairs for which `terminate_device_by_device_id` stops the servers of the device when
it has listed these ports. -/
def stopsFor (ports : List ℕ) : List (ℕ × ℕ) :=
  (portsToStop ports).map (fun port => (port, uint16 (port + 1))) ++
    if ports.length = 0 then [(0, 0)] else []

/-- A registry entry that points to the runtime matches one of the stops. -/
def ReachedBy (d : String) (stops : List (ℕ × ℕ)) (p : Proxy) (i : ℕ) : Prop :=
  ∃ e ∈ p.registry, e.connectionsData = some i ∧ ∃ pair ∈ stops, stopMatches d pair.1 pair.2 e = true

/-- Some live runtime of the device is reached by none of the stops. -/
def Missed (d : String) (stops : List (ℕ × ℕ)) (p : Proxy) : Prop :=
  ∃ i, LiveFor d p i ∧ ¬ ReachedBy d stops p i

instance (d : String) (p : Proxy) : Decidable (AllTold d p) :=
  inferInstanceAs (Decidable (∀ _ ∈ _, _))

instance (d : String) (p : Proxy) (i : ℕ) : Decidable (LiveFor d p i) :=
  decidable_of_iff ((p.runtimes[i]?).any fun r => r.deviceId == d && !told r)
    (by simp [LiveFor, Option.any_eq_true])

instance (d : String) (stops : List (ℕ × ℕ)) (p : Proxy) (i : ℕ) :
    Decidable (ReachedBy d stops p i) := inferInstanceAs (Decidable (∃ _ ∈ _, _))

instance (d : String) (stops : List (ℕ × ℕ)) (p : Proxy) : Decidable (Missed d stops p) :=
  decidable_of_iff (∃ i < p.runtimes.length, LiveFor d p i ∧ ¬ ReachedBy d stops p i) <| by
    constructor
    · rintro ⟨i, _, missed⟩
      exact ⟨i, missed⟩
    · rintro ⟨i, ⟨r, hr, live⟩, unreached⟩
      exact ⟨i, (List.getElem?_eq_some_iff.1 hr).1, ⟨r, hr, live⟩, unreached⟩

theorem allTold_iff : AllTold d p ↔ ¬ Missed d [] p := by
  constructor
  · rintro told ⟨i, ⟨r, hr, device, live⟩, _⟩
    rw [told r (List.mem_of_getElem? hr) device] at live
    exact Bool.noConfusion live
  · intro none r hr device
    obtain ⟨i, hi⟩ := List.getElem?_of_mem hr
    by_contra live
    refine none ⟨i, ⟨r, hi, device, by simpa using live⟩, ?_⟩
    rintro ⟨_, _, _, pair, mem, _⟩
    exact absurd mem (by simp)

/-- The slot of a live runtime's entry still carries its device. -/
theorem slotMismatch_live (h : ProxyInvariant p) {e : DynamicServerRuntime} {i : ℕ}
    (he : e ∈ p.registry) (hi : e.connectionsData = some i) (live : LiveFor d p i) :
    slotMismatch p.servers e = false := by
  obtain ⟨r, hr, _, up⟩ := live
  obtain ⟨r', hr', _, _, _, slot⟩ := h.registry.points e he i hi
  rw [hr] at hr'
  cases hr'
  obtain ⟨server, hs, named⟩ := slot up
  simp [slotMismatch, hs, named]

/-- One stop: it spares the live runtimes that it does not match, and their entries. -/
theorem missed_stop (h : ProxyInvariant p) (stops : List (ℕ × ℕ)) (ip tp : ℕ) :
    Missed d stops (stopDynamicServerForDevice d ip tp p) ↔ Missed d ((ip, tp) :: stops) p := by
  let hit := fun e : DynamicServerRuntime => stopMatches d ip tp e && !slotMismatch p.servers e
  obtain ⟨entries, spec⟩ := stopWhere_spec h hit
  change Missed d stops (stopWhere hit p) ↔ _
  -- on live runtimes the loop and the match agree
  have held {i : ℕ} (live : LiveFor d p i) :
      Held hit p.registry i ↔ ReachedBy d [(ip, tp)] p i := by
    constructor
    · rintro ⟨e, he, hi, hits⟩
      exact ⟨e, he, hi, (ip, tp), by simp, (Bool.and_eq_true_iff.1 hits).1⟩
    · rintro ⟨e, he, hi, pair, mem, hits⟩
      rw [List.mem_singleton.1 mem] at hits
      refine ⟨e, he, hi, ?_⟩
      simp [hit, hits, slotMismatch_live h he hi live]
  have liveAfter (i : ℕ) : LiveFor d (stopWhere hit p) i ↔
      LiveFor d p i ∧ ¬ Held hit p.registry i := by
    by_cases caught : Held hit p.registry i
    · simp only [LiveFor, spec.held i caught, Option.map_eq_some_iff, caught, not_true_eq_false,
        and_false, iff_false]
      rintro ⟨_, ⟨r, _, rfl⟩, _, live⟩
      rw [told_stopped] at live
      exact Bool.noConfusion live
    · simp only [LiveFor, spec.others i caught, caught, not_false_eq_true, and_true]
  have reachedAfter {i : ℕ} (free : ¬ Held hit p.registry i) :
      ReachedBy d stops (stopWhere hit p) i ↔ ReachedBy d stops p i := by
    simp only [ReachedBy, entries, List.mem_map]
    constructor
    · rintro ⟨_, ⟨e, he, rfl⟩, hi, matched⟩
      unfold clearEntry at hi matched
      split at hi
      · exact absurd hi (by simp)
      · rename_i kept
        rw [if_neg kept] at matched
        exact ⟨e, he, hi, matched⟩
    · rintro ⟨e, he, hi, matched⟩
      have kept : clearEntry hit e = e := by
        have miss : hit e = false := by
          by_contra hits
          exact free ⟨e, he, hi, by simpa using hits⟩
        simp [clearEntry, miss]
      exact ⟨_, ⟨e, he, rfl⟩, by rw [kept]; exact hi, by rw [kept]; exact matched⟩
  have split (i : ℕ) : ReachedBy d ((ip, tp) :: stops) p i ↔
      ReachedBy d [(ip, tp)] p i ∨ ReachedBy d stops p i := by
    simp only [ReachedBy, List.exists_mem_cons_iff, List.not_mem_nil, false_and, exists_false,
      or_false, and_or_left, exists_or]
  constructor
  · rintro ⟨i, live, unreached⟩
    obtain ⟨live, free⟩ := (liveAfter i).1 live
    refine ⟨i, live, ?_⟩
    rw [split, ← held live, ← reachedAfter free]
    exact not_or.2 ⟨free, unreached⟩
  · rintro ⟨i, live, unreached⟩
    rw [split, ← held live] at unreached
    obtain ⟨free, rest⟩ := not_or.1 unreached
    exact ⟨i, (liveAfter i).2 ⟨live, free⟩, fun reached => rest ((reachedAfter free).1 reached)⟩

theorem liveFor_acceptorExit (i j : ℕ) (isTunnel : Bool) :
    LiveFor d (acceptorExit i isTunnel p) j ↔ LiveFor d p j := by
  cases hr : p.runtimes[i]? with
  | none => simp [acceptorExit, hr]
  | some r =>
    obtain ⟨device, _, _, _, _, up⟩ := exited_fields isTunnel r
    simp only [acceptorExit_eq hr, LiveFor, List.getElem?_set]
    by_cases same : i = j
    · subst same
      obtain ⟨lt, rfl⟩ := List.getElem?_eq_some_iff.1 hr
      simp [lt, device, up]
    · simp [same]

/-- Nothing in the background starts or stops a runtime or changes the registry. -/
theorem missed_background (stops : List (ℕ × ℕ)) (st : Background s t) :
    Missed d stops t.proxy ↔ Missed d stops s.proxy := by
  obtain ⟨e, _, rfl⟩ := st
  cases e with
  | acceptorExit connectionsData isTunnel =>
    have registry : (acceptorExit connectionsData isTunnel s.proxy).registry = s.proxy.registry := by
      unfold acceptorExit
      split
      · rfl
      · split <;> rfl
    simp only [Missed, next, liveFor_acceptorExit, ReachedBy, registry]
  | _ => exact Iff.rfl

/-- What the rest of a disconnect, which still has these stops ahead, keeps as it is: whether
a live runtime of the device is missed. -/
structure Ahead (d : String) (stops : List (ℕ × ℕ)) (missed : Prop) (s : State) : Prop where
  invariant : ProxyInvariant s.proxy
  missed : Missed d stops s.proxy ↔ missed

variable {stops : List (ℕ × ℕ)} {missed : Prop}

theorem stable_ahead (cfg : Config) (stops : List (ℕ × ℕ)) :
    (controlServer cfg).Stable (Ahead d stops missed) := by
  intro s t h st
  exact ⟨background_preserves_invariant h.invariant st, (missed_background stops st).trans h.missed⟩

theorem not_fails_stop (d : String) (ip tp : ℕ) :
    ¬ (controlServer cfg).fails (.stopDynamicServer d ip tp) s := by
  rintro (fallible | refused)
  · exact fallible
  · exact absurd refused (by simp [interp])

theorem safe_stop {α : Type} {k : Option Unit → Control α} {Q : α → State → Prop}
    (h : Ahead d ((ip, tp) :: stops) missed s)
    (rest : ∀ t, Ahead d stops missed t →
      (controlServer cfg).Safe (fun _ _ => True) (fun _ => True) (k (some ())) Q t) :
    (controlServer cfg).Safe (fun _ _ => True) (fun _ => True)
      (.call (.stopDynamicServer d ip tp) k) Q s := by
  refine Server.safe_call (stable_ahead cfg _) (fun _ _ => trivial) h ?_ ?_
  · intro t _ fails
    exact absurd fails (not_fails_stop d ip tp)
  · intro t u _ ht _ e
    cases e
    exact rest _ ⟨ht.invariant.stopWhere _, (missed_stop ht.invariant stops ip tp).trans ht.missed⟩

theorem safe_stopPorts (ports : List ℕ)
    (h : Ahead d (ports.map (fun port => (port, uint16 (port + 1))) ++ stops) missed s) :
    (controlServer cfg).Safe (fun _ _ => True) (fun _ => True) (stopPorts d ports)
      (fun _ t => Ahead d stops missed t) s := by
  induction ports generalizing s with
  | nil => exact Server.safe_ret (stable_ahead cfg stops) (fun _ _ => trivial) (fun _ ht => ht) h
  | cons port ports ih => exact safe_stop h fun t ht => ih ht

theorem safe_releaseDevice (h : Ahead d [] missed s) :
    (controlServer cfg).Safe (fun _ _ => True) (fun _ => True) (releaseDevice d)
      (fun _ t => Ahead d [] missed t) s := by
  have off : Issues (fun c => ¬ OnProxy c) (releaseDevice d) := by
    refine ⟨id, fun r => ?_⟩
    cases r with
    | none => trivial
    | some _ =>
      refine ⟨id, fun r => ?_⟩
      cases r with
      | none => trivial
      | some _ =>
        refine ⟨id, fun _ => ⟨id, fun r => ?_⟩⟩
        cases r <;> trivial
  refine Server.safe_of_issues (stable_ahead cfg []) (fun _ _ => trivial) ?_ off h
  intro c s t r off hs _ e
  have same := interp_proxy off e
  exact ⟨by rw [same]; exact hs.invariant, by rw [same]; exact hs.missed⟩

theorem safe_stopListed (ports : List ℕ) (h : Ahead d (stopsFor ports) missed s) :
    (controlServer cfg).Safe (fun _ _ => True) (fun _ => True) (stopListed d ports)
      (fun _ t => Ahead d [] missed t) s := by
  refine ((safe_stopPorts (portsToStop ports) h).mono ?_).bind
  intro _ t ht
  by_cases empty : ports.length = 0
  · simp only [empty, if_true] at ht ⊢
    exact safe_stop ht fun u hu => safe_releaseDevice hu
  · simp only [empty, if_false] at ht ⊢
    exact safe_releaseDevice ht

def listedPorts (d : String) (db : Db) : List ℕ :=
  (activeSessionsOf d db).map fun u => uint16 u.assignedPort

/-- An execution of `terminate_device_by_device_id` that returned 0 listed the active sessions
in the state `s₁`. -/
def ListedAt (cfg : Config) (d : String) (s s₁ t : State) : Prop :=
  ReflTransGen Background s s₁ ∧
    (controlServer cfg).Runs (fun _ _ => True) (stopListed d (listedPorts d s₁.db)) s₁ 0 t

theorem listedAt_of_terminated
    (run : (controlServer cfg).Runs (fun _ _ => True) (terminateDeviceByDeviceId d) s 0 t) :
    ∃ s₁, ListedAt cfg d s s₁ t := by
  obtain ⟨u, before, ⟨_, failed⟩ | ⟨v, _, _, e, run⟩⟩ := run.call_inv
  · exact absurd failed.ret_inv (by decide)
  · cases e
    obtain ⟨w, between, ⟨_, failed⟩ | ⟨x, _, _, e, run⟩⟩ := run.call_inv
    · exact absurd failed.ret_inv (by decide)
    · cases e
      exact ⟨w, before.trans between, run⟩

/-- Every live runtime of the device is the target of a registry entry that matches a stop. -/
def AllReached (d : String) (s : State) : Prop :=
  ¬ Missed d (stopsFor (listedPorts d s.db)) s.proxy

instance (d : String) (s : State) : Decidable (AllReached d s) :=
  inferInstanceAs (Decidable (¬ _))

/-- After a disconnect that returned 0, every runtime of the device has been told to stop
exactly when all of them were reached from the sessions that it listed. -/
theorem all_told_iff_all_reached {k : Control ℤ}
    (h : (controlServer cfg).Reachable (fun _ _ => True) Initial (k, s))
    (run : (controlServer cfg).Runs (fun _ _ => True) (terminateDeviceByDeviceId d) s 0 t) :
    (∃ s₁, ListedAt cfg d s s₁ t) ∧
      ∀ s₁, ListedAt cfg d s s₁ t → (AllTold d t.proxy ↔ AllReached d s₁) := by
  refine ⟨listedAt_of_terminated run, ?_⟩
  rintro s₁ ⟨before, run⟩
  have inv := reachable_invariant (Server.env_reachable h before)
  have ahead : Ahead d [] (Missed d (stopsFor (listedPorts d s₁.db)) s₁.proxy) t :=
    (safe_stopListed _ ⟨inv, Iff.rfl⟩).post run
  rw [allTold_iff, ahead.missed, AllReached]

theorem terminated_alone (d : String) (s : State)
    (code : (run (interp cfg) (terminateDeviceByDeviceId d) s).1 = 0) :
    (controlServer cfg).Runs (fun _ _ => True) (terminateDeviceByDeviceId d) s 0
      (run (interp cfg) (terminateDeviceByDeviceId d) s).2 := by
  have runs := Server.runs_run (control_refuses cfg) (terminateDeviceByDeviceId d) s
    (permitted_true _ _ _)
  rw [← code]
  exact runs

theorem listedAt_alone (d : String) (s : State)
    (code : (run (interp cfg) (terminateDeviceByDeviceId d) s).1 = 0) :
    ListedAt cfg d s s (run (interp cfg) (terminateDeviceByDeviceId d) s).2 := by
  have runs := Server.runs_run (control_refuses cfg) (stopListed d (listedPorts d s.db)) s
    (permitted_true _ _ _)
  refine ⟨.refl, ?_⟩
  have same : run (interp cfg) (stopListed d (listedPorts d s.db)) s =
      run (interp cfg) (terminateDeviceByDeviceId d) s := rfl
  rw [← code, ← same]
  exact runs

/-- A's only runtime is reached and stopped. -/
theorem all_told_after_disconnect :
    AllTold "A" (run (interp Sample.cfg) (terminateDeviceByDeviceId "A")
      (play Sample.cfg registerA Sample.start)).2.proxy := by
  have reachable := play_reachable Sample.cfg (fun _ _ => True) registerA Sample.start
    Sample.initial_start (playPermitted_true _ _ _)
  have code : (run (interp Sample.cfg) (terminateDeviceByDeviceId "A")
      (play Sample.cfg registerA Sample.start)).1 = 0 := by decide +kernel
  have reached : AllReached "A" (play Sample.cfg registerA Sample.start) := by decide +kernel
  have terminated := terminated_alone _ _ code
  have listed := listedAt_alone _ _ code
  exact ((all_told_iff_all_reached reachable terminated).2 _ listed).2 reached

namespace Counterexample

/-- B is attached to A's first runtime, a user connects A again, A is started on the next pair. -/
def restartedElsewhere : List (Request ⊕ Event) :=
  recycledPair ++ [
    .inr (.editDevices [{ Sample.device 1 "A" with status := .connecting },
      { Sample.device 2 "B" with status := .active, assignedPort := some 6000 },
      Sample.device 3 "C"]),
    .inr (.draw 102 "t102"), .inl (Sample.register "A")]

theorem disconnect_leaves_a_runtime :
    ∃ k s t, (controlServer Sample.cfg).Reachable (fun _ _ => True) Initial (k, s) ∧
      (controlServer Sample.cfg).Runs (fun _ _ => True) (terminateDeviceByDeviceId "A") s 0 t ∧
      ¬ AllTold "A" t.proxy := by
  have reachable := play_reachable Sample.cfg (fun _ _ => True) restartedElsewhere
    Sample.start Sample.initial_start (playPermitted_true _ _ _)
  have code : (run (interp Sample.cfg) (terminateDeviceByDeviceId "A")
      (play Sample.cfg restartedElsewhere Sample.start)).1 = 0 := by decide +kernel
  have left : ¬ AllTold "A" (run (interp Sample.cfg) (terminateDeviceByDeviceId "A")
      (play Sample.cfg restartedElsewhere Sample.start)).2.proxy := by decide +kernel
  have terminated := terminated_alone _ _ code
  exact ⟨_, _, _, reachable, terminated, left⟩

end Counterexample

end RuntimeOwnership
