import Mathlib.Logic.Function.Basic
import NetPort.RegistrationWait

/-! The heartbeat thread, the input threads and `g_heartbeat_mutex`. The heartbeat thread holds the
mutex over a whole round, which restarts every input thread when the TLS settings change; an input
thread takes it to ask for a round. -/
namespace TlsSync

open DeviceManager StepRuns

structure Connection where
  isStartingInput : Bool
  isRunningInput : Bool
  stopRunningInput : Bool
  deriving DecidableEq, Repr

/-- `requesting` waits for the mutex in `heartbeat_request_tls_sync`, `scheduling` holds it. -/
inductive Phase where
  | restarting
  | connecting
  | connected
  | handshake
  | requesting
  | scheduling
  | running
  | ended
  deriving DecidableEq, Repr

structure InputThread where
  connection : ℕ
  phase : Phase
  deriving DecidableEq, Repr

/-- In a round the heartbeat thread may stand in `switcher_servers_restart_input_threads` and, for a
connection and the thread it has created there, in the wait of `server_input_start`. -/
inductive HeartbeatThread where
  | sleeping
  | sending
  | stopping
  | draining (connection : ℕ)
  | creating (connection : ℕ)
  | waiting (connection thread : ℕ)
  | finishing
  deriving DecidableEq, Repr

inductive Owner where
  | heartbeat
  | input (thread : ℕ)
  deriving DecidableEq, Repr

structure Client where
  mutex : Option Owner
  heartbeat : HeartbeatThread
  connectionsCount : ℕ
  connections : ℕ → Connection
  threads : List InputThread
  inputTls : Bool
  tunnelTls : Bool
  enableSsl : Bool
  tlsSyncPending : Bool

/-- `input_tls`, `tunnel_tls` and `reload_tls` of an accepted heartbeat that carries the flags. -/
def tlsSettings (response : Option Json) : Option (Bool × Bool × Bool) :=
  match response, RegistrationWait.sendHeartbeat response with
  | some answer, .ok =>
    match Json.bool? (answer.get "input_tls"), Json.bool? (answer.get "tunnel_tls") with
    | some inputTls, some tunnelTls =>
      some (inputTls, tunnelTls, (answer.get "reload_tls").any Json.isTrue)
    | _, _ => none
  | _, _ => none

inductive Action where
  | lock
  /-- with the flag that the new settings leave in `enable_ssl` -/
  | receive (response : Option Json) (enableSsl : Bool)
  | stopInputThreads
  | drained
  | serverInputStart (created : Bool)
  | inputStarted
  | unlock
  -- server_input_thread
  | stopped (thread : ℕ)
  | restart (thread : ℕ)
  | connect (thread : ℕ)
  | reconnect (thread : ℕ)
  | handshake (thread : ℕ)
  | establish (thread : ℕ)
  | handshakeFails (thread : ℕ) (peerCertificate : Bool)
  | readError (thread : ℕ)
  | lockSync (thread : ℕ)
  | unlockSync (thread : ℕ)

def Client.phase (s : Client) (thread : ℕ) : Option Phase := (s.threads[thread]?).map (·.phase)

def Client.connection (s : Client) (thread : ℕ) : ℕ :=
  ((s.threads[thread]?).map (·.connection)).getD 0

def Client.stops (s : Client) (thread : ℕ) : Bool :=
  (s.connections (s.connection thread)).stopRunningInput

def Client.setPhase (s : Client) (thread : ℕ) (phase : Phase) : Client :=
  { s with threads := s.threads.modify thread fun t => { t with phase := phase } }

def Client.setConnection (s : Client) (i : ℕ) (c : Connection) : Client :=
  { s with connections := Function.update s.connections i c }

def Client.setRunning (s : Client) (thread : ℕ) (running : Bool) : Client :=
  let i := s.connection thread
  s.setConnection i
    { s.connections i with isStartingInput := false, isRunningInput := running }

def Enabled (s : Client) : Action → Prop
  | .lock => s.heartbeat = .sleeping ∧ s.mutex = none
  | .receive _ _ => s.heartbeat = .sending
  | .stopInputThreads => s.heartbeat = .stopping
  | .drained => ∃ i < s.connectionsCount, s.heartbeat = .draining i
  | .serverInputStart _ => ∃ i < s.connectionsCount, s.heartbeat = .creating i
  | .inputStarted => ∃ i < s.connectionsCount, ∃ k < s.threads.length,
      s.heartbeat = .waiting i k ∧ (s.connections i).isStartingInput = false
  | .unlock => s.heartbeat = .finishing
  | .stopped k =>
    (s.phase k = some .restarting ∨ s.phase k = some .connecting ∨ s.phase k = some .connected ∨
      s.phase k = some .running) ∧ s.stops k = true
  | .restart k => s.phase k = some .restarting ∧ s.stops k = false
  | .connect k => s.phase k = some .connecting
  | .reconnect k => s.phase k = some .connected ∨ s.phase k = some .running
  | .handshake k => s.phase k = some .connected ∧ s.enableSsl = true
  | .establish k =>
    (s.phase k = some .connected ∧ s.enableSsl = false) ∨ s.phase k = some .handshake
  | .handshakeFails k _ => s.phase k = some .handshake
  | .readError k => s.phase k = some .running ∧ s.enableSsl = true
  | .lockSync k => s.phase k = some .requesting ∧ s.mutex = none
  | .unlockSync k => s.phase k = some .scheduling

instance (s : Client) (a : Action) : Decidable (Enabled s a) := by
  rcases a <;> dsimp only [Enabled] <;> infer_instance

/-- `device_apply_tls_settings_update` does nothing unless a flag changed or a reload is forced. -/
def receive (s : Client) (response : Option Json) (enableSsl : Bool) : Client :=
  match tlsSettings response with
  | none =>
    let accepted := RegistrationWait.sendHeartbeat response == .ok
    { s with heartbeat := .finishing, tlsSyncPending := s.tlsSyncPending && !accepted }
  | some (inputTls, tunnelTls, forceReload) =>
    if s.inputTls == inputTls && s.tunnelTls == tunnelTls && !forceReload then
      { s with heartbeat := .finishing, tlsSyncPending := false }
    else
      { s with
        heartbeat := .stopping
        inputTls := inputTls
        tunnelTls := tunnelTls
        enableSsl := enableSsl }

/-- The next connection of the loop in `switcher_servers_restart_input_threads`. -/
def Client.restartFrom (s : Client) (i : ℕ) : Client :=
  if i < s.connectionsCount then { s with heartbeat := .draining i }
  else { s with heartbeat := .finishing, tlsSyncPending := false }

/-- `server_input_start`, up to its wait: a connection that runs is left alone. -/
def serverInputStart (s : Client) (i : ℕ) (created : Bool) : Client :=
  if (s.connections i).isRunningInput then s.restartFrom (i + 1)
  else if created then
    { s with
      connections := Function.update s.connections i ⟨true, false, false⟩
      threads := s.threads ++ [⟨i, .restarting⟩]
      heartbeat := .waiting i s.threads.length }
  else (s.setConnection i ⟨false, false, false⟩).restartFrom (i + 1)

/-- `stop_running_input` for every connection. -/
def Client.stopAll (s : Client) : Client :=
  { s with connections := fun i => { s.connections i with stopRunningInput := true } }

def next (s : Client) : Action → Client
  | .lock => { s with mutex := some .heartbeat, heartbeat := .sending }
  | .receive response enableSsl => receive s response enableSsl
  | .stopInputThreads => s.stopAll.restartFrom 0
  | .drained =>
    -- after at most ten seconds, whether the old thread has ended or not
    match s.heartbeat with
    | .draining i => { s.setConnection i ⟨false, false, false⟩ with heartbeat := .creating i }
    | _ => s
  | .serverInputStart created =>
    match s.heartbeat with
    | .creating i => serverInputStart s i created
    | _ => s
  | .inputStarted =>
    match s.heartbeat with
    | .waiting i _ => s.restartFrom (i + 1)
    | _ => s
  | .unlock => { s with mutex := none, heartbeat := .sleeping }
  | .stopped k => (s.setRunning k false).setPhase k .ended
  | .restart k => s.setPhase k .connecting
  | .connect k => s.setPhase k .connected
  | .reconnect k => s.setPhase k .restarting
  | .handshake k => s.setPhase k .handshake
  | .establish k => (s.setRunning k true).setPhase k .running
  | .handshakeFails k peerCertificate =>
    s.setPhase k (if peerCertificate then .restarting else .requesting)
  | .readError k => s.setPhase k .requesting
  | .lockSync k => { s.setPhase k .scheduling with mutex := some (.input k) }
  | .unlockSync k => { s.setPhase k .restarting with mutex := none, tlsSyncPending := true }

def Started (s : Client) : Prop := s.heartbeat = .sleeping

def client : System Client Action := ⟨Started, Enabled, next⟩

instance (s : Client) (a : Action) : Decidable (client.enabled s a) :=
  inferInstanceAs (Decidable (Enabled s a))

/-- The heartbeat thread waits, with the mutex, for a flag that the thread it has created is to
clear, and that thread waits for the mutex. -/
def Deadlocked (s : Client) : Prop :=
  ∃ i k, s.heartbeat = .waiting i k ∧ s.mutex = some .heartbeat ∧
    (s.connections i).isStartingInput = true ∧ s.phase k = some .requesting

/-- The heartbeat thread waits for this thread to clear its flag. -/
def Awaited (s : Client) (thread : ℕ) : Prop :=
  ∃ i, s.heartbeat = .waiting i thread ∧ (s.connections i).isStartingInput = true

/-- No handshake fails without a certificate of the peer while the heartbeat thread waits for it. -/
def Certified (s : Client) : Action → Prop
  | .handshakeFails k peerCertificate => peerCertificate = false → ¬ Awaited s k
  | _ => True

def Phase.starts (p : Phase) : Prop :=
  p = .restarting ∨ p = .connecting ∨ p = .connected ∨ p = .handshake

structure Invariant (s : Client) : Prop where
  own : ∀ i k, s.heartbeat = .waiting i k → s.connection k = i ∧ k < s.threads.length
  starts : ∀ k, Awaited s k → ∃ p, s.phase k = some p ∧ p.starts

variable {s t : Client} {a : Action}

theorem phase_setPhase (s : Client) (k : ℕ) (p : Phase) (j : ℕ) :
    (s.setPhase k p).phase j = if k = j then (s.phase j).map (fun _ => p) else s.phase j := by
  simp only [Client.phase, Client.setPhase, List.getElem?_modify]
  by_cases same : k = j <;> cases s.threads[j]? <;> simp [same]

theorem connection_setPhase (s : Client) (k : ℕ) (p : Phase) (j : ℕ) :
    (s.setPhase k p).connection j = s.connection j := by
  simp only [Client.connection, Client.setPhase, List.getElem?_modify]
  by_cases same : k = j <;> cases s.threads[j]? <;> simp [same]

/-- A state in which the heartbeat thread waits for no input thread. -/
theorem Invariant.elsewhere (h : ∀ i k, t.heartbeat ≠ .waiting i k) : Invariant t :=
  ⟨fun i k at_ => absurd at_ (h i k), fun k ⟨i, at_, _⟩ => absurd at_ (h i k)⟩

theorem Invariant.restartFrom (s : Client) (i : ℕ) : Invariant (s.restartFrom i) := by
  apply Invariant.elsewhere
  intro j k
  unfold Client.restartFrom
  split <;> simp

/-- One input thread moves, and sets no `is_starting_input`. -/
theorem Invariant.thread (h : Invariant s) {k : ℕ} {p : Phase} (heartbeat : t.heartbeat = s.heartbeat)
    (threads : t.threads = (s.setPhase k p).threads)
    (flags : ∀ i, (t.connections i).isStartingInput = true →
      (s.connections i).isStartingInput = true)
    (moves : Awaited s k → Awaited t k → p.starts) : Invariant t := by
  have phase (j : ℕ) : t.phase j = (s.setPhase k p).phase j := by
    simp only [Client.phase, threads]
  have connection (j : ℕ) : t.connection j = s.connection j := by
    rw [← connection_setPhase s k p j]
    simp only [Client.connection, threads]
  have length : t.threads.length = s.threads.length := by simp [threads, Client.setPhase]
  constructor
  · intro i j at_
    rw [connection, length]
    exact h.own i j (heartbeat ▸ at_)
  · intro j awaited
    have before : Awaited s j := by
      obtain ⟨i, at_, starting⟩ := awaited
      exact ⟨i, heartbeat ▸ at_, flags i starting⟩
    obtain ⟨q, at_, starts⟩ := h.starts j before
    rw [phase, phase_setPhase]
    by_cases same : k = j
    · subst same
      exact ⟨p, by simp [at_], moves before awaited⟩
    · exact ⟨q, by simp [same, at_], starts⟩

theorem Invariant.clears (h : Invariant s) {k : ℕ} {p : Phase} (running : Bool) :
    Invariant ((s.setRunning k running).setPhase k p) := by
  refine h.thread rfl rfl ?_ ?_
  · intro i
    by_cases own : i = s.connection k
    · simp [Client.setPhase, Client.setRunning, Client.setConnection, own]
    · simp [Client.setPhase, Client.setRunning, Client.setConnection, Function.update_of_ne own]
  · rintro ⟨i, at_, _⟩ ⟨j, at', starting⟩
    obtain rfl : i = j := by
      have same := at_.symm.trans at'
      simp at same
      exact same
    have own := (h.own i k at_).1
    simp [Client.setPhase, Client.setRunning, Client.setConnection, own] at starting

/-- A thread in one of the phases after its start is not awaited. -/
theorem Invariant.not_awaited (h : Invariant s) {k : ℕ} {p : Phase} (at_ : s.phase k = some p)
    (later : ¬ p.starts) : ¬ Awaited s k := by
  intro awaited
  obtain ⟨q, at', starts⟩ := h.starts k awaited
  rw [at_] at at'
  cases at'
  exact later starts

theorem Invariant.waits (s : Client) (i : ℕ) : Invariant
    { s with
      connections := Function.update s.connections i ⟨true, false, false⟩
      threads := s.threads ++ [⟨i, .restarting⟩]
      heartbeat := .waiting i s.threads.length } := by
  constructor
  · intro j k at_
    cases at_
    simp [Client.connection]
  · rintro k ⟨j, at_, _⟩
    cases at_
    exact ⟨.restarting, by simp [Client.phase], .inl rfl⟩

theorem Invariant.serverInputStart (s : Client) (i : ℕ) (created : Bool) :
    Invariant (serverInputStart s i created) := by
  unfold TlsSync.serverInputStart
  split
  · exact Invariant.restartFrom _ _
  · split
    · exact Invariant.waits s i
    · exact Invariant.restartFrom _ _

theorem next_invariant (h : Invariant s) (enabled : Enabled s a) (certified : Certified s a) :
    Invariant (next s a) := by
  cases a with
  | lock => exact .elsewhere (by simp [next])
  | receive response enableSsl =>
    apply Invariant.elsewhere
    intro i k
    dsimp only [next, receive]
    split
    · simp
    · split <;> simp
  | stopInputThreads => exact Invariant.restartFrom _ _
  | drained =>
    obtain ⟨i, _, at_⟩ := enabled
    exact .elsewhere (by simp [next, at_])
  | serverInputStart created =>
    obtain ⟨i, _, at_⟩ := enabled
    simp only [next, at_]
    exact Invariant.serverInputStart s i created
  | inputStarted =>
    obtain ⟨i, _, k, _, at_, _⟩ := enabled
    simp only [next, at_]
    exact Invariant.restartFrom _ _
  | unlock => exact .elsewhere (by simp [next])
  | stopped k => exact h.clears false
  | restart k => exact h.thread rfl rfl (fun _ => id) (fun _ _ => .inr (.inl rfl))
  | connect k => exact h.thread rfl rfl (fun _ => id) (fun _ _ => .inr (.inr (.inl rfl)))
  | reconnect k => exact h.thread rfl rfl (fun _ => id) (fun _ _ => .inl rfl)
  | handshake k => exact h.thread rfl rfl (fun _ => id) (fun _ _ => .inr (.inr (.inr rfl)))
  | establish k => exact h.clears true
  | handshakeFails k peerCertificate =>
    cases peerCertificate with
    | true => exact h.thread rfl rfl (fun _ => id) (fun _ _ => .inl rfl)
    | false =>
      have free := certified rfl
      exact h.thread rfl rfl (fun _ => id) (fun awaited => absurd awaited free)
  | readError k =>
    have free := h.not_awaited enabled.1 (by simp [Phase.starts])
    exact h.thread rfl rfl (fun _ => id) (fun awaited => absurd awaited free)
  | lockSync k =>
    have free := h.not_awaited enabled.1 (by simp [Phase.starts])
    exact h.thread rfl rfl (fun _ => id) (fun awaited => absurd awaited free)
  | unlockSync k =>
    exact h.thread rfl rfl (fun _ => id) (fun _ _ => .inl rfl)

theorem deadlock_free {log : List (Client × Action)} (run : client.Run log s)
    (certified : ∀ e ∈ log, Certified e.1 e.2) : ¬ Deadlocked s := by
  have start : ∀ s, Started s → Invariant s := fun s sleeping =>
    .elsewhere (by simp [show s.heartbeat = .sleeping from sleeping])
  have h : Invariant s := run.invariant start (fun _ _ => next_invariant) certified
  rintro ⟨i, k, at_, _, starting, requesting⟩
  exact h.not_awaited requesting (by simp [Phase.starts]) ⟨i, at_, starting⟩

def connected : Client :=
  { mutex := none, heartbeat := .sleeping, connectionsCount := 1,
    connections := fun _ => ⟨false, true, false⟩, threads := [⟨0, .running⟩], inputTls := false,
    tunnelTls := false, enableSsl := false, tlsSyncPending := false }

theorem start_connected : client.Run [] connected := .start rfl

def tunnelTlsOn : Json :=
  .object [("status", .string "ok"), ("input_tls", .bool false), ("tunnel_tls", .bool true)]

def restarts : List Action :=
  [.lock, .receive (some tunnelTlsOn) true, .stopInputThreads, .stopped 0, .drained,
    .serverInputStart true, .restart 1, .connect 1, .handshake 1]

theorem deadlock_free_with_certificate :
    ∃ log s, client.Run log s ∧ Awaited s 1 ∧ ¬ Deadlocked s := by
  have followed : ∃ log s,
      client.follow [] connected (restarts ++ [Action.handshakeFails 1 true]) = some (log, s) ∧ (s.heartbeat = .waiting 0 1 ∧ (s.connections 0).isStartingInput = true) ∧
      ∀ e ∈ log, Certified e.1 e.2 := by
    refine ⟨_, _, rfl, ⟨rfl, rfl⟩, ?_⟩
    simp [Certified]
  obtain ⟨log, s, followed, awaited, certified⟩ := followed
  have run := start_connected.follow followed
  exact ⟨log, s, run, ⟨0, awaited⟩, deadlock_free run certified⟩

/-- The peer refuses the handshake without showing a certificate. -/
theorem deadlock_after_failed_handshake : ∃ log s, client.Run log s ∧ Deadlocked s := by
  have followed : ∃ log s,
      client.follow [] connected (restarts ++ [Action.handshakeFails 1 false]) = some (log, s) ∧ s.heartbeat = .waiting 0 1 ∧ s.mutex = some .heartbeat ∧
      (s.connections 0).isStartingInput = true ∧ s.phase 1 = some .requesting :=
    ⟨_, _, rfl, rfl, rfl, rfl, rfl⟩
  obtain ⟨log, s, followed, deadlocked⟩ := followed
  exact ⟨log, s, start_connected.follow followed, 0, 1, deadlocked⟩

end TlsSync
