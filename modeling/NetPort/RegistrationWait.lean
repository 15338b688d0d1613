import Mathlib.Data.List.Infix
import NetPort.DeviceManager
import NetPort.StepRuns

/-! How the client gets its session back: the heartbeat thread gives the session up and starts a
thread that registers again, through the two flags that both threads share. -/
namespace RegistrationWait

open DeviceManager StepRuns

/-- `strstr(text, part) != NULL` -/
def contains (text part : String) : Bool := decide (part.toList <:+: text.toList)

inductive HeartbeatResult where
  | ok
  | failed
  | sessionTerminated
  deriving DecidableEq, Repr

/-- The result of `send_heartbeat`; `none` is a request without a JSON answer. -/
def sendHeartbeat : Option Json → HeartbeatResult
  | none => .failed
  | some response =>
    match Json.string? (response.get "status") with
    | none => .failed
    | some status =>
      if status = "ok" then .ok
      else
        let message := (Json.string? (response.get "message")).getD status
        if (response.get "force_disconnect").any Json.isTrue ||
            contains message "Session terminated" || contains message "Invalid session" then
          .sessionTerminated
        else .failed

/-- What `g_device_state` keeps of a registration for the output target. -/
structure DeviceState where
  internalAddress : String
  internalPort : ℕ
  deriving DecidableEq, Repr

def copied (s : String) : String := .ofList (s.toList.take 31)

def uint16OfInt (n : ℤ) : ℕ := (n % 2 ^ 16).toNat

/-- The answer to `device_register_with_server`; `none` is a refused registration. -/
def registered (response : Json) : Option DeviceState :=
  if Json.string? (response.get "status") = some "authenticated" then
    match Json.integer? (response.get "assigned_port"),
        Json.string? (response.get "session_token") with
    | some _, some _ => some
        { internalAddress := copied ((Json.string? (response.get "internal_address")).getD "")
          internalPort := ((Json.integer? (response.get "internal_port")).map uint16OfInt).getD 0 }
    | _, _ => none
  else none

structure Settings where
  cliOutputHost : Bool
  cliOutputPort : Bool
  outputAddress : String
  outputPort : ℕ
  deriving DecidableEq, Repr

/-- `apply_output_target_from_registration` -/
def applyOutputTarget (d : DeviceState) (settings : Settings) : Settings :=
  let address :=
    if settings.cliOutputHost then settings.outputAddress
    else if d.internalAddress ≠ "" then copied d.internalAddress
    else if d.internalPort ≠ 0 then "127.0.0.1"
    else settings.outputAddress
  let port :=
    if !settings.cliOutputPort && d.internalPort != 0 then d.internalPort else settings.outputPort
  { settings with outputAddress := address, outputPort := port }

def validateOutputTarget (settings : Settings) : Bool :=
  settings.outputPort != 0 && settings.outputAddress != ""

theorem copied_ne_empty {s : String} (h : s ≠ "") : copied s ≠ "" := by
  intro empty
  have chars : s.toList.take 31 = [] := by
    have := congrArg String.toList empty
    simpa [copied] using this
  rcases List.take_eq_nil_iff.1 chars with zero | nil
  · omega
  · exact h (String.toList_inj.1 nil)

/-- A registration without an address or a port keeps the ones before. -/
theorem validate_applyOutputTarget (d : DeviceState) {settings : Settings}
    (valid : validateOutputTarget settings = true) :
    validateOutputTarget (applyOutputTarget d settings) = true := by
  simp only [validateOutputTarget, applyOutputTarget, Bool.and_eq_true, bne_iff_ne] at valid ⊢
  obtain ⟨port, address⟩ := valid
  constructor
  · split
    · rename_i set
      exact set.2
    · exact port
  · split
    · exact address
    · split
      · rename_i set
        exact copied_ne_empty set
      · split
        · decide
        · exact address

/-- The heartbeat thread between two rounds, in a round, and in `device_start_registration_wait`. -/
inductive HeartbeatThread where
  | idle
  | sending
  | requesting
  | marked
  | creating
  | createFailed
  deriving DecidableEq, Repr

/-- `registration_wait_thread` -/
inductive WaitThread where
  | registering
  | allowed
  | resumed
  | updating
  | refused
  | closing
  deriving DecidableEq, Repr

structure Client where
  /-- `g_device_session_revoked` -/
  revoked : Bool
  /-- `g_registration_wait_running` -/
  waitRunning : Bool
  heartbeat : HeartbeatThread
  /-- a thread that has not exited -/
  waiter : Option WaitThread
  failCount : ℕ
  maxFailures : ℕ
  device : DeviceState
  settings : Settings
  deriving DecidableEq, Repr

inductive Action where
  | beginHeartbeat
  | receive (response : Option Json)
  | startRegistrationWait
  | revoke
  | createThread (created : Bool)
  | giveUp
  | register (response : Json)
  | allow
  | resume
  | applyReregistration
  | refuse
  | finish

/-- Only the heartbeat thread sets `g_registration_wait_running`, so that its check and its
assignment are one step. -/
def Enabled (s : Client) : Action → Prop
  | .beginHeartbeat => s.heartbeat = .idle ∧ s.revoked = false
  | .receive _ => s.heartbeat = .sending
  | .startRegistrationWait => s.heartbeat = .requesting
  | .revoke => s.heartbeat = .marked
  | .createThread _ => s.heartbeat = .creating
  | .giveUp => s.heartbeat = .createFailed
  | .register _ => s.waiter = some .registering
  | .allow => s.waiter = some .allowed
  | .resume => s.waiter = some .resumed
  | .applyReregistration => s.waiter = some .updating
  | .refuse => s.waiter = some .refused
  | .finish => s.waiter = some .closing

instance (s : Client) (a : Action) : Decidable (Enabled s a) := by
  rcases a <;> dsimp only [Enabled] <;> infer_instance

def finishRound (s : Client) : HeartbeatResult → Client
  | .ok => { s with heartbeat := .idle, failCount := 0 }
  | .sessionTerminated => { s with heartbeat := .requesting }
  | .failed =>
    if !s.revoked && decide (s.maxFailures ≤ s.failCount + 1) then
      { s with heartbeat := .requesting, failCount := 0 }
    else { s with heartbeat := .idle, failCount := s.failCount + 1 }

def next (s : Client) : Action → Client
  | .beginHeartbeat => { s with heartbeat := .sending }
  | .receive response => finishRound s (sendHeartbeat response)
  | .startRegistrationWait =>
    if s.waitRunning then { s with heartbeat := .idle }
    else { s with heartbeat := .marked, waitRunning := true }
  | .revoke => { s with heartbeat := .creating, revoked := true }
  | .createThread created =>
    if created then { s with heartbeat := .idle, waiter := some .registering }
    else { s with heartbeat := .createFailed }
  | .giveUp => { s with heartbeat := .idle, waitRunning := false }
  | .register response =>
    match registered response with
    | none => s
    | some d => { s with device := d, waiter := some .allowed }
  | .allow => { s with revoked := false, waiter := some .resumed }
  | .resume => { s with revoked := false, waiter := some .updating }
  | .applyReregistration =>
    let settings := applyOutputTarget s.device s.settings
    { s with
      settings := settings
      waiter := some (if validateOutputTarget settings then .closing else .refused) }
  | .refuse => { s with revoked := true, waiter := some .closing }
  | .finish => { s with waitRunning := false, waiter := none }

/-- After `start_device_heartbeat`, whose caller has validated the output target. -/
def Started (s : Client) : Prop :=
  s.revoked = false ∧ s.waitRunning = false ∧ s.heartbeat = .idle ∧ s.waiter = none ∧
    validateOutputTarget s.settings = true

def client : System Client Action := ⟨Started, Enabled, next⟩

instance (s : Client) (a : Action) : Decidable (client.enabled s a) :=
  inferInstanceAs (Decidable (Enabled s a))

/-- A registration thread that has not exited, or that the heartbeat thread is about to create. -/
def Restoring (s : Client) : Prop :=
  s.waitRunning = true ∧ (s.waiter ≠ none ∨ s.heartbeat = .creating)

def NeverWedged (s : Client) : Prop := s.revoked = true → Restoring s

/-- `pthread_create` does not fail. -/
def Creates : Action → Prop
  | .createThread created => created = true
  | _ => True

structure Invariant (s : Client) : Prop where
  valid : validateOutputTarget s.settings = true
  never_refused : s.waiter ≠ some .refused
  never_failed : s.heartbeat ≠ .createFailed
  waiting : s.waiter ≠ none → s.waitRunning = true
  alone : s.waiter ≠ none → s.heartbeat ≠ .marked ∧ s.heartbeat ≠ .creating
  starting : s.heartbeat = .marked ∨ s.heartbeat = .creating → s.waitRunning = true
  revoked : s.revoked = true → s.waiter = some .registering ∨ s.waiter = some .allowed ∨
    s.heartbeat = .creating

variable {s : Client} {a : Action}

theorem Started.invariant (h : Started s) : Invariant s := by
  obtain ⟨revoked, running, heartbeat, waiter, valid⟩ := h
  refine ⟨valid, ?_, ?_, ?_, ?_, ?_, ?_⟩ <;> simp [revoked, heartbeat, waiter]

/-- The heartbeat thread moves outside `device_start_registration_wait`. -/
theorem Invariant.moves (h : Invariant s) {t : HeartbeatThread} {failCount : ℕ}
    (quiet : t = .idle ∨ t = .sending ∨ t = .requesting) (before : s.heartbeat ≠ .creating) :
    Invariant { s with heartbeat := t, failCount := failCount } := by
  have settled : t ≠ .createFailed ∧ t ≠ .marked ∧ t ≠ .creating := by
    rcases quiet with rfl | rfl | rfl <;> decide
  refine ⟨h.valid, h.never_refused, settled.1, h.waiting, fun _ => settled.2, ?_, ?_⟩
  · rintro (marked | creating)
    · exact absurd marked settled.2.1
    · exact absurd creating settled.2.2
  · intro revoked
    rcases h.revoked revoked with registering | allowed | creating
    · exact .inl registering
    · exact .inr (.inl allowed)
    · exact absurd creating before

theorem Invariant.finishRound (h : Invariant s) (sending : s.heartbeat = .sending)
    (r : HeartbeatResult) : Invariant (finishRound s r) := by
  have before : s.heartbeat ≠ .creating := by simp [sending]
  cases r with
  | ok => exact h.moves (.inl rfl) before
  | sessionTerminated => exact h.moves (.inr (.inr rfl)) before
  | failed =>
    unfold RegistrationWait.finishRound
    by_cases given : (!s.revoked && decide (s.maxFailures ≤ s.failCount + 1)) = true
    · rw [given]
      exact h.moves (.inr (.inr rfl)) before
    · rw [Bool.not_eq_true] at given
      rw [given]
      exact h.moves (.inl rfl) before

theorem Invariant.restores (h : Invariant s) {w w' : WaitThread} (at_ : s.waiter = some w)
    (settings : Settings) (valid : validateOutputTarget settings = true)
    (not_refused : w' ≠ .refused) :
    Invariant { s with settings := settings, revoked := false, waiter := some w' } := by
  have alive : s.waiter ≠ none := by simp [at_]
  refine ⟨valid, by simpa using not_refused, h.never_failed, fun _ => h.waiting alive,
    fun _ => h.alone alive, h.starting, nofun⟩

theorem Invariant.registers (h : Invariant s) (at_ : s.waiter = some .registering) (d : DeviceState) :
    Invariant { s with device := d, waiter := some .allowed } := by
  have alive : s.waiter ≠ none := by simp [at_]
  exact ⟨h.valid, nofun, h.never_failed, fun _ => h.waiting alive, fun _ => h.alone alive, h.starting,
    fun _ => .inr (.inl rfl)⟩

/-- Once the session is restored the flag stays cleared until the thread has ended. -/
theorem Invariant.not_revoked (h : Invariant s) {w : WaitThread} (at_ : s.waiter = some w)
    (later : w ≠ .registering ∧ w ≠ .allowed) : s.revoked = false := by
  have alive : s.waiter ≠ none := by simp [at_]
  cases revoked : s.revoked with
  | false => rfl
  | true =>
    rcases h.revoked revoked with registering | allowed | creating
    · exact absurd (Option.some.inj (at_.symm.trans registering)) later.1
    · exact absurd (Option.some.inj (at_.symm.trans allowed)) later.2
    · exact absurd creating (h.alone alive).2

theorem next_invariant (h : Invariant s) (enabled : Enabled s a) (creates : Creates a) :
    Invariant (next s a) := by
  cases a with
  | beginHeartbeat =>
    have idle : s.heartbeat = .idle := enabled.1
    exact h.moves (.inr (.inl rfl)) (by simp [idle])
  | receive response => exact h.finishRound enabled _
  | startRegistrationWait =>
    have at_ : s.heartbeat = .requesting := enabled
    by_cases running : s.waitRunning = true
    · rw [show next s .startRegistrationWait = { s with heartbeat := .idle } from if_pos running]
      exact h.moves (.inl rfl) (by simp [at_])
    · rw [show next s .startRegistrationWait =
        { s with heartbeat := .marked, waitRunning := true } from if_neg running]
      have ended : s.waiter = none := by
        by_contra alive
        exact running (h.waiting alive)
      refine ⟨h.valid, h.never_refused, nofun, fun _ => rfl, fun alive => absurd ended alive,
        fun _ => rfl, ?_⟩
      intro revoked
      rcases h.revoked revoked with registering | allowed | creating
      · simp [ended] at registering
      · simp [ended] at allowed
      · simp [at_] at creating
  | revoke =>
    have at_ : s.heartbeat = .marked := enabled
    have ended : s.waiter = none := by
      by_contra alive
      exact (h.alone alive).1 at_
    exact ⟨h.valid, h.never_refused, nofun, h.waiting, fun alive => absurd ended alive,
      fun _ => h.starting (.inl at_), fun _ => .inr (.inr rfl)⟩
  | createThread created =>
    obtain rfl : created = true := creates
    exact ⟨h.valid, nofun, nofun, fun _ => h.starting (.inr enabled), fun _ => ⟨nofun, nofun⟩, nofun,
      fun _ => .inl rfl⟩
  | giveUp => exact absurd enabled h.never_failed
  | register response =>
    dsimp only [next]
    cases registered response with
    | none => exact h
    | some d => exact h.registers enabled d
  | allow => exact h.restores enabled s.settings h.valid (by decide)
  | resume => exact h.restores enabled s.settings h.valid (by decide)
  | applyReregistration =>
    have valid := validate_applyOutputTarget s.device h.valid
    have kept := h.not_revoked enabled (by decide)
    simp only [next, valid, if_true]
    have restored := h.restores enabled _ valid (show WaitThread.closing ≠ .refused by decide)
    rwa [← kept] at restored
  | refuse => exact absurd enabled h.never_refused
  | finish =>
    have kept := h.not_revoked enabled (by decide)
    have alive : s.waiter ≠ none := by simp [show s.waiter = some .closing from enabled]
    refine ⟨h.valid, nofun, h.never_failed, nofun, nofun, ?_, ?_⟩
    · rintro (marked | creating)
      · exact absurd marked (h.alone alive).1
      · exact absurd creating (h.alone alive).2
    · intro revoked
      simp [next, kept] at revoked

theorem wedged_stops (wedged : ¬ NeverWedged s) (idle : s.heartbeat = .idle)
    (ended : s.waiter = none) : ¬ Enabled s a := by
  have revoked : s.revoked = true := by
    by_contra restored
    exact wedged fun revoked => absurd revoked restored
  cases a <;> simp [Enabled, revoked, idle, ended]

theorem never_wedged {log : List (Client × Action)} (run : client.Run log s)
    (creates : ∀ e ∈ log, Creates e.2) : NeverWedged s := by
  have h : Invariant s :=
    run.invariant (fun _ => Started.invariant) (fun _ _ => next_invariant) creates
  intro revoked
  rcases h.revoked revoked with registering | allowed | creating
  · exact ⟨h.waiting (by simp [registering]), .inl (by simp [registering])⟩
  · exact ⟨h.waiting (by simp [allowed]), .inl (by simp [allowed])⟩
  · exact ⟨h.starting (.inr creating), .inr creating⟩

def started : Client :=
  { revoked := false, waitRunning := false, heartbeat := .idle, waiter := none, failCount := 0,
    maxFailures := 3, device := ⟨"", 0⟩, settings := ⟨false, false, "127.0.0.1", 22⟩ }

theorem start_started : client.Run [] started := .start ⟨rfl, rfl, rfl, rfl, by decide⟩

def sessionTerminated : Json :=
  .object [("status", .string "error"), ("message", .string "Session terminated"),
    ("force_disconnect", .bool true)]

def terminates : List Action :=
  [.beginHeartbeat, .receive (some sessionTerminated), .startRegistrationWait, .revoke]

theorem never_wedged_while_registering :
    ∃ log s, client.Run log s ∧ s.revoked = true ∧ NeverWedged s := by
  have followed : ∃ log s, client.follow [] started (terminates ++ [Action.createThread true]) =
      some (log, s) ∧ s.revoked = true ∧ ∀ a ∈ log.map (·.2), Creates a := by
    refine ⟨_, _, rfl, rfl, ?_⟩
    simp [Creates]
  obtain ⟨log, s, followed, revoked, creates⟩ := followed
  have run := start_started.follow followed
  exact ⟨log, s, run, revoked, never_wedged run fun e he => creates _ (List.mem_map_of_mem he)⟩

/-- `pthread_create` fails after the session was given up: the flag stays set, no thread registers
and the heartbeat thread sleeps. -/
theorem wedged_after_failed_create :
    ∃ log s, client.Run log s ∧ ¬ NeverWedged s ∧ ∀ a, ¬ Enabled s a := by
  have followed : ∃ log s,
      client.follow [] started (terminates ++ [Action.createThread false, .giveUp]) =
        some (log, s) ∧ s.revoked = true ∧ s.heartbeat = .idle ∧ s.waiter = none :=
    ⟨_, _, rfl, rfl, rfl, rfl⟩
  obtain ⟨log, s, followed, revoked, idle, ended⟩ := followed
  have wedged : ¬ NeverWedged s := by
    intro h
    rcases (h revoked).2 with alive | creating
    · exact alive ended
    · simp [idle] at creating
  exact ⟨log, s, start_started.follow followed, wedged, fun a => wedged_stops wedged idle ended⟩

end RegistrationWait
