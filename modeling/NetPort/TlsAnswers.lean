import NetPort.RuntimeOwnership
import NetPort.TlsModes

/-! The TLS flags in the answers of the control thread and the modes of the listeners that the
answers are about. -/
namespace TlsAnswers

open StatementPrograms DeviceTables ProxyRuntimes DeviceManager RuntimeInvariant RuntimeOwnership
  TlsModes

/-- What the commands of a request have read: the session that the answer is about with its
ports, the TLS settings of the device row that was read last (both off when none was), and what
the last ensure was called with. -/
structure Watch where
  session : Option (String × ℕ × ℕ)
  inputSsl : Bool
  tunnelSsl : Bool
  ensured : Option Wanted
  deriving DecidableEq, Repr

def Watch.start : Watch := ⟨none, false, false, none⟩

def observe (cfg : Config) (w : Watch) : (c : Cmd) → Option (Res c) → Watch
  | .authenticate _ _, some (some info) =>
    { Watch.start with inputSsl := info.enableInputSsl, tunnelSsl := info.enableTunnelSsl }
  | .registerSession deviceId _, some (some (inputPort, tunnelPort)) =>
    { w with session := some (deviceId, inputPort, tunnelPort) }
  | .touchSession _, some _ => Watch.start
  | .sessionByToken _, some (some session) =>
    { w with
      session := some (session.deviceId, session.assignedPort, uint16 (session.assignedPort + 1))
      inputSsl := false
      tunnelSsl := false }
  | .loadDevice _, some (some info) =>
    { w with inputSsl := info.enableInputSsl, tunnelSsl := info.enableTunnelSsl }
  | .ensureDynamicServer deviceId inputPort tunnelPort info, some _ =>
    { w with ensured := some (wantedFor cfg deviceId inputPort tunnelPort info) }
  | _, _ => w

def Watch.promised (cfg : Config) (w : Watch) : Option Wanted :=
  w.session.map fun s =>
    ⟨s.1, s.2.1, s.2.2, wantsSsl cfg w.inputSsl, wantsSsl cfg w.tunnelSsl⟩

/-- The flags of an `authenticated` answer and of an `ok` one to a heartbeat. -/
def tlsFlags (response : Json) : Option (Bool × Bool) :=
  match Json.bool? (response.get "input_tls"), Json.bool? (response.get "tunnel_tls") with
  | some inputTls, some tunnelTls => some (inputTls, tunnelTls)
  | _, _ => none

def isAuthenticated (response : Json) : Bool :=
  Json.string? (response.get "status") == some "authenticated"

/-- The flags of an answer are those of the device row that was read last; a registration has
ensured them. -/
def Fits (cfg : Config) (w : Watch) (response : Json) : Prop :=
  ∀ flags, tlsFlags response = some flags → ∃ promised, w.promised cfg = some promised ∧
    flags = (promised.inputTls, promised.tunnelTls) ∧
    (isAuthenticated response = true → w.ensured = some promised)

def Answers (cfg : Config) (w : Watch) (c : Cmd) : Prop :=
  ∀ response, c = .sendJsonResponse response → Fits cfg w response

section Programs

variable {cfg : Config} {w : Watch} {α β : Type}

abbrev Watched (cfg : Config) (Q : Watch → α → Prop) (w : Watch) (p : Control α) : Prop :=
  TracedTo (observe cfg) (Answers cfg) Q w p

theorem other {c : Cmd} (h : ∀ response, c ≠ .sendJsonResponse response) : Answers cfg w c :=
  fun response e => absurd e (h response)

section Silent

variable (token deviceId : String)

end Silent

end Programs

section Runs

variable {cfg : Config} {w : Watch} {s t : State}

abbrev watchedServer (cfg : Config) : Server Cmd Res (State × Watch) Request ℤ :=
  (controlServer cfg).watched (observe cfg)

/-- An ensure is called carefully; a heartbeat is answered from the settings that were ensured. -/
def Permit (cfg : Config) : Cmd → State × Watch → Prop
  | .ensureDynamicServer deviceId inputPort tunnelPort info, c =>
    Careful (wantedFor cfg deviceId inputPort tunnelPort info) c.1.proxy
  | .sendJsonResponse response, c =>
    (tlsFlags response).isSome = true → isAuthenticated response = false →
      c.2.ensured = c.2.promised cfg
  | _, _ => True

instance (cfg : Config) (c : Cmd) (w : State × Watch) : Decidable (Permit cfg c w) := by
  rcases c <;> dsimp only [Permit] <;> infer_instance

def Start (c : State × Watch) : Prop := Initial c.1 ∧ c.2 = Watch.start

structure Inv (c : State × Watch) : Prop where
  proxy : ProxyInvariant c.1.proxy
  served : ∀ wanted, c.2.ensured = some wanted → Served wanted c.1.proxy

theorem observe_ensured {c : Cmd} {r : Option (Res c)} (off : ¬ OnProxy c) :
    (observe cfg w c r).ensured = w.ensured ∨ (observe cfg w c r).ensured = none := by
  unfold observe
  split
  · exact .inr rfl
  · exact .inl rfl
  · exact .inr rfl
  · exact .inl rfl
  · exact .inl rfl
  · exact absurd trivial off
  · exact .inl rfl

theorem background_quiet (st : Background s t) : Quiet s.proxy t.proxy := by
  obtain ⟨e, _, rfl⟩ := st
  cases e with
  | acceptorExit connectionsData isTunnel => exact quiet_acceptorExit connectionsData isTunnel _
  | answer outcome => exact ⟨fun _ m => m, fun r hr => ⟨r, hr, Keeps.refl r⟩⟩
  | _ => exact Quiet.refl _

theorem step_inv {c c' : Control ℤ × (State × Watch)} (h : Inv c.2)
    (st : (watchedServer cfg).Step (Permit cfg) c c') : Inv c'.2 := by
  cases st with
  | accept q a w => exact h
  | interfere st =>
    obtain ⟨background, same⟩ := st
    refine ⟨background_preserves_invariant h.proxy background, fun wanted ensured => ?_⟩
    rw [same] at ensured
    exact (background_quiet background).served (h.served wanted ensured)
  | @execute c k s t r permit e =>
    obtain ⟨s, w⟩ := s
    obtain ⟨t, w'⟩ := t
    obtain ⟨executed, read⟩ := Server.watched_interp e
    dsimp only at executed read
    refine ⟨interp_preserves_invariant h.proxy executed, fun wanted ensured => ?_⟩
    simp only [read] at ensured
    by_cases on : OnProxy c
    · cases c with
      | ensureDynamicServer deviceId ip tp info =>
        cases executed
        cases ensured
        exact ensure_served h.proxy permit rfl
      | stopDynamicServer deviceId ip tp =>
        cases executed
        exact (quiet_stopDynamicServer deviceId ip tp _).served (h.served wanted ensured)
      | _ => exact absurd on id
    · simp only [interp_proxy on executed]
      rcases @observe_ensured cfg w c (some r) on with same | none
      · exact h.served wanted (same.symm.trans ensured)
      · rw [none] at ensured
        cases ensured
  | fail h' => exact h

theorem reachable_inv {c : Control ℤ × (State × Watch)}
    (h : (watchedServer cfg).Reachable (Permit cfg) Start c) : Inv c.2 := by
  obtain ⟨a, w, ⟨initial, start⟩, steps⟩ := h
  induction steps with
  | refl =>
    refine ⟨invariant_of_initial initial, fun wanted ensured => ?_⟩
    rw [start] at ensured
    cases ensured
  | tail _ st ih => exact step_inv ih st

end Runs

namespace Sample

def cfg : Config :=
  { DeviceManager.Sample.cfg with sslCertFile := "cert.pem", sslKeyFile := "key.pem" }

def device : Device :=
  { DeviceManager.Sample.device 1 "A" with enableInputSsl := true, enableTunnelSsl := true }

def start (sslContextCreated : Bool) : State :=
  { DeviceManager.Sample.start with
    db := { DeviceManager.Sample.start.db with devices := [device] }
    proxy := { DeviceManager.Sample.start.proxy with
      outcome := { DeviceManager.Sample.allGranted with sslContextCreated := sslContextCreated } } }

def registered (created : Bool) : Control ℤ × (State × Watch) :=
  run (watchedServer cfg).interp
    (firstCalls 10 (processJsonMessage cfg (DeviceManager.Sample.register "A")))
    (start created, Watch.start)

end Sample

end TlsAnswers
