import NetPort.TrafficCredit

/-! The byte counters of the client and the heartbeats that empty them. Relay threads add to the
counters at any time; messages are lost, late or answered without being stored. -/
namespace TrafficAccounting

open Relation StatementPrograms DeviceTables ProxyRuntimes DeviceManager TrafficAgreement
  TrafficCredit

/-- The client, the wire and the server; the last three fields record the run. -/
structure World where
  sentSinceLast : ℕ
  receivedSinceLast : ℕ
  activeConnections : ℕ
  sessionToken : String
  /-- sent on the open connection and not yet read by the server -/
  request : Option Json
  /-- the answer on the open connection; text that does not parse is `none` -/
  response : Option (Option Json)
  /-- sent on closed connections and not yet read by the server -/
  late : List Json
  server : State
  /-- what was added to the counters -/
  added : ℕ × ℕ
  /-- the bytes in the request of this round -/
  carried : ℕ × ℕ
  /-- what the server executed for the request of this round -/
  log : List (Cmd × State)

def World.held (w : World) : ℕ × ℕ := (w.sentSinceLast, w.receivedSinceLast)

inductive Call where
  | connect
  | sessionToken
  | getActiveConnections
  | getSentSinceLast
  | getReceivedSinceLast
  | getUptime
  | send (request : Json)
  | receive
  | resetSinceLast
  | applyTlsSettingsUpdate (inputTls tunnelTls forceReload : Bool)
  | startRegistrationWait
  | close

@[reducible] def Answer : Call → Type
  | .sessionToken => String
  | .getActiveConnections => ℕ
  | .getSentSinceLast => ℕ
  | .getReceivedSinceLast => ℕ
  | .getUptime => ℕ
  | .receive => Option Json
  | _ => Unit

def requestBytes (request : Json) : ℕ × ℕ :=
  ((heartbeatTraffic request).bytesSent, (heartbeatTraffic request).bytesReceived)

/-- What a call does when it does not fail. TLS and registration are not modelled here. -/
def interp : (c : Call) → World → Option (World × Answer c)
  | .connect, w => some ({ w with log := [] }, ())
  | .sessionToken, w => some (w, w.sessionToken)
  | .getActiveConnections, w => some (w, w.activeConnections)
  | .getSentSinceLast, w => some (w, w.sentSinceLast)
  | .getReceivedSinceLast, w => some (w, w.receivedSinceLast)
  | .getUptime, w => some (w, w.server.db.now)
  | .send request, w =>
    some ({ w with request := some request, carried := requestBytes request }, ())
  | .receive, w => w.response.map fun text => ({ w with response := none }, text)
  | .resetSinceLast, w => some ({ w with sentSinceLast := 0, receivedSinceLast := 0, log := [] }, ())
  | .applyTlsSettingsUpdate _ _ _, w => some (w, ())
  | .startRegistrationWait, w => some (w, ())
  | .close, w =>
    some ({ w with request := none, response := none, late := w.late ++ w.request.toList }, ())

abbrev Client := Prog Call Answer

/-- `json_integer` of an unsigned value. -/
def int64 (n : ℕ) : ℤ := if n < 2 ^ 63 then n else n - 2 ^ 64

/-- What `send_heartbeat` builds; the counters are read again for `traffic`. -/
def heartbeatMessage (token : String) (connections sent received uptime sentAgain receivedAgain
    active : ℕ) : Json :=
  .object [("action", .string "heartbeat"), ("session_token", .string token),
    ("status", .string "healthy"),
    ("statistics", .object [("connections", .integer connections),
      ("bytes_sent", .integer (int64 sent)), ("bytes_received", .integer (int64 received)),
      ("cpu_usage", .real "0.0"), ("memory_usage", .real "0.0"), ("uptime", .integer uptime)]),
    ("traffic", .object [("bytes_sent", .integer (int64 sentAgain)),
      ("bytes_received", .integer (int64 receivedAgain)),
      ("active_connections", .integer active)])]

def heartbeatRequest : Client Json := do
  let token ← perform Call.sessionToken
  let connections ← perform Call.getActiveConnections
  let sent ← perform Call.getSentSinceLast
  let received ← perform Call.getReceivedSinceLast
  let uptime ← perform Call.getUptime
  let sentAgain ← perform Call.getSentSinceLast
  let receivedAgain ← perform Call.getReceivedSinceLast
  let active ← perform Call.getActiveConnections
  return heartbeatMessage (token.getD "") (connections.getD 0) (sent.getD 0) (received.getD 0)
    (uptime.getD 0) (sentAgain.getD 0) (receivedAgain.getD 0) (active.getD 0)

def contains (text part : String) : Bool := (text.splitOn part).length != 1

/-- An answer other than `ok`. -/
def refusedHeartbeat (status : String) (response : Json) : Client ℤ := do
  let message := (Json.string? (response.get "message")).getD status
  if (response.get "force_disconnect").any Json.isTrue || contains message "Session terminated" ||
      contains message "Invalid session" then
    let _ ← perform .startRegistrationWait
    pure (-2)
  else pure (-1)

def acceptedHeartbeat (response : Json) : Client ℤ := do
  let _ ← perform .resetSinceLast
  match Json.bool? (response.get "input_tls"), Json.bool? (response.get "tunnel_tls") with
  | some inputTls, some tunnelTls =>
    let _ ← perform (.applyTlsSettingsUpdate inputTls tunnelTls
      ((response.get "reload_tls").any Json.isTrue))
    pure 0
  | _, _ => pure 0

def closeConnection (result : ℤ) : Client ℤ := do
  let _ ← perform .close
  pure result

def sendHeartbeat : Client ℤ := do
  match ← perform .connect with
  | none => closeConnection (-1)
  | some _ =>
    let request ← heartbeatRequest
    match ← perform (.send request) with
    | none => closeConnection (-1)
    | some _ =>
      match ← perform Call.receive with
      | some (some response) =>
        match Json.string? (response.get "status") with
        | none => closeConnection (-1)
        | some status =>
          let result ← if status == "ok" then acceptedHeartbeat response
            else refusedHeartbeat status response
          closeConnection result
      | _ => closeConnection (-1)

/-- What the device has been credited with and what the client holds is what was added. -/
def Conserved (x : Uuid) (w : World) : Prop := credited x w.server.db + w.held = w.added

/-- What happens besides the heartbeat thread: relay threads, the wire and the server. The
moves that break conservation are restricted when `careful` holds. -/
inductive Move (cfg : Config) (x : Uuid) (careful : Prop) : World → World → Prop
  | addSent (w : World) (bytes : ℕ) (fits : careful → w.sentSinceLast + bytes < 2 ^ 64) :
      Move cfg x careful w { w with
        sentSinceLast := (w.sentSinceLast + bytes) % 2 ^ 64
        added := w.added + (bytes, 0) }
  | addReceived (w : World) (bytes : ℕ) (fits : careful → w.receivedSinceLast + bytes < 2 ^ 64) :
      Move cfg x careful w { w with
        receivedSinceLast := (w.receivedSinceLast + bytes) % 2 ^ 64
        added := w.added + (0, bytes) }
  | configure (w : World) (token : String) (connections : ℕ) :
      Move cfg x careful w { w with sessionToken := token, activeConnections := connections }
  | serve {w : World} {request answer : Json} {clientIp : String} {t : State}
      {log : List (Cmd × State)} (sent : w.request = some request)
      (run : (recordedServer cfg).Runs (fun _ _ => True)
        (processHeartbeatRequest cfg request clientIp) (w.server, []) answer (t, log)) :
      Move cfg x careful w
        { w with request := none, response := some (some answer), server := t, log := log }
  | serveLate {w : World} {request answer : Json} {clientIp : String} {before after : List Json}
      {t : State} {log : List (Cmd × State)} (sent : w.late = before ++ request :: after)
      (run : (recordedServer cfg).Runs (fun _ _ => True)
        (processHeartbeatRequest cfg request clientIp) (w.server, []) answer (t, log))
      (nothing : careful → stored x log = 0) :
      Move cfg x careful w { w with late := before ++ after, server := t }
  | loseRequest (w : World) : Move cfg x careful w { w with request := none }
  | loseLate {w : World} {request : Json} {before after : List Json}
      (sent : w.late = before ++ request :: after) :
      Move cfg x careful w { w with late := before ++ after }
  | loseResponse (w : World) : Move cfg x careful w { w with response := none }
  | garbleResponse {w : World} {text : Option Json} (sent : w.response = some text) :
      Move cfg x careful w { w with response := some none }
  | serveOther {w : World} {request : DeviceManager.Request} {code : ℤ} {t : State}
      {log : List (Cmd × State)}
      (run : (recordedServer cfg).Runs (fun _ _ => True) (processJsonMessage cfg request)
        (w.server, []) code (t, log)) (nothing : stored x log = 0) :
      Move cfg x careful w { w with server := t }
  | background {w : World} {t : State} (h : Background w.server t) :
      Move cfg x careful w { w with server := t }

/-- The update of the round was executed on one session of the device. -/
def Stored (x : Uuid) (log : List (Cmd × State)) : Prop := ∃ u ∈ updates log, u.hits x = 1

/-- The counters are cleared of the bytes in the request alone and after these were stored, and
a round is given up only when its request stored nothing. -/
def Careful (x : Uuid) : Call → World → Prop
  | .resetSinceLast, w => w.held = w.carried ∧ (w.carried = 0 ∨ Stored x w.log)
  | .close, w => stored x w.log = 0
  | _, _ => True

instance (x : Uuid) (log : List (Cmd × State)) : Decidable (Stored x log) :=
  inferInstanceAs (Decidable (∃ u ∈ updates log, _))

instance (x : Uuid) (c : Call) (w : World) : Decidable (Careful x c w) := by
  rcases c <;> dsimp only [Careful] <;> infer_instance

def Unreliable : Call → Prop
  | .connect => True
  | .send _ => True
  | .receive => True
  | _ => False

def client (cfg : Config) (x : Uuid) (careful : Prop) : Server Call Answer World Unit ℤ where
  interp := interp
  fails c _ := Unreliable c
  env := Move cfg x careful
  handler _ := sendHeartbeat

theorem client_refuses (cfg : Config) (x : Uuid) (careful : Prop) :
    (client cfg x careful).Refuses := by
  intro c w h
  cases c with
  | receive => trivial
  | _ => exact absurd h (by simp [client, interp])

variable {cfg : Config} {x : Uuid} {w w' : World}

/-- Conservation up to the bytes that are credited and not yet cleared. -/
def Balanced (x : Uuid) (w : World) : Prop :=
  credited x w.server.db + w.held = w.added + stored x w.log

theorem credited_served {α : Type} {p : Control α} {s t : State} {a : α}
    {log : List (Cmd × State)}
    (run : (recordedServer cfg).Runs (fun _ _ => True) p (s, []) a (t, log)) :
    credited x t.db = credited x s.db + stored x log :=
  credited_runs run (add_zero _).symm

/-- Every move keeps the balance; a request is served before the round stored anything. -/
theorem Balanced.move (h : Balanced x w) (st : Move cfg x True w w')
    (unserved : ∀ request, w.request = some request → w.log = []) : Balanced x w' := by
  unfold Balanced at h ⊢
  cases st with
  | addSent bytes fits =>
    have wraps : (w.sentSinceLast + bytes) % 2 ^ 64 = w.sentSinceLast + bytes :=
      Nat.mod_eq_of_lt (fits trivial)
    have held : (w.sentSinceLast + bytes, w.receivedSinceLast) = w.held + (bytes, 0) := rfl
    change credited x w.server.db + (_, w.receivedSinceLast) = w.added + (bytes, 0) + _
    rw [wraps, held, ← add_assoc, h]
    exact add_right_comm _ _ _
  | addReceived bytes fits =>
    have wraps : (w.receivedSinceLast + bytes) % 2 ^ 64 = w.receivedSinceLast + bytes :=
      Nat.mod_eq_of_lt (fits trivial)
    have held : (w.sentSinceLast, w.receivedSinceLast + bytes) = w.held + (0, bytes) := rfl
    change credited x w.server.db + (w.sentSinceLast, _) = w.added + (0, bytes) + _
    rw [wraps, held, ← add_assoc, h]
    exact add_right_comm _ _ _
  | @serve request answer clientIp t log sent run =>
    rw [unserved request sent, stored_nil, add_zero] at h
    change credited x t.db + w.held = w.added + TrafficCredit.stored x log
    rw [credited_served run, ← h]
    exact add_right_comm _ _ _
  | @serveLate request answer clientIp before after t log sent run nothing =>
    change credited x t.db + w.held = _
    rw [credited_served run, nothing trivial, add_zero]
    exact h
  | @serveOther request code t log run nothing =>
    change credited x t.db + w.held = _
    rw [credited_served run, nothing, add_zero]
    exact h
  | @background t st =>
    change credited x t.db + w.held = _
    rw [credited_background st]
    exact h
  | _ => exact h

structure Quiescent (x : Uuid) (P : List (Cmd × State) → ℕ × ℕ → Prop) (w : World) : Prop where
  balanced : Balanced x w
  request : w.request = none
  response : w.response = none
  round : P w.log w.carried

theorem stable_quiescent (cfg : Config) (x : Uuid) (P : List (Cmd × State) → ℕ × ℕ → Prop) :
    (client cfg x True).Stable (Quiescent x P) := by
  intro w w' h st
  have balanced : Balanced x w' := by
    apply h.balanced.move st
    intro request sent
    rw [h.request] at sent
    exact absurd sent (by simp)
  cases st with
  | serve sent => exact absurd (h.request.symm.trans sent) (by simp)
  | garbleResponse sent => exact absurd (h.response.symm.trans sent) (by simp)
  | loseRequest => exact ⟨balanced, rfl, h.response, h.round⟩
  | loseResponse => exact ⟨balanced, h.request, rfl, h.round⟩
  | _ => exact ⟨balanced, h.request, h.response, h.round⟩

def Named (request : Json) : Prop := ∃ token, Json.string? (request.get "session_token") = some token

/-- The request is on its way, or its answer is, or one of them is lost. -/
structure Waiting (x : Uuid) (w : World) : Prop where
  balanced : Balanced x w
  sent : ∀ request, w.request = some request →
    w.log = [] ∧ w.response = none ∧ Named request ∧ requestBytes request = w.carried
  carries : ∃ token, Carries token w.carried (updates w.log)

theorem stable_waiting (cfg : Config) (x : Uuid) : (client cfg x True).Stable (Waiting x) := by
  intro w w' h st
  have balanced : Balanced x w' := h.balanced.move st fun request sent => (h.sent request sent).1
  cases st with
  | @serve request answer clientIp t log sent run =>
    obtain ⟨_, _, ⟨token, named⟩, bytes⟩ := h.sent request sent
    have carries := (safe_processHeartbeatRequest named rfl).post run
    refine ⟨balanced, by simp, token, ?_⟩
    change Carries token w.carried (updates log)
    rw [← bytes]
    exact carries
  | loseRequest => exact ⟨balanced, by simp, h.carries⟩
  | loseResponse =>
    refine ⟨balanced, fun request sent => ?_, h.carries⟩
    obtain ⟨log, _, rest⟩ := h.sent request sent
    exact ⟨log, rfl, rest⟩
  | garbleResponse text =>
    refine ⟨balanced, fun request sent => ?_, h.carries⟩
    obtain ⟨_, response, _⟩ := h.sent request sent
    exact absurd (text.symm.trans response) (by simp)
  | _ => exact ⟨balanced, h.sent, h.carries⟩

theorem stored_of_carries {token : String} {bytes : ℕ × ℕ} {log : List (Cmd × State)}
    (carries : Carries token bytes (updates log)) (stores : bytes = 0 ∨ Stored x log) :
    stored x log = bytes := by
  rcases carries with nothing | ⟨db, one⟩
  · rcases stores with zero | ⟨u, hu, _⟩
    · rw [stored, nothing, zero]
      rfl
    · rw [nothing] at hu
      exact absurd hu (by simp)
  · have once : stored x log = Update.hits x ⟨token, bytes, db⟩ • bytes := by
      rw [stored, one]
      exact add_zero _
    rcases stores with zero | ⟨u, hu, hits⟩
    · rw [once, zero, nsmul_zero]
    · rw [one] at hu
      obtain rfl := List.mem_singleton.1 hu
      rw [once, hits, one_nsmul]

section Round

variable {α : Type} {P : World → Prop} {Q : α → World → Prop}

theorem safe_reliable {c : Call} {k : Option (Answer c) → Client α} (reliable : ¬ Unreliable c)
    (stable : (client cfg x True).Stable P) (h : P w)
    (answered : ∀ t u r, P t → Careful x c t → interp c t = some (u, r) →
      (client cfg x True).Safe (Careful x) (fun _ => True) (k (some r)) Q u) :
    (client cfg x True).Safe (Careful x) (fun _ => True) (.call c k) Q w :=
  Server.safe_call stable (fun _ _ => trivial) h (fun _ _ failed => absurd failed reliable) answered

/-- Between two rounds: what the server stored is cleared from the counters. -/
abbrev Idle (x : Uuid) : World → Prop := Quiescent x fun log _ => stored x log = 0

theorem safe_closeConnection {result : ℤ} (stable : (client cfg x True).Stable P)
    (balanced : ∀ w, P w → Balanced x w) (h : P w) :
    (client cfg x True).Safe (Careful x) (fun _ => True) (closeConnection result)
      (fun _ => Idle x) w := by
  apply safe_reliable id stable h
  intro t u _ ht nothing e
  cases e
  have idle : Idle x { t with
      request := none
      response := none
      late := t.late ++ t.request.toList } := ⟨balanced t ht, rfl, rfl, nothing⟩
  exact Server.safe_ret (stable_quiescent cfg x _) (fun _ _ => trivial) (fun _ hv => hv) idle

theorem safe_heartbeatRequest (stable : (client cfg x True).Stable P) (h : P w) :
    (client cfg x True).Safe (Careful x) (fun _ => True) heartbeatRequest
      (fun request w' => P w' ∧ Named request) w := by
  iterate 8
    refine safe_reliable id stable (by assumption) ?_
    intro _ _ _ _ _ e
    cases e
  apply Server.safe_ret stable (fun _ _ => trivial) (fun _ ht => ⟨ht, _, rfl⟩)
  assumption

/-- After an accepted answer the request's bytes are the ones to clear. -/
theorem safe_acceptedHeartbeat {response : Json}
    (h : Quiescent x (fun log carried => ∃ token, Carries token carried (updates log)) w) :
    (client cfg x True).Safe (Careful x) (fun _ => True) (acceptedHeartbeat response)
      (fun _ => Idle x) w := by
  apply safe_reliable id (stable_quiescent cfg x _) h
  intro t u _ ht careful e
  cases e
  have idle : Idle x { t with sentSinceLast := 0, receivedSinceLast := 0, log := [] } := by
    refine ⟨?_, ht.request, ht.response, rfl⟩
    obtain ⟨token, carries⟩ := ht.round
    have balanced : credited x t.server.db + t.held = t.added + stored x t.log := ht.balanced
    rw [stored_of_carries carries careful.2, ← careful.1] at balanced
    change credited x t.server.db + 0 = t.added + 0
    rw [add_zero, add_zero]
    exact add_right_cancel balanced
  split
  · apply safe_reliable id (stable_quiescent cfg x _) idle
    intro u v _ hu _ e
    cases e
    exact Server.safe_ret (stable_quiescent cfg x _) (fun _ _ => trivial) (fun _ hv => hv) hu
  · exact Server.safe_ret (stable_quiescent cfg x _) (fun _ _ => trivial) (fun _ hv => hv) idle

theorem safe_refusedHeartbeat {status : String} {response : Json}
    (stable : (client cfg x True).Stable P) (h : P w) :
    (client cfg x True).Safe (Careful x) (fun _ => True) (refusedHeartbeat status response)
      (fun _ => P) w := by
  unfold refusedHeartbeat
  dsimp only
  split
  · apply safe_reliable id stable h
    intro t u _ ht _ e
    cases e
    exact Server.safe_ret stable (fun _ _ => trivial) (fun _ hv => hv) ht
  · exact Server.safe_ret stable (fun _ _ => trivial) (fun _ hv => hv) h

theorem safe_sendHeartbeat (h : Idle x w) :
    (client cfg x True).Safe (Careful x) (fun _ => True) sendHeartbeat (fun _ => Idle x) w := by
  have open_ (P : List (Cmd × State) → ℕ × ℕ → Prop) {result : ℤ} {t : World}
      (ht : Quiescent x P t) : (client cfg x True).Safe (Careful x) (fun _ => True)
        (closeConnection result) (fun _ => Idle x) t :=
    safe_closeConnection (stable_quiescent cfg x P) (fun _ hw => hw.balanced) ht
  have waiting {result : ℤ} {t : World} (ht : Waiting x t) :
      (client cfg x True).Safe (Careful x) (fun _ => True) (closeConnection result)
        (fun _ => Idle x) t :=
    safe_closeConnection (stable_waiting cfg x) (fun _ hw => hw.balanced) ht
  unfold sendHeartbeat
  rw [perform_bind]
  apply Server.safe_call (stable_quiescent cfg x _) (fun _ _ => trivial) h
  · exact fun t ht _ => open_ _ ht
  intro t u _ ht _ e
  cases e
  have start : Quiescent x (fun log _ => log = []) { t with log := [] } := by
    refine ⟨?_, ht.request, ht.response, rfl⟩
    have balanced : credited x t.server.db + t.held = t.added + stored x t.log := ht.balanced
    rw [ht.round] at balanced
    exact balanced
  apply Server.Safe.bind
  apply (safe_heartbeatRequest (stable_quiescent cfg x _) start).mono
  rintro request u ⟨hu, named⟩
  rw [perform_bind]
  apply Server.safe_call (stable_quiescent cfg x _) (fun _ _ => trivial) hu
  · exact fun t ht _ => open_ _ ht
  intro t u _ ht _ e
  cases e
  have sent : Waiting x { t with request := some request, carried := requestBytes request } := by
    refine ⟨ht.balanced, ?_, "", .inl ?_⟩
    · intro q hq
      obtain rfl : request = q := Option.some.inj hq
      exact ⟨ht.round, ht.response, named, rfl⟩
    · change updates t.log = []
      rw [ht.round]
      rfl
  rw [perform_bind]
  apply Server.safe_call (stable_waiting cfg x) (fun _ _ => trivial) sent
  · exact fun t ht _ => waiting ht
  intro t u text ht _ e
  obtain ⟨_, arrived, e⟩ := Option.map_eq_some_iff.1 e
  cases e
  have served : t.request = none := by
    rw [Option.eq_none_iff_forall_not_mem]
    intro q hq
    exact absurd (arrived.symm.trans (ht.sent q hq).2.1) (by simp)
  have read (P : List (Cmd × State) → ℕ × ℕ → Prop) (hP : P t.log t.carried) :
      Quiescent x P { t with response := none } := ⟨ht.balanced, served, rfl, hP⟩
  cases text with
  | none => exact open_ (fun _ _ => True) (read _ trivial)
  | some response =>
    dsimp only
    split
    · exact open_ (fun _ _ => True) (read _ trivial)
    · split
      · apply Server.Safe.bind
        exact (safe_acceptedHeartbeat (read _ ht.carries)).mono fun _ _ hv => open_ _ hv
      · have rest := read (fun _ _ => True) trivial
        apply Server.Safe.bind
        exact (safe_refusedHeartbeat (stable_quiescent cfg x _) rest).mono
          fun _ _ hv => open_ _ hv

end Round

structure Start (x : Uuid) (w : World) : Prop where
  conserved : Conserved x w
  request : w.request = none
  response : w.response = none
  log : w.log = []

/-- Between two rounds, nothing that was added is lost or credited twice. -/
theorem accounting_conserved {result : ℤ}
    (h : (client cfg x True).Reachable (Careful x) (Start x) (.ret result, w)) :
    Conserved x w := by
  obtain ⟨a, w₀, start, steps⟩ := h
  have idle : Idle x w₀ := by
    refine ⟨?_, start.request, start.response, ?_⟩
    · rw [Balanced, start.log]
      exact start.conserved
    · rw [start.log]
      rfl
  have first : (client cfg x True).Safe (Careful x) (fun _ => True) (.ret a) (fun _ => Idle x) w₀ :=
    Server.safe_ret (stable_quiescent cfg x _) (fun _ _ => trivial) (fun _ hw => hw) idle
  have last := Server.safe_steps (fun _ _ _ hw => safe_sendHeartbeat hw) first steps
  have ended := (last w .refl).2
  have balanced : credited x w.server.db + w.held = w.added + stored x w.log := ended.balanced
  rw [ended.round] at balanced
  exact balanced

def served (cfg : Config) (w : World) : World :=
  match w.request with
  | none => w
  | some request =>
    let (answer, t, log) := run (recordedServer cfg).interp
      (processHeartbeatRequest cfg request "10.0.0.1") (w.server, [])
    { w with request := none, response := some (some answer), server := t, log := log }

theorem recorded_refuses (cfg : Config) : (recordedServer cfg).Refuses := by
  intro c w h
  exact .inr (Option.map_eq_none_iff.1 h)

theorem steps_served {careful : Prop} {permit : Call → World → Prop} (p : Client ℤ) :
    (client cfg x careful).Steps permit (p, w) (p, served cfg w) := by
  unfold served
  split
  · exact .refl
  · rename_i request sent
    exact .single (.interfere (.serve sent (Server.runs_run (recorded_refuses cfg) _ _
      (permitted_true _ _ _))))

def requested (w : World) : Client ℤ × World := run interp (firstCalls 10 sendHeartbeat) w

/-- A round whose request is answered; `relay` happens while the answer is on its way. -/
theorem steps_round {careful : Prop} {permit : Call → World → Prop} {w u v z : World}
    {p : Client ℤ} {result : ℤ} (sent : requested w = (p, u))
    (relay : ReflTransGen (Move cfg x careful) (served cfg u) v)
    (rest : run interp p v = (result, z))
    (before : Permitted interp permit (firstCalls 10 sendHeartbeat) w)
    (after : Permitted interp permit p v) :
    (client cfg x careful).Steps permit (.ret 0, w) (.ret result, z) := by
  have accepted : (client cfg x careful).Steps permit (.ret 0, w) (sendHeartbeat, w) :=
    .single (.accept () 0 w)
  have asked : (client cfg x careful).Steps permit (sendHeartbeat, w) (requested w) :=
    Server.steps_firstCalls (client_refuses cfg x careful) 10 sendHeartbeat w before
  rw [sent] at asked
  have finished := Server.steps_run (client_refuses cfg x careful) p v after
  change (client cfg x careful).Steps permit _ (.ret (run interp p v).1, (run interp p v).2)
    at finished
  rw [rest] at finished
  exact (((accepted.trans asked).trans (steps_served p)).trans (Server.steps_env relay)).trans
    finished

/-- A has the session `t100`, and its relay threads have added to the counters. -/
def loaded : World where
  sentSinceLast := 100
  receivedSinceLast := 50
  activeConnections := 1
  sessionToken := "t100"
  request := none
  response := none
  late := []
  server := registered
  added := (100, 50)
  carried := 0
  log := []

theorem start_loaded : Start 1 loaded :=
  ⟨by unfold Conserved; decide +kernel, rfl, rfl, rfl⟩

def awaiting : Client ℤ := (requested loaded).1

/-- `loaded` with its heartbeat answered. -/
def answered : World := served Sample.cfg (requested loaded).2

def ended (w : World) : World := (run interp awaiting w).2

theorem requested_loaded : requested loaded = (awaiting, (requested loaded).2) := rfl

theorem run_awaiting (w : World) :
    run interp awaiting w = ((run interp awaiting w).1, ended w) := rfl

theorem careful_before : Permitted interp (Careful 1) (firstCalls 10 sendHeartbeat) loaded := by
  decide +kernel

theorem careful_after : Permitted interp (Careful 1) awaiting answered := by
  decide +kernel

theorem conserved_after_round : Conserved 1 (ended answered) := by
  have same : ReflTransGen (Move Sample.cfg 1 True) (served Sample.cfg (requested loaded).2)
      answered := .refl
  have round : (client Sample.cfg 1 True).Steps (Careful 1) (.ret 0, loaded)
      (.ret (run interp awaiting answered).1, ended answered) :=
    steps_round requested_loaded same (run_awaiting answered) careful_before
      careful_after
  exact accounting_conserved ⟨0, loaded, start_loaded, round⟩

def relayed (w : World) : World :=
  { w with sentSinceLast := (w.sentSinceLast + 7) % 2 ^ 64, added := w.added + (7, 0) }

namespace Counterexample

/-- Bytes that are added while the answer is on its way are cleared and never credited. -/
theorem added_during_round_lost :
    ∃ result w, (client Sample.cfg 1 False).Reachable (fun _ _ => True) (Start 1) (.ret result, w) ∧
      ¬ Conserved 1 w := by
  have relay : Relation.ReflTransGen (Move Sample.cfg 1 False) answered (relayed answered) :=
    .single (.addSent _ 7 nofun)
  have round : (client Sample.cfg 1 False).Steps (fun _ _ => True) (.ret 0, loaded)
      (.ret (run interp awaiting (relayed answered)).1, ended (relayed answered)) :=
    steps_round requested_loaded relay (run_awaiting (relayed answered)) (permitted_true _ _ _)
      (permitted_true _ _ _)
  have lost : ¬ Conserved 1 (ended (relayed answered)) := by
    unfold Conserved
    decide +kernel
  exact ⟨_, _, ⟨0, loaded, start_loaded, round⟩, lost⟩

end Counterexample

end TrafficAccounting
