import NetPort.CommandFates
import NetPort.RegistrationWait

/-! When the answer to a heartbeat makes the client give its session up. -/
namespace ForcedDisconnects

open StatementPrograms CommandFates DeviceTables ProxyRuntimes DeviceManager RegistrationWait

/-- The reply forces the client off, or the client reads that its session is gone. -/
def EndsSession (reply : Json) : Prop :=
  (reply.get "force_disconnect").any Json.isTrue = true ∨
    sendHeartbeat (some reply) = .sessionTerminated

instance (reply : Json) : Decidable (EndsSession reply) := by unfold EndsSession; infer_instance

def heartbeatReply (cfg : Config) (request : Json) (clientIp : String) (fates : ℕ → Fate)
    (s : State) : Json :=
  (runFated (interp cfg) (processHeartbeatRequest cfg request clientIp) fates s).1

/-- The rate limiter comes first, then the connection and the `UPDATE` of the session. -/
def SessionUpdated (fates : ℕ → Fate) : Prop :=
  fates 0 = .answered → fates 1 = .answered ∧ fates 2 = .answered

variable {cfg : Config} {request : Json} {clientIp token : String} {fates : ℕ → Fate} {s : State}

theorem not_endsSession_limited : ¬ EndsSession (.error "Rate limit exceeded") := by decide +kernel

theorem endsSession_terminated : EndsSession sessionTerminated := by decide +kernel

theorem activeSession_none_iff : activeSession token s.db = none ↔
    s.db.sessions.countP (·.named token) = 0 := by
  simp [activeSession, List.countP_eq_zero]

def TlsField (field : String × Json) : Prop :=
  field.1 = "input_tls" ∨ field.1 = "tunnel_tls" ∨ field.1 = "reload_tls"

theorem get_append_of_tls {fields : List (String × Json)} (rest : List (String × Json))
    (key : String) (tls : ∀ field ∈ fields, TlsField field)
    (other : key ≠ "input_tls" ∧ key ≠ "tunnel_tls" ∧ key ≠ "reload_tls") :
    (Json.object (fields ++ rest)).get key = (Json.object rest).get key := by
  have skip : fields.find? (·.1 == key) = none := by
    rw [List.find?_eq_none]
    intro field mem same
    have name := eq_of_beq same
    rcases tls field mem with input | tunnel | reload
    · exact other.1 (name.symm.trans input)
    · exact other.2.1 (name.symm.trans tunnel)
    · exact other.2.2 (name.symm.trans reload)
  simp [Json.get, List.find?_append, skip]

/-- An `ok` reply forces nobody off, and the client looks at its status alone. -/
theorem not_endsSession_ok {fields : List (String × Json)} {now : ℤ}
    (tls : ∀ field ∈ fields, TlsField field) :
    ¬ EndsSession
      (.object (fields ++ [("status", Json.string "ok"), ("timestamp", .integer now)])) := by
  have forced := get_append_of_tls [("status", .string "ok"), ("timestamp", .integer now)]
    "force_disconnect" tls (by decide)
  have status := get_append_of_tls [("status", .string "ok"), ("timestamp", .integer now)]
    "status" tls (by decide)
  have unforced : Json.get "force_disconnect" (.object [("status", .string "ok"),
    ("timestamp", .integer now)]) = none := by simp [Json.get]
  have ok : Json.get "status" (.object [("status", .string "ok"), ("timestamp", .integer now)]) =
    some (.string "ok") := by simp [Json.get]
  rw [unforced] at forced
  rw [ok] at status
  simp [EndsSession, sendHeartbeat, forced, status, Json.string?]

theorem returns_tlsFields :
    Returns (fun fields => ∀ field ∈ fields, TlsField field) (tlsFields cfg token) := by
  unfold tlsFields
  refine (returns_trivial _).bind fun session _ => ?_
  cases session with
  | none => simp
  | some session =>
    refine (returns_trivial _).bind fun info _ => ?_
    intro pending field mem
    simp only [List.mem_append, List.mem_cons, List.not_mem_nil, or_false] at mem
    rcases mem with (rfl | rfl) | reload
    · exact Or.inl rfl
    · exact Or.inr (Or.inl rfl)
    · split at reload
      · rw [List.mem_singleton.1 reload]
        exact Or.inr (Or.inr rfl)
      · cases reload

def served (cfg : Config) (request : Json) (token : String) : Control Json := do
  ensureForSession token
  storeTraffic token (heartbeatTraffic request)
  let tls ← tlsFields cfg token
  let now ← perform .time
  pure (.object (tls ++ [("status", Json.string "ok"), ("timestamp", .integer (now.getD 0))]))

theorem returns_served : Returns (fun reply => ¬ EndsSession reply) (served cfg request token) :=
  (returns_trivial _).bind fun _ _ => (returns_trivial _).bind fun _ _ =>
    returns_tlsFields.bind fun _ tls _ => not_endsSession_ok tls

theorem processHeartbeatRequest_eq
    (named : Json.string? (request.get "session_token") = some token) :
    processHeartbeatRequest cfg request clientIp =
      .call (.validateSessionTokenSecurity token clientIp) fun
        | none => .ret (.error "Rate limit exceeded")
        | some _ => .call .getDbConnection fun
          | none => .ret sessionTerminated
          | some _ => .call (.touchSession token) fun
            | none => .ret sessionTerminated
            | some 0 => .ret sessionTerminated
            | some (_ + 1) => .call (.touchDevice token) fun _ => served cfg request token := by
  unfold processHeartbeatRequest
  simp only [named, perform_bind, updateDeviceHeartbeat, Prog.call_bind]
  congr 1
  funext limit
  cases limit with
  | none => rfl
  | some _ =>
    refine congrArg (Prog.call Cmd.getDbConnection) (funext fun connection => ?_)
    cases connection with
    | none => rfl
    | some _ =>
      simp only [Prog.call_bind]
      congr 1
      funext rows
      rcases rows with _ | _ | n <;> rfl

/-- A heartbeat ends the session where the session has no active row, and where the connection or
the `UPDATE` fails. -/
theorem endsSession_iff (named : Json.string? (request.get "session_token") = some token) :
    EndsSession (heartbeatReply cfg request clientIp fates s) ↔
      fates 0 = .answered ∧ (activeSession token s.db = none ∨ ¬ SessionUpdated fates) := by
  unfold heartbeatReply
  rw [processHeartbeatRequest_eq named]
  by_cases limit : fates 0 = .answered
  · rw [runFated_call fates limit rfl]
    simp only [limit, true_and]
    by_cases connection : fates 1 = .answered
    · rw [runFated_call _ connection rfl]
      by_cases update : fates 2 = .answered
      · rw [runFated_call _ update rfl]
        have updated : SessionUpdated fates := fun _ => ⟨connection, update⟩
        simp only [touchSession, activeSession_none_iff, updated, not_true_eq_false, or_false]
        cases rows : s.db.sessions.countP (·.named token) with
        | zero => simp [endsSession_terminated]
        | succ n =>
          have kept : Returns (fun reply => ¬ EndsSession reply) (served cfg request token) :=
            returns_served
          simpa [runFated] using kept.runFated
      · have failed : ¬ SessionUpdated fates := fun h => update (h limit).2
        obtain ⟨t, silent⟩ := runFated_silent (fun n => fates (n + 2)) update
        rw [silent]
        exact iff_of_true endsSession_terminated (Or.inr failed)
    · have failed : ¬ SessionUpdated fates := fun h => connection (h limit).1
      obtain ⟨t, silent⟩ := runFated_silent (fun n => fates (n + 1)) connection
      rw [silent]
      exact iff_of_true endsSession_terminated (Or.inr failed)
  · obtain ⟨t, silent⟩ := runFated_silent fates limit
    rw [silent]
    exact iff_of_false not_endsSession_limited fun h => limit h.1

/-- Only a session that is gone is ended by an answer to its heartbeat, exactly where it is gone or
its update goes through. -/
theorem ended_only_dead_iff (cfg : Config) (request : Json) (clientIp token : String)
    (fates : ℕ → Fate) (s : State)
    (named : Json.string? (request.get "session_token") = some token) :
    (EndsSession (heartbeatReply cfg request clientIp fates s) → activeSession token s.db = none) ↔
      activeSession token s.db = none ∨ SessionUpdated fates := by
  rw [endsSession_iff named]
  constructor
  · intro only_dead
    by_cases updated : SessionUpdated fates
    · exact Or.inr updated
    · have limit : fates 0 = .answered := by
        by_contra limited
        exact updated fun h => absurd h limited
      exact Or.inl (only_dead ⟨limit, Or.inr updated⟩)
  · rintro (dead | updated) ⟨_, dead' | failed⟩
    · exact dead
    · exact dead
    · exact dead'
    · exact absurd updated failed

def registeredOnce : State :=
  play Sample.cfg [.inl (Sample.register "A"), .inr (.draw 101 "t101")] Sample.start

def beat : Json :=
  .object [("action", .string "heartbeat"), ("session_token", .string "t100"),
    ("status", .string "healthy")]

theorem ended_only_dead_answered :
    SessionUpdated (fun _ => .answered) ∧
    ((EndsSession (heartbeatReply Sample.cfg beat "10.0.0.1" (fun _ => .answered) registeredOnce) →
      activeSession "t100" registeredOnce.db = none) ↔
        activeSession "t100" registeredOnce.db = none ∨ SessionUpdated fun _ => .answered) :=
  ⟨fun _ => ⟨rfl, rfl⟩,
    ended_only_dead_iff Sample.cfg beat "10.0.0.1" "t100" _ registeredOnce (by decide)⟩

/-- The `UPDATE` of the session fails once. -/
def updateFails : ℕ → Fate := fun i => if i = 2 then .refused else .answered

def afterFailure : State :=
  (runFated (interp Sample.cfg) (processHeartbeatRequest Sample.cfg beat "10.0.0.1") updateFails
    registeredOnce).2

/-- The client drops its connections and registers again, which expires the live session. -/
theorem live_session_ended :
    (∃ code, (controlServer Sample.cfg).Reachable (fun _ _ => True) Initial
      (.ret code, registeredOnce)) ∧
    (activeSession "t100" registeredOnce.db).isSome = true ∧
    (activeSession "t100" afterFailure.db).isSome = true ∧
    EndsSession (heartbeatReply Sample.cfg beat "10.0.0.1" updateFails registeredOnce) ∧
    (∃ log c, client.Run log c ∧ log.map (·.2) = [.beginHeartbeat,
      .receive (some (heartbeatReply Sample.cfg beat "10.0.0.1" updateFails registeredOnce)),
      .startRegistrationWait, .revoke] ∧ c.revoked = true) ∧
    activeSession "t100" (play Sample.cfg [.inl (Sample.register "A")] afterFailure).db = none := by
  have named : Json.string? (beat.get "session_token") = some "t100" := by decide
  have live : (activeSession "t100" registeredOnce.db).isSome = true := by decide +kernel
  have terminated : heartbeatReply Sample.cfg beat "10.0.0.1" updateFails registeredOnce =
      sessionTerminated := by
    unfold heartbeatReply
    rw [processHeartbeatRequest_eq named]
    rfl
  have failed : ¬ SessionUpdated updateFails := fun h => by simpa [updateFails] using (h rfl).2
  refine ⟨⟨_, play_reachable Sample.cfg (fun _ _ => True) _ Sample.start Sample.initial_start
    (playPermitted_true _ _ _)⟩, live, by decide +kernel, ?_, ?_, by decide +kernel⟩
  · exact (endsSession_iff named).2 ⟨rfl, Or.inr failed⟩
  · rw [terminated]
    have followed : ∃ log c, client.follow [] started terminates = some (log, c) ∧
        log.map (·.2) = terminates ∧ c.revoked = true := ⟨_, _, rfl, rfl, rfl⟩
    obtain ⟨log, c, followed, steps, revoked⟩ := followed
    exact ⟨log, c, start_started.follow followed, steps, revoked⟩

end ForcedDisconnects
