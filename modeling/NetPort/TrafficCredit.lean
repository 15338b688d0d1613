import Mathlib.Algebra.BigOperators.Group.List.Basic
import NetPort.AllocationRows
import NetPort.TrafficAgreement

/-! What the server credits: the bytes of the sessions of a device, and the statements that a
heartbeat executes to add to them. -/
namespace TrafficCredit

open StatementPrograms SqlUpdate DeviceTables ProxyRuntimes DeviceManager PortOwnership AllocationRows
  TrafficStores TrafficAgreement

variable {cfg : Config} {db db' : Db} {s t : State} {x : Uuid} {token : String}

def credited (x : Uuid) (db : Db) : ℕ × ℕ :=
  total (·.deviceId) (fun u : Session => (u.bytesSent, u.bytesReceived)) x db.sessions

def bytesKey (u : Session) : Uuid × ℕ × ℕ := (u.deviceId, u.bytesSent, u.bytesReceived)

theorem lasting_bytesKey : Lasting bytesKey := fun _ _ _ => rfl

theorem credited_perm (h : (db'.sessions.map bytesKey).Perm (db.sessions.map bytesKey)) :
    credited x db' = credited x db := by
  have rows (sessions : List Session) :
      total (·.deviceId) (fun u : Session => (u.bytesSent, u.bytesReceived)) x sessions =
        (((sessions.map bytesKey).filter fun c => c.1 = x).map (·.2)).sum := by
    rw [total, List.filter_map, List.map_map]
    rfl
  rw [credited, credited, rows, rows]
  exact ((h.filter _).map _).sum_eq

theorem Retires.credited (h : Retires bytesKey db db') :
    TrafficCredit.credited x db' = TrafficCredit.credited x db := credited_perm h.keys

/-- A statement that adds to sessions: its token, its bytes and the database it is executed on. -/
structure Update where
  token : String
  bytes : ℕ × ℕ
  db : Db

def Update.hits (x : Uuid) (u : Update) : ℕ :=
  u.db.sessions.countP fun r => decide (r.deviceId = x) && r.named u.token

def update : Cmd × State → Option Update
  | (.addSessionTraffic token sent received _, s) => some ⟨token, (sent, received), s.db⟩
  | _ => none

def updates (log : List (Cmd × State)) : List Update := log.filterMap update

def stored (x : Uuid) (log : List (Cmd × State)) : ℕ × ℕ :=
  ((updates log).map fun u => u.hits x • u.bytes).sum

@[simp] theorem stored_nil : stored x [] = 0 := rfl

theorem stored_append (log more : List (Cmd × State)) :
    stored x (log ++ more) = stored x log + stored x more := by
  simp [stored, updates]

theorem stored_singleton {entry : Cmd × State} {u : Update} (h : update entry = some u) :
    stored x [entry] = u.hits x • u.bytes := by
  rw [stored, updates, List.filterMap_cons_some h]
  exact add_zero _

/-- Only the statement that adds traffic to a session credits it. -/
theorem credited_execute {c : Cmd} {r : Res c} (e : interp cfg c s = some (t, r)) :
    credited x t.db = credited x s.db + stored x [(c, s)] := by
  by_cases registers : ∃ deviceId token, c = .registerSession deviceId token
  · obtain ⟨deviceId, token, rfl⟩ := registers
    obtain ⟨⟨db', ports⟩, hdb, e⟩ := Option.map_eq_some_iff.1 e
    cases e
    change credited x db' = credited x s.db + 0
    rw [add_zero]
    rcases PortInvariant.registerSession_spec hdb with
      ⟨rfl, _⟩ | ⟨dev, port, _, _, _, _, _, _, rfl⟩
    · rfl
    · change total _ _ x (s.db.sessions ++ [_]) = _
      rw [total_append, total_cons]
      simp [credited, total]
  · by_cases adds : ∃ token sent received connections,
        c = .addSessionTraffic token sent received connections
    · obtain ⟨token, sent, received, connections, rfl⟩ := adds
      obtain ⟨db', hdb, e⟩ := Option.map_eq_some_iff.1 e
      cases e
      obtain ⟨_, rfl⟩ := addSessionTraffic_spec hdb
      rw [stored_singleton (rfl : update _ = some ⟨token, (sent, received), s.db⟩)]
      apply total_updateRows_add
      · exact fun _ => rfl
      · exact fun _ => rfl
    · have none : update (c, s) = none := by
        cases c with
        | addSessionTraffic token sent received connections =>
          exact absurd ⟨token, sent, received, connections, rfl⟩ adds
        | _ => rfl
      have nothing : stored x [(c, s)] = 0 := by
        rw [stored, updates, List.filterMap_cons_none none]
        rfl
      rw [nothing, add_zero]
      apply Retires.credited
      apply interp_retires lasting_bytesKey _ _ e
      · exact fun deviceId token e => registers ⟨deviceId, token, e⟩
      · exact fun token sent received connections e =>
          absurd ⟨token, sent, received, connections, e⟩ adds

theorem credited_background (st : Background s t) : credited x t.db = credited x s.db :=
  Retires.credited (background_retires lasting_bytesKey st)

abbrev recordedServer (cfg : Config) :
    Server Cmd Res (State × List (Cmd × State)) DeviceManager.Request ℤ :=
  (controlServer cfg).recorded

theorem credited_runs {α : Type} {permit : Cmd → State × List (Cmd × State) → Prop}
    {p : Control α} {w w' : State × List (Cmd × State)} {a : α}
    (run : (recordedServer cfg).Runs permit p w a w') {base : ℕ × ℕ}
    (h : credited x w.1.db = base + stored x w.2) : credited x w'.1.db = base + stored x w'.2 := by
  apply Server.Runs.keep _ _ run h
  · rintro s t ht ⟨env, log⟩
    rw [credited_background env, log]
    exact ht
  · intro c s t r hs e
    obtain ⟨executed, log⟩ := Server.recorded_interp e
    rw [credited_execute executed, hs, log, stored_append, add_assoc]

section Heartbeat

variable {α : Type} {p : Control α} {w w' : State × List (Cmd × State)} {us : List Update}
  {sent received connections : ℕ}

theorem stable_log (cfg : Config) (P : List (Cmd × State) → Prop) :
    (recordedServer cfg).Stable fun w => P w.2 := by
  rintro w w' h ⟨_, log⟩
  rw [log]
  exact h

theorem updates_bookkeeping (c : Cmd) {r : Res c} (bookkeeping : Bookkeeping c)
    (e : (recordedServer cfg).interp c w = some (w', r)) : updates w'.2 = updates w.2 := by
  have none : update (c, w.1) = none := by
    cases c with
    | addSessionTraffic token sent received connections => exact absurd bookkeeping id
    | _ => rfl
  rw [(Server.recorded_interp e).2, updates, List.filterMap_append,
    List.filterMap_cons_none none]
  simp [updates]

theorem safe_bookkeeping (issues : Issues Bookkeeping p) (h : updates w.2 = us) :
    (recordedServer cfg).Safe (fun _ _ => True) (fun _ => True) p
      (fun _ w' => updates w'.2 = us) w := by
  apply Server.safe_of_issues (stable_log cfg fun log => updates log = us) (fun _ _ => trivial) _
    issues h
  intro c w w' r bookkeeping hw _ e
  exact (updates_bookkeeping c bookkeeping e).trans hw

def Carries (token : String) (bytes : ℕ × ℕ) (us : List Update) : Prop :=
  us = [] ∨ ∃ db, us = [⟨token, bytes, db⟩]

theorem safe_updateDeviceStatistics (h : updates w.2 = []) :
    (recordedServer cfg).Safe (fun _ _ => True) (fun _ => True)
      (updateDeviceStatistics token sent received connections)
      (fun _ w' => Carries token (sent, received) (updates w'.2)) w := by
  have stable := stable_log cfg fun log => updates log = []
  have failed {v : State × List (Cmd × State)} (hv : updates v.2 = []) :
      (recordedServer cfg).Safe (fun _ _ => True) (fun _ => True) (.ret (-1) : Control ℤ)
        (fun _ w' => Carries token (sent, received) (updates w'.2)) v :=
    Server.safe_ret stable (fun _ _ => trivial) (fun _ ht => .inl ht) hv
  apply Server.safe_call stable (fun _ _ => trivial) h
  · exact fun v hv _ => failed hv
  · intro v u _ hv _ e
    have hu := (updates_bookkeeping .getDbConnection trivial e).trans hv
    apply Server.safe_call stable (fun _ _ => trivial) hu
    · exact fun v hv _ => failed hv
    · intro v u _ hv _ e
      have one : updates u.2 = [⟨token, (sent, received), v.1.db⟩] := by
        rw [(Server.recorded_interp e).2, updates, List.filterMap_append]
        change updates v.2 ++ _ = _
        rw [hv]
        rfl
      have rest : Issues Bookkeeping (do
          let _ ← perform (.addDeviceTotals token sent received)
          pure 0 : Control ℤ) := ⟨trivial, fun _ => trivial⟩
      exact (safe_bookkeeping rest one).mono fun _ t ht => .inr ⟨v.1.db, ht⟩

theorem safe_storeTraffic (traffic : Traffic) (h : updates w.2 = []) :
    (recordedServer cfg).Safe (fun _ _ => True) (fun _ => True) (storeTraffic token traffic)
      (fun _ w' => Carries token (traffic.bytesSent, traffic.bytesReceived) (updates w'.2)) w := by
  have sample : Issues Bookkeeping (do
      let _ ← recordDeviceTrafficSample token traffic.bytesSent traffic.bytesReceived
        traffic.connections
      pure () : Control Unit) :=
    (bookkeeping_recordDeviceTrafficSample token _ _ _).bind fun _ => trivial
  unfold storeTraffic
  split
  · apply Server.Safe.bind
    apply (safe_updateDeviceStatistics h).mono
    intro _ v hv
    have rest := (bookkeeping_aggregateDeviceHourlyStatistics token traffic.bytesSent
      traffic.bytesReceived traffic.connections).bind fun _ => sample
    apply (safe_bookkeeping rest rfl).mono
    intro _ t ht
    rw [ht]
    exact hv
  · exact (safe_bookkeeping sample h).mono fun _ t ht => .inl ht

/-- A heartbeat adds its bytes to the sessions of its token at most once. -/
theorem safe_processHeartbeatRequest {request : Json} {clientIp : String}
    (named : Json.string? (request.get "session_token") = some token) (h : updates w.2 = []) :
    (recordedServer cfg).Safe (fun _ _ => True) (fun _ => True)
      (processHeartbeatRequest cfg request clientIp)
      (fun _ w' => Carries token ((heartbeatTraffic request).bytesSent,
          (heartbeatTraffic request).bytesReceived) (updates w'.2)) w := by
  have stable := stable_log cfg fun log => updates log = []
  have refused {answer : Json} {v : State × List (Cmd × State)} (hv : updates v.2 = []) :
      (recordedServer cfg).Safe (fun _ _ => True) (fun _ => True) (.ret answer : Control Json)
        (fun _ w' => Carries token ((heartbeatTraffic request).bytesSent,
          (heartbeatTraffic request).bytesReceived) (updates w'.2)) v :=
    Server.safe_ret stable (fun _ _ => trivial) (fun _ ht => .inl ht) hv
  unfold processHeartbeatRequest
  split
  · rename_i unnamed
    exact absurd (named.symm.trans unnamed) (by simp)
  rename_i token' named'
  obtain rfl : token = token' := Option.some.inj (named.symm.trans named')
  rw [perform_bind]
  apply Server.safe_call stable (fun _ _ => trivial) h
  · exact fun v hv _ => refused hv
  · intro v u _ hv _ e
    have hu :=
      (updates_bookkeeping (.validateSessionTokenSecurity token clientIp) trivial e).trans hv
    apply Server.Safe.bind
    apply (safe_bookkeeping ((beat_updateDeviceHeartbeat token).imp bookkeeping_of_beat) hu).mono
    intro code t ht
    split
    · exact refused ht
    · apply Server.Safe.bind
      apply (safe_bookkeeping ((beat_ensureForSession token).imp bookkeeping_of_beat) ht).mono
      intro _ v hv
      apply Server.Safe.bind
      apply (safe_storeTraffic (heartbeatTraffic request) hv).mono
      intro _ u hu
      have rest : Issues Bookkeeping (do
          let tls ← tlsFields cfg token
          let now ← perform .time
          pure (.object (tls ++ [("status", Json.string "ok"), ("timestamp", .integer (now.getD 0))])) :
            Control Json) :=
        ((beat_tlsFields token cfg).imp bookkeeping_of_beat).bind fun _ => ⟨trivial, fun _ => trivial⟩
      apply (safe_bookkeeping rest rfl).mono
      intro answer t ht
      rw [ht]
      exact hu

end Heartbeat

end TrafficCredit
