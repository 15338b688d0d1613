import Mathlib.Algebra.Order.BigOperators.Group.List
import Mathlib.Algebra.Order.Group.Nat
import Mathlib.Algebra.Order.Monoid.Prod
import NetPort.TrafficStores

/-! Runs of heartbeat and `statistics` requests in which no statement fails, and what they leave
in the three stores. -/
namespace TrafficAgreement

open Relation StatementPrograms SqlUpdate DeviceTables ProxyRuntimes DeviceManager TrafficStores

variable {cfg : Config} {db db₀ : Db} {s t s₀ : State} {x : Uuid} {token : String}
  {a b c : Uuid → ℕ × ℕ} {sent received connections : ℕ}

inductive TrafficRequest where
  | heartbeat (request : Json) (clientIp : String)
  | statistics (request : Json)

def Accepted (answer : Json) : Prop := Json.string? (answer.get "status") = some "ok"

instance (answer : Json) : Decidable (Accepted answer) := inferInstanceAs (Decidable (_ = _))

namespace TrafficRequest

def sessionToken : TrafficRequest → Option String
  | heartbeat request _ => Json.string? (request.get "session_token")
  | statistics request => Json.string? (request.get "session_token")

def delta : TrafficRequest → ℕ × ℕ
  | heartbeat request _ =>
    ((heartbeatTraffic request).bytesSent, (heartbeatTraffic request).bytesReceived)
  | statistics request =>
    match Json.integer? (request.get "bytes_sent"), Json.integer? (request.get "bytes_received") with
    | some sent, some received => (uint64 sent, uint64 received)
    | _, _ => 0

def sender (q : TrafficRequest) (db : Db) : Option Uuid := q.sessionToken.bind (owner · db)

def credited (q : TrafficRequest) (answer : Json) (db : Db) (x : Uuid) : ℕ × ℕ :=
  if Accepted answer then credit (q.sender db) q.delta x else 0

end TrafficRequest

theorem credited_of_refused {q : TrafficRequest} {answer : Json} (refused : ¬ Accepted answer) :
    q.credited answer db = 0 := by
  funext x
  rw [TrafficRequest.credited, if_neg refused]
  rfl

theorem refused_all (h : Grown db₀ a b c db) {q : TrafficRequest} {answer : Json}
    (refused : ¬ Accepted answer) :
    Grown db₀ (a + q.credited answer db₀) (b + q.credited answer db₀) (c + q.credited answer db₀)
      db := by
  rw [credited_of_refused refused, add_zero, add_zero, add_zero]
  exact h

theorem refused_total (h : Grown db₀ a b c db) {q : TrafficRequest} {answer : Json}
    (refused : ¬ Accepted answer) : Grown db₀ (a + q.credited answer db₀) b c db := by
  rw [credited_of_refused refused, add_zero]
  exact h

theorem credited_of_accepted (q : TrafficRequest) {answer : Json} (accepted : Accepted answer)
    (named : q.sessionToken = some token) :
    q.credited answer db = credit (owner token db) q.delta := by
  funext x
  rw [TrafficRequest.credited, if_pos accepted, TrafficRequest.sender, named]
  rfl

def Ticks (s t : State) : Prop := ∃ now, t = s.mapDb fun db => { db with now := now }

def RateLimited : Cmd → Prop
  | .validateSessionTokenSecurity _ _ => True
  | _ => False

/-- No statement fails: a statement that cannot be executed stops the run. -/
def trafficServer (cfg : Config) : Server Cmd Res State TrafficRequest Json where
  interp := interp cfg
  fails cmd _ := RateLimited cmd
  env := Ticks
  handler
    | .heartbeat request clientIp => processHeartbeatRequest cfg request clientIp
    | .statistics request => processStatisticsRequest request

theorem accepted_all {request answer : Json} {clientIp : String}
    (h : Grown db₀ (a + credit (owner token db₀) (TrafficRequest.delta (.heartbeat request clientIp)))
      (b + credit (owner token db₀) (TrafficRequest.delta (.heartbeat request clientIp)))
      (c + credit (owner token db₀) (TrafficRequest.delta (.heartbeat request clientIp)))
      db) (named : Json.string? (request.get "session_token") = some token)
    (accepted : Accepted answer) :
    Grown db₀ (a + TrafficRequest.credited (.heartbeat request clientIp) answer db₀)
      (b + TrafficRequest.credited (.heartbeat request clientIp) answer db₀)
      (c + TrafficRequest.credited (.heartbeat request clientIp) answer db₀) db := by
  rw [credited_of_accepted (.heartbeat request clientIp) accepted named]
  exact h

section Programs

variable {α : Type} {p : Control α} {o : Option Uuid} {bytes : ℕ × ℕ}

theorem stable_grown (cfg : Config) (db₀ : Db) (a b c : Uuid → ℕ × ℕ) :
    (trafficServer cfg).Stable fun s => Grown db₀ a b c s.db := by
  rintro s _ h ⟨now, rfl⟩
  exact h.same rfl rfl (fun _ => rfl) rfl rfl

theorem safe_command {cmd : Cmd} {k : Option (Res cmd) → Control α} {Q : α → State → Prop}
    (statement : ¬ RateLimited cmd) (h : Grown db₀ a b c s.db)
    (answered : ∀ t u r, Grown db₀ a b c t.db → NothingOld cmd t → interp cfg cmd t = some (u, r) →
      (trafficServer cfg).Safe NothingOld (fun _ => True) (k (some r)) Q u) :
    (trafficServer cfg).Safe NothingOld (fun _ => True) (.call cmd k) Q s :=
  Server.safe_call (stable_grown cfg db₀ a b c) (fun _ _ => trivial) h
    (fun _ _ failed => absurd failed statement) answered

theorem safe_return {Q : α → State → Prop} {v : α} (h : Grown db₀ a b c s.db)
    (post : ∀ t, Grown db₀ a b c t.db → Q v t) :
    (trafficServer cfg).Safe NothingOld (fun _ => True) (.ret v) Q s :=
  Server.safe_ret (stable_grown cfg db₀ a b c) (fun _ _ => trivial) post h

theorem safe_quiet (quiet : Issues Quiet p) (h : Grown db₀ a b c s.db) :
    (trafficServer cfg).Safe NothingOld (fun _ => True) p (fun _ t => Grown db₀ a b c t.db) s := by
  apply Server.safe_of_issues (stable_grown cfg db₀ a b c) (fun _ _ => trivial) _ quiet h
  intro cmd s t r quiet hs recent e
  exact hs.quiet cmd quiet recent e

theorem safe_updateDeviceStatistics (h : Grown db₀ a b c s.db) :
    (trafficServer cfg).Safe NothingOld (fun _ => True)
      (updateDeviceStatistics token sent received connections)
      (fun _ t => Grown db₀ (a + credit (owner token db₀) (sent, received)) b c t.db) s := by
  apply safe_command id h
  intro t u _ ht _ e
  cases e
  apply safe_command id ht
  intro v w _ hv recent e
  have hw := hv.quiet (.addSessionTraffic token sent received connections) trivial recent e
  apply safe_command id hw
  intro y z _ hy _ e
  obtain ⟨db', hdb, e⟩ := Option.map_eq_some_iff.1 e
  cases e
  exact safe_return (hy.addDeviceTotals hdb) fun _ hx => hx

theorem safe_aggregate (h : Grown db₀ a b c s.db) :
    (trafficServer cfg).Safe NothingOld (fun _ => True)
      (aggregateDeviceHourlyStatistics token sent received connections)
      (fun _ t => Grown db₀ a (b + credit (owner token db₀) (sent, received)) c t.db) s := by
  unfold aggregateDeviceHourlyStatistics
  split
  · rename_i zero
    have nothing : credit (owner token db₀) (sent, received) = 0 := by
      funext x
      simp [credit, zero.1, zero.2.1]
    rw [nothing, add_zero]
    exact safe_return h fun _ ht => ht
  · apply safe_command id h
    intro t u _ ht _ e
    cases e
    apply safe_command id ht
    intro v w _ hv _ e
    obtain ⟨db', hdb, e⟩ := Option.map_eq_some_iff.1 e
    cases e
    exact safe_return (hv.upsertHourly hdb) fun _ hx => hx

theorem safe_recordSample (h : Grown db₀ a b c s.db) :
    (trafficServer cfg).Safe NothingOld (fun _ => True)
      (recordDeviceTrafficSample token sent received connections)
      (fun _ t => Grown db₀ a b (c + credit (owner token db₀) (sent, received)) t.db) s := by
  apply safe_command id h
  intro t u _ ht _ e
  cases e
  apply safe_command id ht
  intro v w _ hv _ e
  obtain ⟨db', hdb, e⟩ := Option.map_eq_some_iff.1 e
  cases e
  apply safe_command id (hv.insertSample hdb)
  intro y z _ hy recent e
  have hz := hy.quiet .deleteOldSamples trivial recent e
  exact safe_return hz fun _ hx => hx

theorem safe_storeTraffic {traffic : Traffic} (h : Grown db₀ a b c s.db)
    (none : traffic.hasTraffic = false → traffic.bytesSent = 0 ∧ traffic.bytesReceived = 0) :
    (trafficServer cfg).Safe NothingOld (fun _ => True) (storeTraffic token traffic)
      (fun _ t => Grown db₀
        (a + credit (owner token db₀) (traffic.bytesSent, traffic.bytesReceived))
        (b + credit (owner token db₀) (traffic.bytesSent, traffic.bytesReceived))
        (c + credit (owner token db₀) (traffic.bytesSent, traffic.bytesReceived)) t.db) s := by
  have sample {a b : Uuid → ℕ × ℕ} {t : State} (ht : Grown db₀ a b c t.db) :
      (trafficServer cfg).Safe NothingOld (fun _ => True) (do
        let _ ← recordDeviceTrafficSample token traffic.bytesSent traffic.bytesReceived
          traffic.connections
        pure () : Control Unit) (fun _ t => Grown db₀ a b
          (c + credit (owner token db₀) (traffic.bytesSent, traffic.bytesReceived)) t.db) t :=
    ((safe_recordSample ht).mono fun _ u hu => safe_return hu fun _ hv => hv).bind
  unfold storeTraffic
  split
  · apply Server.Safe.bind
    apply (safe_updateDeviceStatistics h).mono
    intro _ t ht
    apply Server.Safe.bind
    apply (safe_aggregate ht).mono
    intro _ u hu
    exact sample hu
  · rename_i without
    obtain ⟨sent, received⟩ := none (by simpa using without)
    have nothing : credit (owner token db₀) (traffic.bytesSent, traffic.bytesReceived) = 0 := by
      funext x
      simp [credit, sent, received]
    have safe := sample h
    simp only [nothing, add_zero] at safe ⊢
    exact safe

theorem readTraffic_without {object : Option Json} {connectionsKey : String} {t : Traffic}
    (h : t.hasTraffic = false → t.bytesSent = 0 ∧ t.bytesReceived = 0)
    (without : (readTraffic object connectionsKey t).hasTraffic = false) :
    (readTraffic object connectionsKey t).bytesSent = 0 ∧
      (readTraffic object connectionsKey t).bytesReceived = 0 := by
  unfold readTraffic at without ⊢
  split
  · exact h without
  · rename_i o
    dsimp only at without ⊢
    by_cases isObject : o.isObject = true
    · simp only [isObject, Bool.not_true, Bool.false_eq_true, if_false] at without ⊢
      cases counted : Json.integer? (o.get connectionsKey) <;>
      cases sent : Json.integer? (o.get "bytes_sent") <;>
      cases received : Json.integer? (o.get "bytes_received") <;>
      cases has : t.hasTraffic <;>
      simp_all
    · simp only [isObject, Bool.not_false, if_true] at without ⊢
      exact h without

theorem heartbeatTraffic_without {request : Json}
    (without : (heartbeatTraffic request).hasTraffic = false) :
    (heartbeatTraffic request).bytesSent = 0 ∧ (heartbeatTraffic request).bytesReceived = 0 :=
  readTraffic_without (readTraffic_without fun _ => ⟨rfl, rfl⟩) without

/-- The TLS fields leave the `status` of the answer alone. -/
theorem safe_tlsFields (h : Grown db₀ a b c s.db) :
    (trafficServer cfg).Safe NothingOld (fun _ => True) (tlsFields cfg token)
      (fun fields t => Grown db₀ a b c t.db ∧ fields.find? (fun f => f.1 == "status") = none) s := by
  apply Server.Safe.bind
  apply (safe_quiet ((beat_getSessionByToken token).imp quiet_of_beat) h).mono
  intro session t ht
  cases session with
  | none => exact safe_return ht fun _ hu => ⟨hu, rfl⟩
  | some session =>
    apply Server.Safe.bind
    apply (safe_quiet ((beat_loadDevice session.deviceId).imp quiet_of_beat) ht).mono
    intro info u hu
    apply safe_command id hu
    intro v w pending hv recent e
    have hw := hv.quiet (.consumeTlsReloadPending session.deviceId) trivial recent e
    apply safe_return hw
    intro x hx
    refine ⟨hx, ?_⟩
    cases pending <;> simp

theorem safe_heartbeat {request : Json} {clientIp : String} (h : Grown db₀ a b c s.db) :
    (trafficServer cfg).Safe NothingOld (fun _ => True)
      (processHeartbeatRequest cfg request clientIp)
      (fun answer t =>
        let δ := TrafficRequest.credited (.heartbeat request clientIp) answer db₀
        Grown db₀ (a + δ) (b + δ) (c + δ) t.db) s := by
  unfold processHeartbeatRequest
  split
  · apply safe_return h
    intro t ht
    exact refused_all ht (by decide)
  · rename_i token named
    rw [perform_bind]
    apply Server.safe_call (stable_grown cfg db₀ a b c) (fun _ _ => trivial) h
    · intro t ht _
      apply safe_return ht
      intro u hu
      exact refused_all hu (by decide)
    · intro t u _ ht _ e
      cases e
      apply Server.Safe.bind
      apply (safe_quiet ((beat_updateDeviceHeartbeat token).imp quiet_of_beat) ht).mono
      intro code v hv
      dsimp only
      split
      · apply safe_return hv
        intro w hw
        exact refused_all hw (by decide)
      · apply Server.Safe.bind
        apply (safe_quiet ((beat_ensureForSession token).imp quiet_of_beat) hv).mono
        intro _ w hw
        apply Server.Safe.bind
        apply (safe_storeTraffic hw heartbeatTraffic_without).mono
        intro _ y hy
        apply Server.Safe.bind
        apply (safe_tlsFields hy).mono
        rintro tls z ⟨hz, others⟩
        apply safe_command id hz
        intro t' u' now ht' recent e
        have hu' := ht'.quiet .time trivial recent e
        apply safe_return hu'
        intro v' hv'
        have accepted (now : ℤ) : Accepted (.object (tls ++ [("status", Json.string "ok"),
            ("timestamp", .integer now)])) := by
          simp [Accepted, Json.get, Json.string?, List.find?_append, others]
        exact accepted_all hv' named (accepted now)

/-- The foreign key leaves no active session without its device. -/
theorem owner_eq_none_of_session (h : Keys db) (unknown : sessionByToken token db = none) :
    owner token db = none := by
  rw [Option.eq_none_iff_forall_not_mem]
  intro x own
  obtain ⟨u, active, rfl⟩ := Option.map_eq_some_iff.1 own
  obtain ⟨d, hd, same⟩ := List.mem_map.1 (h.owners u (mem_of_activeSession active).1)
  rw [sessionByToken, active, Option.bind_some, Option.map_eq_none_iff,
    List.find?_eq_none] at unknown
  exact unknown d hd (by simpa using same)

theorem safe_getSessionByToken (h : Grown db₀ a b c s.db) :
    (trafficServer cfg).Safe NothingOld (fun _ => True) (getSessionByToken token)
      (fun session t => Grown db₀ a b c t.db ∧ (session = none → owner token db₀ = none)) s := by
  apply safe_command id h
  intro t u _ ht _ e
  cases e
  apply safe_command id ht
  intro v w _ hv _ e
  cases e
  apply safe_return hv
  intro x hx
  refine ⟨hx, fun unknown => ?_⟩
  rw [← hv.owner token]
  exact owner_eq_none_of_session hv.keys (Option.map_eq_none_iff.1 unknown)

theorem safe_statistics {request : Json} (h : Grown db₀ a b c s.db) :
    (trafficServer cfg).Safe NothingOld (fun _ => True) (processStatisticsRequest request)
      (fun answer t =>
        Grown db₀ (a + TrafficRequest.credited (.statistics request) answer db₀) b c t.db ∧
          (TrafficRequest.sender (.statistics request) db₀ ≠ none → Accepted answer)) s := by
  unfold processStatisticsRequest
  split
  · apply safe_return h
    rename_i unnamed
    intro t ht
    refine ⟨refused_total ht (by decide), fun sender => absurd ?_ sender⟩
    rw [TrafficRequest.sender, TrafficRequest.sessionToken, unnamed]
    rfl
  · rename_i token named
    have answers {δ : Uuid → ℕ × ℕ} {t : State} (ht : Grown db₀ (a + δ) b c t.db)
        (all : ∀ answer, Accepted answer →
          TrafficRequest.credited (.statistics request) answer db₀ = δ) :
        (trafficServer cfg).Safe NothingOld (fun _ => True) (do
          let now ← perform .time
          pure (.object [("status", .string "ok"), ("timestamp", .integer (now.getD 0))]) :
            Control Json) (fun answer t =>
          Grown db₀ (a + TrafficRequest.credited (.statistics request) answer db₀) b c t.db ∧
            (TrafficRequest.sender (.statistics request) db₀ ≠ none → Accepted answer)) t := by
      apply safe_command id ht
      intro t u now ht recent e
      apply safe_return (ht.quiet .time trivial recent e)
      intro v hv
      rw [all _ (rfl : Json.string? _ = some "ok")]
      exact ⟨hv, fun _ => rfl⟩
    apply Server.Safe.bind
    apply (safe_getSessionByToken h).mono
    rintro session t ⟨ht, unknown⟩
    cases session with
    | none =>
      apply safe_return ht
      intro u hu
      refine ⟨refused_total hu (by decide), fun sender => absurd ?_ sender⟩
      rw [TrafficRequest.sender, TrafficRequest.sessionToken, named]
      exact unknown rfl
    | some session =>
      have taken (answer : Json) (accepted : Accepted answer) :
          TrafficRequest.credited (.statistics request) answer db₀ =
            credit (owner token db₀) (TrafficRequest.delta (.statistics request)) :=
        credited_of_accepted (.statistics request) accepted named
      have unread (missing : TrafficRequest.delta (.statistics request) = 0) (answer : Json)
          (accepted : Accepted answer) :
          TrafficRequest.credited (.statistics request) answer db₀ = 0 := by
        rw [taken answer accepted, missing]
        funext x
        simp [credit]
      simp only [TrafficRequest.delta] at taken unread
      cases sent : Json.integer? (request.get "bytes_sent") with
      | none =>
        rw [sent] at unread
        exact answers ht (unread rfl)
      | some m =>
        cases received : Json.integer? (request.get "bytes_received") with
        | none =>
          rw [sent, received] at unread
          exact answers ht (unread rfl)
        | some n =>
          rw [sent, received] at taken
          apply Server.Safe.bind
          apply (safe_updateDeviceStatistics ht).mono
          intro _ u hu
          exact answers hu taken

end Programs

structure Served where
  request : TrafficRequest
  answer : Json
  /-- the database when the request arrived -/
  db : Db

namespace Served

def credited (e : Served) (x : Uuid) : ℕ × ℕ := e.request.credited e.answer e.db x

def inAll (e : Served) (x : Uuid) : ℕ × ℕ :=
  match e.request with
  | .heartbeat _ _ => e.credited x
  | .statistics _ => 0

def onlyInTotals (e : Served) (x : Uuid) : ℕ × ℕ :=
  match e.request with
  | .heartbeat _ _ => 0
  | .statistics _ => e.credited x

theorem credited_eq (e : Served) (x : Uuid) : e.credited x = e.inAll x + e.onlyInTotals x := by
  unfold inAll onlyInTotals
  cases e.request with
  | heartbeat request clientIp => exact (add_zero _).symm
  | statistics request => exact (zero_add _).symm

end Served

/-- Runs of heartbeat and `statistics` requests, with the requests served so far. -/
inductive Serving (cfg : Config) (s₀ : State) : List Served → State → Prop
  | start : Serving cfg s₀ [] s₀
  | tick {log : List Served} {s t : State} (h : Serving cfg s₀ log s) (clock : Ticks s t) :
      Serving cfg s₀ log t
  | serve {log : List Served} {s t : State} {q : TrafficRequest} {answer : Json}
      (h : Serving cfg s₀ log s)
      (run : (trafficServer cfg).Runs NothingOld ((trafficServer cfg).handler q) s answer t) :
      Serving cfg s₀ (log ++ [⟨q, answer, s.db⟩]) t

structure Fresh (db : Db) : Prop where
  keys : Keys db
  devices : ∀ d ∈ db.devices, d.totalBytesSent = 0 ∧ d.totalBytesReceived = 0
  statistics : ∀ r ∈ db.statistics, r.bytesSent = 0 ∧ r.bytesReceived = 0
  samples : ∀ r ∈ db.samples, r.bytesSentDelta = 0 ∧ r.bytesReceivedDelta = 0

def collect (column : Served → Uuid → ℕ × ℕ) (log : List Served) (x : Uuid) : ℕ × ℕ :=
  (log.map (column · x)).sum

theorem collect_append (column : Served → Uuid → ℕ × ℕ) (log : List Served) (e : Served) :
    collect column (log ++ [e]) = collect column log + column e := by
  funext x
  simp [collect]

theorem credited_congr {q : TrafficRequest} {answer : Json}
    (h : db.sessions.map ident = db₀.sessions.map ident) :
    q.credited answer db = q.credited answer db₀ := by
  funext x
  have owners : (owner · db) = (owner · db₀) := funext (owner_congr h)
  rw [TrafficRequest.credited, TrafficRequest.credited, TrafficRequest.sender, owners,
    TrafficRequest.sender]

theorem Serving.grown {log : List Served} (h : Serving cfg s₀ log s) (keys : Keys s₀.db) :
    Grown s₀.db (collect Served.credited log) (collect Served.inAll log)
      (collect Served.inAll log) s.db := by
  induction h with
  | start => exact Grown.start keys
  | tick _ clock ih => exact stable_grown cfg _ _ _ _ _ _ ih clock
  | @serve log s t q answer _ run ih =>
    have same : q.credited answer s.db = q.credited answer s₀.db := credited_congr ih.sessions
    rw [collect_append, collect_append]
    cases q with
    | heartbeat request clientIp =>
      have grown := (safe_heartbeat ih).post run
      dsimp only at grown
      rw [← same] at grown
      exact grown
    | statistics request =>
      have grown := ((safe_statistics ih).post run).1
      rw [← same] at grown
      exact grown

/-- A `statistics` request of an active session is accepted. -/
theorem Serving.accepted {log : List Served} (h : Serving cfg s₀ log s) (keys : Keys s₀.db) :
    ∀ e ∈ log, ∀ request, e.request = .statistics request → e.request.sender e.db ≠ none →
      Accepted e.answer := by
  induction h with
  | start => simp
  | tick _ _ ih => exact ih
  | @serve log s t q answer h run ih =>
    intro e he
    rcases List.mem_append.1 he with old | new
    · exact ih e old
    · obtain rfl := List.mem_singleton.1 new
      rintro request rfl sender
      have fresh : Grown s.db 0 0 0 s.db := Grown.start (h.grown keys).keys
      exact ((safe_statistics fresh).post run).2 sender

theorem Fresh.totals {db : Db} (h : Fresh db) (x : Uuid) :
    deviceTotals x db = 0 ∧ hourlyTotals x db = 0 ∧ sampleTotals x db = 0 := by
  refine ⟨total_eq_zero fun d hd => ?_, total_eq_zero fun r hr => ?_,
    total_eq_zero fun r hr => ?_⟩
  · exact Prod.ext (h.devices d hd).1 (h.devices d hd).2
  · exact Prod.ext (h.statistics r hr).1 (h.statistics r hr).2
  · exact Prod.ext (h.samples r hr).1 (h.samples r hr).2

def Agree (log : List Served) (x : Uuid) (db : Db) : Prop :=
  deviceTotals x db = hourlyTotals x db ∧ hourlyTotals x db = sampleTotals x db ∧
    sampleTotals x db = collect Served.credited log x

instance (log : List Served) (x : Uuid) (db : Db) : Decidable (Agree log x db) :=
  inferInstanceAs (Decidable (_ ∧ _ ∧ _))

/-- No `statistics` request of an active session of the device reports bytes. -/
def StatisticsEmpty (log : List Served) (x : Uuid) : Prop :=
  ∀ e ∈ log, ∀ request, e.request = .statistics request → e.request.sender e.db = some x →
    e.request.delta = 0

theorem collect_eq_iff {log : List Served} :
    collect Served.credited log x = collect Served.inAll log x ↔
      ∀ e ∈ log, e.onlyInTotals x = 0 := by
  have split : collect Served.credited log x =
      collect Served.inAll log x + collect Served.onlyInTotals log x := by
    simp only [collect, Served.credited_eq]
    exact List.sum_map_add
  rw [split, add_eq_left, collect, List.sum_eq_zero_iff]
  simp

theorem onlyInTotals_eq_zero_iff {log : List Served}
    (accepted : ∀ e ∈ log, ∀ request, e.request = .statistics request → e.request.sender e.db ≠ none →
      Accepted e.answer) : (∀ e ∈ log, e.onlyInTotals x = 0) ↔ StatisticsEmpty log x := by
  constructor
  · intro zero e he request hq sender
    have ok := accepted e he request hq (by simp [sender])
    have nothing := zero e he
    rw [Served.onlyInTotals, hq] at nothing
    change e.credited x = 0 at nothing
    rw [Served.credited, TrafficRequest.credited, if_pos ok, credit, if_pos sender] at nothing
    exact nothing
  · intro empty e he
    unfold Served.onlyInTotals
    split
    · rfl
    · rename_i request hq
      by_cases sender : e.request.sender e.db = some x
      · simp [Served.credited, TrafficRequest.credited, credit, empty e he request hq sender]
      · simp [Served.credited, TrafficRequest.credited, credit, sender]

theorem stores_agree_iff_statistics_empty {log : List Served} (fresh : Fresh s₀.db)
    (h : Serving cfg s₀ log s) (x : Uuid) : Agree log x s.db ↔ StatisticsEmpty log x := by
  have grown := h.grown fresh.keys
  obtain ⟨devices, statistics, samples⟩ := fresh.totals x
  have totals := grown.inTotals x
  have hourly := grown.inHourly x
  have sampled := grown.inSamples x
  rw [devices, zero_add] at totals
  rw [statistics, zero_add] at hourly
  rw [samples, zero_add] at sampled
  rw [← onlyInTotals_eq_zero_iff (h.accepted fresh.keys), ← collect_eq_iff, Agree, totals, hourly,
    sampled]
  constructor
  · exact fun agree => agree.1
  · exact fun same => ⟨same, rfl, same.symm⟩

/-- A is registered and has the session `t100`. -/
def registered : State := play Sample.cfg [.inl (Sample.register "A")] Sample.start

theorem fresh_registered : Fresh registered.db := by
  constructor
  · constructor <;> decide +kernel
  · decide +kernel
  · decide +kernel
  · decide +kernel

theorem serving_one (cfg : Config) (q : TrafficRequest) (s : State)
    (ok : Succeeds (interp cfg) NothingOld ((trafficServer cfg).handler q) s) :
    Serving cfg s [⟨q, (run (interp cfg) ((trafficServer cfg).handler q) s).1, s.db⟩]
      (run (interp cfg) ((trafficServer cfg).handler q) s).2 :=
  Serving.serve .start (Server.runs_succeeds _ s ok)

def reportedHeartbeat : TrafficRequest :=
  .heartbeat (.object [("session_token", .string "t100"),
    ("statistics", .object [("bytes_sent", .integer 100), ("bytes_received", .integer 50)])])
    "10.0.0.1"

def reportedStatistics : TrafficRequest :=
  .statistics (.object [("session_token", .string "t100"), ("bytes_sent", .integer 100),
    ("bytes_received", .integer 50)])

theorem stores_agree_after_heartbeat :
    Agree [⟨reportedHeartbeat,
      (run (interp Sample.cfg) ((trafficServer Sample.cfg).handler reportedHeartbeat) registered).1,
      registered.db⟩] 1
      (run (interp Sample.cfg) ((trafficServer Sample.cfg).handler reportedHeartbeat)
        registered).2.db := by
  have served := serving_one Sample.cfg reportedHeartbeat registered
    (by decide +kernel)
  refine (stores_agree_iff_statistics_empty fresh_registered served 1).2 ?_
  intro e he request hq
  rw [List.mem_singleton.1 he] at hq
  exact absurd hq (by simp [reportedHeartbeat])

namespace Counterexample

/-- A `statistics` request moves the totals, but neither the hours nor the samples. -/
theorem stores_disagree_after_statistics :
    ∃ log s, Fresh registered.db ∧ Serving Sample.cfg registered log s ∧ ¬ Agree log 1 s.db :=
  ⟨_, _, fresh_registered, serving_one Sample.cfg reportedStatistics registered (by decide +kernel :
      Succeeds (interp Sample.cfg) NothingOld
        ((trafficServer Sample.cfg).handler reportedStatistics) registered),
    by decide +kernel⟩

end Counterexample

end TrafficAgreement
