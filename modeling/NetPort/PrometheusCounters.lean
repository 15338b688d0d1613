import Mathlib.Algebra.Order.Group.Nat
import Mathlib.Algebra.Order.Monoid.Prod
import Mathlib.Algebra.Order.Sub.Prod
import Mathlib.Algebra.Order.Sub.Unbundled.Basic
import Mathlib.Data.List.Infix
import NetPort.FixedPorts

/-! `GET /metrics` of one backend process: what its counters are read from, and the answers of
the scrapes while the tables, the logs and the clock change between any two of its awaits. -/
namespace PrometheusCounters

open SqlUpdate StepRuns DeviceTables PortOwnership
open ProxyRuntimes (Config)
open DeviceManager (State Cmd Res)
open FixedPorts (Statement Event)

section Logs

/-- A regular file of the log directories, with what `readdir` and `openSync` make of it. -/
structure File where
  directory : String
  name : List UInt8
  readable : Bool
  content : List UInt8

def bytes (text : String) : List UInt8 := text.toList.map fun c => c.toNat.toUInt8

def lowerCase (b : UInt8) : UInt8 := if 65 ≤ b ∧ b ≤ 90 then b + 32 else b

/-- `/text/i.test(line)` for a text of ASCII characters -/
def test (text : String) (line : List UInt8) : Bool :=
  decide ((bytes text).map lowerCase <:+: line.map lowerCase)

def failurePatterns : List String :=
  ["Authentication failed", "Failed to register device session", "JSON parse error",
    "Missing or invalid 'action'", "Failed to allocate port",
    "Failed to update device after registration", "Failed to bind to port 8443"]

def lineMatchesFailure (line : List UInt8) : Bool := failurePatterns.any fun p => test p line

structure LogMetrics where
  fileOffsets : List ((String × List UInt8) × ℕ)
  registrationErrorsTotal : ℕ

def LogMetrics.offset (path : String × List UInt8) (m : LogMetrics) : ℕ :=
  ((m.fileOffsets.find? (·.1 == path)).map (·.2)).getD 0

def LogMetrics.setOffset (path : String × List UInt8) (offset : ℕ) (m : LogMetrics) : LogMetrics :=
  { m with fileOffsets := (path, offset) :: m.fileOffsets.filter (·.1 != path) }

/-- The path is the directory and the name; `none` is an exception of `openSync`. -/
def scrapeLogFile (file : File) (m : LogMetrics) : Option LogMetrics :=
  let path := (file.directory, file.name)
  let size := file.content.length
  let offset := if m.offset path > size then 0 else m.offset path
  if size - offset = 0 then some (m.setOffset path size)
  else if file.readable then
    let lines := (file.content.drop offset).splitOn 10
    let failures := lines.countP fun line => !line.isEmpty && lineMatchesFailure line
    some ({ m with registrationErrorsTotal := m.registrationErrorsTotal + failures }.setOffset
      path size)
  else none

def scraped (name : List UInt8) : Bool :=
  ["net_port", "server", "device"].any fun p => test p name

/-- The files in the order of `LOG_DIRS` and `readdirSync`; `false` is an exception. -/
def scrapeRegistrationLogs : List File → LogMetrics → LogMetrics × Bool
  | [], m => (m, true)
  | file :: files, m =>
    if scraped file.name then
      match scrapeLogFile file m with
      | none => (m, false)
      | some m => scrapeRegistrationLogs files m
    else scrapeRegistrationLogs files m

end Logs

/-- `WHERE status = 'active' AND expires_at > NOW()` -/
def counted (now : ℕ) (u : Session) : Bool := u.status == .active && now < u.expiresAt

def traffic (u : Session) : ℕ × ℕ := (u.bytesSent, u.bytesReceived)

/-- `SELECT SUM(bytes_sent), SUM(bytes_received) … WHERE cond` -/
def sumWhere (cond : Session → Bool) (sessions : List Session) : ℕ × ℕ :=
  ((sessions.filter cond).map traffic).sum

def totalTraffic (db : Db) : ℕ × ℕ := sumWhere (counted db.now) db.sessions

abbrev Counters := ℕ × ℕ × ℕ

def counterMetrics (c : Counters) : List (String × ℕ) :=
  [("net_port_registration_errors_total", c.1), ("net_port_bytes_sent_total", c.2.1),
    ("net_port_bytes_received_total", c.2.2)]

/-- What a call of `collectPrometheusMetrics` awaits. -/
inductive Phase where
  | health
  | queries (registrationErrorsTotal : ℕ)
  | gauges (counters : Counters)
  | ended
  deriving DecidableEq

/-- A call past the cache; `seen` counts the answers given before it. -/
structure Scrape where
  now : ℤ
  seen : ℕ
  phase : Phase
  deriving DecidableEq

structure Answer where
  seen : ℕ
  body : List (String × ℕ)

structure World where
  state : State
  files : List File
  date : ℤ
  logs : LogMetrics
  /-- `cachedMetrics` and `cachedMetricsAt` -/
  cached : Option (Counters × ℤ)
  scrapes : List Scrape
  answers : List Answer

inductive Action where
  | statement (c : Statement)
  | event (e : Event)
  | logs (files : List File)
  | clock (date : ℤ)
  | scrape
  | proceed (i : ℕ)
  | fail (i : ℕ)

/-- The process; `none` is a `METRICS_CACHE_MS` that is no number. -/
structure Process where
  cfg : Config
  metricsCacheMs : Option ℤ

namespace World

def put (i : ℕ) (s : Scrape) (w : World) : World := { w with scrapes := w.scrapes.set i s }

def answer (seen : ℕ) (c : Counters) (w : World) : World :=
  { w with answers := w.answers ++ [⟨seen, counterMetrics c⟩] }

def fresh (p : Process) (w : World) : Option Counters :=
  w.cached.bind fun entry =>
    if p.metricsCacheMs.any (w.date - entry.2 < ·) then some entry.1 else none

def scrape (p : Process) (w : World) : World :=
  match w.fresh p with
  | some c => w.answer w.answers.length c
  | none => { w with scrapes := w.scrapes ++ [⟨w.date, w.answers.length, .health⟩] }

def proceed (i : ℕ) (s : Scrape) (w : World) : Option World :=
  match s.phase with
  | .health =>
    let (logs, ok) := scrapeRegistrationLogs w.files w.logs
    let phase := if ok then .queries logs.registrationErrorsTotal else .ended
    some ({ w with logs := logs }.put i { s with phase := phase })
  | .queries errors =>
    some (w.put i { s with phase := .gauges (errors, totalTraffic w.state.db) })
  | .gauges c =>
    some ({ w.put i { s with phase := .ended } with cached := some (c, s.now) }.answer s.seen c)
  | .ended => none

def fail (i : ℕ) (s : Scrape) (w : World) : Option World :=
  match s.phase with
  | .queries _ => some (w.put i { s with phase := .ended })
  | .gauges _ => some (w.put i { s with phase := .ended })
  | _ => none

end World

/-- Statements of the requests and of the devices are executed in any order here, hence in the
order of their programs too. -/
def step (p : Process) (w : World) : Action → Option World
  | .statement c => (FixedPorts.interp p.cfg c w.state).map fun r => { w with state := r.1 }
  | .event e => some { w with state := FixedPorts.after w.state e }
  | .logs files => some { w with files := files }
  | .clock date => some { w with date := date }
  | .scrape => some (w.scrape p)
  | .proceed i => w.scrapes[i]?.bind fun s => w.proceed i s
  | .fail i => w.scrapes[i]?.bind fun s => w.fail i s

def Enabled (p : Process) (w : World) : Action → Prop
  | .event e => FixedPorts.Happens w.state e
  | a => (step p w a).isSome

instance (p : Process) (w : World) (a : Action) : Decidable (Enabled p w a) := by
  unfold Enabled
  split <;> infer_instance

structure Initial (w : World) : Prop where
  fileOffsets : w.logs.fileOffsets = []
  noErrors : w.logs.registrationErrorsTotal = 0
  notCached : w.cached = none
  noScrapes : w.scrapes = []
  noAnswers : w.answers = []

def backend (p : Process) : System World Action where
  initial := Initial
  enabled := Enabled p
  next w a := (step p w a).getD w

instance (p : Process) (w : World) (a : Action) : Decidable ((backend p).enabled w a) :=
  inferInstanceAs (Decidable (Enabled p w a))

def Below (body body' : List (String × ℕ)) : Prop :=
  ∀ m ∈ body, ∀ m' ∈ body', m.1 = m'.1 → m.2 ≤ m'.2

instance (body body' : List (String × ℕ)) : Decidable (Below body body') :=
  inferInstanceAs (Decidable (∀ _ ∈ _, _))

/-- No counter is lower in an answer than in one that was given before its scrape began. -/
def Monotone (w : World) : Prop :=
  ∀ later ∈ w.answers, ∀ earlier ∈ w.answers.take later.seen, Below earlier.body later.body

instance (w : World) : Decidable (Monotone w) := inferInstanceAs (Decidable (∀ _ ∈ _, _))

def retired (cfg : Config) : Statement → Db → Session → Bool
  | .control (.cleanupDeviceSessions deviceId), db => sessionOf deviceId db
  | .control (.touchSession token), _ => fun u => cfg.sessionTimeout == 0 && u.named token
  | .control (.terminateSession token), _ => (·.named token)
  | .control (.terminateSessions deviceId), db => fun u =>
    (deviceRow deviceId db).any (·.id == u.deviceId)
  | .disconnect (.terminateSessions id), _ => (·.deviceId == id)
  | .service (.deleteDevice id), _ => (·.deviceId == id)
  | _, _ => fun _ => false

def lapsed : Event → Db → Session → Bool
  | .cleanup deviceId, db => sessionOf deviceId db
  | .tick now, _ => (·.expiresAt ≤ now)
  | _, _ => fun _ => false

def taken (hit : Session → Bool) (db : Db) : ℕ × ℕ :=
  sumWhere (fun u => counted db.now u && hit u) db.sessions

def World.reports (w : World) : List Counters :=
  (w.cached.map (·.1)).toList ++ w.scrapes.filterMap fun s =>
    match s.phase with
    | .gauges c => some c
    | _ => none

def Spared (w : World) (hit : Session → Bool) : Prop :=
  ∀ c ∈ w.reports, taken hit w.state.db ≤ totalTraffic w.state.db - c.2

def Careful (p : Process) (w : World) : Action → Prop
  | .statement c => Spared w (retired p.cfg c w.state.db)
  | .event e => Spared w (lapsed e w.state.db)
  -- one call at a time is past the cache
  | .scrape => (w.fresh p).isSome ∨ ∀ s ∈ w.scrapes, s.phase = .ended
  | _ => True

instance (w : World) (hit : Session → Bool) : Decidable (Spared w hit) :=
  inferInstanceAs (Decidable (∀ _ ∈ _, _ ≤ _))

instance (p : Process) (w : World) (a : Action) : Decidable (Careful p w a) := by
  unfold Careful
  split <;> infer_instance

variable {p : Process} {cfg : Config} {w w' : World} {s t : State} {db db' : Db} {a : Action}
  {hit : Session → Bool} {sessions : List Session} {log : List (World × Action)} {i : ℕ}

section Outflow

theorem sumWhere_cons (cond : Session → Bool) (u : Session) (rows : List Session) :
    sumWhere cond (u :: rows) = (if cond u then traffic u else 0) + sumWhere cond rows := by
  by_cases h : cond u = true <;> simp [sumWhere, h]

/-- What the query counts but for what is taken out, it counts afterwards too. -/
def Covers (hit : Session → Bool) (db db' : Db) : Prop :=
  totalTraffic db ≤ taken hit db + totalTraffic db'

theorem covers_same (sessions : db'.sessions = db.sessions) (now : db'.now = db.now) :
    Covers hit db db' := by
  unfold Covers totalTraffic
  rw [sessions, now]
  exact le_add_self

/-- Every counted row is taken out or stays, with its bytes at least. -/
theorem covers_map {f : Session → Session} (new : db'.sessions = db.sessions.map f)
    (stays : ∀ u ∈ db.sessions, counted db.now u = true →
      hit u = true ∨ (counted db'.now (f u) = true ∧ traffic u ≤ traffic (f u))) :
    Covers hit db db' := by
  unfold Covers totalTraffic taken
  rw [new]
  generalize db.sessions = rows at stays
  induction rows with
  | nil => exact le_add_self
  | cons u rows ih =>
    have rest := ih fun v hv => stays v (List.mem_cons_of_mem u hv)
    have row : (if counted db.now u then traffic u else 0) ≤
        (if counted db.now u && hit u then traffic u else 0) +
          if counted db'.now (f u) then traffic (f u) else 0 := by
      by_cases counts : counted db.now u = true
      · rcases stays u List.mem_cons_self counts with out | ⟨counts', le⟩
        · simp [counts, out]
        · simp only [counts, counts', if_true]
          exact le.trans le_add_self
      · simp [counts]
    rw [List.map_cons, sumWhere_cons, sumWhere_cons, sumWhere_cons, add_add_add_comm]
    exact add_le_add row rest

theorem covers_delete (new : db'.sessions = db.sessions.filter fun u => !hit u)
    (now : db'.now = db.now) : Covers hit db db' := by
  unfold Covers totalTraffic taken
  rw [new, now]
  induction db.sessions with
  | nil => exact le_add_self
  | cons u rows ih =>
    rw [sumWhere_cons, sumWhere_cons, List.filter_cons]
    by_cases out : hit u = true
    · simp only [out, Bool.not_true, Bool.and_true, add_assoc]
      exact add_le_add_right ih _
    · simp only [out, Bool.not_false, Bool.and_false, if_true, sumWhere_cons]
      rw [if_neg Bool.false_ne_true, zero_add, add_left_comm]
      exact add_le_add_right ih _

theorem covers_append {more : List Session} (new : db'.sessions = db.sessions ++ more)
    (now : db'.now = db.now) : Covers hit db db' := by
  unfold Covers totalTraffic sumWhere
  rw [new, now, List.filter_append, List.map_append, List.sum_append]
  exact le_add_left le_self_add

theorem covers_perm (new : db'.sessions.Perm db.sessions) (now : db'.now = db.now) :
    Covers hit db db' := by
  unfold Covers totalTraffic sumWhere
  rw [now, ((new.filter _).map traffic).sum_eq]
  exact le_add_self

/-- The rows that an update changes are taken out, were not counted, or keep their bytes. -/
theorem covers_update {cond : Session → Bool} {set : Session → Session}
    (new : db'.sessions = updateRows cond set db.sessions) (now : db'.now = db.now)
    (stays : ∀ u ∈ db.sessions, cond u = true → counted db.now u = true →
      hit u = true ∨ (counted db.now (set u) = true ∧ traffic u ≤ traffic (set u))) :
    Covers hit db db' := by
  refine covers_map new ?_
  intro u hu counts
  rw [now]
  by_cases h : cond u = true
  · rw [if_pos h]
    exact stays u hu h counts
  · rw [if_neg h]
    exact .inr ⟨counts, le_rfl⟩

theorem covers_retire {cond : Session → Bool} {set : Session → Session}
    (new : db'.sessions = updateRows cond set db.sessions) (now : db'.now = db.now)
    (only : ∀ u ∈ db.sessions, cond u = true → hit u = true) : Covers hit db db' :=
  covers_update new now fun u hu h _ => .inl (only u hu h)

theorem covers_cleanup (deviceId : String) (db : Db) :
    Covers (sessionOf deviceId db) db (cleanupDeviceSessions deviceId db) := by
  refine covers_retire (freeDevicePortPairs_sessions _) (freeDevicePortPairs_now _) ?_
  intro u _ h
  exact (Bool.and_eq_true_iff.1 h).1

theorem covers_sweep (db : Db) : Covers hit db (cleanupExpiredSessions db) := by
  have new : (cleanupExpiredSessions db).sessions =
      updateRows (·.overdue db.now) (fun u => { u with status := .expired }) db.sessions := by
    change updateRows _ _ (freeDevicePortPairs _ db).sessions = _
    simp
  refine covers_update new (freeDevicePortPairs_now _) ?_
  intro u _ overdue counts
  simp only [Session.overdue, counted, Bool.and_eq_true, decide_eq_true_eq] at overdue counts
  omega

theorem covers_touch (token : String) (timeout : ℕ) (db : Db) :
    Covers (fun u => timeout == 0 && u.named token) db (touchSession token timeout db).1 := by
  refine covers_update rfl rfl ?_
  intro u _ named counts
  by_cases none : timeout = 0
  · exact .inl (by simp [none, named])
  · refine .inr ⟨?_, le_rfl⟩
    simp only [counted, Bool.and_eq_true, decide_eq_true_eq] at counts ⊢
    exact ⟨counts.1, by omega⟩

theorem covers_addSessionTraffic {token : String} {sent received connections : ℕ}
    (h : addSessionTraffic token sent received connections db = some db') : Covers hit db db' := by
  obtain ⟨_, rfl⟩ := addSessionTraffic_spec h
  refine covers_update rfl rfl ?_
  intro u _ _ counts
  exact .inr ⟨counts, Nat.le_add_right _ _, Nat.le_add_right _ _⟩

theorem covers_registerSession {deviceId token : String} {timeout : ℕ} {id : Uuid}
    {r : Option (ℕ × ℕ)} (h : registerSession deviceId token timeout id db = some (db', r)) :
    Covers hit db db' := by
  rcases PortInvariant.registerSession_spec h with ⟨rfl, _⟩ | ⟨_, _, _, _, _, _, _, _, rfl⟩
  · exact covers_same rfl rfl
  · exact covers_append rfl rfl

theorem covers_freePair (port : ℕ) (db : Db) : Covers hit db (freeDevicePortPair port db) := by
  obtain ⟨ports, h⟩ := freeDevicePortPair_ports_only port db
  rw [h]
  exact covers_same rfl rfl

theorem covers_reservePair (id : Uuid) (port : ℕ) (db : Db) :
    Covers hit db (reserveDevicePortPair id (some port) db).1 := by
  obtain ⟨ports, h⟩ := reserveDevicePortPair_ports_only id (some port) db
  rw [h]
  exact covers_same rfl rfl

theorem covers_control {c : Cmd} {r : Res c} (e : DeviceManager.interp cfg c s = some (t, r)) :
    Covers (retired cfg (.control c) s.db) s.db t.db := by
  cases c with
  | cleanupDeviceSessions deviceId => cases e; exact covers_cleanup deviceId s.db
  | registerSession deviceId token =>
    obtain ⟨⟨db', ports⟩, hdb, e⟩ := Option.map_eq_some_iff.1 e
    cases e
    exact covers_registerSession hdb
  | touchSession token => cases e; exact covers_touch token cfg.sessionTimeout s.db
  | terminateSession token => cases e; exact covers_retire rfl rfl fun _ _ named => named
  | terminateSessions deviceId =>
    cases e
    exact covers_retire rfl rfl fun u _ h => (Bool.and_eq_true_iff.1 h).1
  | freeDevicePortPair port =>
    cases e
    exact covers_freePair port s.db
  | freeSessionPairs deviceId =>
    cases e
    exact covers_same (freeDevicePortPairs_sessions _) (freeDevicePortPairs_now _)
  | addSessionTraffic token sent received connections =>
    obtain ⟨db', hdb, e⟩ := Option.map_eq_some_iff.1 e
    cases e
    exact covers_addSessionTraffic hdb
  | addDeviceTotals token sent received =>
    obtain ⟨db', hdb, e⟩ := Option.map_eq_some_iff.1 e
    cases e
    obtain ⟨_, rfl⟩ := addDeviceTotals_spec hdb
    exact covers_same rfl rfl
  | insertSample token sent received connections =>
    obtain ⟨db', hdb, e⟩ := Option.map_eq_some_iff.1 e
    cases e
    obtain ⟨_, rfl⟩ := insertSample_spec hdb
    exact covers_same rfl rfl
  | upsertHourly token sent received connections =>
    obtain ⟨db', hdb, e⟩ := Option.map_eq_some_iff.1 e
    cases e
    obtain ⟨_, rfl⟩ := upsertHourly_statistics_only hdb
    exact covers_same rfl rfl
  | _ => cases e; exact covers_same rfl rfl

theorem covers_disconnect {q : BackendDisconnect.Query} {r : BackendDisconnect.Answer q}
    (e : FixedPorts.interpDisconnect q s = some (t, r)) :
    Covers (retired cfg (.disconnect q) s.db) s.db t.db := by
  cases q with
  | terminateSessions id =>
    cases e
    exact covers_retire rfl rfl fun u _ h => (Bool.and_eq_true_iff.1 h).1
  | freeDevicePortPair port =>
    cases e
    exact covers_freePair port s.db
  | reserveDevicePortPair id port =>
    cases e
    exact covers_reservePair id port s.db
  | _ => cases e; exact covers_same rfl rfl

theorem covers_putDevices {devices : List Device}
    (e : DeviceService.putDevices devices db = some db') : Covers hit db db' := by
  unfold DeviceService.putDevices at e
  split at e
  · cases e
    exact covers_same rfl rfl
  · cases e

theorem covers_deleteDevice {id : Uuid} (e : DeviceService.deleteDevice id db = some db') :
    Covers (·.deviceId == id) db db' := by
  unfold DeviceService.deleteDevice at e
  split at e
  · cases e
  · cases e
    exact covers_delete rfl rfl

theorem covers_service {c : DeviceService.Write} {r : DeviceService.Written c}
    (e : DeviceService.interp c s = some (t, r)) :
    Covers (retired cfg (.service c) s.db) s.db t.db := by
  cases c with
  | insertDevice device =>
    obtain ⟨db', hdb, e⟩ := Option.map_eq_some_iff.1 e
    cases e
    exact covers_putDevices hdb
  | updateDevice id set =>
    obtain ⟨db', hdb, e⟩ := Option.map_eq_some_iff.1 e
    cases e
    exact covers_putDevices hdb
  | deleteDevice id =>
    obtain ⟨db', hdb, e⟩ := Option.map_eq_some_iff.1 e
    cases e
    exact covers_deleteDevice hdb
  | reservePair id port =>
    cases e
    exact covers_reservePair id port s.db
  | _ => cases e; exact covers_same rfl rfl

theorem covers_statement {c : Statement} {r : FixedPorts.Answer c}
    (e : FixedPorts.interp cfg c s = some (t, r)) : Covers (retired cfg c s.db) s.db t.db := by
  cases c with
  | control c => exact covers_control e
  | disconnect q => exact covers_disconnect e
  | service c => exact covers_service e

theorem covers_event {e : Event} (happens : FixedPorts.Happens s e) :
    Covers (lapsed e s.db) s.db (FixedPorts.after s e).db := by
  cases e with
  | sweep => exact covers_sweep s.db
  | cleanup deviceId => exact covers_cleanup deviceId s.db
  | tick now =>
    refine covers_map (List.map_id' _).symm ?_
    intro u _ counts
    simp only [lapsed, FixedPorts.after, State.mapDb, counted, Bool.and_eq_true,
      decide_eq_true_eq] at counts ⊢
    by_cases out : u.expiresAt ≤ now
    · exact .inl out
    · exact .inr ⟨⟨counts.1, decide_eq_true (Nat.lt_of_not_le out)⟩, le_rfl⟩
  | rescan sessions => exact covers_perm happens rfl
  | draw sessionId token => exact covers_same rfl rfl

end Outflow

section Invariant

def World.counters (w : World) : Counters :=
  (w.logs.registrationErrorsTotal, totalTraffic w.state.db)

def Alone (scrapes : List Scrape) : Prop :=
  ∀ (i j : ℕ) (s t : Scrape), scrapes[i]? = some s → scrapes[j]? = some t →
    s.phase ≠ .ended → t.phase ≠ .ended → i = j

/-- What a call has read lies between the cached counters and the current ones. -/
def Bounded (w : World) : Phase → Prop
  | .queries errors => errors ≤ w.logs.registrationErrorsTotal ∧ ∀ d ∈ w.cached, d.1.1 ≤ errors
  | .gauges c => c ≤ w.counters ∧ ∀ d ∈ w.cached, d.1 ≤ c
  | _ => True

structure Invariant (w : World) : Prop where
  alone : Alone w.scrapes
  cached : ∀ d ∈ w.cached, d.1 ≤ w.counters
  bounded : ∀ s ∈ w.scrapes, Bounded w s.phase
  seen : ∀ s ∈ w.scrapes, s.seen ≤ w.answers.length
  given : ∀ a ∈ w.answers, ∃ c, a.body = counterMetrics c ∧ ∃ d ∈ w.cached, c ≤ d.1
  rising : w.answers.Pairwise fun a b => Below a.body b.body
  before : ∀ (j : ℕ) (b : Answer), w.answers[j]? = some b → b.seen ≤ j

theorem Initial.invariant (initial : Initial w) : Invariant w := by
  obtain ⟨_, _, notCached, noScrapes, noAnswers⟩ := initial
  constructor <;> simp [notCached, noScrapes, noAnswers, Alone]

theorem below_of_le {c d : Counters} (le : c ≤ d) :
    Below (counterMetrics c) (counterMetrics d) := by
  obtain ⟨errors, sent, received⟩ := le
  simp [Below, counterMetrics, errors, sent, received]

theorem Invariant.monotone (inv : Invariant w) : Monotone w := by
  intro later mem earlier mem'
  obtain ⟨j, at_⟩ := List.mem_iff_getElem?.1 mem
  obtain ⟨i, at_'⟩ := List.mem_iff_getElem?.1 mem'
  have limit := inv.before j later at_
  rw [List.getElem?_take] at at_'
  split at at_'
  · obtain ⟨short, rfl⟩ := List.getElem?_eq_some_iff.1 at_
    obtain ⟨short', rfl⟩ := List.getElem?_eq_some_iff.1 at_'
    exact List.pairwise_iff_getElem.1 inv.rising i j short' short (by omega)
  · cases at_'

theorem mem_reports {c : Counters} : c ∈ w.reports ↔
    (∃ d ∈ w.cached, d.1 = c) ∨ ∃ s ∈ w.scrapes, s.phase = .gauges c := by
  unfold World.reports
  rw [List.mem_append, List.mem_filterMap]
  refine or_congr (by simp) (exists_congr fun s => and_congr_right fun _ => ?_)
  cases s.phase <;> simp

theorem Invariant.grow (inv : Invariant w) (scrapes : w'.scrapes = w.scrapes)
    (cached : w'.cached = w.cached) (answers : w'.answers = w.answers)
    (errors : w.logs.registrationErrorsTotal ≤ w'.logs.registrationErrorsTotal)
    (reports : ∀ c ∈ w.reports, c.2 ≤ totalTraffic w'.state.db) : Invariant w' := by
  refine ⟨scrapes ▸ inv.alone, ?_, ?_, ?_, ?_, answers ▸ inv.rising, answers ▸ inv.before⟩
  · intro d hd
    rw [cached] at hd
    exact ⟨(inv.cached d hd).1.trans errors, reports d.1 (mem_reports.2 (.inl ⟨d, hd, rfl⟩))⟩
  · intro s hs
    rw [scrapes] at hs
    have old := inv.bounded s hs
    cases phase : s.phase with
    | queries n =>
      rw [phase] at old
      exact ⟨old.1.trans errors, cached ▸ old.2⟩
    | gauges c =>
      rw [phase] at old
      exact ⟨⟨old.1.1.trans errors, reports c (mem_reports.2 (.inr ⟨s, hs, phase⟩))⟩,
        cached ▸ old.2⟩
    | _ => trivial
  · rw [scrapes, answers]
    exact inv.seen
  · rw [answers, cached]
    exact inv.given

theorem Invariant.reports (inv : Invariant w) : ∀ c ∈ w.reports, c.2 ≤ totalTraffic w.state.db := by
  intro c hc
  rcases mem_reports.1 hc with ⟨d, hd, rfl⟩ | ⟨s, hs, phase⟩
  · exact (inv.cached d hd).2
  · have bounded := inv.bounded s hs
    rw [phase] at bounded
    exact bounded.1.2

/-- The tables change, and what is taken out was never reported. -/
theorem Invariant.with_state (inv : Invariant w) (spared : Spared w hit)
    (covers : Covers hit w.state.db t.db) : Invariant { w with state := t } := by
  refine inv.grow rfl rfl rfl le_rfl ?_
  intro c hc
  have reported := inv.reports c hc
  have room : c.2 + taken hit w.state.db ≤ totalTraffic w.state.db :=
    add_le_of_le_tsub_left_of_le reported (spared c hc)
  have kept : taken hit w.state.db + c.2 ≤ taken hit w.state.db + totalTraffic t.db := by
    rw [add_comm]
    exact room.trans covers
  exact le_of_add_le_add_left kept

theorem Alone.set {scrapes : List Scrape} {s s' : Scrape} (alone : Alone scrapes)
    (at_ : scrapes[i]? = some s) (busy : s.phase ≠ .ended) : Alone (scrapes.set i s') := by
  have other (j : ℕ) (t : Scrape) (there : (scrapes.set i s')[j]? = some t)
      (busy' : t.phase ≠ .ended) : j = i := by
    by_cases same : i = j
    · exact same.symm
    · rw [List.getElem?_set_ne same] at there
      exact (alone i j s t at_ there busy busy').symm
  intro j k t u at_j at_k busy_j busy_k
  rw [other j t at_j busy_j, other k u at_k busy_k]

theorem Invariant.put {s : Scrape} {phase : Phase} (inv : Invariant w)
    (at_ : w.scrapes[i]? = some s) (busy : s.phase ≠ .ended) (bounded : Bounded w phase) :
    Invariant (w.put i { s with phase := phase }) := by
  refine ⟨inv.alone.set at_ busy, inv.cached, ?_, ?_, inv.given, inv.rising, inv.before⟩
  · intro t ht
    rcases List.mem_or_eq_of_mem_set ht with old | rfl
    · exact inv.bounded t old
    · exact bounded
  · intro t ht
    rcases List.mem_or_eq_of_mem_set ht with old | rfl
    · exact inv.seen t old
    · exact inv.seen s (List.mem_of_getElem? at_)

theorem Invariant.answer {d : Counters × ℤ} {seen : ℕ} (inv : Invariant w)
    (cached : w.cached = some d) (past : seen ≤ w.answers.length) :
    Invariant (w.answer seen d.1) := by
  refine ⟨inv.alone, inv.cached, inv.bounded, ?_, ?_, ?_, ?_⟩
  · intro s hs
    have bound := inv.seen s hs
    simp only [World.answer, List.length_append, List.length_singleton]
    omega
  · intro a ha
    rcases List.mem_append.1 ha with old | new
    · exact inv.given a old
    · rw [List.mem_singleton.1 new]
      exact ⟨d.1, rfl, d, cached, le_rfl⟩
  · refine List.pairwise_append.2 ⟨inv.rising, List.pairwise_singleton _ _, ?_⟩
    intro a ha b hb
    rw [List.mem_singleton.1 hb]
    obtain ⟨c, body, e, he, le⟩ := inv.given a ha
    rw [cached] at he
    cases he
    rw [body]
    exact below_of_le le
  · intro j b hb
    rw [World.answer, List.getElem?_append] at hb
    split at hb
    · exact inv.before j b hb
    · rw [List.getElem?_singleton] at hb
      split at hb
      · cases hb
        change seen ≤ j
        omega
      · cases hb

theorem Invariant.store {s : Scrape} {c : Counters} (inv : Invariant w)
    (at_ : w.scrapes[i]? = some s) (phase : s.phase = .gauges c) :
    Invariant { w.put i { s with phase := .ended } with cached := some (c, s.now) } := by
  have busy : s.phase ≠ .ended := by simp [phase]
  have bounded := inv.bounded s (List.mem_of_getElem? at_)
  rw [phase] at bounded
  have kept : Invariant (w.put i { s with phase := .ended }) := inv.put at_ busy trivial
  refine ⟨kept.alone, ?_, ?_, kept.seen, ?_, inv.rising, inv.before⟩
  · intro d hd
    cases hd
    exact bounded.1
  · intro t ht
    obtain ⟨j, there⟩ := List.mem_iff_getElem?.1 ht
    have ended : t.phase = .ended := by
      by_contra busy'
      change (w.scrapes.set i _)[j]? = some t at there
      by_cases same : i = j
      · subst same
        rw [List.getElem?_set_self (List.getElem?_eq_some_iff.1 at_).1] at there
        cases there
        exact busy' rfl
      · rw [List.getElem?_set_ne same] at there
        exact same (inv.alone i j s t at_ there busy busy')
    rw [ended]
    trivial
  · intro a ha
    obtain ⟨c', body, d, hd, le⟩ := inv.given a ha
    exact ⟨c', body, (c, s.now), rfl, le.trans (bounded.2 d hd)⟩

theorem scrapeLogFile_errors {file : File} {m m' : LogMetrics}
    (h : scrapeLogFile file m = some m') :
    m.registrationErrorsTotal ≤ m'.registrationErrorsTotal := by
  simp only [scrapeLogFile] at h
  generalize (if m.offset _ > _ then 0 else m.offset _) = offset at h
  split_ifs at h
  · cases h
    exact le_rfl
  · cases h
    exact Nat.le_add_right _ _

theorem scrapeRegistrationLogs_errors (files : List File) (m : LogMetrics) :
    m.registrationErrorsTotal ≤ (scrapeRegistrationLogs files m).1.registrationErrorsTotal := by
  induction files generalizing m with
  | nil => exact le_rfl
  | cons file files ih =>
    unfold scrapeRegistrationLogs
    split
    · cases found : scrapeLogFile file m with
      | none => exact le_rfl
      | some m' => exact (scrapeLogFile_errors found).trans (ih m')
    · exact ih m

theorem Invariant.scrape (inv : Invariant w)
    (careful : (w.fresh p).isSome ∨ ∀ s ∈ w.scrapes, s.phase = .ended) :
    Invariant (w.scrape p) := by
  unfold World.scrape
  cases fresh : w.fresh p with
  | some c =>
    obtain ⟨d, cached, h⟩ := Option.bind_eq_some_iff.1 fresh
    split at h
    · cases h
      exact inv.answer cached le_rfl
    · cases h
  | none =>
    have ended : ∀ s ∈ w.scrapes, s.phase = .ended := by
      rcases careful with hit | ended
      · rw [fresh] at hit
        cases hit
      · exact ended
    have index (j : ℕ) (s : Scrape) (busy : s.phase ≠ .ended)
        (there : (w.scrapes ++ [⟨w.date, w.answers.length, .health⟩])[j]? = some s) :
        j = w.scrapes.length := by
      rw [List.getElem?_append] at there
      split at there
      · exact absurd (ended s (List.mem_of_getElem? there)) busy
      · rw [List.getElem?_singleton] at there
        split at there
        · omega
        · cases there
    refine ⟨?_, inv.cached, ?_, ?_, inv.given, inv.rising, inv.before⟩
    · intro j k s t at_j at_k busy_j busy_k
      rw [index j s busy_j at_j, index k t busy_k at_k]
    · intro s hs
      rcases List.mem_append.1 hs with old | new
      · exact inv.bounded s old
      · rw [List.mem_singleton.1 new]
        trivial
    · intro s hs
      rcases List.mem_append.1 hs with old | new
      · exact inv.seen s old
      · rw [List.mem_singleton.1 new]

theorem Invariant.proceed {s : Scrape} (inv : Invariant w) (at_ : w.scrapes[i]? = some s)
    (e : w.proceed i s = some w') : Invariant w' := by
  have mem := List.mem_of_getElem? at_
  unfold World.proceed at e
  split at e
  · rename_i phase
    cases e
    have busy : s.phase ≠ .ended := by simp [phase]
    have errors := scrapeRegistrationLogs_errors w.files w.logs
    have read : Invariant { w with logs := (scrapeRegistrationLogs w.files w.logs).1 } :=
      inv.grow rfl rfl rfl errors inv.reports
    refine read.put at_ busy ?_
    split
    · exact ⟨le_rfl, fun d hd => (read.cached d hd).1⟩
    · trivial
  · rename_i n phase
    cases e
    have bounded := inv.bounded s mem
    rw [phase] at bounded
    refine inv.put at_ (by simp [phase]) ⟨⟨bounded.1, le_rfl⟩, ?_⟩
    exact fun d hd => ⟨bounded.2 d hd, (inv.cached d hd).2⟩
  · rename_i c phase
    cases e
    have stored := inv.store at_ phase
    exact stored.answer rfl (inv.seen s mem)
  · cases e

theorem Invariant.fail {s : Scrape} (inv : Invariant w) (at_ : w.scrapes[i]? = some s)
    (e : w.fail i s = some w') : Invariant w' := by
  unfold World.fail at e
  split at e
  · rename_i phase
    cases e
    exact inv.put at_ (by simp [phase]) trivial
  · rename_i phase
    cases e
    exact inv.put at_ (by simp [phase]) trivial
  · cases e

theorem Invariant.step (inv : Invariant w) (enabled : Enabled p w a) (careful : Careful p w a) :
    Invariant ((step p w a).getD w) := by
  cases a with
  | statement c =>
    obtain ⟨w', e⟩ := Option.isSome_iff_exists.1 enabled
    rw [e]
    obtain ⟨r, executed, e⟩ := Option.map_eq_some_iff.1 e
    cases e
    exact inv.with_state careful (covers_statement executed)
  | event e => exact inv.with_state careful (covers_event enabled)
  | logs files => exact inv.grow rfl rfl rfl le_rfl inv.reports
  | clock date => exact inv.grow rfl rfl rfl le_rfl inv.reports
  | scrape => exact inv.scrape careful
  | proceed i =>
    obtain ⟨w', e⟩ := Option.isSome_iff_exists.1 enabled
    rw [e]
    obtain ⟨s, at_, e⟩ := Option.bind_eq_some_iff.1 e
    exact inv.proceed at_ e
  | fail i =>
    obtain ⟨w', e⟩ := Option.isSome_iff_exists.1 enabled
    rw [e]
    obtain ⟨s, at_, e⟩ := Option.bind_eq_some_iff.1 e
    exact inv.fail at_ e

end Invariant

/-- In a run whose steps are careful every later answer has counters at least as high. -/
theorem counters_monotone (run : (backend p).Run log w)
    (careful : ∀ e ∈ log, Careful p e.1 e.2) : Monotone w := by
  have inv : Invariant w := run.invariant (fun _ => Initial.invariant)
    (fun _ _ inv enabled careful => inv.step enabled careful) careful
  exact inv.monotone

namespace Sample

def process : Process := ⟨DeviceManager.Sample.cfg, some 5000⟩

def session : Session :=
  { id := 100, deviceId := 1, sessionToken := "t100", assignedPort := 6000, startedAt := 0,
    expiresAt := 3600, bytesSent := 700, bytesReceived := 900, activeConnections := 1,
    status := .active }

def started : World where
  state := DeviceManager.Sample.start.mapDb fun db => { db with sessions := [session] }
  files := []
  date := 0
  logs := ⟨[], 0⟩
  cached := none
  scrapes := []
  answers := []

theorem run_started : (backend process).Run [] started := .start ⟨rfl, rfl, rfl, rfl, rfl⟩

/-- A call of `collectPrometheusMetrics` from start to end. -/
def collected (i : ℕ) : List Action := [.scrape, .proceed i, .proceed i, .proceed i]

end Sample

/-- Between two scrapes the session sends and receives more bytes. -/
theorem growing_session_monotone : ∃ log w, (backend Sample.process).Run log w ∧
    w.answers.length = 2 ∧ Monotone w := by
  obtain ⟨log, w, run, found⟩ := Sample.run_started.follow_any
    (Sample.collected 0 ++ [Action.statement (.control (.addSessionTraffic "t100" 50 60 1)),
      .clock 15000] ++ Sample.collected 1)
    (fun r => decide ((∀ e ∈ r.1, Careful Sample.process e.1 e.2) ∧ r.2.answers.length = 2))
    (by decide +kernel)
  obtain ⟨careful, answered⟩ := of_decide_eq_true found
  exact ⟨log, w, run, answered, counters_monotone run careful⟩

/-- A session that expires between two scrapes takes its bytes out of the counters. -/
theorem expired_session_lowers : ¬ ∀ (p : Process) (log : List (World × Action)) (w : World),
    (backend p).Run log w → Monotone w := by
  intro always
  obtain ⟨log, w, run, found⟩ := Sample.run_started.follow_any
    (Sample.collected 0 ++ [Action.event (.tick 3601), .event .sweep, .clock 3601000] ++
      Sample.collected 1)
    (fun r => decide (¬ Monotone r.2)) (by decide +kernel)
  exact of_decide_eq_true found (always Sample.process log w run)

end PrometheusCounters
