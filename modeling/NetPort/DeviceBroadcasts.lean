import Mathlib.Data.List.Basic
import NetPort.NotifiedViews
import NetPort.StepRuns

/-! From a statement on a device's rows to the device list of a browser: the triggers notify, the
watcher collects the payloads and reads the devices again, and the list takes the events over.
One browser is followed, with its connection on the channel `admin`. Times are milliseconds. -/
namespace DeviceBroadcasts

open StepRuns

abbrev Uuid := ℕ

inductive Value where
  | null
  | text (s : String)
  | number (n : ℕ)
  | boolean (b : Bool)
  deriving DecidableEq, Repr

/-- A TIMESTAMP column; no statement writes NULL to those that are compared. -/
def Value.time : Value → ℕ
  | .number n => n
  | _ => 0

inductive DeviceColumn where
  | deviceId | name | description | type | status | authTokenHash | assignedPort | preferredPort
  | internalAddress | internalPort | enableInputSsl | enableTunnelSsl | protocol | capabilities
  | metadata | createdAt | updatedAt | lastHeartbeat | totalBytesReceived | totalBytesSent | userId
  deriving DecidableEq, Repr

inductive SessionColumn where
  | sessionToken | clientIp | clientPort | serverIp | assignedPort | startedAt | lastActivity
  | expiresAt | bytesSent | bytesReceived | activeConnections | status
  deriving DecidableEq, Repr

abbrev Row (C : Type) := C → Value

/-- `SET` of an UPDATE. -/
def assign {C : Type} [DecidableEq C] (set : List (C × Value)) (row : Row C) : Row C :=
  fun c => (set.lookup c).getD (row c)

structure Session where
  id : Uuid
  device : Uuid
  row : Row SessionColumn

/-- `born` are the ids of `devices` so far; `uuid_generate_v4()` gives none twice. -/
structure Tables where
  devices : Uuid → Option (Row DeviceColumn)
  born : List Uuid
  sessions : List Session

inductive Change where
  | insertDevice (id : Uuid) (row : Row DeviceColumn)
  | updateDevice (id : Uuid) (set : List (DeviceColumn × Value))
  | deleteDevice (id : Uuid)
  | insertSession (session : Session)
  | updateSession (id : Uuid) (set : List (SessionColumn × Value))
  | deleteSession (id : Uuid)

def Session.update (id : Uuid) (set : List (SessionColumn × Value)) (s : Session) : Session :=
  if s.id = id then { s with row := assign set s.row } else s

def Change.apply (t : Tables) : Change → Tables
  | .insertDevice id row =>
    { t with devices := Function.update t.devices id (some row), born := id :: t.born }
  | .updateDevice id set =>
    { t with devices := Function.update t.devices id ((t.devices id).map (assign set)) }
  | .deleteDevice id => { t with devices := Function.update t.devices id none }
  | .insertSession session => { t with sessions := t.sessions ++ [session] }
  | .updateSession id set => { t with sessions := t.sessions.map (Session.update id set) }
  | .deleteSession id => { t with sessions := t.sessions.filter fun s => s.id != id }

/-- The text of a uuid, or the object that `notify_device_status_change` builds for a DELETE. -/
inductive Payload where
  | device (id : Uuid)
  | deleted (id : Uuid) (deviceId userId : Value)
  deriving DecidableEq, Repr

def Payload.id : Payload → Uuid
  | .device id => id
  | .deleted id _ _ => id

/-- `AFTER UPDATE OF` of `devices_status_notify` -/
def DeviceColumn.announced : DeviceColumn → Bool
  | .status | .assignedPort | .preferredPort | .lastHeartbeat => true
  | _ => false

/-- `AFTER UPDATE OF` of `device_sessions_status_notify` -/
def SessionColumn.announced : SessionColumn → Bool
  | .status | .assignedPort | .lastActivity | .activeConnections | .bytesSent | .bytesReceived =>
    true
  | _ => false

/-- The triggers fire for each row; an UPDATE counts by the columns that it names. -/
def Change.notifyDeviceStatusChange (t : Tables) : Change → List Payload
  | .insertDevice id _ => [.device id]
  | .updateDevice id set =>
    if (t.devices id).isSome && set.any (·.1.announced) then [.device id] else []
  | .deleteDevice id =>
    (t.devices id).toList.map fun row => .deleted id (row .deviceId) (row .userId)
  | .insertSession session => [.device session.device]
  | .updateSession id set =>
    if set.any (·.1.announced) then (t.sessions.filter (·.id = id)).map (.device ·.device) else []
  | .deleteSession id => (t.sessions.filter (·.id = id)).map (.device ·.device)

def runChanges (t : Tables) : List Change → Tables × List Payload
  | [] => (t, [])
  | c :: cs =>
    let rest := runChanges (c.apply t) cs
    (rest.1, c.notifyDeviceStatusChange t ++ rest.2)

/-- The statements of the repository set `expires_at` or `started_at` of a session only together
with a column that is announced. -/
def Change.Honest (t : Tables) : Change → Prop
  | .insertDevice id _ => id ∉ t.born
  | .updateSession _ set =>
    set.any (·.1.announced) ∨ ∀ a ∈ set, a.1 ≠ .expiresAt ∧ a.1 ≠ .startedAt
  | _ => True

def Honest (t : Tables) : List Change → Prop
  | [] => True
  | c :: cs => c.Honest t ∧ Honest (c.apply t) cs

/-- What `fetchDeviceBroadcastPayload` reads; the name of the owner is left out. -/
structure Joined where
  device : Row DeviceColumn
  session : Option (Row SessionColumn)

def Session.isLive (device : Uuid) (now : ℕ) (s : Session) : Bool :=
  s.device == device && s.row .status == .text "active" && now < (s.row .expiresAt).time

/-- `DISTINCT ON (device_id) … ORDER BY started_at DESC` -/
def latestStarted : List Session → Option Session
  | [] => none
  | s :: rest =>
    match latestStarted rest with
    | none => some s
    | some t => if (s.row .startedAt).time < (t.row .startedAt).time then some t else some s

def liveSession (t : Tables) (now : ℕ) (device : Uuid) : Option Session :=
  latestStarted (t.sessions.filter (·.isLive device now))

def fetchDeviceBroadcastPayload (t : Tables) (now : ℕ) (id : Uuid) : Option Joined :=
  (t.devices id).map fun row => ⟨row, (liveSession t now id).map (·.row)⟩

inductive Field where
  | column (c : DeviceColumn)
  | sessionPort | lastActivity | activeConnections | bytesSent | bytesReceived
  | online
  deriving DecidableEq, Repr

abbrev Object := Field → Option Value

def isOnline (row : Row DeviceColumn) (now : ℕ) : Bool :=
  match row .lastHeartbeat with
  | .number heartbeat => now - heartbeat < 2 * 60 * 1000
  | _ => false

def enrichDeviceWithOnline (device : Joined) (now : ℕ) : Object :=
  let online := isOnline device.device now
  let session := fun c => (device.session.map (· c)).getD .null
  let hasLiveSession := session .assignedPort != .null || session .lastActivity != .null ||
    session .activeConnections != .null
  fun
  | .column .status =>
    if device.device .status = .text "connecting" ∧ online ∧ hasLiveSession then
      some (.text "active")
    else some (device.device .status)
  | .column c => some (device.device c)
  | .sessionPort => some (session .assignedPort)
  | .lastActivity => some (session .lastActivity)
  | .activeConnections => some (session .activeConnections)
  | .bytesSent => some (session .bytesSent)
  | .bytesReceived => some (session .bytesReceived)
  | .online => some (.boolean online)

structure Item where
  id : Uuid
  fields : Object

/-- `{ ...existing, ...update }` -/
def spread (existing update : Item) : Item :=
  ⟨update.id, fun f => (update.fields f).or (existing.fields f)⟩

def mergeDeviceUpdate (prev : List Item) (updatedDevice : Item) : List Item :=
  match prev.findIdx? (·.id == updatedDevice.id) with
  | none => prev ++ [updatedDevice]
  | some index => prev.modify index fun item => spread item updatedDevice

def removeDeviceFromList (prev : List Item) (id : Uuid) : List Item :=
  prev.filter (·.id != id)

/-- A read that the database has answered; `rest` is what is left of the flush it belongs to. -/
structure Answer where
  device : Uuid
  joined : Option Joined
  rest : List Payload

/-- `channel` holds the notifications on their way; `pending` is `pendingDevicePayloads` and
`timer` tells whether `deviceFlushTimer` is set. `jobs` are the flushes that are about to handle
their first payload, among them the sets of former connections, whose timers go on; they also
stand for the broadcasts of the routes and of the auto-connect cycle. -/
structure State where
  tables : Tables
  now : ℕ
  listening : Bool
  channel : List Payload
  pending : List Payload
  timer : Bool
  jobs : List (List Payload)
  answers : List Answer
  list : List Item

inductive Action where
  | commit (changes : List Change)
  | tick (now : ℕ)
  | receive
  | flush
  | read (earlier : List (List Payload)) (id : Uuid) (rest : List Payload)
      (later : List (List Payload))
  | readFails (earlier : List (List Payload)) (id : Uuid) (rest : List Payload)
      (later : List (List Payload))
  | remove (earlier : List (List Payload)) (id : Uuid) (deviceId userId : Value)
      (rest : List Payload) (later : List (List Payload))
  | deliver (earlier : List Answer) (answer : Answer) (later : List Answer)
  | routeBroadcast (id : Uuid)
  | routeRemoved (id : Uuid)
  | disconnect
  | reconnect
  | load (list : List Item)

def Enabled (s : State) : Action → Prop
  | .commit changes => Honest s.tables changes
  | .tick now => s.now ≤ now
  | .receive => s.listening = true ∧ s.channel ≠ []
  | .flush => s.timer = true
  | .read earlier id rest later | .readFails earlier id rest later =>
    s.jobs = earlier ++ (.device id :: rest) :: later
  | .remove earlier id deviceId userId rest later =>
    s.jobs = earlier ++ (.deleted id deviceId userId :: rest) :: later
  | .deliver earlier answer later => s.answers = earlier ++ answer :: later
  | .routeBroadcast _ => True
  | .routeRemoved id => id ∈ s.tables.born ∧ s.tables.devices id = none
  | .disconnect => s.listening = true
  | .reconnect => s.listening = false
  | .load list => (list.map (·.id)).Nodup

/-- `broadcastDeviceById`, once the row is there. -/
def broadcast (list : List Item) (now : ℕ) (id : Uuid) : Option Joined → List Item
  | some joined => mergeDeviceUpdate list ⟨id, enrichDeviceWithOnline joined now⟩
  | none => removeDeviceFromList list id

/-- `scheduleDeviceBroadcast`; a JavaScript `Set` keeps the order of insertion. -/
def State.schedule (s : State) (payload : Payload) : State :=
  { s with
    pending := if payload ∈ s.pending then s.pending else s.pending ++ [payload]
    timer := true }

/-- NOTIFY drops the repetitions of a payload within a transaction. The handlers of `routeRemoved`
and of a deletion's payload read nothing. -/
def next (s : State) : Action → State
  | .commit changes =>
    let done := runChanges s.tables changes
    { s with
      tables := done.1
      channel := if s.listening then s.channel ++ done.2.eraseDups else s.channel }
  | .tick now => { s with now := now }
  | .receive =>
    match s.channel with
    | [] => s
    | payload :: rest => { s with channel := rest }.schedule payload
  | .flush => { s with jobs := s.jobs ++ [s.pending], pending := [], timer := false }
  | .read earlier id rest later =>
    { s with
      jobs := earlier ++ later
      answers := s.answers ++ [⟨id, fetchDeviceBroadcastPayload s.tables s.now id, rest⟩] }
  | .readFails earlier _ rest later => { s with jobs := earlier ++ rest :: later }
  | .remove earlier id _ _ rest later =>
    { s with jobs := earlier ++ rest :: later, list := removeDeviceFromList s.list id }
  | .deliver earlier answer later =>
    { s with
      answers := earlier ++ later
      jobs := s.jobs ++ [answer.rest]
      list := broadcast s.list s.now answer.device answer.joined }
  | .routeBroadcast id => { s with jobs := s.jobs ++ [[.device id]] }
  | .routeRemoved id => { s with list := removeDeviceFromList s.list id }
  | .disconnect =>
    { s with
      listening := false
      channel := []
      jobs := if s.timer then s.jobs ++ [s.pending] else s.jobs
      pending := []
      timer := false }
  | .reconnect => { s with listening := true }
  | .load list => { s with list := list }

def Started (s : State) : Prop :=
  s.listening = false ∧ s.channel = [] ∧ s.pending = [] ∧ s.timer = false ∧ s.jobs = [] ∧
    s.answers = [] ∧ s.list = [] ∧ ∀ id, s.tables.devices id ≠ none → id ∈ s.tables.born

def system : System State Action := ⟨Started, Enabled, next⟩

/-- The part of a broadcast whose changes are announced. -/
structure Watched where
  device : DeviceColumn → Option Value
  session : Option (SessionColumn → Option Value)

def Joined.watched (j : Joined) : Watched where
  device c := if c.announced then some (j.device c) else none
  session := j.session.map fun row c => if c.announced then some (row c) else none

def Session.announced (s : Session) : SessionColumn → Option Value :=
  fun c => if c.announced then some (s.row c) else none

def watchedNow (t : Tables) (now : ℕ) (id : Uuid) : Option Watched :=
  (fetchDeviceBroadcastPayload t now id).map Joined.watched

variable {t : Tables} {now : ℕ} {k : Uuid}

theorem watchedNow_eq : watchedNow t now k = (t.devices k).map fun row =>
    ⟨fun c => if c.announced then some (row c) else none,
      (liveSession t now k).map Session.announced⟩ := by
  simp only [watchedNow, fetchDeviceBroadcastPayload, Option.map_map]
  congr 1
  funext row
  simp only [Joined.watched, Function.comp_def, Option.map_map]
  rfl

theorem assign_other {C : Type} [DecidableEq C] {set : List (C × Value)} {c : C} (row : Row C)
    (h : ∀ a ∈ set, a.1 ≠ c) : assign set row c = row c := by
  have absent : set.lookup c = none := by
    rw [List.lookup_eq_none_iff]
    intro a mem
    simpa using (h a mem).symm
  rw [assign, absent]
  rfl

theorem assign_announced {C : Type} [DecidableEq C] {announced : C → Bool} {set : List (C × Value)}
    {c : C} (row : Row C) (silent : set.any (announced ·.1) = false) (h : announced c = true) :
    assign set row c = row c := by
  apply assign_other
  rintro a mem rfl
  have quiet := List.any_eq_false.1 silent a mem
  exact quiet h

theorem Session.update_device (id : Uuid) (set : List (SessionColumn × Value)) (s : Session) :
    (s.update id set).device = s.device := by
  unfold Session.update
  split <;> rfl

/-- An unannounced statement leaves the columns that no trigger watches to be set, and of these
neither time. -/
theorem Session.update_silent {id : Uuid} {set : List (SessionColumn × Value)} {c : SessionColumn}
    (s : Session) (silent : set.any (·.1.announced) = false)
    (times : ∀ a ∈ set, a.1 ≠ .expiresAt ∧ a.1 ≠ .startedAt)
    (h : c.announced = true ∨ c = .expiresAt ∨ c = .startedAt) :
    (s.update id set).row c = s.row c := by
  unfold Session.update
  split
  · rcases h with watched | rfl | rfl
    · exact assign_announced s.row silent watched
    · exact assign_other s.row fun a mem => (times a mem).1
    · exact assign_other s.row fun a mem => (times a mem).2
  · rfl

theorem latestStarted_mem {sessions : List Session} {s : Session}
    (h : latestStarted sessions = some s) : s ∈ sessions := by
  induction sessions generalizing s with
  | nil => cases h
  | cons first rest ih =>
    simp only [latestStarted] at h
    cases later : latestStarted rest with
    | none =>
      rw [later] at h
      cases h
      exact List.mem_cons_self
    | some t =>
      simp only [later] at h
      split at h
      · cases h
        exact List.mem_cons_of_mem _ (ih later)
      · cases h
        exact List.mem_cons_self

theorem latestStarted_map {f : Session → Session} {sessions : List Session}
    (h : ∀ s ∈ sessions, (f s).row .startedAt = s.row .startedAt) :
    latestStarted (sessions.map f) = (latestStarted sessions).map f := by
  induction sessions with
  | nil => rfl
  | cons s rest ih =>
    simp only [List.map_cons, latestStarted,
      ih fun t mem => h t (List.mem_cons_of_mem _ mem)]
    cases later : latestStarted rest with
    | none => rfl
    | some t =>
      have started := h t (List.mem_cons_of_mem _ (latestStarted_mem later))
      simp only [Option.map_some, started, h s List.mem_cons_self]
      split <;> rfl

theorem liveSession_eq_of_filter {t t' : Tables}
    (h : t'.sessions.filter (·.isLive k now) = t.sessions.filter (·.isLive k now)) :
    liveSession t' now k = liveSession t now k := by
  rw [liveSession, h, liveSession]

theorem isLive_device {s : Session} (h : s.isLive k now = true) : s.device = k := by
  simp only [Session.isLive, Bool.and_eq_true, beq_iff_eq] at h
  exact h.1.1

theorem isLive_of_ne {s : Session} (other : s.device ≠ k) : s.isLive k now = false := by
  by_contra live
  exact other (isLive_device (Bool.of_not_eq_false live))

/-- Sessions change, but not whether they are live for the device, and the live ones neither in
their start nor in what is announced. -/
theorem liveSession_map (now : ℕ) (k : Uuid) (f : Session → Session) (sessions : List Session)
    (live : ∀ s ∈ sessions, (f s).isLive k now = s.isLive k now)
    (same : ∀ s ∈ sessions, s.isLive k now = true → ∀ c : SessionColumn,
      c.announced = true ∨ c = .startedAt → (f s).row c = s.row c) :
    (latestStarted ((sessions.map f).filter (·.isLive k now))).map Session.announced =
      (latestStarted (sessions.filter (·.isLive k now))).map Session.announced := by
  have filtered : (sessions.map f).filter (·.isLive k now) =
      (sessions.filter (·.isLive k now)).map f := by
    rw [List.filter_map]
    exact congrArg (List.map f) (List.filter_congr live)
  have keeps {s : Session} (mem : s ∈ sessions.filter (·.isLive k now)) {c : SessionColumn}
      (h : c.announced = true ∨ c = .startedAt) : (f s).row c = s.row c := by
    obtain ⟨mem, isLive⟩ := List.mem_filter.1 mem
    exact same s mem isLive c h
  rw [filtered, latestStarted_map fun s mem => keeps mem (.inr rfl), Option.map_map]
  cases found : latestStarted (sessions.filter (·.isLive k now)) with
  | none => rfl
  | some s =>
    simp only [Option.map_some, Function.comp_apply, Option.some.injEq]
    funext c
    simp only [Session.announced]
    split
    · rename_i watched
      rw [keeps (latestStarted_mem found) (.inl watched)]
    · rfl

/-- A change of sessions that is not announced for the device leaves what is announced of its live
session. -/
theorem liveSession_updateSession (now : ℕ) {id : Uuid} {set : List (SessionColumn × Value)}
    (honest : (Change.updateSession id set).Honest t)
    (unannounced : ∀ p ∈ (Change.updateSession id set).notifyDeviceStatusChange t, p.id ≠ k) :
    (latestStarted ((t.sessions.map (Session.update id set)).filter (·.isLive k now))).map
        Session.announced =
      (latestStarted (t.sessions.filter (·.isLive k now))).map Session.announced := by
  by_cases loud : set.any (·.1.announced) = true
  · have others : ∀ s ∈ t.sessions, s.id = id → s.device ≠ k := by
      intro s mem own
      refine unannounced (.device s.device) ?_
      simp only [Change.notifyDeviceStatusChange, if_pos loud, List.mem_map, List.mem_filter]
      exact ⟨s, ⟨mem, by simpa using own⟩, rfl⟩
    have kept {s : Session} (mem : s ∈ t.sessions) (own : s.device = k) : s.update id set = s := by
      rw [Session.update, if_neg fun h => others s mem h own]
    apply liveSession_map
    · intro s mem
      by_cases own : s.device = k
      · rw [kept mem own]
      · rw [isLive_of_ne own, isLive_of_ne (s.update_device id set ▸ own)]
    · intro s mem live c _
      rw [kept mem (isLive_device live)]
  · have silent := Bool.of_not_eq_true loud
    have times : ∀ a ∈ set, a.1 ≠ .expiresAt ∧ a.1 ≠ .startedAt := honest.resolve_left loud
    apply liveSession_map
    · intro s _
      simp only [Session.isLive, Session.update_device,
        s.update_silent silent times (c := .status) (.inl rfl),
        s.update_silent silent times (.inr (.inl rfl))]
    · rintro s _ _ c (watched | rfl)
      · exact s.update_silent silent times (.inl watched)
      · exact s.update_silent silent times (.inr (.inr rfl))

/-- A change that no payload announces for a device is not seen in its broadcast. -/
theorem watchedNow_apply {c : Change} (honest : c.Honest t)
    (unannounced : ∀ p ∈ c.notifyDeviceStatusChange t, p.id ≠ k) :
    watchedNow (c.apply t) now k = watchedNow t now k := by
  simp only [watchedNow_eq]
  cases c with
  | insertDevice id row =>
    have other : id ≠ k := unannounced _ (List.mem_singleton_self _)
    simp only [Change.apply, Function.update_of_ne other.symm]
    rfl
  | updateDevice id set =>
    by_cases same : id = k
    · subst same
      cases row : t.devices id with
      | none =>
        simp [Change.apply, row]
      | some columns =>
        have silent : set.any (·.1.announced) = false := by
          by_contra loud
          have fires : Payload.device id ∈
              (Change.updateDevice id set).notifyDeviceStatusChange t := by
            simp [Change.notifyDeviceStatusChange, row, Bool.of_not_eq_false loud]
          exact unannounced _ fires rfl
        simp only [Change.apply, Function.update_self, row, Option.map_some, Option.some.injEq,
          Watched.mk.injEq]
        refine ⟨?_, rfl⟩
        funext c
        split
        · rename_i watched
          rw [assign_announced columns silent watched]
        · rfl
    · simp only [Change.apply, Function.update_of_ne (Ne.symm same)]
      rfl
  | deleteDevice id =>
    by_cases same : id = k
    · subst same
      cases row : t.devices id with
      | none => simp [Change.apply]
      | some columns =>
        refine absurd rfl (unannounced (.deleted id (columns .deviceId) (columns .userId)) ?_)
        simp [Change.notifyDeviceStatusChange, row]
    · simp only [Change.apply, Function.update_of_ne (Ne.symm same)]
      rfl
  | insertSession session =>
    have other : session.device ≠ k := unannounced _ (List.mem_singleton_self _)
    rw [liveSession_eq_of_filter (t := t)]
    · rfl
    · simp [Change.apply, List.filter_append, isLive_of_ne other]
  | updateSession id set =>
    have settled := liveSession_updateSession now honest unannounced
    simp only [liveSession, Change.apply, settled]
  | deleteSession id =>
    rw [liveSession_eq_of_filter (t := t)]
    · rfl
    · simp only [Change.apply, List.filter_filter]
      apply List.filter_congr
      intro s mem
      by_cases own : s.id = id
      · have other : s.device ≠ k := by
          refine unannounced (.device s.device) ?_
          simp only [Change.notifyDeviceStatusChange, List.mem_map, List.mem_filter]
          exact ⟨s, ⟨mem, by simpa using own⟩, rfl⟩
        simp [isLive_of_ne other]
      · simp [own]

theorem watchedNow_runChanges {changes : List Change} (honest : Honest t changes)
    (unannounced : ∀ p ∈ (runChanges t changes).2, p.id ≠ k) :
    watchedNow (runChanges t changes).1 now k = watchedNow t now k := by
  induction changes generalizing t with
  | nil => rfl
  | cons c cs ih =>
    obtain ⟨first, rest⟩ := honest
    have here : ∀ p ∈ c.notifyDeviceStatusChange t, p.id ≠ k :=
      fun p mem => unannounced p (List.mem_append_left _ mem)
    have later : ∀ p ∈ (runChanges (c.apply t) cs).2, p.id ≠ k :=
      fun p mem => unannounced p (List.mem_append_right _ mem)
    rw [runChanges, ih rest later, watchedNow_apply first here]

theorem apply_gone {c : Change} (honest : c.Honest t) (born : k ∈ t.born)
    (gone : t.devices k = none) : k ∈ (c.apply t).born ∧ (c.apply t).devices k = none := by
  cases c with
  | insertDevice id row =>
    have other : k ≠ id := by
      rintro rfl
      exact honest born
    exact ⟨List.mem_cons_of_mem _ born, by simp [Change.apply, other, gone]⟩
  | updateDevice id set =>
    refine ⟨born, ?_⟩
    by_cases same : k = id
    · subst same
      simp [Change.apply, gone]
    · simp [Change.apply, same, gone]
  | deleteDevice id =>
    refine ⟨born, ?_⟩
    by_cases same : k = id
    · simp [Change.apply, same]
    · simp [Change.apply, same, gone]
  | insertSession session => exact ⟨born, gone⟩
  | updateSession id set => exact ⟨born, gone⟩
  | deleteSession id => exact ⟨born, gone⟩

def Known (t : Tables) : Prop := ∀ id, t.devices id ≠ none → id ∈ t.born

theorem apply_known {c : Change} (known : Known t) : Known (c.apply t) := by
  intro j present
  cases c with
  | insertDevice id row =>
    by_cases same : j = id
    · exact same ▸ List.mem_cons_self
    · exact List.mem_cons_of_mem _ (known j (by simpa [Change.apply, same] using present))
  | updateDevice id set =>
    refine known j fun absent => present ?_
    by_cases same : j = id
    · subst same
      simp [Change.apply, absent]
    · simp [Change.apply, same, absent]
  | deleteDevice id =>
    refine known j fun absent => present ?_
    by_cases same : j = id
    · simp [Change.apply, same]
    · simp [Change.apply, same, absent]
  | insertSession session => exact known j present
  | updateSession id set => exact known j present
  | deleteSession id => exact known j present

theorem notify_gone {c : Change} (known : Known t) {id : Uuid} {deviceId userId : Value}
    (h : Payload.deleted id deviceId userId ∈ c.notifyDeviceStatusChange t) :
    id ∈ (c.apply t).born ∧ (c.apply t).devices id = none := by
  cases c with
  | deleteDevice j =>
    simp only [Change.notifyDeviceStatusChange, List.mem_map, Option.mem_toList] at h
    obtain ⟨row, found, same⟩ := h
    cases same
    exact ⟨known id (by simp [found]), by simp [Change.apply]⟩
  | insertDevice j row => simp [Change.notifyDeviceStatusChange] at h
  | updateDevice j set =>
    simp only [Change.notifyDeviceStatusChange] at h
    split at h <;> simp at h
  | insertSession session => simp [Change.notifyDeviceStatusChange] at h
  | updateSession j set =>
    simp only [Change.notifyDeviceStatusChange] at h
    split at h <;> simp at h
  | deleteSession j => simp [Change.notifyDeviceStatusChange] at h

theorem runChanges_known {changes : List Change} (known : Known t) :
    Known (runChanges t changes).1 := by
  induction changes generalizing t with
  | nil => exact known
  | cons c cs ih => exact ih (apply_known known)

theorem runChanges_gone {changes : List Change} (honest : Honest t changes)
    (born : k ∈ t.born) (gone : t.devices k = none) :
    k ∈ (runChanges t changes).1.born ∧ (runChanges t changes).1.devices k = none := by
  induction changes generalizing t with
  | nil => exact ⟨born, gone⟩
  | cons c cs ih =>
    obtain ⟨born, gone⟩ := apply_gone honest.1 born gone
    exact ih honest.2 born gone

theorem runChanges_notified {changes : List Change} (known : Known t)
    (honest : Honest t changes) {id : Uuid} {deviceId userId : Value}
    (h : Payload.deleted id deviceId userId ∈ (runChanges t changes).2) :
    id ∈ (runChanges t changes).1.born ∧ (runChanges t changes).1.devices id = none := by
  induction changes generalizing t with
  | nil => simp [runChanges] at h
  | cons c cs ih =>
    rcases List.mem_append.1 h with here | later
    · obtain ⟨born, gone⟩ := notify_gone known here
      have kept := runChanges_gone honest.2 born gone
      exact kept
    · exact ih (apply_known known) honest.2 later

def shown (list : List Item) (k : Uuid) : Option Object :=
  (list.find? (·.id == k)).map (·.fields)

theorem mergeDeviceUpdate_cons (item : Item) (list : List Item) (u : Item) :
    mergeDeviceUpdate (item :: list) u =
      if item.id = u.id then spread item u :: list else item :: mergeDeviceUpdate list u := by
  by_cases same : item.id = u.id
  · simp [mergeDeviceUpdate, List.findIdx?_cons, same]
  · have other : (item.id == u.id) = false := by simpa using same
    simp only [mergeDeviceUpdate, List.findIdx?_cons, other, if_neg same]
    cases list.findIdx? (·.id == u.id) with
    | none => simp
    | some i => simp

theorem shown_cons (item : Item) (list : List Item) (k : Uuid) :
    shown (item :: list) k = if item.id = k then some item.fields else shown list k := by
  by_cases same : item.id = k
  · simp [shown, same]
  · have apart : (item.id == k) = false := by simpa using same
    simp only [shown, List.find?_cons, apart, if_neg same]

/-- An object that has every property replaces what the list had. -/
theorem shown_merge (list : List Item) {j k : Uuid} {fields : Object}
    (complete : ∀ f, (fields f).isSome) :
    shown (mergeDeviceUpdate list ⟨j, fields⟩) k = if j = k then some fields else shown list k := by
  induction list with
  | nil => exact shown_cons ⟨j, fields⟩ [] k
  | cons item list ih =>
    rw [mergeDeviceUpdate_cons]
    by_cases here : item.id = j
    · have whole : (spread item ⟨j, fields⟩).fields = fields := by
        funext f
        obtain ⟨v, has⟩ := Option.isSome_iff_exists.1 (complete f)
        simp [spread, has]
      rw [if_pos here, shown_cons, whole, shown_cons, here]
      by_cases same : j = k
      · rw [if_pos (show (spread item ⟨j, fields⟩).id = k from same), if_pos same]
      · rw [if_neg (show ¬ (spread item ⟨j, fields⟩).id = k from same), if_neg same, if_neg same]
    · rw [if_neg here, shown_cons, shown_cons, ih]
      by_cases first : item.id = k
      · have apart : j ≠ k := fun h => here (first.trans h.symm)
        rw [if_pos first, if_pos first, if_neg apart]
      · rw [if_neg first, if_neg first]

theorem shown_remove (list : List Item) (j k : Uuid) :
    shown (removeDeviceFromList list j) k = if j = k then none else shown list k := by
  rw [shown, removeDeviceFromList, List.find?_filter]
  by_cases same : j = k
  · subst same
    simp
  · rw [if_neg same, shown]
    congr 2
    funext item
    by_cases here : item.id = k
    · subst here
      simp [Ne.symm same]
    · simp [here]

theorem mergeDeviceUpdate_ids (list : List Item) (u : Item) :
    (mergeDeviceUpdate list u).map (·.id) =
      if u.id ∈ list.map (·.id) then list.map (·.id) else list.map (·.id) ++ [u.id] := by
  induction list with
  | nil => simp [mergeDeviceUpdate]
  | cons item list ih =>
    rw [mergeDeviceUpdate_cons]
    by_cases here : item.id = u.id
    · simp [here, spread]
    · simp only [if_neg here, List.map_cons, ih, List.mem_cons, Ne.symm here, false_or]
      split <;> rfl

end DeviceBroadcasts
