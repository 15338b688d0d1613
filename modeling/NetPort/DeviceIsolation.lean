import Mathlib.Data.Fintype.EquivFin
import NetPort.DeviceRequests

/-! What the reply to a user depends on: two databases that differ only in the devices of others
are told apart by some requests, and by no others. -/
namespace DeviceIsolation

open PairedRuns SqlUpdate DeviceTables BackendDisconnect DeviceRequests
open DeviceManager (Json)
open DeviceService (WellKeyed conflict unavailable)

def own (user : User) (row : Row) : Bool := row.userId == some user.id

def ownIds (user : User) (t : Tables) : List Uuid := (t.devices.filter (own user)).map (·.id)

/-- The devices have the same ids and owners, and the same names when `names` says so; everything
that belongs to the user's own devices is the same. -/
structure View (names : Bool) (user : User) (s t : Tables) : Prop where
  keyed : WellKeyed (s.devices.map Row.toDevice)
  keyed' : WellKeyed (t.devices.map Row.toDevice)
  users : t.users = s.users
  now : t.now = s.now
  devices : Agree (own user) s.devices t.devices
  owners : ∀ id owner, (∃ d ∈ s.devices, d.id = id ∧ d.userId = owner) ↔
    ∃ d ∈ t.devices, d.id = id ∧ d.userId = owner
  names : names = true → ∀ id deviceId, (∃ d ∈ s.devices, d.id = id ∧ d.deviceId = deviceId) ↔
    ∃ d ∈ t.devices, d.id = id ∧ d.deviceId = deviceId
  sessions : Agree (fun r => (ownIds user s).contains r.deviceId) s.sessions t.sessions
  statistics : Agree (fun r => (ownIds user s).contains r.deviceId) s.statistics t.statistics
  samples : Agree (fun r => (ownIds user s).contains r.deviceId) s.samples t.samples

def Related (names : Bool) (user : User) (s t : Tables) : Prop :=
  View names user s t ∧ t.ports = s.ports

/-- Conflicts with other devices, of the requests that write a device. -/
inductive Aside : Request → DeviceRequests.Failure → Prop
  | createTaken {data drawn authToken} (deviceId : String) :
      Aside (.create data drawn authToken) (.service (conflict deviceId))
  | createPort {data drawn authToken} : Aside (.create data drawn authToken) (.service unavailable)
  | createKey {data drawn authToken} : Aside (.create data drawn authToken) .duplicateKey
  | updatePort {id data} : Aside (.update id data) (.service unavailable)
  | updateKey {id data} : Aside (.update id data) .duplicateKey
  | patchPort {id data} : Aside (.patch id data) (.service unavailable)
  | patchKey {id data} : Aside (.patch id data) .duplicateKey

def SameReply (request : Request) (r r' : Except DeviceRequests.Failure Reply) : Prop :=
  r = r' ∨ ∃ e, (r = .error e ∨ r' = .error e) ∧ Aside request e

/-- The tables with the keys of `devices`. -/
structure Database where
  tables : Tables
  keyed : WellKeyed (tables.devices.map Row.toDevice)

def Isolated (pf : Platform) (names : Bool) (user : User) (request : Request) (s : Database) :
    Prop :=
  ∀ t : Database, Related names user s.tables t.tables →
    SameReply request (respond pf user request s.tables).1 (respond pf user request t.tables).1

variable {pf : Platform} {names : Bool} {user : User} {s t : Tables} {row row' : Row} {id : Uuid}

section Reading

theorem mem_ownIds : id ∈ ownIds user s ↔ ∃ row ∈ s.devices, own user row = true ∧ row.id = id := by
  simp [ownIds, and_assoc]

theorem own_iff (member : isAdminUser user = false) :
    canAccessDevice user row.toDevice = own user row := by
  unfold canAccessDevice own
  cases row.userId <;> simp [member]

theorem wellKeyed_columns {rows : List Row} (keyed : WellKeyed (rows.map Row.toDevice)) :
    (rows.map (·.id)).Nodup ∧ (rows.map (·.deviceId)).Nodup := by
  simpa only [List.map_map, Function.comp_def] using And.intro keyed.1 keyed.2.1

theorem find?_of_mem (keyed : WellKeyed (s.devices.map Row.toDevice)) (mem : row ∈ s.devices) :
    s.devices.find? (·.id == row.id) = some row := by
  have ids := (wellKeyed_columns keyed).1
  obtain ⟨other, found⟩ : ∃ other, s.devices.find? (·.id == row.id) = some other :=
    Option.isSome_iff_exists.1 (List.find?_isSome.2 ⟨row, mem, by simp⟩)
  have same : other.id = row.id := by simpa using List.find?_some found
  rw [found, eq_of_key ids (List.mem_of_find?_eq_some found) mem same]

theorem named_of_mem (keyed : WellKeyed (s.devices.map Row.toDevice)) (mem : row ∈ s.devices) :
    s.devices.find? (·.deviceId == row.deviceId) = some row := by
  have ids := (wellKeyed_columns keyed).2
  obtain ⟨other, found⟩ : ∃ other, s.devices.find? (·.deviceId == row.deviceId) = some other :=
    Option.isSome_iff_exists.1 (List.find?_isSome.2 ⟨row, mem, by simp⟩)
  have same : other.deviceId = row.deviceId := by simpa using List.find?_some found
  rw [found, eq_of_key ids (List.mem_of_find?_eq_some found) mem same]

namespace View

theorem ownIds_eq (h : View names user s t) : ownIds user t = ownIds user s := by
  rw [ownIds, ownIds, h.devices]

theorem mem_iff (h : View names user s t) (mine : own user row = true) :
    row ∈ s.devices ↔ row ∈ t.devices := by
  have both := h.devices
  constructor
  · intro mem
    have visible : row ∈ s.devices.filter (own user) := List.mem_filter.2 ⟨mem, mine⟩
    rw [both] at visible
    exact List.mem_of_mem_filter visible
  · intro mem
    have visible : row ∈ t.devices.filter (own user) := List.mem_filter.2 ⟨mem, mine⟩
    rw [← both] at visible
    exact List.mem_of_mem_filter visible

theorem liveSessions (h : View names user s t) (mine : id ∈ ownIds user s) :
    DeviceRequests.liveSessions id t = DeviceRequests.liveSessions id s := by
  unfold DeviceRequests.liveSessions
  rw [h.now]
  refine (h.sessions.filter fun r hit => ?_).symm
  simp only [Bool.and_eq_true, beq_iff_eq] at hit
  simpa [hit.1.1] using mine

theorem latestSession (h : View names user s t) (mine : id ∈ ownIds user s) :
    DeviceRequests.latestSession id t = DeviceRequests.latestSession id s := by
  rw [DeviceRequests.latestSession, DeviceRequests.latestSession, h.liveSessions mine]

theorem ownerOf (h : View names user s t) (row : Row) :
    DeviceRequests.ownerOf row t = DeviceRequests.ownerOf row s := by
  rw [DeviceRequests.ownerOf, DeviceRequests.ownerOf, h.users]

theorem joined (h : View names user s t) (mine : row.id ∈ ownIds user s) :
    DeviceRequests.joined t row = DeviceRequests.joined s row := by
  unfold DeviceRequests.joined
  rw [h.latestSession mine, h.ownerOf]

theorem detail (h : View names user s t) (mine : row.id ∈ ownIds user s) :
    DeviceRequests.detail row t = DeviceRequests.detail row s := by
  unfold DeviceRequests.detail
  rw [h.liveSessions mine, h.ownerOf, h.now]

theorem activePorts (h : View names user s t) (mine : id ∈ ownIds user s) :
    DeviceRequests.activePorts id t = DeviceRequests.activePorts id s := by
  unfold DeviceRequests.activePorts
  refine congrArg (List.map _) (h.sessions.filter fun r hit => ?_).symm
  simp only [Bool.and_eq_true, beq_iff_eq] at hit
  simpa [hit.1] using mine

theorem find_own (h : View names user s t) (mine : id ∈ ownIds user s) :
    ∃ row, own user row = true ∧ row.id = id ∧ s.devices.find? (·.id == id) = some row ∧
      t.devices.find? (·.id == id) = some row := by
  obtain ⟨row, mem, visible, rfl⟩ := mem_ownIds.1 mine
  have there := (h.mem_iff visible).1 mem
  exact ⟨row, visible, rfl, find?_of_mem h.keyed mem, find?_of_mem h.keyed' there⟩

theorem broadcast (h : View names user s t) (mine : id ∈ ownIds user s) :
    broadcastDeviceById id t = broadcastDeviceById id s := by
  obtain ⟨row, _, rfl, found, found'⟩ := h.find_own mine
  unfold broadcastDeviceById
  rw [found, found', Option.map_some, Option.map_some, h.joined mine, h.now]

end View

/-- What an id names in two databases. -/
inductive Met (names : Bool) (user : User) : Option Row → Option Row → Prop
  | none : Met names user none none
  | own {row : Row} (mine : own user row = true) : Met names user (some row) (some row)
  | other {row row' : Row} (others : DeviceIsolation.own user row = false)
      (others' : DeviceIsolation.own user row' = false)
      (named : names = true → row'.deviceId = row.deviceId) : Met names user (some row) (some row')

theorem View.met (h : View names user s t) (id : Uuid) :
    Met names user (s.devices.find? (·.id == id)) (t.devices.find? (·.id == id)) := by
  have ids : ∀ {r : List Row} {x : Row}, r.find? (·.id == id) = some x → x ∈ r ∧ x.id = id :=
    fun found => ⟨List.mem_of_find?_eq_some found, by simpa using List.find?_some found⟩
  cases found : s.devices.find? (·.id == id) with
  | none =>
    cases found' : t.devices.find? (·.id == id) with
    | none => exact .none
    | some row' =>
      obtain ⟨mem', same⟩ := ids found'
      obtain ⟨row, mem, same', _⟩ := (h.owners id row'.userId).2 ⟨row', mem', same, rfl⟩
      have missing := List.find?_eq_none.1 found row mem
      exact absurd same' (by simpa using missing)
  | some row =>
    obtain ⟨mem, same⟩ := ids found
    obtain ⟨row', mem', same', owner⟩ := (h.owners id row.userId).1 ⟨row, mem, same, rfl⟩
    have found' : t.devices.find? (·.id == id) = some row' := by
      have := find?_of_mem h.keyed' mem'
      rwa [same'] at this
    rw [found']
    by_cases mine : own user row = true
    · have there := find?_of_mem h.keyed' ((h.mem_iff mine).1 mem)
      rw [same, found'] at there
      rw [Option.some.inj there]
      exact .own mine
    · have others : own user row = false := by simpa using mine
      refine .other others (by simpa [own, owner] using others) fun named => ?_
      obtain ⟨twin, memTwin, sameTwin, name⟩ := (h.names named id row.deviceId).1
        ⟨row, mem, same, rfl⟩
      have there := find?_of_mem h.keyed' memTwin
      rw [sameTwin, found'] at there
      rw [Option.some.inj there, name]

end Reading

section Writing

variable {p : Row → Bool} {f : Row → Row}

theorem exists_update {β : Type} {g : Row → β} (keep : ∀ r, g (f r) = g r) (P : β → Prop)
    (rows : List Row) : (∃ d ∈ updateRows p f rows, P (g d)) ↔ ∃ d ∈ rows, P (g d) := by
  have same : (updateRows p f rows).map g = rows.map g := map_updateRows keep rows
  have both : ∀ L : List Row, (∃ d ∈ L, P (g d)) ↔ ∃ b ∈ L.map g, P b := by simp
  rw [both, both, same]

theorem wellKeyed_of {rows rows' : List Row} (keyed : WellKeyed (rows.map Row.toDevice))
    (ids : (rows'.map (·.id)).Nodup) (names : (rows'.map (·.deviceId)).Nodup)
    (ports : rows'.map (·.preferredPort) = rows.map (·.preferredPort)) :
    WellKeyed (rows'.map Row.toDevice) := by
  have filtered : ∀ L : List Row, (L.map Row.toDevice).filterMap (·.preferredPort) =
      (L.map fun r => r.preferredPort).filterMap id := by
    intro L
    simp [List.filterMap_map]
  obtain ⟨_, _, keyPort, valid⟩ := keyed
  refine ⟨?_, ?_, ?_, ?_⟩
  · simpa only [List.map_map, Function.comp_def] using ids
  · simpa only [List.map_map, Function.comp_def] using names
  · rw [filtered, ports, ← filtered]
    exact keyPort
  · intro d hd
    obtain ⟨row', mem', rfl⟩ := List.mem_map.1 hd
    have there : row'.preferredPort ∈ rows.map (·.preferredPort) :=
      ports ▸ List.mem_map_of_mem mem'
    obtain ⟨row, mem, same⟩ := List.mem_map.1 there
    exact same ▸ valid row.toDevice (List.mem_map_of_mem mem)

theorem wellKeyed_update (keep : ∀ d, (f d).id = d.id ∧ (f d).deviceId = d.deviceId ∧
      (f d).preferredPort = d.preferredPort) {rows : List Row}
    (keyed : WellKeyed (rows.map Row.toDevice)) :
    WellKeyed ((updateRows p f rows).map Row.toDevice) := by
  have ids : (updateRows p f rows).map (·.id) = rows.map (·.id) :=
    map_updateRows (fun r => (keep r).1) rows
  have names : (updateRows p f rows).map (·.deviceId) = rows.map (·.deviceId) :=
    map_updateRows (fun r => (keep r).2.1) rows
  refine wellKeyed_of keyed ?_ ?_ (map_updateRows (fun r => (keep r).2.2) rows)
  · rw [ids]
    exact (wellKeyed_columns keyed).1
  · rw [names]
    exact (wellKeyed_columns keyed).2

theorem ownIds_update (keep : ∀ d, (f d).id = d.id ∧ (f d).userId = d.userId) :
    ownIds user { s with devices := updateRows p f s.devices } = ownIds user s := by
  have same : (updateRows p f s.devices).map (fun d => (d.id, d.userId)) =
      s.devices.map fun d => (d.id, d.userId) :=
    map_updateRows (fun r => Prod.ext (keep r).1 (keep r).2) s.devices
  have both : ∀ L : List Row, (L.filter (own user)).map (·.id) =
      ((L.map fun d => (d.id, d.userId)).filter fun x => x.2 == some user.id).map Prod.fst := by
    intro L
    have mine : own user = fun row => row.userId == some user.id := rfl
    simp [List.filter_map, Function.comp_def, mine]
  simp only [ownIds]
  rw [both, both, same]

namespace View

theorem update (h : View names user s t)
    (keep : ∀ d, (f d).id = d.id ∧ (f d).userId = d.userId ∧ (f d).deviceId = d.deviceId)
    (keyed : WellKeyed ((updateRows p f s.devices).map Row.toDevice))
    (keyed' : WellKeyed ((updateRows p f t.devices).map Row.toDevice)) :
    View names user { s with devices := updateRows p f s.devices }
      { t with devices := updateRows p f t.devices } := by
  have ids := @ownIds_update user s p f fun d => ⟨(keep d).1, (keep d).2.1⟩
  refine ⟨keyed, keyed', h.users, h.now, ?_, ?_, ?_, ?_, ?_, ?_⟩
  · refine h.devices.updateRows fun r _ => ?_
    rw [own, own, (keep r).2.1]
  · intro id owner
    have both := exists_update (p := p) (g := fun d : Row => (d.id, d.userId))
      (fun r => Prod.ext (keep r).1 (keep r).2.1) fun x => x.1 = id ∧ x.2 = owner
    exact (both s.devices).trans ((h.owners id owner).trans (both t.devices).symm)
  · intro named id deviceId
    have both := exists_update (p := p) (g := fun d : Row => (d.id, d.deviceId))
      (fun r => Prod.ext (keep r).1 (keep r).2.2) fun x => x.1 = id ∧ x.2 = deviceId
    exact (both s.devices).trans ((h.names named id deviceId).trans (both t.devices).symm)
  · rw [ids]
    exact h.sessions
  · rw [ids]
    exact h.statistics
  · rw [ids]
    exact h.samples

theorem updateSessions (h : View names user s t) {p : SessionRow → Bool}
    {f : SessionRow → SessionRow} (keep : ∀ r, (f r).deviceId = r.deviceId) :
    View names user { s with sessions := updateRows p f s.sessions }
      { t with sessions := updateRows p f t.sessions } := by
  refine ⟨h.keyed, h.keyed', h.users, h.now, h.devices, h.owners, h.names, ?_, h.statistics,
    h.samples⟩
  refine h.sessions.updateRows fun r _ => ?_
  rw [keep]

theorem unseen (h : View names user s t) (a b : ℕ → PortAllocation)
    (c d : List (String × String)) : View names user { s with ports := a, commands := c }
      { t with ports := b, commands := d } :=
  ⟨h.keyed, h.keyed', h.users, h.now, h.devices, h.owners, h.names, h.sessions, h.statistics,
    h.samples⟩

end View

end Writing

section Programs

variable {aside : DeviceRequests.Failure → Prop} {R : Tables → Tables → Prop} {α : Type}
  {f : Row → Service α} {post : α → α → Tables → Tables → Prop} {key : Option String}

def Names (pf : Platform) (key : Option String) (id : Uuid) : Prop :=
  ∃ text, key = some text ∧ pf.uuid text = some id

theorem deviceById_paired (sub : ∀ s t, R s t → View names user s t) :
    Paired aside R (deviceById pf key) (deviceById pf key) fun a b s t =>
      Met names user a b ∧ (∀ row, a = some row → row ∈ s.devices ∧ Names pf key row.id) ∧
        R s t := by
  unfold deviceById
  cases key with
  | none => exact .pure fun s t related => ⟨.none, by simp, related⟩
  | some text =>
    dsimp only
    cases cast : pf.uuid text with
    | none => exact .fail
    | some id =>
      refine .read fun s t related => ⟨(sub s t related).met id, ?_, related⟩
      intro row found
      have same : row.id = id := by simpa using List.find?_some found
      exact ⟨List.mem_of_find?_eq_some found, text, rfl, same ▸ cast⟩

/-- The check of access: only the user's own devices are gone on with. -/
theorem withDevice_paired (member : isAdminUser user = false)
    (sub : ∀ s t, R s t → View names user s t)
    (body : ∀ row, own user row = true → Names pf key row.id → Paired aside
      (fun s t => R s t ∧ row ∈ s.devices ∧ row.id ∈ ownIds user s) (f row) (f row) post) :
    Paired aside R (withDevice pf user key f) (withDevice pf user key f) post := by
  unfold withDevice
  refine .bind (deviceById_paired sub) fun a b => ?_
  refine .of_pre fun s t both => ?_
  obtain ⟨met, found, related⟩ := both
  cases met with
  | none => exact .fail
  | @own row mine =>
    obtain ⟨mem, named⟩ := found row rfl
    simp only [own_iff member, mine, if_true]
    refine (body row mine named).mono ?_ fun _ _ _ _ => id
    rintro _ _ ⟨rfl, rfl⟩
    exact ⟨related, mem, mem_ownIds.2 ⟨row, mem, mine, rfl⟩⟩
  | other others others' _ =>
    simp only [own_iff member, others, others', Bool.false_eq_true, if_false]
    exact .fail

theorem permitted_paired (member : isAdminUser user = false)
    (sub : ∀ s t, R s t → View names user s t) :
    Paired aside R (permitted pf user key) (permitted pf user key) fun _ _ s t =>
      R s t ∧ ∃ id, Names pf key id ∧ id ∈ ownIds user s := by
  unfold permitted
  rw [if_neg (by simp [member])]
  exact withDevice_paired member sub fun row _ named =>
    .pure fun s t both => ⟨both.1, row.id, named, both.2.2⟩

/-- `get` of the service does not check the access again. -/
theorem readDevice_paired : Paired aside
    (fun s t => View names user s t ∧ ∃ id, Names pf key id ∧ id ∈ ownIds user s)
    (readDevice pf key) (readDevice pf key) fun a b _ _ => a = b := by
  unfold readDevice
  have found : Paired aside
      (fun s t => View names user s t ∧ ∃ id, Names pf key id ∧ id ∈ ownIds user s)
      (deviceById pf key) (deviceById pf key) fun a b s t => ∃ row, a = some row ∧ b = some row ∧
        View names user s t ∧ row.id ∈ ownIds user s := by
    rintro s t ⟨view, id, ⟨text, rfl, cast⟩, mine⟩
    obtain ⟨row, _, rfl, here, there⟩ := view.find_own mine
    simp only [deviceById, cast]
    exact ⟨row, here, there, view, mine⟩
  refine .bind found fun a b => .of_pre fun s t both => ?_
  obtain ⟨row, rfl, rfl, view, mine⟩ := both
  refine .bind_eq (.read_eq ?_) fun detail => .pure fun _ _ _ => rfl
  rintro _ _ ⟨rfl, rfl⟩
  exact (view.detail mine).symm

end Programs

section Still

variable {j : Option Json}

theorem checkedPort_still : ∃ r, checkedPort pf j = .lift r := by
  cases j with
  | none => exact ⟨.ok none, rfl⟩
  | some value =>
    refine ⟨((DeviceService.normalizePreferredPort pf.integer value).mapError .service).map some,
      ?_⟩
    funext s
    simp only [checkedPort, checked]
    cases (DeviceService.normalizePreferredPort pf.integer value).mapError Failure.service <;> rfl

theorem checkDeviceId_still (deviceId : String) : ∃ r, checkDeviceId deviceId = .lift r := by
  unfold checkDeviceId
  split
  · exact ⟨.ok (), rfl⟩
  · exact ⟨_, rfl⟩

theorem validateInternalPort_still : ∃ r, validateInternalPort pf j = .lift r := by
  unfold validateInternalPort
  split
  · exact ⟨.ok none, rfl⟩
  · exact ⟨.ok (some none), rfl⟩
  · exact ⟨.ok (some none), rfl⟩
  · split
    · split
      · exact ⟨.error _, rfl⟩
      · exact ⟨.ok _, rfl⟩
    · exact ⟨.error _, rfl⟩

end Still

section Requests

variable {aside : DeviceRequests.Failure → Prop}

def Has (names : Bool) (user : User) (id : Uuid) (s t : Tables) : Prop :=
  View names user s t ∧ id ∈ ownIds user s

theorem Has.update (h : Has names user id s t) {f : ℕ → Row → Row}
    (keep : ∀ now d, (f now d).id = d.id ∧ (f now d).userId = d.userId ∧
      (f now d).deviceId = d.deviceId ∧ (f now d).preferredPort = d.preferredPort) :
    Has names user id { s with devices := updateRows (·.id == id) (f s.now) s.devices }
      { t with devices := updateRows (·.id == id) (f t.now) t.devices } := by
  obtain ⟨view, mine⟩ := h
  have kept : ∀ d, (f s.now d).id = d.id ∧ (f s.now d).deviceId = d.deviceId ∧
      (f s.now d).preferredPort = d.preferredPort :=
    fun d => ⟨(keep s.now d).1, (keep s.now d).2.2⟩
  refine ⟨?_, ?_⟩
  · have step : f t.now = f s.now := congrArg f view.now
    rw [step]
    refine view.update (fun d => ⟨(keep s.now d).1, (keep s.now d).2.1, (keep s.now d).2.2.1⟩) ?_ ?_
    · exact wellKeyed_update kept view.keyed
    · exact wellKeyed_update kept view.keyed'
  · rw [ownIds_update fun d => ⟨(keep s.now d).1, (keep s.now d).2.1⟩]
    exact mine

theorem Has.unseen (h : Has names user id s t) (a b : ℕ → PortAllocation)
    (c d : List (String × String)) : Has names user id { s with ports := a, commands := c }
      { t with ports := b, commands := d } := ⟨h.1.unseen a b c d, h.2⟩

theorem get_paired (member : isAdminUser user = false) (text : String) :
    Paired aside (View names user) (DeviceRequests.get pf user text)
      (DeviceRequests.get pf user text) fun a b _ _ => a = b := by
  unfold DeviceRequests.get
  exact .bind (permitted_paired member fun _ _ => id) fun _ _ => readDevice_paired

theorem get_dropKey (key : String) (json : Json) : (dropKey key json).get key = none := by
  cases json with
  | object fields =>
    have none : (fields.filter (·.1 != key)).find? (·.1 == key) = none := by
      rw [List.find?_eq_none]
      intro field mem
      have ne := List.of_mem_filter mem
      simpa using ne
    simp only [dropKey, Json.get, none, Option.map_none]
  | _ => rfl

theorem findHook_userId (member : isAdminUser user = false) (query : Json) :
    given "user_id" (findHook user query) = none := by
  unfold given findHook
  by_cases named : (query.get "user_id").any notNull = true
  · rw [if_pos (by simp [member, named]), get_dropKey]
    rfl
  · rw [if_neg (by simp [named])]
    cases found : query.get "user_id" with
    | none => rfl
    | some value =>
      cases value with
      | null => rfl
      | _ => exact absurd (by simp [found, notNull]) named

/-- A list is filtered by the owner, whatever else is asked for. -/
theorem deviceFilter_own (member : isAdminUser user = false) {query : Json} {keep : Row → Bool}
    (h : deviceFilter pf user (findHook user query) = .ok keep) :
    ∀ row, keep row = true → own user row = true := by
  simp only [deviceFilter, findHook_userId member, ownerFilter] at h
  cases status : columnFilter pf (given "status" (findHook user query)) with
  | error e => simp [status, bind, Except.bind] at h
  | ok status' =>
    cases type : columnFilter pf (given "type" (findHook user query)) with
    | error e => simp [status, type, bind, Except.bind] at h
    | ok type' =>
      simp only [status, type, bind, Except.bind, pure, Except.pure, Except.ok.injEq] at h
      intro row kept
      rw [← h] at kept
      simp only [applyDeviceOwnershipFilter, member, Bool.false_or, Bool.and_eq_true] at kept
      exact kept.1.1.1

theorem find_paired (member : isAdminUser user = false) (query : Json) :
    Paired aside (View names user) (find pf user query) (find pf user query)
      fun a b _ _ => a = b := by
  unfold find
  dsimp only
  have filtered : Paired aside (View names user)
      (Run.lift (deviceFilter pf user (findHook user query)))
      (Run.lift (deviceFilter pf user (findHook user query))) fun a b s t =>
        a = b ∧ View names user s t ∧ ∀ row, a row = true → own user row = true :=
    .lift fun keep ok s t view => ⟨rfl, view, deviceFilter_own member ok⟩
  refine .bind filtered fun keep keep' => .of_pre fun s t both => ?_
  obtain ⟨rfl, view, mine⟩ := both
  refine .bind_eq (.of_still rfl) fun page => ?_
  refine .bind_eq (.read_eq ?_) fun devices => .bind_eq (.read_eq ?_) fun total =>
    .pure fun _ _ _ => rfl
  · rintro x y ⟨rfl, rfl⟩
    have rows := view.devices.filter mine
    have same :
        (y.devices.filter keep).map (joined y) = (x.devices.filter keep).map (joined x) := by
      rw [rows]
      refine List.map_congr_left fun row mem => view.joined ?_
      rw [← rows] at mem
      obtain ⟨there, kept⟩ := List.mem_filter.1 mem
      exact mem_ownIds.2 ⟨row, there, mine row kept, rfl⟩
    rw [same, view.now]
  · rintro _ _ ⟨rfl, rfl⟩
    exact view.devices.countP mine

theorem restart_paired (member : isAdminUser user = false) (text : String) :
    Paired aside (View names user) (restart pf user text) (restart pf user text)
      fun a b _ _ => a = b := by
  unfold restart
  refine withDevice_paired member (fun _ _ => id) fun row _ _ => ?_
  exact .bind .write_any fun _ _ => .pure fun _ _ _ => rfl

theorem setStatus_paired (status : DeviceStatus) : Paired aside (Has names user id)
    (Run.write (setStatus id status)) (Run.write (setStatus id status))
      fun _ _ => Has names user id :=
  .write fun _ _ has =>
    has.update (f := fun now d => { d with status := status, updatedAt := now })
      fun _ _ => ⟨rfl, rfl, rfl, rfl⟩

theorem connect_paired (member : isAdminUser user = false) (text : String) :
    Paired aside (View names user) (connect pf user text) (connect pf user text)
      fun a b _ _ => a = b := by
  unfold connect
  refine withDevice_paired member (fun _ _ => id) fun row _ _ => ?_
  have read : Paired aside
      (fun s t => View names user s t ∧ row ∈ s.devices ∧ row.id ∈ ownIds user s)
      (Run.read fun t => (latestSession row.id t).isSome && recent t.now row.lastHeartbeat)
      (Run.read fun t => (latestSession row.id t).isSome && recent t.now row.lastHeartbeat)
      fun a b s t => a = b ∧ Has names user row.id s t := by
    refine .read ?_
    rintro s t ⟨view, _, mine⟩
    rw [view.latestSession mine, view.now]
    exact ⟨rfl, view, mine⟩
  refine .bind_eq read fun connected => ?_
  refine .bind (setStatus_paired _) fun _ _ => .bind_eq (.read_eq ?_) fun updated =>
    .pure fun _ _ _ => rfl
  rintro s t ⟨view, mine⟩
  exact (view.broadcast mine).symm

/-- Whether a name or a pair is taken depends on others, and what is said of it is left aside. -/
theorem assertDeviceIdAvailable_paired {R : Tables → Tables → Prop} {deviceId : String}
    (taken : aside (.service (conflict deviceId))) :
    Paired aside R (assertDeviceIdAvailable deviceId) (assertDeviceIdAvailable deviceId)
      fun _ _ => R := by
  unfold assertDeviceIdAvailable
  refine .bind .read_any fun a b => ?_
  by_cases here : (deviceId != "" && a) = true
  · rw [if_pos here]
    exact .fail_left taken
  · by_cases there : (deviceId != "" && b) = true
    · rw [if_pos there]
      exact .fail_right taken
    · rw [if_neg here, if_neg there]
      exact .pure fun _ _ related => related

theorem onPorts_paired (g : Db → Db) : Paired aside (Has names user id)
    (Run.write (Tables.onPorts g)) (Run.write (Tables.onPorts g)) fun _ _ => Has names user id :=
  .write fun _ _ has => has.unseen _ _ _ _

theorem reserve_paired {R : Tables → Tables → Prop} (refused : aside (.service unavailable))
    (stays : ∀ s t g, R s t → R (Tables.onPorts g s) (Tables.onPorts g t)) (port : Option ℕ) :
    Paired aside R (reservePreferredPort id port) (reservePreferredPort id port) fun _ _ => R := by
  cases port with
  | none => exact .pure fun _ _ related => related
  | some port =>
    have write (g : Db → Db) : Paired aside R (Run.write (Tables.onPorts g))
        (Run.write (Tables.onPorts g)) fun _ _ => R := .write fun s t => stays s t g
    refine .bind .read_any fun a b => .bind (write _) fun _ _ => ?_
    cases a with
    | false => exact .fail_left refused
    | true =>
      cases b with
      | false => exact .fail_right refused
      | true => exact .pure fun _ _ related => related

theorem releasePreferredPort_paired (port : Option ℕ) : Paired aside (Has names user id)
    (releasePreferredPort id port) (releasePreferredPort id port)
      fun _ _ => Has names user id := by
  cases port with
  | none => exact .pure fun _ _ has => has
  | some port => exact onPorts_paired _

theorem putDevices_paired {R Q : Tables → Tables → Prop}
    (refused : aside .duplicateKey) {rows : List Row → List Row}
    (kept : ∀ s t, R s t → WellKeyed ((rows s.devices).map Row.toDevice) →
      WellKeyed ((rows t.devices).map Row.toDevice) →
      Q { s with devices := rows s.devices } { t with devices := rows t.devices }) :
    Paired aside R (putDevices pf row rows) (putDevices pf row rows) fun _ _ => Q := by
  unfold putDevices
  by_cases check : (!pf.check row) = true
  · simp only [check, if_true]
    exact .fail
  · simp only [check]
    have read : Paired aside R (Run.read fun t : Tables => rows t.devices)
        (Run.read fun t : Tables => rows t.devices) fun a b s t =>
          a = rows s.devices ∧ b = rows t.devices ∧ R s t :=
      .read fun _ _ related => ⟨rfl, rfl, related⟩
    refine .bind read fun a b => .of_pre fun s t both => ?_
    obtain ⟨rfl, rfl, related⟩ := both
    by_cases here : WellKeyed ((rows s.devices).map Row.toDevice)
    · by_cases there : WellKeyed ((rows t.devices).map Row.toDevice)
      · rw [if_pos here, if_pos there]
        refine .write ?_
        rintro _ _ ⟨rfl, rfl⟩
        exact kept _ _ related here there
      · rw [if_neg there]
        exact .fail_right refused
    · rw [if_neg here]
      exact .fail_left refused

theorem create_paired (data : CreateData) (drawn : DeviceService.Drawn) (authToken : String)
    (taken : ∀ deviceId, aside (.service (conflict deviceId)))
    (refused : aside (.service unavailable)) (duplicate : aside .duplicateKey) :
    Paired aside (View names user) (create pf user data drawn authToken)
      (create pf user data drawn authToken) fun a b _ _ => a = b := by
  unfold create
  obtain ⟨port, port_eq⟩ := @checkedPort_still pf data.preferredPort
  obtain ⟨checkedId, checkedId_eq⟩ := checkDeviceId_still (DeviceService.orElse data.deviceId "")
  refine .bind_eq (.of_still port_eq) fun preferredPort => ?_
  refine .bind_eq (.of_still checkedId_eq) fun _ => ?_
  refine .bind (assertDeviceIdAvailable_paired (taken _)) fun _ _ => ?_
  refine .bind_eq (.of_still rfl) fun _ => ?_
  refine .bind_eq (.read_eq fun s t view => view.now.symm) fun now => ?_
  refine .bind (assertDeviceIdAvailable_paired (taken _)) fun _ _ => ?_
  refine .bind (putDevices_paired (Q := fun _ _ => True) duplicate fun _ _ _ _ _ => trivial)
    fun _ _ => ?_
  refine .bind (reserve_paired refused (fun _ _ _ _ => trivial) _) fun _ _ => ?_
  exact .pure fun _ _ _ => rfl

theorem changePreferredPort_paired (refused : aside (.service unavailable))
    (preferredPort : Option (Option ℕ)) : Paired aside (Has names user row.id)
      (changePreferredPort row preferredPort) (changePreferredPort row preferredPort)
        fun _ _ => Has names user row.id := by
  cases preferredPort with
  | none => exact .pure fun _ _ has => has
  | some port =>
    simp only [changePreferredPort]
    split
    · exact .pure fun _ _ has => has
    · refine .bind_eq (.read_eq fun s t has => ?_) fun session => ?_
      · rw [has.1.liveSessions has.2]
      · split
        · exact .fail
        · refine .bind (releasePreferredPort_paired _) fun _ _ => ?_
          exact reserve_paired refused (fun _ _ _ has => has.unseen _ _ _ _) _

theorem reloadTls_paired (data : UpdateData) : Paired aside (Has names user row.id)
    (reloadTls data row) (reloadTls data row) fun _ _ => Has names user row.id := by
  unfold reloadTls
  refine .bind_eq (.read_eq fun s t has => ?_) fun session => ?_
  · rw [has.1.liveSessions has.2]
  · split
    · exact .write fun _ _ has => has.unseen _ _ _ _
    · exact .pure fun _ _ has => has

theorem update_paired (member : isAdminUser user = false) (key : Option String) (data : UpdateData)
    (refused : aside (.service unavailable)) (duplicate : aside .duplicateKey) :
    Paired aside (View names user) (update pf user key data) (update pf user key data)
      fun a b _ _ => a = b := by
  unfold update
  obtain ⟨port, port_eq⟩ := @checkedPort_still pf data.preferredPort
  obtain ⟨checkedId, checkedId_eq⟩ := checkDeviceId_still (DeviceService.orElse data.deviceId "")
  obtain ⟨internal, internal_eq⟩ := @validateInternalPort_still pf data.internalPort
  refine .bind (permitted_paired member fun _ _ => id) fun _ _ => ?_
  refine .bind_eq (.of_still port_eq) fun preferredPort => ?_
  refine .bind_eq (.of_still checkedId_eq) fun _ => ?_
  refine .bind_eq (.of_still rfl) fun _ => ?_
  refine .bind_eq (.of_still internal_eq) fun internalPort => ?_
  refine withDevice_paired member (fun _ _ related => related.1) fun row _ named => ?_
  have begin : Paired aside
      (fun s t => (View names user s t ∧ ∃ id, Names pf key id ∧ id ∈ ownIds user s) ∧
        row ∈ s.devices ∧ row.id ∈ ownIds user s)
      (changePreferredPort row preferredPort) (changePreferredPort row preferredPort)
      fun _ _ => Has names user row.id :=
    (changePreferredPort_paired refused preferredPort).mono
      (fun _ _ related => ⟨related.1.1, related.2.2⟩) fun _ _ _ _ => id
  refine .bind begin fun _ _ => ?_
  refine .bind_eq (.of_still rfl) fun columns => ?_
  refine .bind_eq (.read_eq fun s t has => has.1.now.symm) fun now => ?_
  have keep : ∀ d, (updatedRow user data columns preferredPort internalPort now d).id = d.id ∧
      (updatedRow user data columns preferredPort internalPort now d).userId = d.userId ∧
      (updatedRow user data columns preferredPort internalPort now d).deviceId = d.deviceId :=
    fun d => ⟨rfl, by simp [updatedRow, member], rfl⟩
  refine .bind (putDevices_paired (Q := Has names user row.id) duplicate ?_) fun _ _ => ?_
  · intro s t has keyed keyed'
    refine ⟨has.1.update keep keyed keyed', ?_⟩
    rw [ownIds_update fun d => ⟨(keep d).1, (keep d).2.1⟩]
    exact has.2
  · refine .bind (reloadTls_paired data) fun _ _ => ?_
    exact readDevice_paired.mono (fun s t has => ⟨has.1, row.id, named, has.2⟩) fun _ _ _ _ => id

def HasPorts (names : Bool) (user : User) (id : Uuid) (s t : Tables) : Prop :=
  Has names user id s t ∧ t.ports = s.ports

theorem release_ports_paired (port : Option ℕ) : Paired aside (HasPorts names user id)
    (releasePreferredPort id port) (releasePreferredPort id port)
      fun _ _ => HasPorts names user id := by
  cases port with
  | none => exact .pure fun _ _ has => has
  | some port =>
    refine .write fun s t has => ⟨has.1.unseen _ _ _ _, ?_⟩
    simp [Tables.onPorts, releaseDevicePortReservation, updatePorts, Tables.db, has.2]

theorem HasPorts.keepsPorts (h : HasPorts names user id s t) :
    DeviceRequests.keepsPorts id s = DeviceRequests.keepsPorts id t := by
  obtain ⟨⟨view, mine⟩, ports⟩ := h
  unfold DeviceRequests.keepsPorts
  rw [ports]
  congr 1
  funext q
  refine congrArg _ (view.sessions.any fun r hit => ?_)
  simp only [Bool.and_eq_true, beq_iff_eq] at hit
  simpa [hit.1] using mine

theorem remove_paired (member : isAdminUser user = false) (key : Option String) :
    Paired aside (Related names user) (remove pf user key) (remove pf user key)
      fun a b _ _ => a = b := by
  unfold remove
  refine .bind (permitted_paired member fun _ _ related => related.1) fun _ _ => ?_
  refine withDevice_paired member (fun _ _ related => related.1.1) fun row _ _ => ?_
  have release : Paired aside
      (fun s t => (Related names user s t ∧ ∃ id, Names pf key id ∧ id ∈ ownIds user s) ∧
        row ∈ s.devices ∧ row.id ∈ ownIds user s)
      (releasePreferredPort row.id row.preferredPort)
      (releasePreferredPort row.id row.preferredPort) fun _ _ => HasPorts names user row.id :=
    (release_ports_paired _).mono (fun _ _ related => ⟨⟨related.1.1.1, related.2.2⟩, related.1.1.2⟩)
      fun _ _ _ _ => id
  refine .bind release fun _ _ => ?_
  have delete : Paired aside (HasPorts names user row.id) (deleteDevice row.id)
      (deleteDevice row.id) fun _ _ _ _ => True := by
    refine .bind_eq (.read_eq fun s t has => has.keepsPorts) fun refused => ?_
    split
    · exact .fail
    · exact .write_any
  exact .bind delete fun _ _ => .pure fun _ _ _ => rfl

end Requests

section Statistics

variable {aside : DeviceRequests.Failure → Prop} {key : String}

theorem own_of_all (h : View names user s t) (all : ∀ row ∈ s.devices, own user row = true) :
    t.devices = s.devices := by
  have all' : ∀ row ∈ t.devices, own user row = true := by
    intro row mem
    obtain ⟨twin, memTwin, _, owner⟩ := (h.owners row.id row.userId).2 ⟨row, mem, rfl, rfl⟩
    have mine := all twin memTwin
    rw [own, owner] at mine
    exact mine
  have both := h.devices
  rw [Agree, List.filter_eq_self.2 all, List.filter_eq_self.2 all'] at both
  exact both.symm

/-- What a name leads to is the same in both: it is the user's own, or nobody has other devices,
or the names are the same. -/
theorem View.met_name (h : View names user s t)
    (settled : names = true ∨ (∃ row ∈ s.devices, own user row = true ∧ row.deviceId = key) ∨
      ∀ row ∈ s.devices, own user row = true) :
    Met names user (s.devices.find? (·.deviceId == key)) (t.devices.find? (·.deviceId == key)) := by
  rcases settled with named | ⟨row, mem, mine, rfl⟩ | all
  · cases found : s.devices.find? (·.deviceId == key) with
    | none =>
      cases found' : t.devices.find? (·.deviceId == key) with
      | none => exact .none
      | some row' =>
        have same : row'.deviceId = key := by simpa using List.find?_some found'
        obtain ⟨row, mem, _, same'⟩ := (h.names named row'.id key).2
          ⟨row', List.mem_of_find?_eq_some found', rfl, same⟩
        exact absurd same' (by simpa using List.find?_eq_none.1 found row mem)
    | some row =>
      have mem := List.mem_of_find?_eq_some found
      have same : row.deviceId = key := by simpa using List.find?_some found
      obtain ⟨row', mem', sameId, same'⟩ := (h.names named row.id key).1 ⟨row, mem, rfl, same⟩
      have found' := named_of_mem h.keyed' mem'
      rw [same'] at found'
      rw [found']
      have met := h.met row.id
      rw [find?_of_mem h.keyed mem] at met
      have there := find?_of_mem h.keyed' mem'
      rw [sameId] at there
      rw [there] at met
      exact met
  · rw [named_of_mem h.keyed mem, named_of_mem h.keyed' ((h.mem_iff mine).1 mem)]
    exact .own mine
  · rw [own_of_all h all]
    cases found : s.devices.find? (·.deviceId == key) with
    | none => exact .none
    | some row => exact .own (all row (List.mem_of_find?_eq_some found))

/-- The key of a statistics route leads to the same in every related state. -/
def Settled (pf : Platform) (names : Bool) (user : User) (key : String) (s : Tables) : Prop :=
  names = true ∨ ∀ id, pf.uuid key = some id → (∃ row ∈ s.devices, row.id = id) ∨
    (∃ row ∈ s.devices, own user row = true ∧ row.deviceId = key) ∨
    ∀ row ∈ s.devices, own user row = true

theorem resolveDevice_eq (cast : pf.uuid key = some id) : resolveDevice pf key s =
    (.ok ((s.devices.find? (·.id == id)).or (s.devices.find? (·.deviceId == key))), s) := by
  simp only [resolveDevice, deviceById, cast]
  change Run.bind _ _ s = _
  cases found : s.devices.find? (·.id == id) <;> simp only [Run.bind, Run.read, found] <;> rfl

theorem resolveDevice_paired : Paired aside
    (fun s t => View names user s t ∧ Settled pf names user key s)
    (resolveDevice pf key) (resolveDevice pf key) fun a b s t =>
      Met names user a b ∧ (∀ row, a = some row → row ∈ s.devices) ∧ View names user s t := by
  rintro s t ⟨view, settled⟩
  cases cast : pf.uuid key with
  | none =>
    simp only [resolveDevice, deviceById, cast]
    exact .inl rfl
  | some id =>
    rw [resolveDevice_eq cast, resolveDevice_eq cast]
    have met := view.met id
    cases found : s.devices.find? (·.id == id) with
    | some row =>
      rw [found] at met
      obtain ⟨row', found'⟩ : ∃ row', t.devices.find? (·.id == id) = some row' := by
        cases found' : t.devices.find? (·.id == id) with
        | none =>
          rw [found'] at met
          cases met
        | some row' => exact ⟨row', rfl⟩
      rw [found'] at met ⊢
      refine ⟨met, ?_, view⟩
      rintro _ ⟨⟩
      exact List.mem_of_find?_eq_some found
    | none =>
      have found' : t.devices.find? (·.id == id) = none := by
        cases found' : t.devices.find? (·.id == id) with
        | none => rfl
        | some row' =>
          rw [found, found'] at met
          cases met
      have missing : ¬ ∃ row ∈ s.devices, row.id = id := by
        rintro ⟨row, mem, same⟩
        exact absurd same (by simpa using List.find?_eq_none.1 found row mem)
      have settled' := settled.imp_right fun all => (all id cast).resolve_left missing
      rw [found']
      exact ⟨view.met_name settled', fun row name => List.mem_of_find?_eq_some name, view⟩

theorem withResolved_paired (member : isAdminUser user = false) {f : Row → Service Reply}
    (body : ∀ row, Paired aside (Has names user row.id) (f row) (f row) fun a b _ _ => a = b) :
    Paired aside (fun s t => View names user s t ∧ Settled pf names user key s)
      (withResolved pf user key f) (withResolved pf user key f) fun a b _ _ => a = b := by
  unfold withResolved
  have denies : ∀ row, (!isAdminUser user && row.userId != some user.id) = !own user row := by
    intro row
    simp only [member, own]
    rfl
  refine .bind resolveDevice_paired fun a b => .of_pre fun s t both => ?_
  obtain ⟨met, found, view⟩ := both
  cases met with
  | none => exact .fail
  | @own row mine =>
    simp only [denies, mine]
    refine (body row).mono ?_ fun _ _ _ _ => id
    rintro _ _ ⟨rfl, rfl⟩
    exact ⟨view, mem_ownIds.2 ⟨row, found row rfl, mine, rfl⟩⟩
  | other others others' _ =>
    simp only [denies, others, others']
    exact .fail

theorem View.statisticsOf (h : View names user s t) (mine : row.id ∈ ownIds user s) (hours : ℚ) :
    DeviceRequests.statisticsOf row hours s = DeviceRequests.statisticsOf row hours t := by
  have samples (p : TrafficSample → Bool) :
      (s.samples.filter fun r => r.deviceId == row.id && p r) =
        t.samples.filter fun r => r.deviceId == row.id && p r := by
    refine h.samples.filter fun r hit => ?_
    simp only [Bool.and_eq_true, beq_iff_eq] at hit
    simpa [hit.1] using mine
  have history (p : HourlyStatistics → Bool) :
      (s.statistics.filter fun r => r.deviceId == row.id && p r) =
        t.statistics.filter fun r => r.deviceId == row.id && p r := by
    refine h.statistics.filter fun r hit => ?_
    simp only [Bool.and_eq_true, beq_iff_eq] at hit
    simpa [hit.1] using mine
  unfold DeviceRequests.statisticsOf
  dsimp only
  rw [samples, history, h.latestSession mine, h.now]

theorem statistics_paired (member : isAdminUser user = false) (hours : Option Json) :
    Paired aside (fun s t => View names user s t ∧ Settled pf names user key s)
      (getDeviceStatistics pf user key hours) (getDeviceStatistics pf user key hours)
        fun a b _ _ => a = b :=
  withResolved_paired member fun _ =>
    .bind_eq (.read_eq fun _ _ has => has.1.statisticsOf has.2 _) fun _ => .pure fun _ _ _ => rfl

theorem reset_paired (member : isAdminUser user = false) :
    Paired aside (fun s t => View names user s t ∧ Settled pf names user key s)
      (resetDeviceStatistics pf user key) (resetDeviceStatistics pf user key)
        fun a b _ _ => a = b :=
  withResolved_paired member fun _ => .bind .write_any fun _ _ => .pure fun _ _ _ => rfl

theorem View.summary (h : View names user s t)
    (only : user.id ≠ 0 ∨ ∀ row ∈ s.devices, own user row = true) :
    buildDeviceStatisticsSummaryRows pf (some user.id) s =
      buildDeviceStatisticsSummaryRows pf (some user.id) t := by
  have selected : (s.devices.filter fun row => user.id == 0 || row.userId == some user.id) =
      t.devices.filter (fun row => user.id == 0 || row.userId == some user.id) ∧
      ∀ row ∈ s.devices, (user.id == 0 || row.userId == some user.id) = true →
        own user row = true := by
    rcases only with nonzero | all
    · have wanted : (fun row : Row => user.id == 0 || row.userId == some user.id) = own user := by
        funext row
        simp [own, nonzero]
      rw [wanted]
      exact ⟨h.devices, fun row _ mine => congrFun wanted row ▸ mine⟩
    · rw [own_of_all h all]
      exact ⟨rfl, fun row mem _ => all row mem⟩
  obtain ⟨rows, mine⟩ := selected
  unfold buildDeviceStatisticsSummaryRows
  dsimp only
  rw [← rows]
  generalize hd : (s.devices.filter fun row => user.id == 0 || row.userId == some user.id).mergeSort
    (fun a b => pf.collate a.deviceId b.deviceId) = devices
  have visible : ∀ row ∈ devices, row.id ∈ ownIds user s := by
    intro row mem
    rw [← hd, List.mem_mergeSort] at mem
    obtain ⟨there, wanted⟩ := List.mem_filter.1 mem
    exact mem_ownIds.2 ⟨row, there, mine row there wanted, rfl⟩
  have ids : ∀ id, (devices.map (·.id)).contains id = true →
      (ownIds user s).contains id = true := by
    intro id mem
    simp only [List.contains_iff_mem, List.mem_map] at mem ⊢
    obtain ⟨row, there, rfl⟩ := mem
    exact visible row there
  have grouped (p : HourlyStatistics → Bool) :
      rowsSince (devices.map (·.id)) p s = rowsSince (devices.map (·.id)) p t := by
    refine h.statistics.filter fun r hit => ids _ ?_
    exact (Bool.and_eq_true _ _ ▸ hit).1
  have samples (p : TrafficSample → Bool) :
      (s.samples.filter fun r => (devices.map (·.id)).contains r.deviceId && p r) =
        t.samples.filter fun r => (devices.map (·.id)).contains r.deviceId && p r := by
    refine h.samples.filter fun r hit => ids _ ?_
    exact (Bool.and_eq_true _ _ ▸ hit).1
  rw [h.now, grouped, grouped, grouped, samples]
  refine List.map_congr_left fun row mem => ?_
  unfold summaryRow
  dsimp only
  rw [h.joined (visible row mem), h.now]

theorem summary_paired (member : isAdminUser user = false) (query : Json) :
    Paired aside (fun s t => View names user s t ∧
        (user.id ≠ 0 ∨ ∀ row ∈ s.devices, own user row = true))
      (getStatisticsSummary pf user query) (getStatisticsSummary pf user query)
        fun a b _ _ => a = b := by
  unfold getStatisticsSummary
  simp only [member, Bool.not_false, if_true]
  exact .bind_eq (.read_eq fun _ _ related => related.1.summary related.2) fun _ =>
    .pure fun _ _ _ => rfl

end Statistics

end DeviceIsolation
