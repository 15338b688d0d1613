import Mathlib.Data.List.Forall2
import Mathlib.Data.List.Nodup
import Mathlib.Data.Option.Basic
import NetPort.DeviceManager
import NetPort.RealtimeChannels
import NetPort.StepRuns

/-! Requests on the services `users`, `role` and `servers` and on the auto-connect setting: the
hooks before each method, and what the method then writes. A request that a hook, the method or
the database refuses writes nothing. What is read and answered is left out. -/
namespace UserRequests

open DeviceManager StepRuns
open RealtimeChannels (User isAdminUser)

/-- White space as `String.prototype.trim` has it. -/
def isSpace (c : Char) : Bool :=
  (9 ≤ c.toNat && c.toNat ≤ 13) || (0x2000 ≤ c.toNat && c.toNat ≤ 0x200a) ||
    [0x20, 0xa0, 0x1680, 0x2028, 0x2029, 0x202f, 0x205f, 0x3000, 0xfeff].contains c.toNat

def trim (s : String) : String :=
  String.ofList ((s.toList.dropWhile isSpace).reverse.dropWhile isSpace).reverse

abbrev Data := List (String × Json)

inductive Column where
  | id
  | login
  | roleName
  | password
  | username
  | email
  | phone
  | autoConnectEnabled
  deriving DecidableEq, Repr

def Column.name : Column → String
  | .id => "id"
  | .login => "login"
  | .roleName => "role_name"
  | .password => "password"
  | .username => "username"
  | .email => "email"
  | .phone => "phone"
  | .autoConnectEnabled => "auto_connect_enabled"

structure Role where
  id : ℕ
  name : String
  description : Option String
  deriving DecidableEq, Repr

structure Server where
  id : ℕ
  userId : Option ℕ
  inputPort : Option ℕ
  outputPort : Option ℕ
  enable : Option Bool
  enableSsl : Option Bool
  enableInputSsl : Option Bool
  description : Option String
  deriving DecidableEq, Repr

structure Tables where
  users : List User
  role : List Role
  servers : List Server

/-- What the packages and the database make of a value: `Number`, the identifier that the query
builder writes for a key, the casts to the types of the columns (`none` where the value is
refused, `some none` for `NULL`), the hash of a password, the rows that a query selects, and the
inserted rows. The name of a column denotes that column. -/
structure Runtime where
  number : Json → Option ℕ
  column : String → Option Column
  column_name : ∀ c : Column, column c.name = some c
  integer : Json → Option (Option ℕ)
  text : Json → Option (Option String)
  boolean : Json → Option (Option Bool)
  hash : Json → Option String
  selects : Json → User → Bool
  insertUser : Data → List User → Option (List User)
  insertServer : Data → List Server → Option (List Server)
  updateServer : Data → Server → Option Server

variable {rt : Runtime}

inductive Service where
  | users
  | role
  | servers
  deriving DecidableEq, Repr

inductive Call where
  | find (service : Service) (query : Json)
  | get (service : Service) (id : Json)
  | create (service : Service) (data : Data)
  | update (service : Service) (id : Json) (data : Data)
  | patch (service : Service) (id query : Json) (data : Data)
  | remove (service : Service) (id : Json)
  | getAutoConnect
  | patchAutoConnect (body : Json)

/-- `caller` is the subject of the token, if a valid one came with the request. -/
structure Request where
  caller : Option ℕ
  call : Call

/-- `authenticate('jwt')`, and `authenticateRequest` of the routes. -/
def authenticate (users : List User) (caller : Option ℕ) : Option User :=
  caller.bind fun id => users.find? fun user => user.id == id

def checkPermissions (roles : List String) (user : User) : Bool :=
  (user.roleName.map roles.contains).getD false

def assertSelfOrAdmin (rt : Runtime) (user : User) (target : Json) : Bool :=
  isAdminUser user || rt.number target == some user.id

def stripPrivilegedUserFields (data : Data) (user : User) : Data :=
  if isAdminUser user then data
  else data.filter fun entry => entry.1 != "role_name" && entry.1 != "role"

/-- `hashPassword('password')` -/
def hashPassword (rt : Runtime) (data : Data) : Option Data :=
  data.mapM fun entry =>
    if entry.1 = "password" then (rt.hash entry.2).map fun hash => (entry.1, .string hash)
    else some entry

def truthy : Json → Bool
  | .null => false
  | .bool b => b
  | .integer n => n != 0
  | .string s => s != ""
  | _ => true

/-- `trim` is no method of a value that is not a string. -/
def assertLoginAvailable (rt : Runtime) (users : List User) (exclude : Json) : Json → Option String
  | .string login =>
    let normalized := trim login
    if normalized = "" then none
    else if users.any fun u => u.login == normalized && rt.number exclude != some u.id then none
    else some normalized
  | _ => none

def normalizeLogin (rt : Runtime) (users : List User) (id : Json) (data : Data) : Option Data :=
  data.mapM fun entry =>
    if entry.1 = "login" ∧ truthy entry.2 = true then
      (assertLoginAvailable rt users id entry.2).map fun login => (entry.1, .string login)
    else some entry

/-- The hooks before `update` and `patch` of `users`. -/
def changeHooks (rt : Runtime) (users : List User) (caller : Option ℕ) (id : Json) (data : Data) :
    Option Data := do
  let data ← hashPassword rt data
  let user ← authenticate users caller
  guard (checkPermissions ["admin", "user"] user)
  guard (assertSelfOrAdmin rt user id)
  normalizeLogin rt users id (stripPrivilegedUserFields data user)

/-- The columns `id`, `login` and `password` are `NOT NULL`. -/
def setColumn (rt : Runtime) (user : User) : Column × Json → Option User
  | (.id, value) => (rt.integer value).bind fun n => n.map fun n => { user with id := n }
  | (.login, value) => (rt.text value).bind fun t => t.map fun t => { user with login := t }
  | (.roleName, value) => (rt.text value).map fun t => { user with roleName := t }
  | (.password, value) => (rt.text value).bind fun t => t.map fun t => { user with password := t }
  | (.username, value) => (rt.text value).map fun t => { user with username := t }
  | (.email, value) => (rt.text value).map fun t => { user with email := t }
  | (.phone, value) => (rt.text value).map fun t => { user with phone := t }
  | (.autoConnectEnabled, value) =>
    (rt.boolean value).map fun b => { user with autoConnectEnabled := b }

def setColumns (rt : Runtime) (user : User) (assignments : List (Column × Json)) : Option User :=
  assignments.foldlM (setColumn rt) user

def assignments (rt : Runtime) (data : Data) : Option (List (Column × Json)) :=
  data.mapM fun entry => (rt.column entry.1).map fun c => (c, entry.2)

/-- `UPDATE users SET …`: refused where a column is unknown or assigned twice, where a value is
refused, and where the primary key or the unique logins would break. -/
def updateUsers (rt : Runtime) (selected : User → Bool) (data : Data) (users : List User) :
    Option (List User) := do
  let assigned ← assignments rt data
  guard (assigned.map (·.1)).Nodup
  let rows ← users.mapM fun user =>
    if selected user then setColumns rt user assigned else some user
  guard ((rows.map (·.id)).Nodup ∧ (rows.map (·.login)).Nodup)
  some rows

namespace Users

def update (rt : Runtime) (users : List User) (id : Json) (data : Data) : Option (List User) :=
  updateUsers rt (fun user => rt.number id == some user.id) data users

/-- `patch` of the package leaves out the key `id`; without an id it is refused. -/
def patch (rt : Runtime) (users : List User) (id query : Json) (data : Data) :
    Option (List User) :=
  match id with
  | .null => none
  | id =>
    updateUsers rt (fun user => rt.number id == some user.id && rt.selects query user)
      (data.filter fun entry => entry.1 != "id") users

def create (rt : Runtime) (users : List User) (data : Data) : Option (List User) :=
  rt.insertUser data users

def remove (rt : Runtime) (users : List User) (id : Json) : Option (List User) := do
  let user ← users.find? fun user => rt.number id == some user.id
  if user.login = "admin" then users
  else some (users.filter fun user => rt.number id != some user.id)

end Users

namespace Servers

def validPort (port : Option ℕ) : Bool :=
  match port with
  | some port => 5000 ≤ port && port ≤ 5999
  | none => false

def portOf (rt : Runtime) (key : String) (data : Data) (existing : Option ℕ) : Option ℕ :=
  match data.find? fun entry => entry.1 == key with
  | some (_, .null) => existing
  | some (_, value) => rt.number value
  | none => existing

def assertPortsAvailable (servers : List Server) (inputPort outputPort exclude : Option ℕ) : Bool :=
  !servers.any fun s => exclude != some s.id &&
    (s.inputPort == inputPort || s.outputPort == inputPort || s.inputPort == outputPort ||
      s.outputPort == outputPort)

def portsAllowed (servers : List Server) (inputPort outputPort exclude : Option ℕ) : Bool :=
  validPort inputPort && validPort outputPort && inputPort != outputPort &&
    assertPortsAvailable servers inputPort outputPort exclude

def create (rt : Runtime) (servers : List Server) (data : Data) : Option (List Server) := do
  guard (portsAllowed servers (portOf rt "input_port" data none) (portOf rt "output_port" data none)
    none)
  rt.insertServer data servers

def update (rt : Runtime) (servers : List Server) (id : Json) (data : Data) :
    Option (List Server) := do
  let existing ← servers.find? fun s => rt.number id == some s.id
  guard (portsAllowed servers (portOf rt "input_port" data existing.inputPort)
    (portOf rt "output_port" data existing.outputPort) (some existing.id))
  servers.mapM fun s => if s.id = existing.id then rt.updateServer data s else some s

def remove (rt : Runtime) (servers : List Server) (id : Json) : Option (List Server) := do
  let existing ← servers.find? fun s => rt.number id == some s.id
  some (servers.filter fun s => s.id != existing.id)

end Servers

def admits (roles : List String) (users : List User) (caller : Option ℕ) : Option Unit := do
  let user ← authenticate users caller
  guard (checkPermissions roles user)

/-- The hooks before `create` of `users`: the login is set, whether or not the data has one. -/
def createHooks (rt : Runtime) (users : List User) (caller : Option ℕ) (data : Data) :
    Option Data := do
  admits ["admin"] users caller
  let given := (data.find? fun entry => entry.1 == "login").map (·.2)
  let login ← assertLoginAvailable rt users .null (given.getD .null)
  hashPassword rt (("login", .string login) :: data.filter fun entry => entry.1 != "login")

/-- The tables after a request, or `none` for an error. -/
def handle (rt : Runtime) (t : Tables) (r : Request) : Option Tables :=
  match r.call with
  | .find _ _ => t
  | .get _ _ => t
  | .getAutoConnect => t
  | .create .users data => do
    let data ← createHooks rt t.users r.caller data
    let users ← Users.create rt t.users data
    some { t with users := users }
  | .update .users id data => do
    let data ← changeHooks rt t.users r.caller id data
    let users ← Users.update rt t.users id data
    some { t with users := users }
  | .patch .users id query data => do
    let data ← changeHooks rt t.users r.caller id data
    let users ← Users.patch rt t.users id query data
    some { t with users := users }
  | .remove .users id => do
    admits ["admin"] t.users r.caller
    let users ← Users.remove rt t.users id
    some { t with users := users }
  | .create .servers data => do
    admits ["admin"] t.users r.caller
    let servers ← Servers.create rt t.servers data
    some { t with servers := servers }
  | .update .servers id data => do
    admits ["admin"] t.users r.caller
    let servers ← Servers.update rt t.servers id data
    some { t with servers := servers }
  | .remove .servers id => do
    admits ["admin"] t.users r.caller
    let servers ← Servers.remove rt t.servers id
    some { t with servers := servers }
  -- the classes have no other methods
  | .patch .servers _ _ _ | .create .role _ | .update .role _ _ | .patch .role _ _ _
  | .remove .role _ => none
  | .patchAutoConnect body => do
    let user ← authenticate t.users r.caller
    let enabled := match body.get "enabled" with
      | some (.bool false) => false
      | _ => true
    some { t with
      users := t.users.map fun u =>
        if u.id = user.id then { u with autoConnectEnabled := some enabled } else u }

def next (rt : Runtime) (t : Tables) (r : Request) : Tables := (handle rt t r).getD t

def Enabled (t : Tables) (r : Request) : Prop :=
  ∀ user, authenticate t.users r.caller = some user → isAdminUser user = false

def Started (t : Tables) : Prop := (t.users.map (·.id)).Nodup

def requests (rt : Runtime) : System Tables Request := ⟨Started, Enabled, next rt⟩

def Call.written : Call → Data
  | .update .users _ data => data.filter fun entry => entry.1 != "role_name" && entry.1 != "role"
  | .patch .users _ _ data =>
    data.filter fun entry => entry.1 != "role_name" && entry.1 != "role" && entry.1 != "id"
  | _ => []

/-- What a request writes to the columns `id` and `role_name` is what the caller's row has. -/
def Careful (rt : Runtime) (t : Tables) (r : Request) : Prop :=
  ∀ user, authenticate t.users r.caller = some user → ∀ entry ∈ r.call.written,
    (rt.column entry.1 = some .id → rt.integer entry.2 = some (some user.id)) ∧
      (rt.column entry.1 = some .roleName → rt.text entry.2 = some user.roleName)

/-- What a request by `caller` may do to a row of `users`. -/
def RowKept (caller : Option ℕ) (user user' : User) : Prop :=
  user'.id = user.id ∧ user'.roleName = user.roleName ∧ (caller ≠ some user.id → user' = user)

structure Kept (caller : Option ℕ) (t t' : Tables) : Prop where
  users : List.Forall₂ (RowKept caller) t.users t'.users
  role : t'.role = t.role
  servers : t'.servers = t.servers

variable {t : Tables} {users users' : List User} {user : User} {caller : Option ℕ}
  {data data' : Data} {id : Json} {entry : String × Json} {r : Request}

theorem mapM_forall₂ {α β : Type} {f : α → Option β} {l : List α} {l' : List β}
    (h : l.mapM f = some l') : List.Forall₂ (fun a b => f a = some b) l l' := by
  induction l generalizing l' with
  | nil =>
    cases h
    exact .nil
  | cons a l ih =>
    rw [List.mapM_cons, Option.bind_eq_bind, Option.bind_eq_some_iff] at h
    obtain ⟨b, first, h⟩ := h
    rw [Option.bind_eq_bind, Option.bind_eq_some_iff] at h
    obtain ⟨rest, others, h⟩ := h
    cases h
    exact .cons first (ih others)

theorem mem_of_mapM {α β : Type} {f : α → Option β} {l : List α} {l' : List β}
    (h : l.mapM f = some l') {b : β} (mem : b ∈ l') : ∃ a ∈ l, f a = some b := by
  have related := mapM_forall₂ h
  clear h
  induction related with
  | nil => simp at mem
  | @cons a b' l l' first _ ih =>
    rcases List.mem_cons.1 mem with rfl | mem
    · exact ⟨a, by simp, first⟩
    · obtain ⟨a', mem', given⟩ := ih mem
      exact ⟨a', by simp [mem'], given⟩

theorem authenticate_eq_some (h : authenticate users caller = some user) :
    caller = some user.id ∧ user ∈ users := by
  obtain ⟨id, rfl, found⟩ := Option.bind_eq_some_iff.1 h
  have same := List.find?_some found
  rw [beq_iff_eq] at same
  exact ⟨congrArg some same.symm, List.mem_of_find?_eq_some found⟩

theorem checkPermissions_admin : checkPermissions ["admin"] user = isAdminUser user := by
  cases given : user.roleName with
  | none => simp [checkPermissions, isAdminUser, given]
  | some role => simp [checkPermissions, isAdminUser, given, Bool.beq_eq_decide_eq]

theorem Kept.refl : Kept caller t t :=
  ⟨List.forall₂_same.2 fun _ _ => ⟨rfl, rfl, fun _ => rfl⟩, rfl, rfl⟩

/-- The caller of a request gets no further where administrators only are let in. -/
theorem Enabled.admits (h : Enabled t r) : admits ["admin"] t.users r.caller = none := by
  cases given : authenticate t.users r.caller with
  | none => simp [UserRequests.admits, given]
  | some user =>
    have refused : ¬ checkPermissions ["admin"] user := by
      rw [checkPermissions_admin, h user given]
      exact Bool.false_ne_true
    simp only [UserRequests.admits, given, Option.bind_eq_bind, Option.bind_some]
    exact if_neg refused

theorem key_of_hashPassword (h : hashPassword rt data = some data') (mem : entry ∈ data') :
    entry ∈ data ∨ entry.1 = "password" := by
  obtain ⟨given, from_, h⟩ := mem_of_mapM h mem
  split at h
  · rename_i key
    obtain ⟨_, _, rfl⟩ := Option.map_eq_some_iff.1 h
    exact .inr key
  · cases h
    exact .inl from_

theorem key_of_normalizeLogin (h : normalizeLogin rt users id data = some data')
    (mem : entry ∈ data') : entry ∈ data ∨ entry.1 = "login" := by
  obtain ⟨given, from_, h⟩ := mem_of_mapM h mem
  split at h
  · rename_i key
    obtain ⟨_, _, rfl⟩ := Option.map_eq_some_iff.1 h
    exact .inr key.1
  · cases h
    exact .inl from_

theorem assertSelf (notAdmin : isAdminUser user = false)
    (h : guard (assertSelfOrAdmin rt user id = true) = some ()) : rt.number id = some user.id := by
  have allowed : assertSelfOrAdmin rt user id = true := (Option.guard_eq_some' ()).1 h
  simpa [assertSelfOrAdmin, notAdmin] using allowed

theorem mem_stripPrivilegedUserFields (notAdmin : isAdminUser user = false) :
    entry ∈ stripPrivilegedUserFields data user ↔
      entry ∈ data ∧ entry.1 ≠ "role_name" ∧ entry.1 ≠ "role" := by
  simp [stripPrivilegedUserFields, notAdmin]

/-- The hooks let a caller that is no administrator change its own row only, and take the
privileged fields out of the data. -/
theorem changeHooks_spec
    (plain : ∀ user, authenticate users caller = some user → isAdminUser user = false)
    (h : changeHooks rt users caller id data = some data') :
    ∃ user, authenticate users caller = some user ∧ rt.number id = some user.id ∧
      ∀ entry ∈ data', entry.1 = "password" ∨ entry.1 = "login" ∨
        (entry ∈ data ∧ entry.1 ≠ "role_name" ∧ entry.1 ≠ "role") := by
  simp only [changeHooks, Option.bind_eq_bind, Option.bind_eq_some_iff] at h
  obtain ⟨hashed, hashes, user, found, _, _, _, self, normalized⟩ := h
  have notAdmin := plain user found
  refine ⟨user, found, assertSelf notAdmin self, ?_⟩
  intro entry mem
  rcases key_of_normalizeLogin normalized mem with stripped | login
  · obtain ⟨mem, unprivileged⟩ := (mem_stripPrivilegedUserFields notAdmin).1 stripped
    rcases key_of_hashPassword hashes mem with given | password
    · exact .inr (.inr ⟨given, unprivileged⟩)
    · exact .inl password
  · exact .inr (.inl login)

/-- The value for a column leaves `id` and `role_name` as the row has them. -/
def Harmless (rt : Runtime) (user : User) (c : Column) (value : Json) : Prop :=
  (c = .id → rt.integer value = some (some user.id)) ∧
    (c = .roleName → rt.text value = some user.roleName)

theorem setColumn_keeps {user' : User} {c : Column} {value : Json}
    (h : setColumn rt user (c, value) = some user') (own : Harmless rt user c value) :
    user'.id = user.id ∧ user'.roleName = user.roleName := by
  cases c with
  | id =>
    simp only [setColumn, own.1 rfl, Option.bind_some, Option.map_some] at h
    cases h
    exact ⟨rfl, rfl⟩
  | roleName =>
    simp only [setColumn, own.2 rfl, Option.map_some] at h
    cases h
    exact ⟨rfl, rfl⟩
  | login | password =>
    obtain ⟨_, _, h⟩ := Option.bind_eq_some_iff.1 h
    obtain ⟨_, _, rfl⟩ := Option.map_eq_some_iff.1 h
    exact ⟨rfl, rfl⟩
  | username | email | phone | autoConnectEnabled =>
    obtain ⟨_, _, rfl⟩ := Option.map_eq_some_iff.1 h
    exact ⟨rfl, rfl⟩

theorem setColumns_keeps {assigned : List (Column × Json)} {user' : User}
    (h : setColumns rt user assigned = some user')
    (own : ∀ a ∈ assigned, Harmless rt user a.1 a.2) :
    user'.id = user.id ∧ user'.roleName = user.roleName := by
  induction assigned generalizing user with
  | nil =>
    cases h
    exact ⟨rfl, rfl⟩
  | cons a assigned ih =>
    rw [setColumns, List.foldlM_cons, Option.bind_eq_bind, Option.bind_eq_some_iff] at h
    obtain ⟨middle, first, h⟩ := h
    obtain ⟨id, roleName⟩ := setColumn_keeps first (own a (by simp))
    have rest := ih h fun b mem => by
      simpa only [Harmless, id, roleName] using own b (List.mem_cons_of_mem a mem)
    exact ⟨rest.1.trans id, rest.2.trans roleName⟩

/-- An update that selects at most the row of a user and assigns it nothing that harms. -/
theorem updateUsers_kept {selected : User → Bool} (unique : (users.map (·.id)).Nodup)
    (mem : user ∈ users) (only : ∀ u, selected u = true → u.id = user.id)
    (own : ∀ entry ∈ data, ∀ c, rt.column entry.1 = some c → Harmless rt user c entry.2)
    (h : updateUsers rt selected data users = some users') :
    List.Forall₂ (RowKept (some user.id)) users users' := by
  simp only [updateUsers, Option.bind_eq_bind, Option.bind_eq_some_iff] at h
  obtain ⟨assigned, assigns, _, _, rows, changed, _, _, h⟩ := h
  cases h
  have harmless : ∀ a ∈ assigned, Harmless rt user a.1 a.2 := by
    intro a inAssigned
    obtain ⟨entry, given, h⟩ := mem_of_mapM assigns inAssigned
    obtain ⟨c, column, rfl⟩ := Option.map_eq_some_iff.1 h
    exact own entry given c column
  refine ((List.forall₂_and_left _ _).2 ⟨fun _ mem => mem, mapM_forall₂ changed⟩).imp ?_
  rintro u u' ⟨inUsers, h⟩
  split at h
  · rename_i isSelected
    obtain rfl : u = user := List.inj_on_of_nodup_map unique inUsers mem (only u isSelected)
    obtain ⟨id, roleName⟩ := setColumns_keeps h harmless
    exact ⟨id, roleName, fun other => absurd rfl other⟩
  · cases h
    exact ⟨rfl, rfl, fun _ => rfl⟩

/-- No key that a hook replaces the value of denotes another column. -/
theorem Runtime.harmless_name {c d : Column} {value : Json} (h : rt.column c.name = some d)
    (id : c ≠ .id) (roleName : c ≠ .roleName) : Harmless rt user d value := by
  rw [rt.column_name] at h
  cases h
  exact ⟨fun same => absurd same id, fun same => absurd same roleName⟩

theorem harmless_of_given {c : Column}
    (from_ : entry.1 = "password" ∨ entry.1 = "login" ∨
      (entry ∈ data ∧ entry.1 ≠ "role_name" ∧ entry.1 ≠ "role"))
    (given : entry ∈ data → entry.1 ≠ "role_name" → entry.1 ≠ "role" →
      Harmless rt user c entry.2)
    (h : rt.column entry.1 = some c) : Harmless rt user c entry.2 := by
  rcases from_ with password | login | ⟨mem, roleName, role⟩
  · rw [password] at h
    exact Runtime.harmless_name (show rt.column Column.password.name = _ from h) nofun nofun
  · rw [login] at h
    exact Runtime.harmless_name (show rt.column Column.login.name = _ from h) nofun nofun
  · exact given mem roleName role

theorem Careful.harmless (h : Careful rt t r) (found : authenticate t.users r.caller = some user)
    (mem : entry ∈ r.call.written) {c : Column} (column : rt.column entry.1 = some c) :
    Harmless rt user c entry.2 := by
  obtain ⟨id, roleName⟩ := h user found entry mem
  exact ⟨fun same => id (same ▸ column), fun same => roleName (same ▸ column)⟩

/-- `update` and `patch` of `users`, with the keys that the method takes. -/
theorem change_kept (unique : Started t) (enabled : Enabled t r) (careful : Careful rt t r)
    {selected : User → Bool} (taken : String → Bool)
    (only : ∀ u, selected u = true → rt.number id = some u.id)
    (written : ∀ entry ∈ data, entry.1 ≠ "role_name" → entry.1 ≠ "role" →
      taken entry.1 = true → entry ∈ r.call.written)
    (hooks : changeHooks rt t.users r.caller id data = some data')
    (h : updateUsers rt selected (data'.filter fun entry => taken entry.1) t.users = some users') :
    Kept r.caller t { t with users := users' } := by
  obtain ⟨user, found, self, keys⟩ := changeHooks_spec enabled hooks
  obtain ⟨caller, mem⟩ := authenticate_eq_some found
  refine ⟨?_, rfl, rfl⟩
  rw [caller]
  refine updateUsers_kept unique mem ?_ ?_ h
  · intro u isSelected
    exact Option.some.inj ((only u isSelected).symm.trans self)
  · intro entry inData c column
    obtain ⟨inData, isTaken⟩ := List.mem_filter.1 inData
    refine harmless_of_given (keys entry inData) ?_ column
    intro given roleName role
    exact careful.harmless found (written entry given roleName role isTaken) column

/-- The route of the setting writes one column of the caller's row. -/
theorem patchAutoConnect_kept (found : authenticate t.users caller = some user) (enabled : Bool) :
    Kept caller t { t with
      users := t.users.map fun u =>
        if u.id = user.id then { u with autoConnectEnabled := some enabled } else u } := by
  refine ⟨?_, rfl, rfl⟩
  rw [(authenticate_eq_some found).1]
  refine List.forall₂_map_right_iff.2 (List.forall₂_same.2 ?_)
  intro u _
  by_cases own : u.id = user.id
  · rw [if_pos own]
    exact ⟨rfl, rfl, fun other => absurd (congrArg some own.symm) other⟩
  · rw [if_neg own]
    exact ⟨rfl, rfl, fun _ => rfl⟩

theorem handle_kept (unique : Started t) (enabled : Enabled t r) (careful : Careful rt t r)
    {t' : Tables} (h : handle rt t r = some t') : Kept r.caller t t' := by
  obtain ⟨caller, call⟩ := r
  have noAdmin : admits ["admin"] t.users caller = none := enabled.admits
  cases call with
  | find | get | getAutoConnect =>
    cases h
    exact .refl
  | create service data =>
    cases service with
    | users => simp [handle, createHooks, noAdmin] at h
    | role => cases h
    | servers => simp [handle, noAdmin] at h
  | update service id data =>
    cases service with
    | users =>
      simp only [handle, Option.bind_eq_bind, Option.bind_eq_some_iff] at h
      obtain ⟨data', hooks, users', h, done⟩ := h
      cases done
      refine change_kept unique enabled careful (fun _ => true) ?_ ?_ hooks
        (by rw [List.filter_true]; exact h)
      · intro u selected
        exact beq_iff_eq.1 selected
      · intro entry given roleName role _
        simp [Call.written, given, roleName, role]
    | role => cases h
    | servers => simp [handle, noAdmin] at h
  | patch service id query data =>
    cases service with
    | users =>
      simp only [handle, Option.bind_eq_bind, Option.bind_eq_some_iff] at h
      obtain ⟨data', hooks, users', h, done⟩ := h
      cases done
      simp only [Users.patch] at h
      split at h
      · cases h
      · refine change_kept unique enabled careful (· != "id") ?_ ?_ hooks h
        · intro u selected
          exact beq_iff_eq.1 (Bool.and_eq_true_iff.1 selected).1
        · intro entry given roleName role notId
          simp [Call.written, given, roleName, role, bne_iff_ne.1 notId]
    | role => cases h
    | servers => cases h
  | remove service id =>
    cases service with
    | users => simp [handle, noAdmin] at h
    | role => cases h
    | servers => simp [handle, noAdmin] at h
  | patchAutoConnect body =>
    simp only [handle, Option.bind_eq_bind, Option.bind_eq_some_iff] at h
    obtain ⟨user, found, done⟩ := h
    cases done
    exact patchAutoConnect_kept found _

theorem next_kept (unique : Started t) (enabled : Enabled t r) (careful : Careful rt t r) :
    Kept r.caller t (next rt t r) := by
  unfold next
  cases h : handle rt t r with
  | none => exact .refl
  | some t' => exact handle_kept unique enabled careful h

theorem Kept.ids {t' : Tables} (h : Kept caller t t') :
    t'.users.map (·.id) = t.users.map (·.id) := by
  have users := h.users
  generalize t.users = users at users
  generalize t'.users = users' at users
  induction users with
  | nil => rfl
  | cons first _ ih => simp only [List.map_cons, first.1, ih]

theorem no_privilege_escalation {log : List (Tables × Request)} (run : (requests rt).Run log t)
    (careful : ∀ e ∈ log, Careful rt e.1 e.2) :
    ∀ e ∈ log, Kept e.2.caller e.1 (next rt e.1 e.2) := by
  have start : ∀ s, (requests rt).initial s → Started s := fun _ => id
  have keep : ∀ s a, Started s → Enabled s a → Careful rt s a → Started (next rt s a) := by
    intro s a unique enabled careful
    have same := (next_kept unique enabled careful).ids
    exact (congrArg List.Nodup same).mpr unique
  have unique := run.found start keep careful
  intro e he
  exact next_kept (unique e he) (run.enabled_of_mem e he) (careful e he)

def decimal (s : String) : Option ℕ :=
  if s ≠ "" ∧ s.toList.all Char.isDigit then
    some (s.toList.foldl (fun n c => 10 * n + (c.toNat - '0'.toNat)) 0)
  else none

def columns : List Column :=
  [.id, .login, .roleName, .password, .username, .email, .phone, .autoConnectEnabled]

/-- The query builder trims the keys; other users and servers are not inserted here. -/
def postgres : Runtime where
  number
    | .null => some 0
    | .bool b => some b.toNat
    | .integer n => if 0 ≤ n then some n.toNat else none
    | .string s => decimal s
    | _ => none
  column key := columns.find? fun c => c.name == trim key
  column_name c := by cases c <;> decide +kernel
  integer
    | .null => some none
    | .integer n => if 0 ≤ n then some (some n.toNat) else none
    | .string s => (decimal s).map some
    | _ => none
  text
    | .null => some none
    | .string s => some (some s)
    | .integer n => some (some (toString n))
    | _ => none
  boolean
    | .null => some none
    | .bool b => some (some b)
    | _ => none
  hash
    | .string s => some ("$2a$10$" ++ s)
    | _ => none
  selects _ _ := true
  insertUser _ _ := none
  insertServer _ _ := none
  updateServer _ _ := none

def root : User := ⟨1, "admin", some "admin", "", none, none, none, some true⟩

def bob : User := ⟨2, "bob", some "user", "", none, none, none, some true⟩

def installed : Tables := ⟨[root, bob], [⟨1, "admin", some ""⟩], []⟩

def byBob (call : Call) : Request := ⟨some 2, call⟩

theorem start_installed : (requests postgres).Run [] installed :=
  .start (show Started installed by unfold Started; decide)

theorem enabled_byBob (call : Call) : (requests postgres).enabled installed (byBob call) := by
  intro user found
  obtain rfl : bob = user := Option.some.inj found
  decide

/-- A new address and a privileged field: the one is written, the other taken out. -/
theorem bob_keeps_role : ∃ t, (requests postgres).Run
      [(installed, byBob (.patch .users (.string "2") .null
        [("email", .string "bob@example.org"), ("role_name", .string "admin")]))] t ∧
    Kept (some 2) installed t := by
  have run := start_installed.step (enabled_byBob (.patch .users (.string "2") .null
    [("email", .string "bob@example.org"), ("role_name", .string "admin")]))
  refine ⟨_, run, no_privilege_escalation run ?_ _ (List.mem_singleton.2 rfl)⟩
  intro e he
  obtain rfl := List.mem_singleton.1 he
  intro user found entry written
  obtain rfl : entry = ("email", .string "bob@example.org") := by
    simpa [byBob, Call.written] using written
  exact ⟨fun h => absurd h (by decide +kernel), fun h => absurd h (by decide +kernel)⟩

/-- `PUT /users/2` with a key `id`: the row of the caller is gone and another user appears. A key
that is trimmed after the deny-list was asked sets the role. -/
theorem update_rewrites_id_and_role :
    (∃ log t, (requests postgres).Run log t ∧
      (installed, byBob (.update .users (.integer 2) [("id", .integer 7)])) ∈ log ∧
      t.users = [root, { bob with id := 7 }] ∧ ¬ Kept (some 2) installed t) ∧
    ∃ log t, (requests postgres).Run log t ∧
      (installed, byBob (.patch .users (.integer 2) .null [("role_name ", .string "admin")])) ∈ log ∧
      t.users = [root, { bob with roleName := some "admin" }] ∧ ¬ Kept (some 2) installed t := by
  have moved : (next postgres installed
      (byBob (.update .users (.integer 2) [("id", .integer 7)]))).users =
        [root, { bob with id := 7 }] := by decide +kernel
  have raised : (next postgres installed
      (byBob (.patch .users (.integer 2) .null [("role_name ", .string "admin")]))).users =
        [root, { bob with roleName := some "admin" }] := by decide +kernel
  constructor
  · refine ⟨_, _, start_installed.step (enabled_byBob _), List.mem_singleton.2 rfl, moved, ?_⟩
    intro kept
    have ids := kept.ids
    rw [show ((requests postgres).next installed _).users = _ from moved] at ids
    exact absurd ids (by decide)
  · refine ⟨_, _, start_installed.step (enabled_byBob _), List.mem_singleton.2 rfl, raised, ?_⟩
    intro kept
    have rows := kept.users
    rw [show ((requests postgres).next installed _).users = _ from raised] at rows
    cases rows with
    | cons _ rest =>
      cases rest with
      | cons bobs _ => exact absurd bobs.2.1 (by decide)

end UserRequests
