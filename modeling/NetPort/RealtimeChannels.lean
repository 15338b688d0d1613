import Mathlib.Logic.Function.Basic
import NetPort.StepRuns

/-! The channels of the backend's socket connections and the events published to them. A channel
delivers to the connections that joined it; a closed connection leaves every channel. -/
namespace RealtimeChannels

open StepRuns

/-- A row of `users`. -/
structure User where
  id : ℕ
  login : String
  roleName : Option String
  password : String
  username : Option String
  email : Option String
  phone : Option String
  autoConnectEnabled : Option Bool
  deriving DecidableEq, Repr

/-- The table has no column `role`, so only `role_name` decides. -/
def isAdminUser (user : User) : Bool := user.roleName == some "admin"

inductive Channel where
  | anonymous
  | authenticated
  | admin
  | user (id : ℕ)
  deriving DecidableEq, Repr

structure Broadcast where
  event : String
  /-- `user_id` of the payload -/
  userId : Option ℕ
  channels : List Channel
  deriving DecidableEq, Repr

/-- `['admin']`, and the channel of the owner when there is one. -/
def ownerChannels (userId : Option ℕ) : List Channel := .admin :: (userId.map .user).toList

def emitRealtimeEvent (event : String) (userId : Option ℕ) : Broadcast :=
  ⟨event, userId, ownerChannels userId⟩

def emitDeviceUpdate : Option ℕ → Broadcast := emitRealtimeEvent "device:updated"

def emitDeviceRemoved : Option ℕ → Broadcast := emitRealtimeEvent "device:removed"

def emitServerStatisticsUpdate : Option ℕ → Broadcast := emitRealtimeEvent "statistics:server-updated"

def emitDeviceStatisticsUpdate : Option ℕ → Broadcast := emitRealtimeEvent "statistics:device-updated"

/-- Connections are numbered; `current` is the user that a connection is authenticated as. -/
structure State where
  users : ℕ → Option User
  current : ℕ → Option ℕ
  joined : ℕ → Channel → Bool

def State.join (s : State) (c : ℕ) (channels : List Channel) : State :=
  { s with joined := Function.update s.joined c fun ch => channels.contains ch || s.joined c ch }

def State.leave (s : State) (c : ℕ) (channels : List Channel) : State :=
  { s with joined := Function.update s.joined c fun ch => !channels.contains ch && s.joined c ch }

/-- The handler of `login`. -/
def State.onLogin (s : State) (c : ℕ) (user : User) : State :=
  let s := (s.leave c [.anonymous]).join c [.authenticated, .user user.id]
  if isAdminUser user then s.join c [.admin] else s

inductive Action where
  | connection (c : ℕ)
  | login (c : ℕ) (user : User)
  | logout (c : ℕ)
  | disconnect (c : ℕ)
  | setRole (user : User) (roleName : Option String)
  | publish (emit : Option ℕ → Broadcast) (userId : Option ℕ)

def Emitter (emit : Option ℕ → Broadcast) : Prop :=
  emit = emitDeviceUpdate ∨ emit = emitDeviceRemoved ∨ emit = emitServerStatisticsUpdate ∨
    emit = emitDeviceStatisticsUpdate

def Enabled (s : State) : Action → Prop
  | .connection c => s.current c = none
  | .login _ user => s.users user.id = some user
  | .setRole user _ => s.users user.id = some user
  | .publish emit _ => Emitter emit
  | _ => True

/-- `logout` has no handler; the membership outlives it. -/
def next (s : State) : Action → State
  | .connection c => s.join c [.anonymous]
  | .login c user => { s.onLogin c user with current := Function.update s.current c (some user.id) }
  | .logout c => { s with current := Function.update s.current c none }
  | .disconnect c =>
    { s with
      current := Function.update s.current c none
      joined := Function.update s.joined c fun _ => false }
  | .setRole user roleName =>
    { s with
      users := Function.update s.users user.id (some { user with roleName := roleName }) }
  | .publish _ _ => s

def Started (s : State) : Prop :=
  (∀ c, s.current c = none) ∧ (∀ c ch, s.joined c ch = false) ∧
    ∀ id user, s.users id = some user → user.id = id

def channels : System State Action := ⟨Started, Enabled, next⟩

def Delivered (s : State) (b : Broadcast) (c : ℕ) : Prop := ∃ ch ∈ b.channels, s.joined c ch = true

def State.user (s : State) (c : ℕ) : Option User := (s.current c).bind s.users

def Entitled (s : State) (b : Broadcast) (c : ℕ) : Prop :=
  ∃ user, s.user c = some user ∧ (isAdminUser user = true ∨ b.userId = some user.id)

def Suits (joined : Channel → Bool) (user : User) : Prop :=
  isAdminUser user = true ∨
    (joined .admin = false ∧ ∀ id, joined (.user id) = true → id = user.id)

def Unnamed (joined : Channel → Bool) : Prop :=
  joined .admin = false ∧ ∀ id, joined (.user id) = false

/-- A change of the authenticated user, or of its role, finds the connection in no channel that
the user is not entitled to afterwards. -/
def Careful (s : State) : Action → Prop
  | .login c user => Suits (s.joined c) user
  | .logout c => Unnamed (s.joined c)
  | .setRole user roleName =>
    ∀ c, s.current c = some user.id → Suits (s.joined c) { user with roleName := roleName }
  | _ => True

structure Invariant (s : State) : Prop where
  keys : ∀ id user, s.users id = some user → user.id = id
  known : ∀ c id, s.current c = some id → ∃ user, s.users id = some user
  suits : ∀ c user, s.user c = some user → Suits (s.joined c) user
  unnamed : ∀ c, s.user c = none → Unnamed (s.joined c)

variable {s : State} {a : Action}

theorem mem_ownerChannels {userId : Option ℕ} {ch : Channel} :
    ch ∈ ownerChannels userId ↔ ch = .admin ∨ ∃ id, userId = some id ∧ ch = .user id := by
  cases userId with
  | none => simp [ownerChannels]
  | some id => simp [ownerChannels]

theorem admin_mem (userId : Option ℕ) : Channel.admin ∈ ownerChannels userId :=
  mem_ownerChannels.2 (.inl rfl)

theorem user_mem (id : ℕ) : Channel.user id ∈ ownerChannels (some id) :=
  mem_ownerChannels.2 (.inr ⟨id, rfl, rfl⟩)

theorem emitted {emit : Option ℕ → Broadcast} (h : Emitter emit) (userId : Option ℕ) :
    (emit userId).channels = ownerChannels userId ∧ (emit userId).userId = userId := by
  rcases h with rfl | rfl | rfl | rfl <;> exact ⟨rfl, rfl⟩

/-- Every event that may be published now reaches entitled connections only. -/
def Confidential (s : State) : Prop :=
  ∀ emit userId c, Emitter emit → Delivered s (emit userId) c → Entitled s (emit userId) c

theorem confidential_iff : Confidential s ↔
    (∀ c user, s.user c = some user → Suits (s.joined c) user) ∧
      ∀ c, s.user c = none → Unnamed (s.joined c) := by
  constructor
  · intro h
    have delivered (c : ℕ) {ch : Channel} {userId : Option ℕ} (names : ch ∈ ownerChannels userId)
        (joined : s.joined c ch = true) : Entitled s (emitDeviceUpdate userId) c :=
      h emitDeviceUpdate userId c (.inl rfl) ⟨ch, names, joined⟩
    constructor
    · intro c user current
      by_cases admin : isAdminUser user = true
      · exact .inl admin
      · refine .inr ⟨?_, ?_⟩
        · by_contra joined
          obtain ⟨u, known, entitled | owner⟩ :=
            delivered c (admin_mem none) (by simpa using joined)
          · rw [current] at known
            cases known
            exact admin entitled
          · exact absurd owner (show (none : Option ℕ) ≠ _ by simp)
        · intro id joined
          obtain ⟨u, known, entitled | owner⟩ :=
            delivered c (user_mem id) joined
          · rw [current] at known
            cases known
            exact absurd entitled admin
          · rw [current] at known
            cases known
            exact Option.some.inj owner
    · intro c none_
      have never {ch : Channel} {userId : Option ℕ} (names : ch ∈ ownerChannels userId) :
          s.joined c ch = false := by
        by_contra joined
        obtain ⟨u, known, _⟩ := delivered c names (by simpa using joined)
        rw [none_] at known
        cases known
      exact ⟨never (admin_mem none), fun id => never (user_mem id)⟩
  · rintro ⟨suits, unnamed⟩ emit userId c emitter ⟨ch, names, joined⟩
    rw [(emitted emitter userId).1, mem_ownerChannels] at names
    cases current : s.user c with
    | none =>
      obtain ⟨admin, user⟩ := unnamed c current
      rcases names with rfl | ⟨id, _, rfl⟩
      · simp [admin] at joined
      · simp [user id] at joined
    | some user =>
      refine ⟨user, current, ?_⟩
      rcases suits c user current with admin | ⟨notAdmin, own⟩
      · exact .inl admin
      · rcases names with rfl | ⟨id, rfl, rfl⟩
        · simp [notAdmin] at joined
        · rw [(emitted emitter _).2, own id joined]
          exact .inr rfl

theorem Suits.congr {joined joined' : Channel → Bool} {user : User} (h : Suits joined user)
    (admin : joined' .admin = joined .admin) (users : ∀ id, joined' (.user id) = joined (.user id)) :
    Suits joined' user := by
  rcases h with isAdmin | ⟨notAdmin, own⟩
  · exact .inl isAdmin
  · exact .inr ⟨admin.trans notAdmin, fun id joined => own id (users id ▸ joined)⟩

theorem Unnamed.congr {joined joined' : Channel → Bool} (h : Unnamed joined)
    (admin : joined' .admin = joined .admin) (users : ∀ id, joined' (.user id) = joined (.user id)) :
    Unnamed joined' :=
  ⟨admin.trans h.1, fun id => (users id).trans (h.2 id)⟩

/-- The handler of `login` adds the channels of the user to what suits it already. -/
theorem Suits.onLogin {c : ℕ} {user : User} (h : Suits (s.joined c) user) :
    Suits ((s.onLogin c user).joined c) user := by
  rcases h with isAdmin | ⟨notAdmin, own⟩
  · exact .inl isAdmin
  · by_cases isAdmin : isAdminUser user = true
    · exact .inl isAdmin
    · refine .inr ⟨?_, ?_⟩
      · simp [State.onLogin, isAdmin, State.join, State.leave, notAdmin]
      · intro id joined
        simp only [State.onLogin, isAdmin, State.join, State.leave, Function.update_self] at joined
        simp at joined
        rcases joined with rfl | joined
        · rfl
        · exact own id joined

theorem onLogin_other {c d : ℕ} (user : User) (other : d ≠ c) :
    (s.onLogin c user).joined d = s.joined d := by
  unfold State.onLogin
  split <;> simp [State.join, State.leave, Function.update_of_ne other]

theorem onLogin_users {c : ℕ} (user : User) : (s.onLogin c user).users = s.users := by
  unfold State.onLogin
  split <;> rfl

/-- The connection of a login, logout or disconnect is the only one that changes. -/
theorem Invariant.changes (h : Invariant s) {c : ℕ} {id : Option ℕ} {joined : ℕ → Channel → Bool}
    (others : ∀ d, d ≠ c → joined d = s.joined d)
    (known : ∀ i, id = some i → ∃ user, s.users i = some user)
    (suits : ∀ user, id.bind s.users = some user → Suits (joined c) user)
    (unnamed : id = none → Unnamed (joined c)) :
    Invariant { s with current := Function.update s.current c id, joined := joined } := by
  refine ⟨h.keys, ?_, ?_, ?_⟩
  · intro d i current
    by_cases same : d = c
    · subst same
      exact known i (by simpa using current)
    · exact h.known d i (by simpa [Function.update_of_ne same] using current)
  · intro d user current
    by_cases same : d = c
    · subst same
      exact suits user (by simpa [State.user] using current)
    · change Suits (joined d) user
      rw [others d same]
      exact h.suits d user (by simpa [State.user, Function.update_of_ne same] using current)
  · intro d none_
    by_cases same : d = c
    · subst same
      apply unnamed
      cases given : id with
      | none => rfl
      | some i =>
        obtain ⟨user, row⟩ := known i given
        simp [State.user, given, row] at none_
    · change Unnamed (joined d)
      rw [others d same]
      exact h.unnamed d (by simpa [State.user, Function.update_of_ne same] using none_)

theorem Invariant.joins_anonymous (h : Invariant s) (c : ℕ) : Invariant (s.join c [.anonymous]) := by
  have admin (d : ℕ) : (s.join c [.anonymous]).joined d .admin = s.joined d .admin := by
    by_cases same : d = c
    · simp [State.join, same]
    · simp [State.join, Function.update_of_ne same]
  have users (d id : ℕ) : (s.join c [.anonymous]).joined d (.user id) = s.joined d (.user id) := by
    by_cases same : d = c
    · simp [State.join, same]
    · simp [State.join, Function.update_of_ne same]
  exact ⟨h.keys, h.known, fun d user current => (h.suits d user current).congr (admin d) (users d),
    fun d none_ => (h.unnamed d none_).congr (admin d) (users d)⟩

theorem Invariant.setsRole (h : Invariant s) {user : User} {roleName : Option String}
    (suits : ∀ c, s.current c = some user.id →
      Suits (s.joined c) { user with roleName := roleName }) :
    Invariant (next s (.setRole user roleName)) := by
  refine ⟨?_, ?_, ?_, ?_⟩
  · intro id u found
    by_cases same : id = user.id
    · subst same
      obtain rfl : { user with roleName := roleName } = u := by simpa [next] using found
      rfl
    · exact h.keys id u (by simpa [next, Function.update_of_ne same] using found)
  · intro c id current
    by_cases same : id = user.id
    · exact ⟨{ user with roleName := roleName }, by simp [next, same]⟩
    · obtain ⟨u, found⟩ := h.known c id current
      exact ⟨u, by simpa [next, Function.update_of_ne same] using found⟩
  · intro c u found
    cases current : s.current c with
    | none => simp [State.user, next, current] at found
    | some id =>
      by_cases same : id = user.id
      · subst same
        obtain rfl : { user with roleName := roleName } = u := by
          simpa [State.user, next, current] using found
        exact suits c current
      · refine h.suits c u ?_
        simpa [State.user, next, current, Function.update_of_ne same] using found
  · intro c none_
    cases current : s.current c with
    | none => exact h.unnamed c (by simp [State.user, current])
    | some id =>
      by_cases same : id = user.id
      · simp [State.user, next, current, same] at none_
      · refine h.unnamed c ?_
        simpa [State.user, next, current, Function.update_of_ne same] using none_

theorem next_invariant (h : Invariant s) (enabled : Enabled s a) (careful : Careful s a) :
    Invariant (next s a) := by
  cases a with
  | connection c => exact h.joins_anonymous c
  | login c user =>
    have row : s.users user.id = some user := enabled
    have changed : Invariant { s with
        current := Function.update s.current c (some user.id)
        joined := (s.onLogin c user).joined } := by
      refine h.changes (fun d other => onLogin_other user other) ?_ ?_ ?_
      · intro i given
        cases given
        exact ⟨user, row⟩
      · intro u found
        obtain rfl : user = u := by simpa [row] using found
        exact Suits.onLogin careful
      · nofun
    dsimp only [next]
    rw [onLogin_users user]
    exact changed
  | logout c =>
    exact h.changes (fun _ _ => rfl) nofun nofun (fun _ => careful)
  | disconnect c =>
    exact h.changes (fun d other => Function.update_of_ne other _ _) nofun nofun
      (fun _ => by simp [Unnamed])
  | setRole user roleName => exact h.setsRole careful
  | publish emit userId => exact h

theorem Started.invariant (h : Started s) : Invariant s := by
  obtain ⟨current, joined, keys⟩ := h
  refine ⟨keys, ?_, ?_, ?_⟩
  · intro c id at_
    simp [current] at at_
  · intro c user at_
    simp [State.user, current] at at_
  · intro c _
    exact ⟨joined c .admin, fun id => joined c (.user id)⟩

theorem delivered_to_entitled {log : List (State × Action)} (run : channels.Run log s)
    (careful : ∀ e ∈ log, Careful e.1 e.2) {s : State} {emit : Option ℕ → Broadcast}
    {userId : Option ℕ} (published : (s, .publish emit userId) ∈ log) {c : ℕ}
    (delivered : Delivered s (emit userId) c) : Entitled s (emit userId) c := by
  have found : ∀ e ∈ log, Invariant e.1 ∧ Enabled e.1 e.2 := by
    intro e he
    exact ⟨run.found (fun _ => Started.invariant) (fun _ _ => next_invariant) careful e he,
      run.enabled_of_mem e he⟩
  obtain ⟨h, emitter⟩ := found _ published
  exact confidential_iff.2 ⟨h.suits, h.unnamed⟩ emit userId c emitter delivered

def ann : User := ⟨1, "ann", some "user", "", none, none, none, some true⟩

def bob : User := ⟨2, "bob", some "user", "", none, none, none, some true⟩

def idle : State :=
  ⟨fun id => [ann, bob].find? (·.id == id), fun _ => none, fun _ _ => false⟩

theorem start_idle : channels.Run [] idle := by
  refine .start ⟨fun _ => rfl, fun _ _ => rfl, ?_⟩
  intro id user found
  have := List.find?_some found
  simpa using this

def opened : State := next idle (.connection 0)

def asAnn : State := next opened (.login 0 ann)

theorem run_asAnn : channels.Run [(idle, .connection 0), (opened, .login 0 ann)] asAnn :=
  (start_idle.step (show channels.enabled idle (.connection 0) from rfl)).step
    (show channels.enabled opened (.login 0 ann) from rfl)

theorem owner_is_entitled : Entitled asAnn (emitDeviceUpdate (some 1)) 0 := by
  have run := run_asAnn.step
    (show channels.enabled asAnn (.publish emitDeviceUpdate (some 1)) from .inl rfl)
  refine delivered_to_entitled run ?_ (List.mem_append_right _ (List.mem_singleton.2 rfl))
    ⟨.user 1, user_mem 1, rfl⟩
  have fresh : Suits (opened.joined 0) ann := by
    refine .inr ⟨rfl, fun id joined => ?_⟩
    simp [opened, next, State.join, idle] at joined
  intro e he
  simp only [List.cons_append, List.nil_append, List.mem_cons, List.not_mem_nil, or_false] at he
  rcases he with rfl | rfl | rfl
  · trivial
  · exact fresh
  · trivial

def asBob : State := next asAnn (.login 0 bob)

/-- A second login on the same connection: the connection stays in the channel of the first user,
and gets the events about that user's devices. -/
theorem relogin_keeps_channel : ∃ log s, channels.Run log s ∧
    (asBob, .publish emitDeviceUpdate (some 1)) ∈ log ∧
    Delivered asBob (emitDeviceUpdate (some 1)) 0 ∧
    ¬ Entitled asBob (emitDeviceUpdate (some 1)) 0 := by
  have run := (run_asAnn.step (show channels.enabled asAnn (.login 0 bob) from rfl)).step
    (show channels.enabled asBob (.publish emitDeviceUpdate (some 1)) from .inl rfl)
  refine ⟨_, _, run, List.mem_append_right _ (List.mem_singleton.2 rfl), ⟨.user 1, user_mem 1, rfl⟩,
    ?_⟩
  rintro ⟨user, current, entitled⟩
  obtain rfl : bob = user := Option.some.inj current
  rcases entitled with admin | owner
  · exact absurd admin (by decide)
  · exact absurd owner (by decide)

end RealtimeChannels
