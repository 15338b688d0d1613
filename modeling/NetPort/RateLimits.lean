import Mathlib.Algebra.Order.Ring.Int
import Mathlib.Data.List.Basic

/-! The rate limit of `security_features.c`: one table for device ids, addresses and session tokens,
and when the requests of other addresses have no effect on the limit of an address. -/
namespace RateLimits

abbrev CString := List Char

/-- `rate_limit_config_t`; `max_penalties` is only logged. -/
structure Config where
  windowSeconds : ℕ
  maxRequests : ℕ
  penaltySeconds : ℕ

def Config.initial : Config := ⟨60, 100, 300⟩

/-- `rate_limit_entry_t`, whose `key` has 64 bytes. -/
structure Entry where
  key : CString
  short : key.length ≤ 63
  requestCount : ℕ
  windowStart : ℤ
  lastRequest : ℤ
  penaltyCount : ℕ
  penaltyUntil : ℤ
  deriving DecidableEq

/-- `g_rate_limit_table` -/
structure Table where
  entries : List Entry
  capacity : ℕ
  deriving DecidableEq

def Table.initial : Table := ⟨[], 1000⟩

/-- What the system answers to a check: the time, and whether `realloc` finds memory. -/
structure Moment where
  now : ℤ
  memory : Bool
  deriving DecidableEq

/-- The new entry for a key: `strncpy` cuts it off. -/
def Entry.new (key : CString) (now : ℤ) : Entry where
  key := key.take 63
  short := by simp
  requestCount := 0
  windowStart := now
  lastRequest := 0
  penaltyCount := 0
  penaltyUntil := 0

/-- The part of `check_rate_limit` that works on the entry; `true` allows the request. -/
def limit (cfg : Config) (now : ℤ) (e : Entry) : Bool × Entry :=
  if now < e.penaltyUntil then (false, e)
  else
    let e := if cfg.windowSeconds ≤ now - e.windowStart then
      { e with windowStart := now, requestCount := 0 } else e
    if cfg.maxRequests ≤ e.requestCount then
      (false, { e with
        penaltyCount := (e.penaltyCount + 1) % 2 ^ 32
        penaltyUntil := now + cfg.penaltySeconds
        requestCount := 0
        windowStart := now })
    else (true, { e with requestCount := e.requestCount + 1, lastRequest := now })

def touch (cfg : Config) (now : ℤ) (key : CString) : List Entry → Option (Bool × List Entry)
  | [] => none
  | e :: es =>
    if e.key = key then some ((limit cfg now e).1, (limit cfg now e).2 :: es)
    else (touch cfg now key es).map fun (ok, es) => (ok, e :: es)

/-- `check_rate_limit` -/
def checkRateLimit (cfg : Config) (m : Moment) (key : CString) (t : Table) : Bool × Table :=
  match touch cfg m.now key t.entries with
  | some (ok, es) => (ok, { t with entries := es })
  | none =>
    -- a full table that cannot grow lets the request through
    if t.capacity ≤ t.entries.length ∧ m.memory = false then (true, t)
    else
      let checked := limit cfg m.now (.new key m.now)
      (checked.1,
        { entries := t.entries ++ [checked.2]
          capacity := if t.capacity ≤ t.entries.length then 2 * t.capacity else t.capacity })

/-- `g_ip_blacklist` and `g_ip_whitelist` -/
structure Lists where
  blacklist : List CString
  whitelist : List CString

/-- `check_ip_access` -/
def checkIpAccess (lists : Lists) (address : CString) : Bool :=
  !lists.blacklist.contains address &&
    (lists.whitelist.isEmpty || lists.whitelist.contains address)

/-- The arguments of `validate_device_token` and of `validate_session_token_security`. -/
inductive Call where
  | device (deviceId authToken : Option CString)
  | session (sessionToken : Option CString)
  deriving DecidableEq

structure Request where
  source : Option CString
  call : Call
  first : Moment
  second : Moment
  deriving DecidableEq

/-- The verdict of the check of the address, where it is made, and whether the request passes. -/
structure Outcome where
  address : Option Bool
  accepted : Bool
  deriving DecidableEq

def validateDeviceToken (cfg : Config) (lists : Lists) (deviceId authToken source : Option CString)
    (first second : Moment) (t : Table) : Outcome × Table :=
  match deviceId, authToken with
  | some deviceId, some _ =>
    let device := checkRateLimit cfg first deviceId t
    if device.1 then
      match source with
      | some source =>
        let address := checkRateLimit cfg second source device.2
        (⟨some address.1, address.1 && checkIpAccess lists source⟩, address.2)
      | none => (⟨none, true⟩, device.2)
    else (⟨none, false⟩, device.2)
  | _, _ => (⟨none, false⟩, t)

/-- `snprintf` with `session_%.16s` -/
def sessionKey (sessionToken : CString) : CString :=
  ['s', 'e', 's', 's', 'i', 'o', 'n', '_'] ++ sessionToken.take 16

def validateSessionTokenSecurity (cfg : Config) (lists : Lists)
    (sessionToken source : Option CString) (first : Moment) (t : Table) : Outcome × Table :=
  match sessionToken with
  | some sessionToken =>
    let session := checkRateLimit cfg first (sessionKey sessionToken) t
    if session.1 then (⟨none, source.all (checkIpAccess lists)⟩, session.2)
    else (⟨none, false⟩, session.2)
  | none => (⟨none, false⟩, t)

def handle (cfg : Config) (lists : Lists) (r : Request) (t : Table) : Outcome × Table :=
  match r.call with
  | .device deviceId authToken =>
    validateDeviceToken cfg lists deviceId authToken r.source r.first r.second t
  | .session sessionToken =>
    validateSessionTokenSecurity cfg lists sessionToken r.source r.first t

def verdicts (cfg : Config) (lists : Lists) (b : CString) :
    List Request → Table → List (Option Bool)
  | [], _ => []
  | r :: rs, t =>
    let (outcome, t') := handle cfg lists r t
    if r.source = some b then outcome.address :: verdicts cfg lists b rs t'
    else verdicts cfg lists b rs t'

/-- What the claimant of a run controls: the request and its times, not the memory. -/
def Request.seen (r : Request) : Option CString × Call × ℤ × ℤ :=
  (r.source, r.call, r.first.now, r.second.now)

def own (b : CString) (rs : List Request) : List Request := rs.filter (·.source = some b)

def Request.keys (r : Request) : List CString :=
  match r.call with
  | .device (some deviceId) (some _) => deviceId :: r.source.toList
  | .device _ _ => []
  | .session (some sessionToken) => [sessionKey sessionToken]
  | .session none => []

/-- The keys that decide over the checks of an address: its own and the device ids of its
requests. -/
def deciding (b : CString) (rs : List Request) : List CString :=
  b :: (own b rs).filterMap fun r =>
    match r.call with
    | .device deviceId (some _) => deviceId
    | _ => none

/-- No request from another address uses, as far as an entry stores it, a key that decides over the
checks of `b`, and the table grows when a request of `b` needs it. -/
def Apart (b : CString) (rs : List Request) : Prop :=
  ∀ r ∈ rs, if r.source = some b then r.first.memory = true ∧ r.second.memory = true
    else ∀ key ∈ r.keys, key.take 63 ∉ deciding b rs

instance (b : CString) (rs : List Request) : Decidable (Apart b rs) :=
  inferInstanceAs (Decidable (∀ r ∈ rs,
    if r.source = some b then r.first.memory = true ∧ r.second.memory = true
    else ∀ key ∈ r.keys, key.take 63 ∉ deciding b rs))

def lookup (es : List Entry) (key : CString) : Option Entry := es.find? (·.key = key)

def Agree (K : List CString) (t t' : Table) : Prop :=
  ∀ k ∈ K, lookup t.entries k = lookup t'.entries k

variable {cfg : Config} {lists : Lists} {m : Moment} {now : ℤ} {key k b : CString} {es : List Entry}
  {e : Entry} {t t' : Table} {K : List CString} {r : Request} {rs : List Request}

@[simp] theorem limit_key (cfg : Config) (now : ℤ) (e : Entry) :
    (limit cfg now e).2.key = e.key := by
  unfold limit
  split
  · rfl
  · dsimp only
    split <;> split <;> rfl

theorem lookup_cons : lookup (e :: es) k = if e.key = k then some e else lookup es k := by
  unfold lookup
  rw [List.find?_cons]
  by_cases same : e.key = k
  · simp [same]
  · simp [same]

theorem lookup_append (es : List Entry) (e : Entry) (k : CString) :
    lookup (es ++ [e]) k = (lookup es k).or (if e.key = k then some e else none) := by
  unfold lookup
  rw [List.find?_append]
  by_cases same : e.key = k
  · simp [same]
  · simp [same]

theorem short_of_lookup (found : lookup es key = some e) : key.take 63 = key := by
  have same : e.key = key := by simpa using List.find?_some found
  rw [← same]
  exact List.take_of_length_le e.short

theorem touch_none (cfg : Config) (now : ℤ) (absent : lookup es key = none) :
    touch cfg now key es = none := by
  induction es with
  | nil => rfl
  | cons e es ih =>
    rw [lookup_cons] at absent
    split at absent
    · cases absent
    · rename_i other
      simp only [touch, if_neg other, ih absent, Option.map_none]

theorem touch_some (cfg : Config) (now : ℤ) (found : lookup es key = some e) :
    ∃ es', touch cfg now key es = some ((limit cfg now e).1, es') ∧
      ∀ k, lookup es' k = if key = k then some (limit cfg now e).2 else lookup es k := by
  induction es with
  | nil => cases found
  | cons e₀ es ih =>
    rw [lookup_cons] at found
    by_cases same : e₀.key = key
    · rw [if_pos same] at found
      cases found
      refine ⟨_, by rw [touch, if_pos same], fun k => ?_⟩
      rw [lookup_cons, lookup_cons, limit_key, same]
      by_cases here : key = k
      · rw [if_pos here, if_pos here]
      · rw [if_neg here, if_neg here, if_neg here]
    · rw [if_neg same] at found
      obtain ⟨es', touched, changed⟩ := ih found
      refine ⟨e₀ :: es', by rw [touch, if_neg same, touched]; rfl, fun k => ?_⟩
      rw [lookup_cons, lookup_cons, changed]
      by_cases here : key = k
      · rw [if_pos here, if_neg (here ▸ same), if_pos here]
      · rw [if_neg here, if_neg here]

/-- A check of a key that is stored under none of these leaves their entries. -/
theorem check_elsewhere (agree : Agree K t t') (other : key.take 63 ∉ K) :
    Agree K (checkRateLimit cfg m key t).2 t' := by
  intro k mem
  rw [← agree k mem]
  unfold checkRateLimit
  cases found : lookup t.entries key with
  | some e =>
    obtain ⟨es', touched, changed⟩ := touch_some cfg m.now found
    have ne : key ≠ k := by
      rintro rfl
      rw [short_of_lookup found] at other
      exact other mem
    simp only [touched, changed, if_neg ne]
  | none =>
    simp only [touch_none cfg m.now found]
    split
    · rfl
    · have ne : key.take 63 ≠ k := fun same => other (same ▸ mem)
      simp only [lookup_append, limit_key, Entry.new, if_neg ne, Option.or_none]

/-- A check of one of the keys has the same verdict and leaves tables that agree. -/
theorem check_agree (cfg : Config) (m : Moment) (agree : Agree K t t') (mem : key ∈ K)
    (memory : m.memory = true) :
    (checkRateLimit cfg m key t).1 = (checkRateLimit cfg m key t').1 ∧
      Agree K (checkRateLimit cfg m key t).2 (checkRateLimit cfg m key t').2 := by
  have same := agree key mem
  unfold checkRateLimit
  cases found : lookup t.entries key with
  | some e =>
    obtain ⟨es, touched, changed⟩ := touch_some cfg m.now found
    obtain ⟨es', touched', changed'⟩ := touch_some cfg m.now (same.symm.trans found)
    simp only [touched, touched', true_and]
    intro k mem
    simp only [changed, changed', agree k mem]
  | none =>
    simp only [touch_none cfg m.now found, touch_none cfg m.now (same.symm.trans found), memory,
      Bool.true_eq_false, and_false, if_false, true_and]
    intro k mem
    simp only [lookup_append, agree k mem]

theorem handle_elsewhere (agree : Agree K t t') (other : ∀ key ∈ r.keys, key.take 63 ∉ K) :
    Agree K (handle cfg lists r t).2 t' := by
  unfold handle Request.keys at *
  cases call : r.call with
  | device deviceId authToken =>
    cases deviceId with
    | none => exact agree
    | some deviceId =>
      cases authToken with
      | none => exact agree
      | some authToken =>
        simp only [call, List.mem_cons, forall_eq_or_imp] at other
        have first : Agree K (checkRateLimit cfg r.first deviceId t).2 t' :=
          check_elsewhere agree other.1
        simp only [validateDeviceToken]
        split
        · cases source : r.source with
          | none => exact first
          | some source' =>
            refine check_elsewhere first (other.2 source' ?_)
            simp [source]
        · exact first
  | session sessionToken =>
    cases sessionToken with
    | none => exact agree
    | some sessionToken =>
      simp only [call, List.mem_singleton, forall_eq] at other
      have first : Agree K (checkRateLimit cfg r.first (sessionKey sessionToken) t).2 t' :=
        check_elsewhere agree other
      simp only [validateSessionTokenSecurity]
      split <;> exact first

theorem sessionKey_short (token : CString) : (sessionKey token).take 63 = sessionKey token := by
  apply List.take_of_length_le
  simp only [sessionKey, List.length_append, List.length_take, List.length_cons, List.length_nil]
  omega

theorem Agree.symm (agree : Agree K t t') : Agree K t' t := fun k mem => (agree k mem).symm

theorem handle_own (cfg : Config) (lists : Lists) (agree : Agree K t t')
    (source : r.source = some b) (address : b ∈ K)
    (device : ∀ deviceId authToken,
      r.call = .device (some deviceId) (some authToken) → deviceId ∈ K)
    (memory : r.first.memory = true ∧ r.second.memory = true) :
    (handle cfg lists r t).1.address = (handle cfg lists r t').1.address ∧
      Agree K (handle cfg lists r t).2 (handle cfg lists r t').2 := by
  unfold handle
  cases call : r.call with
  | device deviceId authToken =>
    cases deviceId with
    | none => exact ⟨rfl, agree⟩
    | some deviceId =>
      cases authToken with
      | none => exact ⟨rfl, agree⟩
      | some authToken =>
        obtain ⟨verdict, after⟩ := check_agree cfg r.first agree
          (device deviceId authToken call) memory.1
        obtain ⟨verdict', after'⟩ := check_agree cfg r.second after address memory.2
        simp only [validateDeviceToken, source, verdict]
        split
        · exact ⟨congrArg some verdict', after'⟩
        · exact ⟨rfl, after⟩
  | session sessionToken =>
    cases sessionToken with
    | none => exact ⟨rfl, agree⟩
    | some token =>
      have after : Agree K (checkRateLimit cfg r.first (sessionKey token) t).2
          (checkRateLimit cfg r.first (sessionKey token) t').2 := by
        by_cases mem : sessionKey token ∈ K
        · exact (check_agree cfg r.first agree mem memory.1).2
        · have other : (sessionKey token).take 63 ∉ K := by rwa [sessionKey_short]
          exact (check_elsewhere (check_elsewhere agree other).symm other).symm
      simp only [validateSessionTokenSecurity]
      split <;> split <;> exact ⟨rfl, after⟩

theorem verdicts_own (address : b ∈ K)
    (device : ∀ r ∈ rs, r.source = some b → ∀ deviceId authToken,
      r.call = .device (some deviceId) (some authToken) → deviceId ∈ K)
    (apart : ∀ r ∈ rs, if r.source = some b then r.first.memory = true ∧ r.second.memory = true
      else ∀ key ∈ r.keys, key.take 63 ∉ K)
    (agree : Agree K t t') :
    verdicts cfg lists b rs t = verdicts cfg lists b (own b rs) t' := by
  induction rs generalizing t t' with
  | nil => rfl
  | cons r rs ih =>
    have here := apart r (by simp)
    have ih {u u' : Table} (agree : Agree K u u') :=
      ih (fun r mem => device r (List.mem_cons_of_mem _ mem))
        (fun r mem => apart r (List.mem_cons_of_mem _ mem)) agree
    by_cases source : r.source = some b
    · rw [if_pos source] at here
      obtain ⟨verdict, after⟩ := handle_own cfg lists agree source address
        (device r (by simp) source) here
      have kept : own b (r :: rs) = r :: own b rs := by simp [own, source]
      rw [kept]
      simp only [verdicts, if_pos source, verdict, ih after]
    · rw [if_neg source] at here
      have left : own b (r :: rs) = own b rs := by simp [own, source]
      rw [left]
      simp only [verdicts, if_neg source]
      exact ih (handle_elsewhere agree here)

theorem mem_own : r ∈ own b rs ↔ r ∈ rs ∧ r.source = some b := by simp [own]

theorem mem_deciding {deviceId authToken : CString} (mem : r ∈ rs) (source : r.source = some b)
    (call : r.call = .device (some deviceId) (some authToken)) : deviceId ∈ deciding b rs := by
  refine List.mem_cons_of_mem _ (List.mem_filterMap.2 ⟨r, mem_own.2 ⟨mem, source⟩, ?_⟩)
  rw [call]

/-- With memory at hand a request is what its source sends, and when. -/
theorem own_of_seen (apart : Apart b rs) :
    own b rs = ((own b rs).map Request.seen).map fun (source, call, first, second) =>
      ⟨source, call, ⟨first, true⟩, ⟨second, true⟩⟩ := by
  rw [List.map_map]
  refine (List.map_id' (own b rs)).symm.trans (List.map_congr_left fun r mem => ?_)
  obtain ⟨mem, source⟩ := mem_own.1 mem
  have memory := apart r mem
  rw [if_pos source] at memory
  obtain ⟨s, call, ⟨first, m⟩, ⟨second, m'⟩⟩ := r
  obtain ⟨rfl, rfl⟩ : m = true ∧ m' = true := memory
  rfl

/-- Two runs with the same requests from an address, whose other requests stay off the keys that
decide over it, check the address with the same verdicts. -/
theorem address_isolated (cfg : Config) (lists : Lists) (b : CString) (rs rs' : List Request)
    (t : Table) (same : (own b rs).map Request.seen = (own b rs').map Request.seen)
    (apart : Apart b rs) (apart' : Apart b rs') :
    verdicts cfg lists b rs t = verdicts cfg lists b rs' t := by
  have alone (rs : List Request) (apart : Apart b rs) :
      verdicts cfg lists b rs t = verdicts cfg lists b (own b rs) t := by
    refine verdicts_own (K := deciding b rs) (List.mem_cons_self ..) ?_ apart fun _ _ => rfl
    exact fun r mem source deviceId authToken call => mem_deciding mem source call
  have equal : own b rs = own b rs' := by
    rw [own_of_seen apart, own_of_seen apart', same]
  rw [alone rs apart, alone rs' apart', equal]

namespace Sample

def here : CString := ['1', '0', '.', '0', '.', '0', '.', '1']

def elsewhere : CString := ['1', '0', '.', '0', '.', '0', '.', '2']

def attempt (source deviceId : CString) : Request :=
  ⟨some source, .device (some deviceId) (some []), ⟨1000, true⟩, ⟨1000, true⟩⟩

end Sample

open Sample in
theorem other_device_isolated :
    verdicts .initial ⟨[], []⟩ here (List.replicate 101 (attempt elsewhere ['e']) ++
      [attempt here ['d']]) .initial =
      verdicts .initial ⟨[], []⟩ here [attempt here ['d']] .initial :=
  address_isolated _ _ _ _ _ _ (by decide +kernel) (by decide +kernel) (by decide +kernel)

/-- A hundred and one attempts with the address of somebody else as device id. -/
theorem address_penalised : ¬ ∀ (cfg : Config) (lists : Lists) (b : CString)
    (rs rs' : List Request), (own b rs).map Request.seen = (own b rs').map Request.seen →
      verdicts cfg lists b rs .initial = verdicts cfg lists b rs' .initial := by
  intro always
  have equal := always .initial ⟨[], []⟩ Sample.here
    (List.replicate 101 (Sample.attempt Sample.elsewhere Sample.here) ++
      [Sample.attempt Sample.here ['d']]) [Sample.attempt Sample.here ['d']] (by decide +kernel)
  exact absurd equal (by decide +kernel)

end RateLimits
