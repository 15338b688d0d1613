import Mathlib.Data.List.GetD
import Mathlib.Data.List.Nodup
import NetPort.RegistrationAtomicity
import NetPort.StepRuns

/-! The tokens of `generate_session_token` in the registrations of a run, and whether the table of
the sessions takes them. -/
namespace SessionTokens

open StepRuns StatementPrograms SqlUpdate DeviceTables DeviceManager RegistrationAtomicity

/-- The values that `rand_r` returns from a seed, one after the other. -/
abbrev RandR := BitVec 32 → ℕ → ℕ

def charset : List Char :=
  "abcdefghijklmnopqrstuvwxyzABCDEFGHIJKLMNOPQRSTUVWXYZ0123456789".toList

/-- `(unsigned int)(now ^ (uintptr_t)device_id)` -/
def seed (now address : BitVec 64) : BitVec 32 := (now ^^^ address).setWidth 32

def randomPart (randR : RandR) (seed : BitVec 32) (randomLen : ℕ) : List Char :=
  (List.range randomLen).map fun i => charset.getD (randR seed i % charset.length) 'a'

/-- `token_len` bytes hold the token and a 0. -/
def generateSessionToken (randR : RandR) (now address : BitVec 64) (tokenLen : ℕ) :
    Option (List Char) :=
  if tokenLen < 32 then none
  else
    let randomLen := if 48 < tokenLen then 32 else tokenLen / 2
    if 64 ≤ randomLen then none
    else
      let token := Nat.toDigits 16 now.toNat ++ '-' :: randomPart randR (seed now address) randomLen
      some (token.take (tokenLen - 1))

/-- `char session_token[SESSION_TOKEN_MAX_LEN + 1]` of the callers of `register_device_session`. -/
def tokenSize : ℕ := 257

/-- One registration: the clock, the address of the string `device_id`, the id that the table gives
to the session, and which statements fail. -/
structure Call where
  deviceId : String
  now : BitVec 64
  address : BitVec 64
  sessionId : Uuid
  connection : Bool
  cleanup : Bool
  allocation : Bool
  update : Bool

def Call.failures (c : Call) : Failures := ⟨false, c.connection, c.cleanup, c.allocation, c.update⟩

def Call.token (randR : RandR) (c : Call) : String :=
  String.ofList ((generateSessionToken randR c.now c.address tokenSize).getD [])

def prepare (randR : RandR) (c : Call) (s : Stamped) : Stamped :=
  { s with state := { s.state with
    nextSessionId := c.sessionId
    nextSessionToken := c.token randR } }

def Call.run (randR : RandR) (cfg : ProxyRuntimes.Config) (c : Call) (s : Stamped) :
    Option (String × ℕ × ℕ) × Stamped :=
  register cfg c.failures c.deviceId (prepare randR c s)

inductive Action where
  | register (c : Call)
  /-- the other statements, none of which inserts a session -/
  | others (t : Stamped)

/-- The column `session_token` of `device_sessions`. -/
def tokens (db : Db) : List String := db.sessions.map (·.sessionToken)

def registrations (randR : RandR) (cfg : ProxyRuntimes.Config) : System Stamped Action where
  initial s := s.state.db.sessions = []
  enabled s
    | .register _ => True
    | .others t => tokens t.state.db ⊆ tokens s.state.db
  next s
    | .register c => (c.run randR cfg s).2
    | .others t => t

abbrev Log := List (Stamped × Action)

def calls (log : Log) : List Call :=
  log.filterMap fun e =>
    match e.2 with
    | .register c => some c
    | .others _ => none

def Call.tables (randR : RandR) (c : Call) (s : Stamped) : Db :=
  (prepared c.failures c.deviceId (prepare randR c s)).state.db

def Inserts (deviceId : String) (db : Db) : Prop :=
  ((db.devices.find? fun d => d.deviceId == deviceId && d.status.admitted).bind
    fun dev => findPair dev db).isSome = true

/-- The session is to be inserted, and another one has its token. -/
def Refused (randR : RandR) (c : Call) (s : Stamped) : Prop :=
  c.connection = false ∧ c.allocation = false ∧ Inserts c.deviceId (c.tables randR s) ∧
    c.token randR ∈ tokens (c.tables randR s)

instance (randR : RandR) (c : Call) (s : Stamped) : Decidable (Refused randR c s) :=
  inferInstanceAs (Decidable (_ = _ ∧ _ = _ ∧ _ = _ ∧ _ ∈ _))

/-- No two calls have the same token, and no insertion fails for a token that is already there. -/
structure Unique (randR : RandR) (log : Log) : Prop where
  distinct : ((calls log).map (·.token randR)).Nodup
  inserted : ∀ e ∈ log, ∀ c, e.2 = .register c → ¬ Refused randR c e.1

/-- Calls in one second have seeds from which `rand_r` takes different ways through the charset. -/
def Apart (randR : RandR) (c c' : Call) : Prop :=
  c.now = c'.now → ∃ i < 32,
    randR (seed c.now c.address) i % 62 ≠ randR (seed c'.now c'.address) i % 62

variable {randR : RandR} {cfg : ProxyRuntimes.Config} {s : Stamped} {c c' : Call} {log : Log}

theorem toDigits_no_dash (n : ℕ) : '-' ∉ Nat.toDigits 16 n := by
  induction n using Nat.strongRecOn with
  | _ n ih =>
    rw [Nat.toDigits_eq_if (by decide)]
    have digit (k : ℕ) : '-' ≠ k.digitChar := (Nat.digitChar_ne '-' (by decide)).symm
    split
    · simp [digit]
    · rename_i large
      have before := ih (n / 16) (Nat.div_lt_self (by omega) (by decide))
      simp [before, digit]

theorem digitChar_injective : ∀ a < 16, ∀ b < 16, Nat.digitChar a = Nat.digitChar b → a = b := by
  decide

theorem toDigits_injective {n m : ℕ} (same : Nat.toDigits 16 n = Nat.toDigits 16 m) : n = m := by
  induction n using Nat.strongRecOn generalizing m with
  | _ n ih =>
    rw [Nat.toDigits_eq_if (n := n) (by decide), Nat.toDigits_eq_if (n := m) (by decide)] at same
    split at same
    · rename_i smallN
      split at same
      · rename_i smallM
        exact digitChar_injective n smallN m smallM (List.singleton_inj.1 same)
      · have length := congrArg List.length same
        have := Nat.length_toDigits_pos (b := 16) (n := m / 16)
        simp at length
    · rename_i largeN
      split at same
      · have length := congrArg List.length same
        simp at length
      · obtain ⟨quotient, remainder⟩ := List.append_inj' same rfl
        have high := ih (n / 16) (Nat.div_lt_self (by omega) (by decide)) quotient
        have low := digitChar_injective _ (Nat.mod_lt n (by decide)) _
          (Nat.mod_lt m (by decide)) (List.singleton_inj.1 remainder)
        omega

theorem split_dash {a b x y : List Char} (ha : '-' ∉ a) (hb : '-' ∉ b)
    (same : a ++ '-' :: x = b ++ '-' :: y) : a = b ∧ x = y := by
  induction a generalizing b with
  | nil =>
    cases b with
    | nil => exact ⟨rfl, List.tail_eq_of_cons_eq same⟩
    | cons d b =>
      obtain ⟨rfl, -⟩ := List.cons_eq_cons.1 same
      exact absurd (List.mem_cons_self ..) hb
  | cons d a ih =>
    cases b with
    | nil =>
      obtain ⟨rfl, -⟩ := List.cons_eq_cons.1 same
      exact absurd (List.mem_cons_self ..) ha
    | cons d' b =>
      obtain ⟨rfl, rest⟩ := List.cons_eq_cons.1 same
      have heads := ih (fun mem => ha (List.mem_cons_of_mem _ mem))
        (fun mem => hb (List.mem_cons_of_mem _ mem)) rest
      rw [heads.1]
      exact ⟨rfl, heads.2⟩

theorem charset_nodup : charset.Nodup := by decide +kernel

theorem charset_length : charset.length = 62 := by decide +kernel

theorem charset_injective {a b : ℕ} (ha : a < 62) (hb : b < 62)
    (same : charset.getD a 'a' = charset.getD b 'a') : a = b := by
  rw [← charset_length] at ha hb
  rw [List.getD_eq_getElem _ _ ha, List.getD_eq_getElem _ _ hb] at same
  exact charset_nodup.getElem_inj_iff.1 same

theorem randomPart_eq_iff (randR : RandR) (seed seed' : BitVec 32) :
    randomPart randR seed 32 = randomPart randR seed' 32 ↔
      ∀ i < 32, randR seed i % 62 = randR seed' i % 62 := by
  unfold randomPart
  rw [charset_length, List.map_inj_left]
  constructor
  · intro same i small
    exact charset_injective (Nat.mod_lt _ (by decide)) (Nat.mod_lt _ (by decide))
      (same i (List.mem_range.2 small))
  · intro same i mem
    rw [same i (List.mem_range.1 mem)]

theorem generate_eq (randR : RandR) (now address : BitVec 64) :
    generateSessionToken randR now address tokenSize =
      some (Nat.toDigits 16 now.toNat ++ '-' :: randomPart randR (seed now address) 32) := by
  have digits : (Nat.toDigits 16 now.toNat).length ≤ 16 := by
    rw [Nat.length_toDigits_le_iff (by decide) (by decide)]
    exact now.isLt
  have enough : (Nat.toDigits 16 now.toNat ++
      '-' :: randomPart randR (seed now address) 32).length ≤ 256 := by
    simp only [List.length_append, List.length_cons, randomPart, List.length_map, List.length_range]
    omega
  unfold generateSessionToken
  simp only [tokenSize, Nat.reduceLT, if_false, if_true, Nat.reduceLeDiff, Nat.reduceSub]
  rw [List.take_of_length_le enough]

theorem token_eq_iff (randR : RandR) (c c' : Call) :
    c.token randR = c'.token randR ↔ ¬ Apart randR c c' := by
  unfold Call.token Apart
  rw [generate_eq, generate_eq, Option.getD_some, Option.getD_some, String.ofList_inj]
  constructor
  · intro same apart
    obtain ⟨digits, random⟩ := split_dash (toDigits_no_dash _) (toDigits_no_dash _) same
    obtain ⟨i, small, differ⟩ := apart (BitVec.eq_of_toNat_eq (toDigits_injective digits))
    exact differ ((randomPart_eq_iff randR _ _).1 random i small)
  · intro close
    obtain ⟨second, all⟩ := Classical.not_imp.1 close
    have random := (randomPart_eq_iff randR (seed c.now c.address) (seed c'.now c'.address)).2
      fun i small => by_contra fun differ => all ⟨i, small, differ⟩
    rw [random, second]

theorem registerSession_tokens {deviceId token : String} {timeout : ℕ} {sid : Uuid} {db : Db}
    {r : Db × Option (ℕ × ℕ)} (done : registerSession deviceId token timeout sid db = some r) :
    tokens r.1 ⊆ tokens db ++ [token] := by
  unfold registerSession at done
  split at done
  · cases done
    exact List.subset_append_left _ _
  · split at done
    · cases done
      exact List.subset_append_left _ _
    · split at done
      · cases done
      · cases done
        simp [tokens, updatePorts]

theorem prepared_tokens (f : Failures) (deviceId : String) (s : Stamped) :
    tokens (prepared f deviceId s).state.db = tokens s.state.db := by
  rw [prepared_db]
  unfold cleaned tokens
  split
  · rfl
  · rw [cleanup_sessions]
    apply map_updateRows
    intro u
    rfl

theorem allocate_tokens (cfg : ProxyRuntimes.Config) (f : Failures) (deviceId token : String)
    (s : Stamped) :
    tokens (StatementPrograms.run (RegistrationAtomicity.interp cfg f) (allocate deviceId token)
      s).2.state.db ⊆ tokens s.state.db ++ [token] := by
  unfold allocate
  simp only [perform_bind, StatementPrograms.run]
  cases inserted : RegistrationAtomicity.interp cfg f (.registerSession deviceId token) s with
  | none => exact List.subset_append_left _ _
  | some r =>
    have after : tokens r.1.state.db ⊆ tokens s.state.db ++ [token] := by
      unfold RegistrationAtomicity.interp at inserted
      split at inserted
      · cases inserted
      · obtain ⟨t, done, rfl⟩ := Option.map_eq_some_iff.1 inserted
        obtain ⟨u, row, rfl⟩ := Option.map_eq_some_iff.1 done
        exact registerSession_tokens row
    obtain ⟨t, ports⟩ := r
    cases ports with
    | none => exact after
    | some ports =>
      simp only [StatementPrograms.run]
      cases updated : RegistrationAtomicity.interp cfg f (.setRegistered deviceId ports.1) t with
      | none => exact after
      | some r =>
        unfold RegistrationAtomicity.interp at updated
        split at updated
        · cases updated
        · obtain ⟨t', done, rfl⟩ := Option.map_eq_some_iff.1 updated
          cases done
          exact after

theorem run_tokens (randR : RandR) (cfg : ProxyRuntimes.Config) (c : Call) (s : Stamped) :
    tokens (c.run randR cfg s).2.state.db ⊆ tokens s.state.db ++ [c.token randR] := by
  unfold Call.run
  by_cases lost : c.connection = true
  · rw [register_early (.inr lost)]
    exact List.subset_append_left _ _
  · have connected : c.failures.connection = false := by simpa [Call.failures] using lost
    rw [register_late cfg c.deviceId _ rfl connected]
    have after := allocate_tokens cfg c.failures c.deviceId (c.token randR)
      (prepared c.failures c.deviceId (prepare randR c s))
    rwa [prepared_tokens] at after

theorem calls_snoc (log : Log) (s : Stamped) (a : Action) :
    calls (log ++ [(s, a)]) = calls log ++ calls [(s, a)] := List.filterMap_append

theorem tokens_of_calls (run : (registrations randR cfg).Run log s) :
    tokens s.state.db ⊆ (calls log).map (·.token randR) := by
  induction run with
  | start initial =>
    rw [tokens, show _ = [] from initial]
    exact List.nil_subset _
  | @step log s a _ enabled ih =>
    rw [calls_snoc, List.map_append]
    cases a with
    | register c =>
      intro token mem
      rcases List.mem_append.1 (run_tokens randR cfg c s mem) with old | new
      · exact List.mem_append_left _ (ih old)
      · exact List.mem_append_right _ new
    | others t => exact fun token mem => List.mem_append_left _ (ih (enabled mem))

theorem Refused.fails (refused : Refused randR c s) (cfg : ProxyRuntimes.Config) :
    (c.run randR cfg s).1 = none := by
  obtain ⟨connection, -, -, taken⟩ := refused
  unfold Call.run
  rw [register_late cfg c.deviceId _ rfl connection]
  obtain ⟨u, mem, same⟩ := List.mem_map.1 taken
  refine congrArg Prod.fst (allocate_refused cfg ?_)
  rintro ⟨-, dev, port, -, -, fresh⟩
  exact (fresh u mem).2 same

/-- The tokens of a run are unique in the calls and in the table exactly when the calls within one
second are apart. -/
theorem tokens_unique_iff (randR : RandR) (cfg : ProxyRuntimes.Config)
    (run : (registrations randR cfg).Run log s) :
    Unique randR log ↔ (calls log).Pairwise (Apart randR) := by
  have distinct : ((calls log).map (·.token randR)).Nodup ↔
      (calls log).Pairwise (Apart randR) := by
    rw [List.Nodup, List.pairwise_map]
    have apart (c c' : Call) : c.token randR ≠ c'.token randR ↔ Apart randR c c' := by
      rw [Ne, token_eq_iff, not_not]
    simp only [apart]
  rw [← distinct]
  refine ⟨fun unique => unique.distinct, fun nodup => ⟨nodup, ?_⟩⟩
  rintro ⟨s', a⟩ mem c rfl ⟨-, -, -, taken⟩
  obtain ⟨earlier, later, rfl⟩ := List.append_of_mem mem
  rw [Call.tables, prepared_tokens] at taken
  have before := tokens_of_calls run.split.1 taken
  have steps : calls (earlier ++ (s', Action.register c) :: later) =
      calls earlier ++ c :: calls later := List.filterMap_append
  rw [steps, List.map_append, List.nodup_append] at nodup
  exact nodup.2.2 _ before _ (by simp) rfl

namespace Sample

/-- A registration of device A in the second `now`, with its id at this address. -/
def registration (now address : BitVec 64) (sessionId : Uuid) : Call :=
  ⟨"A", now, address, sessionId, false, false, false, false⟩

def values : RandR := fun seed i => seed.toNat * (i + 1)

def config : ProxyRuntimes.Config := DeviceManager.Sample.cfg

def start : Stamped := ⟨DeviceManager.Sample.start, fun _ => 0⟩

def once : Stamped := ((registration 1000 0x5000 1).run values config start).2

theorem run_once : (registrations values config).Run
    [(start, .register (registration 1000 0x5000 1))] once := by
  have none : (registrations values config).Run [] start := .start rfl
  exact none.step (a := Action.register (registration 1000 0x5000 1)) trivial

def twice : Stamped := ((registration 1000 0x6000 2).run values config once).2

end Sample

open Sample in
/-- Two registrations in one second with the ids at different addresses, and one in the next. -/
theorem different_addresses_unique : Unique values
    [(start, .register (registration 1000 0x5000 1)),
      (once, .register (registration 1000 0x6000 2)),
      (twice, .register (registration 1001 0x5000 3))] := by
  have same := run_once.step (a := Action.register (registration 1000 0x6000 2)) trivial
  have run := same.step (a := Action.register (registration 1001 0x5000 3)) trivial
  refine (tokens_unique_iff values config run).2 ?_
  refine List.pairwise_cons.2 ⟨?_, List.pairwise_pair.2 fun same => ?_⟩
  · intro c mem
    rcases List.mem_pair.1 mem with rfl | rfl
    · exact fun _ => ⟨0, by decide, by decide⟩
    · exact fun same => absurd same (by decide)
  · exact absurd same (by decide)

open Sample in
/-- The device registers again in the same second, and its id is at the same address. -/
theorem second_refused : ¬ ∀ (randR : RandR) (cfg : ProxyRuntimes.Config) (log : Log) (s : Stamped),
    (registrations randR cfg).Run log s → Unique randR log := by
  intro always
  have run := run_once.step (a := Action.register (registration 1000 0x5000 2)) trivial
  have unique := always values config _ _ run
  refine unique.inserted (once, .register (registration 1000 0x5000 2)) ?_ _ rfl ?_
  · exact List.mem_append_right _ (List.mem_singleton_self _)
  · decide +kernel

end SessionTokens
