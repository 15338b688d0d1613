import Mathlib.Data.List.Dedup
import Mathlib.Data.List.Perm.Subperm
import NetPort.RegistryAgreement

/-! The slots of the `servers` array over any sequence of starts, stops and TLS reloads: when one is
added, and whether a device that comes back gets the slot it had. -/
namespace ServerSlots

open StepRuns ProxyRuntimes RuntimeInvariant RegistryAgreement

structure Pair where
  deviceId : String
  inputPort : ℕ
  tunnelPort : ℕ
  deriving DecidableEq

/-- The calls of one process, which starts with `p₀`. -/
def process (cfg : Config) (p₀ : Proxy) : System Proxy Action :=
  ⟨fun p => p = p₀, fun _ _ => True, RegistryAgreement.next cfg⟩

instance (cfg : Config) (p₀ p : Proxy) (a : Action) : Decidable ((process cfg p₀).enabled p a) :=
  inferInstanceAs (Decidable True)

abbrev Log := List (Proxy × Action)

/-- What a step calls `ensure_dynamic_server_for_device` for, and the state which that finds. -/
def ensured (e : Proxy × Action) : Option (Pair × DeviceInfo × Proxy) :=
  match e.2 with
  | .ensure d ip tp info outcome => some (⟨d, ip, tp⟩, info, { e.1 with outcome := outcome })
  | .reload d ip info outcome =>
    if ip == 0 then none
    else some (⟨d, ip, tunnelPort ip⟩, info,
      stopDynamicServerForDevice d ip (tunnelPort ip) { e.1 with outcome := outcome })
  | .stop _ _ _ => none
  | .acceptorExit _ _ => none

/-- No healthy runtime is found, and the system lets a new one start. -/
def Starts (cfg : Config) (w : Pair) (info : DeviceInfo) (p : Proxy) : Prop :=
  Launches cfg w.deviceId w.inputPort w.tunnelPort info p ∧ p.outcome.outputStarted = true ∧
    p.outcome.inputAccepting = true ∧ p.outcome.outputAccepting = true

instance (cfg : Config) (w : Pair) (info : DeviceInfo) (p : Proxy) :
    Decidable (Starts cfg w info p) := inferInstanceAs (Decidable (_ ∧ _))

def started (cfg : Config) (e : Proxy × Action) : Option Pair :=
  (ensured e).bind fun r => if Starts cfg r.1 r.2.1 r.2.2 then some r.1 else none

def startedPairs (cfg : Config) (log : Log) : List Pair := log.filterMap (started cfg)

def ensuredPairs (log : Log) : List Pair := log.filterMap fun e => (ensured e).map (·.1)

/-- A runtime that is ensured again takes no further slot, so that there are at most as many slots
as static servers and pairs, and the counter of 16 bits holds their number while one is added. -/
structure Reused (cfg : Config) (p₀ : Proxy) (log : Log) (p : Proxy) : Prop where
  again : ∀ earlier later e r, log = earlier ++ e :: later → ensured e = some r →
    r.1 ∈ startedPairs cfg earlier →
      (RegistryAgreement.next cfg e.1 e.2).servers.length ≤ e.1.servers.length
  bounded : p.servers.length ≤ p₀.servers.length + (ensuredPairs log).dedup.length
  counter : p₀.servers.length + (ensuredPairs log).dedup.length + 1 < 2 ^ 16 →
    ∀ e ∈ log, e.1.servers.length + 1 < 2 ^ 16

/-- No runtime is started for a pair that had one started before. -/
def Once (cfg : Config) (log : Log) : Prop := (startedPairs cfg log).Nodup

instance (cfg : Config) (log : Log) : Decidable (Once cfg log) :=
  inferInstanceAs (Decidable (List.Nodup _))

variable {cfg : Config} {p₀ p q : Proxy} {log earlier later : Log} {e : Proxy × Action} {a : Action}
  {deviceId : String} {ip tp : ℕ} {info : DeviceInfo} {o : Option ℕ}

/-- A slot is added if the start succeeds, and taken off again if it does not. -/
theorem create_servers (sockets : SocketInvariant p.runtimes p.kernel)
    (reallocated : p.outcome.reallocated = true) (ports : ip ≠ 0 ∧ tp ≠ 0)
    (e : createDynamicServerForDevice cfg deviceId ip tp info p = (q, o)) :
    (q.servers.length = p.servers.length + if o.isSome then 1 else 0) ∧
      Answers ip tp p.servers.length p o := by
  unfold createDynamicServerForDevice at e
  rw [if_neg (by simp [ports, reallocated])] at e
  dsimp only at e
  generalize hs : startDynamicServerAtIndex cfg p.servers.length deviceId ip tp
    (wantsSsl cfg info.enableInputSsl) (wantsSsl cfg info.enableTunnelSsl)
    { p with servers := p.servers ++ [ProxyServer.zero] } = result at e
  obtain ⟨q', answer⟩ := result
  have answers : Answers ip tp p.servers.length p answer := (start_launched hs rfl).2
  have servers : ∃ server, q'.servers = p.servers ++ [server] := by
    cases startDynamicServerAtIndex_fresh hs rfl sockets with
    | refused server servers _ _ _ => exact ⟨server, servers⟩
    | ran server _ _ servers _ _ _ _ _ _ _ _ _ => exact ⟨server, servers⟩
  obtain ⟨server, servers⟩ := servers
  cases answer with
  | none =>
    obtain ⟨rfl, rfl⟩ := Prod.mk.inj e
    exact ⟨by simp [servers], answers⟩
  | some index =>
    obtain ⟨rfl, rfl⟩ := Prod.mk.inj e
    exact ⟨by simp [servers], answers⟩

theorem ensure_servers (cfg : Config) (info : DeviceInfo) (inv : ProxyInvariant p) (w : Pair)
    (e : ensureDynamicServerForDevice cfg w.deviceId w.inputPort w.tunnelPort info p = (q, o)) :
    q.servers.length = p.servers.length + if Starts cfg w info p then 1 else 0 := by
  have unchanged (no : ¬ Launches cfg w.deviceId w.inputPort w.tunnelPort info p)
      (same : q.servers = p.servers) :
      q.servers.length = p.servers.length + if Starts cfg w info p then 1 else 0 := by
    rw [if_neg fun starts => no starts.1, same, Nat.add_zero]
  unfold ensureDynamicServerForDevice at e
  split at e
  · rename_i zero
    obtain ⟨rfl, rfl⟩ := Prod.mk.inj e
    refine unchanged ?_ rfl
    rintro ⟨⟨ip0, tp0⟩, _⟩
    simp [ip0, tp0] at zero
  · rename_i nonzero
    have ports : w.inputPort ≠ 0 ∧ w.tunnelPort ≠ 0 := by simpa using nonzero
    dsimp only at e
    split at e
    · rename_i entry healthy
      obtain ⟨rfl, rfl⟩ := Prod.mk.inj e
      refine unchanged ?_ rfl
      rintro ⟨_, unhealthy, _⟩
      simp [healthy] at unhealthy
    · rename_i unhealthy
      obtain ⟨_, spec⟩ := stopWhere_spec inv fun e =>
        stopMatches w.deviceId w.inputPort w.tunnelPort e && !slotMismatch p.servers e
      have stopped : ProxyInvariant
          (stopDynamicRuntimesForDevice w.deviceId w.inputPort w.tunnelPort p) := inv.stopWhere _
      have servers : (stopDynamicRuntimesForDevice w.deviceId w.inputPort w.tunnelPort p).servers =
        p.servers := spec.servers
      have outcome : (stopDynamicRuntimesForDevice w.deviceId w.inputPort w.tunnelPort p).outcome =
        p.outcome := spec.outcome
      rw [findStoppedDynamicServer_none stopped] at e
      by_cases reallocated : p.outcome.reallocated = true
      · obtain ⟨length, answers⟩ := create_servers stopped.sockets (outcome ▸ reallocated) ports e
        have starts : Starts cfg w info p ↔ o.isSome = true := by
          unfold Answers at answers
          rw [answers]
          simp [Starts, Launches, Ready, ports, unhealthy, reallocated, servers, outcome, and_assoc]
        rw [length, servers]
        by_cases yes : o.isSome = true
        · rw [if_pos yes, if_pos (starts.2 yes)]
        · rw [if_neg yes, if_neg fun s => yes (starts.1 s)]
      · refine unchanged (fun launches => reallocated launches.2.2.1) ?_
        unfold createDynamicServerForDevice at e
        rw [if_pos (by simp [outcome, reallocated])] at e
        rw [← (Prod.mk.inj e).1, servers]

theorem next_servers (cfg : Config) (inv : ProxyInvariant p) (a : Action) :
    (RegistryAgreement.next cfg p a).servers.length =
      p.servers.length + if (started cfg (p, a)).isSome then 1 else 0 := by
  have answered (outcome : StartOutcome) : ProxyInvariant { p with outcome := outcome } :=
    ⟨inv.enabled, inv.registry, inv.sockets⟩
  cases a with
  | ensure d ip tp info outcome =>
    have length := ensure_servers cfg info (answered outcome) ⟨d, ip, tp⟩ rfl
    exact length.trans (by simp [started, ensured])
  | stop d ip tp => exact congrArg List.length (stopWhere_spec inv _).2.servers
  | reload d ip info outcome =>
    simp only [RegistryAgreement.next, reloadDynamicServerTls, started, ensured]
    by_cases zero : (ip == 0) = true
    · simp [zero]
    · rw [if_neg zero, if_neg zero]
      have stopped : ProxyInvariant (stopDynamicServerForDevice d ip (tunnelPort ip)
        { p with outcome := outcome }) := (answered outcome).stopWhere _
      have servers : (stopDynamicServerForDevice d ip (tunnelPort ip)
          { p with outcome := outcome }).servers = p.servers :=
        (stopWhere_spec (answered outcome) _).2.servers
      have length := ensure_servers cfg info stopped ⟨d, ip, tunnelPort ip⟩ rfl
      rw [servers] at length
      exact length.trans (by simp)
  | acceptorExit i isTunnel =>
    simp only [RegistryAgreement.next, ProxyRuntimes.acceptorExit]
    split
    · rfl
    · split <;> rfl

theorem startedPairs_append (cfg : Config) (log later : Log) :
    startedPairs cfg (log ++ later) = startedPairs cfg log ++ startedPairs cfg later :=
  List.filterMap_append

theorem startedPairs_singleton (cfg : Config) (e : Proxy × Action) :
    startedPairs cfg [e] = (started cfg e).toList := by
  unfold startedPairs
  cases found : started cfg e with
  | none => simp [found]
  | some w => simp [found]

theorem servers_length (run : (process cfg p₀).Run log p) (fresh : Fresh p₀) :
    ProxyInvariant p ∧ p.servers.length = p₀.servers.length + (startedPairs cfg log).length := by
  induction run with
  | start initial =>
    rw [show _ = p₀ from initial]
    exact ⟨fresh.invariant, rfl⟩
  | @step log p a run _ ih =>
    obtain ⟨inv, length⟩ := ih
    refine ⟨next_invariant inv a, (next_servers cfg inv a).trans ?_⟩
    rw [startedPairs_append, startedPairs_singleton, List.length_append, length]
    cases started cfg (p, a) with
    | none => simp
    | some w =>
      simp
      omega

theorem started_iff {w : Pair} : started cfg e = some w ↔
    ∃ info q, ensured e = some (w, info, q) ∧ Starts cfg w info q := by
  unfold started
  constructor
  · intro found
    obtain ⟨⟨w', info, q⟩, there, starts⟩ := Option.bind_eq_some_iff.1 found
    split at starts
    · rename_i yes
      cases starts
      exact ⟨info, q, there, yes⟩
    · cases starts
  · rintro ⟨info, q, there, yes⟩
    simp [there, yes]

theorem Once.prefix (once : Once cfg (log ++ later)) : Once cfg log := by
  unfold Once at once
  rw [startedPairs_append] at once
  exact (List.nodup_append.1 once).1

theorem Once.not_again {w : Pair} (once : Once cfg (earlier ++ e :: later))
    (before : w ∈ startedPairs cfg earlier) : started cfg e ≠ some w := by
  intro found
  have steps : earlier ++ e :: later = (earlier ++ [e]) ++ later := by simp
  rw [steps] at once
  have here := once.prefix
  unfold Once at here
  rw [startedPairs_append, startedPairs_singleton, found] at here
  exact (List.nodup_append.1 here).2.2 w before w (by simp) rfl

theorem startedPairs_subset (cfg : Config) (log : Log) :
    startedPairs cfg log ⊆ ensuredPairs log := by
  intro w mem
  obtain ⟨e, there, found⟩ := List.mem_filterMap.1 mem
  obtain ⟨info, q, ensured, _⟩ := started_iff.1 found
  exact List.mem_filterMap.2 ⟨e, there, by simp [ensured]⟩

theorem Once.few (once : Once cfg log) {pairs : List Pair} (among : ensuredPairs log ⊆ pairs) :
    (startedPairs cfg log).length ≤ pairs.dedup.length := by
  refine (List.Nodup.subperm once fun w mem => List.mem_dedup.2 (among ?_)).length_le
  exact startedPairs_subset cfg log mem

/-- A run in which nothing is added for a pair that was started starts each pair once. -/
theorem once_of_again (run : (process cfg p₀).Run log p) (fresh : Fresh p₀)
    (again : ∀ earlier later e r, log = earlier ++ e :: later → ensured e = some r →
      r.1 ∈ startedPairs cfg earlier →
        (RegistryAgreement.next cfg e.1 e.2).servers.length ≤ e.1.servers.length) :
    Once cfg log := by
  induction run with
  | start => exact List.nodup_nil
  | @step log p a run _ ih =>
    have before := ih fun earlier later e r steps =>
      again earlier (later ++ [(p, a)]) e r (by simp [steps])
    unfold Once
    rw [startedPairs_append, startedPairs_singleton]
    cases found : started cfg (p, a) with
    | none => simpa [Once] using before
    | some w =>
      have new : w ∉ startedPairs cfg log := by
        intro old
        obtain ⟨info, q, there, _⟩ := started_iff.1 found
        have same := again log [] (p, a) _ rfl there old
        rw [next_servers cfg (servers_length run fresh).1, found] at same
        simp only [Option.isSome_some, if_true] at same
        omega
      refine List.nodup_append.2 ⟨before, by simp, fun v old v' last => ?_⟩
      rw [show v' = w by simpa using last]
      exact fun same => new (same ▸ old)

/-- In a run the slots are reused exactly as long as no pair is started twice. -/
theorem reused_iff (run : (process cfg p₀).Run log p) (fresh : Fresh p₀) :
    Reused cfg p₀ log p ↔ Once cfg log := by
  refine ⟨fun reused => once_of_again run fresh reused.again, fun once => ?_⟩
  refine ⟨fun earlier later e r steps there mem => ?_, ?_, fun few e mem => ?_⟩
  · subst steps
    have none : started cfg (e.1, e.2) = none := by
      by_contra some
      obtain ⟨w, found⟩ := Option.ne_none_iff_exists'.1 some
      obtain ⟨info, q, there', _⟩ := started_iff.1 found
      cases there.symm.trans there'
      exact once.not_again mem found
    rw [next_servers cfg (servers_length run.split.1 fresh).1, none]
    simp
  · rw [(servers_length run fresh).2]
    exact Nat.add_le_add_left (once.few fun _ mem => mem) _
  · obtain ⟨earlier, later, rfl⟩ := List.append_of_mem mem
    have among : ensuredPairs earlier ⊆ ensuredPairs (earlier ++ e :: later) := by
      simp only [ensuredPairs, List.filterMap_append]
      exact List.subset_append_left _ _
    have slots := once.prefix.few among
    rw [(servers_length run.split.1 fresh).2]
    omega

/-- Two devices come and stay, and one is ensured again. -/
theorem stays_reused : ∃ log p, (process plainConfig noServers).Run log p ∧
    p.servers.length = 2 ∧ Reused plainConfig noServers log p := by
  have start : (process plainConfig noServers).Run [] noServers := .start rfl
  obtain ⟨log, p, run, test⟩ := start.follow_any
    [.ensure "A" 6000 6001 (infoOf "A") succeeds, .ensure "B" 6002 6003 (infoOf "B") succeeds,
      .ensure "A" 6000 6001 (infoOf "A") succeeds]
    (fun r => decide (r.2.servers.length = 2 ∧ Once plainConfig r.1)) (by decide +kernel)
  obtain ⟨two, once⟩ := of_decide_eq_true test
  exact ⟨log, p, run, two, (reused_iff run noServers_fresh).2 once⟩

/-- A device comes, leaves, and comes again. -/
theorem slot_added_again : ¬ ∀ (cfg : Config) (p₀ p : Proxy) (log : Log), Fresh p₀ →
    (process cfg p₀).Run log p → Reused cfg p₀ log p := by
  intro always
  have start : (process plainConfig noServers).Run [] noServers := .start rfl
  obtain ⟨log, p, run, test⟩ := start.follow_any
    [.ensure "A" 6000 6001 (infoOf "A") succeeds, .stop "A" 6000 6001,
      .ensure "A" 6000 6001 (infoOf "A") succeeds]
    (fun r => decide (r.2.servers.length = 2 ∧ (ensuredPairs r.1).dedup.length = 1))
    (by decide +kernel)
  obtain ⟨two, one⟩ := of_decide_eq_true test
  have few := (always _ _ _ _ noServers_fresh run).bounded
  rw [two, one] at few
  exact absurd few (by decide)

end ServerSlots
