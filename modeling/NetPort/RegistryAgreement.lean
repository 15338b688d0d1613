import NetPort.RuntimeInvariant
import NetPort.StepRuns

/-! The registry of the dynamic servers against the runtimes that are up: which entries point to
them, over any sequence of starts, stops and TLS reloads for any number of devices. -/
namespace RegistryAgreement

open StepRuns ProxyRuntimes RuntimeInvariant

inductive Action where
  | ensure (deviceId : String) (inputPort tunnelPort : ℕ) (info : DeviceInfo)
      (outcome : StartOutcome)
  | stop (deviceId : String) (inputPort tunnelPort : ℕ)
  | reload (deviceId : String) (inputPort : ℕ) (info : DeviceInfo) (outcome : StartOutcome)
  | acceptorExit (connectionsData : ℕ) (isTunnel : Bool)

/-- `(uint16_t)(input_port + 1)` -/
def tunnelPort (inputPort : ℕ) : ℕ := (inputPort + 1) % 2 ^ 16

/-- `reload_dynamic_server_tls_for_device`, once it has read the port of the session and the
device. -/
def reloadDynamicServerTls (cfg : Config) (deviceId : String) (inputPort : ℕ) (info : DeviceInfo)
    (p : Proxy) : Proxy :=
  if inputPort == 0 then p
  else
    let p := stopDynamicServerForDevice deviceId inputPort (tunnelPort inputPort) p
    (ensureDynamicServerForDevice cfg deviceId inputPort (tunnelPort inputPort) info p).1

def next (cfg : Config) (p : Proxy) : Action → Proxy
  | .ensure deviceId inputPort tunnelPort info outcome =>
    (ensureDynamicServerForDevice cfg deviceId inputPort tunnelPort info
      { p with outcome := outcome }).1
  | .stop deviceId inputPort tunnelPort =>
    stopDynamicServerForDevice deviceId inputPort tunnelPort p
  | .reload deviceId inputPort info outcome =>
    reloadDynamicServerTls cfg deviceId inputPort info { p with outcome := outcome }
  | .acceptorExit connectionsData isTunnel => acceptorExit connectionsData isTunnel p

def system (cfg : Config) : System Proxy Action := ⟨Fresh, fun _ _ => True, next cfg⟩

instance (cfg : Config) (p : Proxy) (a : Action) : Decidable ((system cfg).enabled p a) :=
  inferInstanceAs (Decidable True)

/-- The entry `j` is active and points to the runtime `i`. -/
def Refers (p : Proxy) (j i : ℕ) : Prop :=
  ∃ e, p.registry[j]? = some e ∧ e.active = true ∧ e.connectionsData = some i

/-- A runtime that is up has one active entry, and active entries point to runtimes that are up. -/
structure Accounted (p : Proxy) : Prop where
  referenced : ∀ i r, p.runtimes[i]? = some r → told r = false → ∃! j, Refers p j i
  live : ∀ e ∈ p.registry, e.active = true → ∃ i r, e.connectionsData = some i ∧
    p.runtimes[i]? = some r ∧ told r = false

def socketsReady (k : Kernel) (o : StartOutcome) (ip tp : ℕ) : Bool :=
  let (_, inputOk, k) := k.initSocket o.inputSocket o.inputListens ip
  inputOk && (k.initSocket o.outputSocket o.outputListens tp).2.1

def Launches (cfg : Config) (deviceId : String) (ip tp : ℕ) (info : DeviceInfo) (p : Proxy) :
    Prop :=
  (ip ≠ 0 ∧ tp ≠ 0) ∧ findHealthyDynamicServer ip tp (wantsSsl cfg info.enableInputSsl)
      (wantsSsl cfg info.enableTunnelSsl) p = none ∧
    p.outcome.reallocated = true ∧ p.servers.length < (p.servers.length + 1) % 2 ^ 16 ∧
    socketsReady (stopDynamicRuntimesForDevice deviceId ip tp p).kernel p.outcome ip tp = true ∧
    p.outcome.allocated = true ∧ p.outcome.inputStarted = true

/-- An entry is free, or the call frees it as the device's own on these ports. -/
def Room (deviceId : String) (ip tp : ℕ) (p : Proxy) : Prop :=
  ∃ e ∈ p.registry, e.active = false ∨
    (stopMatches deviceId ip tp e = true ∧ slotMismatch p.servers e = false)

/-- The output acceptor starts after the input acceptor, and the last check passes exactly when
the registry has an entry for the runtime. -/
def Smooth (deviceId : String) (ip tp : ℕ) (p : Proxy) : Prop :=
  p.outcome.outputStarted = true ∧
    ((p.outcome.inputAccepting = true ∧ p.outcome.outputAccepting = true) ↔ Room deviceId ip tp p)

def Careful (cfg : Config) (p : Proxy) : Action → Prop
  | .ensure deviceId ip tp info outcome =>
    Launches cfg deviceId ip tp info { p with outcome := outcome } →
      Smooth deviceId ip tp { p with outcome := outcome }
  | .reload deviceId ip info outcome =>
    let q := stopDynamicServerForDevice deviceId ip (tunnelPort ip) { p with outcome := outcome }
    Launches cfg deviceId ip (tunnelPort ip) info q → Smooth deviceId ip (tunnelPort ip) q
  | .stop _ _ _ | .acceptorExit _ _ => True

instance (cfg : Config) (deviceId : String) (ip tp : ℕ) (info : DeviceInfo) (p : Proxy) :
    Decidable (Launches cfg deviceId ip tp info p) := by
  unfold Launches
  infer_instance

instance (deviceId : String) (ip tp : ℕ) (p : Proxy) : Decidable (Smooth deviceId ip tp p) := by
  unfold Smooth Room
  infer_instance

instance (cfg : Config) (p : Proxy) : (a : Action) → Decidable (Careful cfg p a)
  | .ensure deviceId ip tp info outcome =>
    inferInstanceAs (Decidable (Launches cfg deviceId ip tp info { p with outcome := outcome } →
      Smooth deviceId ip tp { p with outcome := outcome }))
  | .reload deviceId ip info outcome =>
    inferInstanceAs (Decidable (Launches cfg deviceId ip (tunnelPort ip) info
        (stopDynamicServerForDevice deviceId ip (tunnelPort ip) { p with outcome := outcome }) →
      Smooth deviceId ip (tunnelPort ip)
        (stopDynamicServerForDevice deviceId ip (tunnelPort ip) { p with outcome := outcome })))
  | .stop _ _ _ | .acceptorExit _ _ => isTrue trivial

variable {cfg : Config} {info : DeviceInfo} {p q : Proxy} {a : Action} {i j : ℕ} {r : ProxyServer}
  {ip tp : ℕ} {deviceId : String} {ss : List ProxyServer} {o : Option ℕ}

theorem accounted_congr (registry : q.registry = p.registry)
    (same : ∀ i : ℕ, (q.runtimes[i]?).map told = (p.runtimes[i]?).map told) :
    Accounted q ↔ Accounted p := by
  have up : ∀ i : ℕ, (∃ r, q.runtimes[i]? = some r ∧ told r = false) ↔
      ∃ r, p.runtimes[i]? = some r ∧ told r = false := by
    intro i
    have here := same i
    rw [← Option.map_eq_some_iff, ← Option.map_eq_some_iff, here]
  have refers : ∀ j i, Refers q j i ↔ Refers p j i := by
    intro j i
    simp only [Refers, registry]
  constructor
  · intro h
    refine ⟨?_, ?_⟩
    · intro i r hr live
      obtain ⟨r', hr', live'⟩ := (up i).2 ⟨r, hr, live⟩
      simpa only [refers] using h.referenced i r' hr' live'
    · intro e he active
      obtain ⟨i, r, points, hr, live⟩ := h.live e (registry ▸ he) active
      obtain ⟨r', hr', live'⟩ := (up i).1 ⟨r, hr, live⟩
      exact ⟨i, r', points, hr', live'⟩
  · intro h
    refine ⟨?_, ?_⟩
    · intro i r hr live
      obtain ⟨r', hr', live'⟩ := (up i).1 ⟨r, hr, live⟩
      simpa only [refers] using h.referenced i r' hr' live'
    · intro e he active
      obtain ⟨i, r, points, hr, live⟩ := h.live e (registry ▸ he) active
      obtain ⟨r', hr', live'⟩ := (up i).2 ⟨r, hr, live⟩
      exact ⟨i, r', points, hr', live'⟩

theorem accounted_acceptorExit (i : ℕ) (isTunnel : Bool) :
    Accounted (acceptorExit i isTunnel p) ↔ Accounted p := by
  cases hr : p.runtimes[i]? with
  | none => simp [acceptorExit, hr]
  | some r =>
    rw [acceptorExit_eq hr]
    refine accounted_congr rfl ?_
    intro j
    have toldSame := (exited_fields isTunnel r).2.2.2.2.2
    by_cases same : i = j
    · subst same
      have lt := (List.getElem?_eq_some_iff.1 hr).1
      change ((p.runtimes.set i (exited isTunnel r))[i]?).map told = _
      rw [List.getElem?_set_self lt, hr, Option.map_some, Option.map_some, toldSame]
    · simp [List.getElem?_set_ne same]

theorem refers_mem (h : Refers p j i) : ∃ e ∈ p.registry, e.active = true ∧
    e.connectionsData = some i := by
  obtain ⟨e, he, active, points⟩ := h
  exact ⟨e, List.mem_of_getElem? he, active, points⟩

theorem refers_lt (inv : ProxyInvariant p) (h : Refers p j i) : i < p.runtimes.length := by
  obtain ⟨e, he, _, points⟩ := refers_mem h
  obtain ⟨r, hr, _⟩ := inv.registry.points e he i points
  exact (List.getElem?_eq_some_iff.1 hr).1

/-- The entries of a stop are cleared together with the runtimes they point to. -/
theorem Accounted.stopWhere (h : Accounted p) (inv : ProxyInvariant p)
    (hit : DynamicServerRuntime → Bool) : Accounted (stopWhere hit p) := by
  obtain ⟨registry, spec⟩ := stopWhere_spec inv hit
  have entry : ∀ j : ℕ, (ProxyRuntimes.stopWhere hit p).registry[j]? =
      (p.registry[j]?).map (clearEntry hit) := by
    intro j
    rw [registry, List.getElem?_map]
  have refers : ∀ j i, Refers (ProxyRuntimes.stopWhere hit p) j i →
      Refers p j i ∧ ∃ e, p.registry[j]? = some e ∧ hit e = false := by
    rintro j i ⟨e, he, active, points⟩
    rw [entry] at he
    obtain ⟨e', he', rfl⟩ := Option.map_eq_some_iff.1 he
    by_cases cleared : (e'.connectionsData.isSome && hit e') = true
    · simp [clearEntry, cleared] at active
    · simp only [clearEntry, cleared, if_false, Bool.false_eq_true] at active points
      refine ⟨⟨e', he', active, points⟩, e', he', ?_⟩
      simpa [points] using cleared
  have kept : ∀ j i, Refers p j i → ¬ Held hit p.registry i →
      Refers (ProxyRuntimes.stopWhere hit p) j i := by
    rintro j i ⟨e, he, active, points⟩ free
    have missed : hit e = false := by
      by_contra hits
      exact free ⟨e, List.mem_of_getElem? he, points, by simpa using hits⟩
    exact ⟨e, by simp [entry, he, clearEntry, missed], active, points⟩
  refine ⟨?_, ?_⟩
  · intro i r hr live
    have free : ¬ Held hit p.registry i := by
      intro held
      rw [spec.held i held] at hr
      obtain ⟨r', _, rfl⟩ := Option.map_eq_some_iff.1 hr
      exact absurd live (by simp [told_stopped])
    rw [spec.others i free] at hr
    obtain ⟨j, here, only⟩ := h.referenced i r hr live
    refine ⟨j, kept j i here free, ?_⟩
    intro k there
    exact only k (refers k i there).1
  · intro e he active
    obtain ⟨j, hj⟩ := List.getElem?_of_mem he
    obtain ⟨e', he', rfl⟩ := Option.map_eq_some_iff.1 ((entry j).symm.trans hj)
    by_cases cleared : (e'.connectionsData.isSome && hit e') = true
    · simp [clearEntry, cleared] at active
    · have same : clearEntry hit e' = e' := by simp [clearEntry, cleared]
      rw [same] at active ⊢
      obtain ⟨i, r, points, hr, live⟩ := h.live e' (List.mem_of_getElem? he') active
      have free : ¬ Held hit p.registry i := by
        rintro ⟨e₂, he₂, points₂, hits⟩
        -- the runtime is up, so both entries are the same one
        obtain ⟨k, hk⟩ := List.getElem?_of_mem he₂
        have active₂ : e₂.active = true := by
          rw [inv.registry.active e₂ he₂, points₂]
          rfl
        have one := (h.referenced i r hr live).unique ⟨e', he', active, points⟩
          ⟨e₂, hk, active₂, points₂⟩
        rw [← one, he'] at hk
        rw [Option.some.inj hk] at cleared
        exact cleared (by simp [points₂, hits])
      exact ⟨i, r, points, (spec.others i free).trans hr, live⟩

/-- A runtime without an entry is accounted for only when it has been told to stop. -/
theorem accounted_append (h : Accounted p) (inv : ProxyInvariant p)
    (registry : q.registry = p.registry) (runtimes : q.runtimes = p.runtimes ++ [r]) :
    Accounted q ↔ told r = true := by
  have refers : ∀ j i, Refers q j i ↔ Refers p j i := by
    intro j i
    simp only [Refers, registry]
  have last : q.runtimes[p.runtimes.length]? = some r := by simp [runtimes]
  have before : ∀ i, i < p.runtimes.length → q.runtimes[i]? = p.runtimes[i]? := by
    intro i lt
    rw [runtimes, List.getElem?_append_left lt]
  constructor
  · intro accounted
    by_contra up
    obtain ⟨j, here, _⟩ := accounted.referenced _ r last (by simpa using up)
    exact Nat.lt_irrefl _ (refers_lt inv ((refers _ _).1 here))
  · intro stopped
    refine ⟨?_, ?_⟩
    · intro i r' hr' live
      rcases Nat.lt_trichotomy i p.runtimes.length with lt | eq | gt
      · rw [before i lt] at hr'
        simpa only [refers] using h.referenced i r' hr' live
      · rw [eq, last] at hr'
        cases hr'
        exact absurd live (by simp [stopped])
      · rw [runtimes, List.getElem?_eq_none (by simp; omega)] at hr'
        cases hr'
    · intro e he active
      obtain ⟨i, r', points, hr', live⟩ := h.live e (registry ▸ he) active
      have lt := (List.getElem?_eq_some_iff.1 hr').1
      exact ⟨i, r', points, (before i lt).trans hr', live⟩

/-- A runtime with a new entry is accounted for only when it is up. -/
theorem accounted_register (h : Accounted p) (inv : ProxyInvariant p) {k : ℕ}
    {old new : DynamicServerRuntime} (slot : p.registry[k]? = some old) (free : old.active = false)
    (active : new.active = true) (points : new.connectionsData = some p.runtimes.length)
    (registry : q.registry = p.registry.set k new)
    (runtimes : q.runtimes = p.runtimes ++ [r]) : Accounted q ↔ told r = false := by
  have ltk := (List.getElem?_eq_some_iff.1 slot).1
  have last : q.runtimes[p.runtimes.length]? = some r := by simp [runtimes]
  have before : ∀ i, i < p.runtimes.length → q.runtimes[i]? = p.runtimes[i]? := by
    intro i lt
    rw [runtimes, List.getElem?_append_left lt]
  have entry : q.registry[k]? = some new := by rw [registry, List.getElem?_set_self ltk]
  have refers : ∀ j i, Refers q j i ↔ (j = k ∧ i = p.runtimes.length) ∨ Refers p j i := by
    intro j i
    by_cases same : j = k
    · subst same
      have unused : ¬ Refers p j i := by
        rintro ⟨e, he, on, _⟩
        rw [slot] at he
        cases he
        exact absurd on (by simp [free])
      simp only [unused, or_false, true_and]
      constructor
      · rintro ⟨e, he, _, target⟩
        rw [entry] at he
        cases he
        exact Option.some.inj (target.symm.trans points)
      · rintro rfl
        exact ⟨new, entry, active, points⟩
    · simp [Refers, registry, List.getElem?_set_ne (Ne.symm same), same]
  constructor
  · intro accounted
    obtain ⟨i, r', target, hr', live⟩ := accounted.live new (List.mem_of_getElem? entry) active
    rw [← Option.some.inj (points.symm.trans target), last] at hr'
    cases hr'
    exact live
  · intro up
    refine ⟨?_, ?_⟩
    · intro i r' hr' live
      rcases Nat.lt_trichotomy i p.runtimes.length with lt | eq | gt
      · rw [before i lt] at hr'
        have ne : i ≠ p.runtimes.length := by omega
        simpa only [refers, ne, and_false, false_or] using h.referenced i r' hr' live
      · subst eq
        have unused : ∀ j, ¬ Refers p j p.runtimes.length :=
          fun j there => Nat.lt_irrefl _ (refers_lt inv there)
        simp only [refers, unused, or_false, and_true]
        exact ⟨k, rfl, fun _ same => same⟩
      · rw [runtimes, List.getElem?_eq_none (by simp; omega)] at hr'
        cases hr'
    · intro e he on
      rw [registry] at he
      rcases List.mem_or_eq_of_mem_set he with there | rfl
      · obtain ⟨i, r', target, hr', live⟩ := h.live e there on
        have lt := (List.getElem?_eq_some_iff.1 hr').1
        exact ⟨i, r', target, (before i lt).trans hr', live⟩
      · exact ⟨_, r, points, last, up⟩

structure Up (k : Kernel) (ip tp : ℕ) (r : ProxyServer) : Prop where
  input : isRuntimeListenerActive k r ip false = true
  output : isRuntimeListenerActive k r tp true = true
  notTold : told r = false

theorem exit_unless (hr : p.runtimes[i]? = some r) (accepting isTunnel : Bool) :
    (if accepting then p else acceptorExit i isTunnel p) = { p with
      runtimes := p.runtimes.set i (if accepting then r else exited isTunnel r)
      kernel := if accepting then p.kernel
        else p.kernel.close (if isTunnel then r.output else r.input) } := by
  cases accepting with
  | true =>
    obtain ⟨lt, rfl⟩ := List.getElem?_eq_some_iff.1 hr
    simp [List.set_getElem_self lt]
  | false => simp [acceptorExit_eq hr]

theorem confirmStarted_up (hr : p.runtimes[i]? = some r) (up : Up p.kernel ip tp r) (index : ℕ)
    (input : p.outcome.inputAccepting = true) (output : p.outcome.outputAccepting = true) :
    confirmStarted deviceId ip tp index i p = (p, some index) := by
  simp [confirmStarted, input, output, hr, up.input, up.output]

/-- The last check stops the runtime when one of its acceptors has gone. -/
theorem confirmStarted_told (hr : p.runtimes[i]? = some r) (device : r.deviceId = deviceId)
    (up : Up p.kernel ip tp r) (index : ℕ)
    (e : confirmStarted deviceId ip tp index i p = (q, o)) :
    q.registry = p.registry ∧ o.isSome = (p.outcome.inputAccepting && p.outcome.outputAccepting) ∧
      ∃ r', q.runtimes = p.runtimes.set i r' ∧
        told r' = !(p.outcome.inputAccepting && p.outcome.outputAccepting) := by
  have lt := (List.getElem?_eq_some_iff.1 hr).1
  cases both : p.outcome.inputAccepting && p.outcome.outputAccepting with
  | true =>
    obtain ⟨input, output⟩ := Bool.and_eq_true_iff.1 both
    rw [confirmStarted_up hr up index input output] at e
    obtain ⟨rfl, rfl⟩ := Prod.mk.inj e
    refine ⟨rfl, rfl, r, ?_, by simp [up.notTold]⟩
    obtain ⟨lt, rfl⟩ := List.getElem?_eq_some_iff.1 hr
    exact (List.set_getElem_self lt).symm
  | false =>
    unfold confirmStarted at e
    dsimp only at e
    -- the state after each of the two acceptors had its chance to leave
    have first := exit_unless hr p.outcome.inputAccepting false
    generalize (if p.outcome.inputAccepting = true then p else acceptorExit i false p) = p₁
      at first e
    have hr₁ : p₁.runtimes[i]? = some (if p.outcome.inputAccepting then r else exited false r) := by
      rw [first]
      exact List.getElem?_set_self lt
    have second := exit_unless hr₁ p₁.outcome.outputAccepting true
    generalize (if p₁.outcome.outputAccepting = true then p₁ else acceptorExit i true p₁) = p₂
      at second e
    generalize left : (if p₁.outcome.outputAccepting then
      (if p.outcome.inputAccepting then r else exited false r) else
        exited true (if p.outcome.inputAccepting then r else exited false r)) = r₂ at second
    have runtimes : p₂.runtimes = p.runtimes.set i r₂ := by simp [second, first]
    have hr₂ : p₂.runtimes[i]? = some r₂ := by
      rw [runtimes]
      exact List.getElem?_set_self lt
    have outcome : p₁.outcome = p.outcome := by rw [first]
    rw [outcome] at left
    have gone : r₂.isInputRunning = false ∨ r₂.isOutputRunning = false := by
      cases input : p.outcome.inputAccepting <;> cases output : p.outcome.outputAccepting <;>
        simp [input, output, exited] at left both <;> subst left <;> simp
    have named : r₂.deviceId = deviceId := by
      rw [← left]
      split <;> split <;> exact device
    have off : (isRuntimeListenerActive p₂.kernel r₂ ip false &&
        isRuntimeListenerActive p₂.kernel r₂ tp true) = false := by
      rcases gone with input | output <;> simp [isRuntimeListenerActive, *]
    rw [hr₂, Option.any_some, off, stopDynamicServerRuntime_eq hr₂ named] at e
    simp only [Bool.false_eq_true, if_false] at e
    obtain ⟨rfl, rfl⟩ := Prod.mk.inj e
    refine ⟨by simp [second, first], rfl, r₂.stopped, ?_, rfl⟩
    rw [runtimes]
    exact List.set_set ..

/-- A start at the new slot `n` gets as far as a running acceptor. -/
def Ready (n : ℕ) (ip tp : ℕ) (p : Proxy) : Prop :=
  n < (n + 1) % 2 ^ 16 ∧ socketsReady p.kernel p.outcome ip tp = true ∧
    p.outcome.allocated = true ∧ p.outcome.inputStarted = true

inductive Launched (deviceId : String) (ip tp n : ℕ) (p q : Proxy) : Prop
  | refused (not : ¬ Ready n ip tp p) (registry : q.registry = p.registry)
      (runtimes : q.runtimes = p.runtimes)
  | half (r : ProxyServer) (ready : Ready n ip tp p) (failed : p.outcome.outputStarted = false)
      (registry : q.registry = p.registry) (runtimes : q.runtimes = p.runtimes ++ [r])
      (up : told r = false)
  | full (r : ProxyServer) (ready : Ready n ip tp p) (started : p.outcome.outputStarted = true)
      (registry : q.registry =
        (registerDynamicServerRuntime deviceId ip tp n p.runtimes.length p).registry)
      (runtimes : q.runtimes = p.runtimes ++ [r])
      (up : told r = !(p.outcome.inputAccepting && p.outcome.outputAccepting))

theorem newServer_notTold (cfg : Config) (outcome : StartOutcome) (deviceId : String) (ip tp : ℕ)
    (enableInputSsl enableTunnelSsl : Bool) :
    told (newServer cfg outcome deviceId ip tp enableInputSsl enableTunnelSsl) = false := by
  unfold newServer applyDynamicServerSslConfig initSslContext
  split_ifs <;> rfl

def Answers (ip tp n : ℕ) (p : Proxy) (o : Option ℕ) : Prop :=
  o.isSome = true ↔ Ready n ip tp p ∧ p.outcome.outputStarted = true ∧
    p.outcome.inputAccepting = true ∧ p.outcome.outputAccepting = true

theorem Answers.not {n : ℕ} (no : ¬ (Ready n ip tp p ∧ p.outcome.outputStarted = true)) :
    Answers ip tp n p none := by
  unfold Answers
  constructor
  · nofun
  · exact fun all => absurd ⟨all.1, all.2.1⟩ no

theorem up_opened {k : Kernel} (enabled : r.enable = true)
    (running : r.isInputRunning = true ∧ r.isOutputRunning = true)
    (input : r.input = some k.nextFd) (output : r.output = some (k.nextFd + 1))
    (inputPort : r.inputPort = ip) (outputPort : r.outputPort = tp) (notTold : told r = false) :
    Up (opened (opened k ip) tp) ip tp r := by
  obtain ⟨runs, runsTunnel⟩ := running
  refine ⟨?_, ?_, notTold⟩
  · simp [isRuntimeListenerActive, Kernel.acceptsOn, opened, enabled, runs, input, inputPort]
  · simp [isRuntimeListenerActive, Kernel.acceptsOn, opened, enabled, runsTunnel, output,
      outputPort]

theorem launched_of_confirm {n : ℕ} {p₁ : Proxy} (ready : Ready n ip tp p)
    (started : p.outcome.outputStarted = true)
    (e : confirmStarted deviceId ip tp n p.runtimes.length
      (registerDynamicServerRuntime deviceId ip tp n p.runtimes.length p₁) = (q, o))
    (registry : p₁.registry = p.registry) (outcome : p₁.outcome = p.outcome)
    (runtimes : p₁.runtimes = p.runtimes ++ [r]) (device : r.deviceId = deviceId)
    (up : Up p₁.kernel ip tp r) : Launched deviceId ip tp n p q ∧ Answers ip tp n p o := by
  have only := registerDynamicServerRuntime_registry_only deviceId ip tp n p.runtimes.length p₁
  have same : (registerDynamicServerRuntime deviceId ip tp n p.runtimes.length p₁).registry =
      (registerDynamicServerRuntime deviceId ip tp n p.runtimes.length p).registry :=
    registerDynamicServerRuntime_congr _ _ registry
  generalize registerDynamicServerRuntime deviceId ip tp n p.runtimes.length p₁ = p₂
    at e only same
  have read : p₂.runtimes[p.runtimes.length]? = some r := by rw [only]; simp [runtimes]
  have kernel : p₂.kernel = p₁.kernel := by rw [only]
  obtain ⟨kept, answer, r', left, toldLeft⟩ := confirmStarted_told read device (kernel ▸ up) n e
  refine ⟨.full r' ready started (kept.trans same) ?_ ?_, ?_⟩
  · rw [left, only]
    simp [runtimes]
  · rw [toldLeft, only, outcome]
  · rw [only, outcome] at answer
    simp [Answers, answer, ready, started]

theorem start_launched {enableInputSsl enableTunnelSsl : Bool}
    (e : startDynamicServerAtIndex cfg ss.length deviceId ip tp enableInputSsl enableTunnelSsl p =
      (q, o)) (servers : p.servers = ss ++ [ProxyServer.zero]) :
    Launched deviceId ip tp ss.length p q ∧ Answers ip tp ss.length p o := by
  have count : serversCount p = (ss.length + 1) % 2 ^ 16 := by simp [serversCount, servers]
  obtain ⟨device, inputPort, outputPort, enabled⟩ := newServer_fields cfg p.outcome deviceId ip tp
    enableInputSsl enableTunnelSsl
  have notTold := newServer_notTold cfg p.outcome deviceId ip tp enableInputSsl enableTunnelSsl
  have attempt := attempt_of_start e servers
  generalize newServer cfg p.outcome deviceId ip tp enableInputSsl enableTunnelSsl = server
    at attempt device inputPort outputPort enabled notTold
  have refused {q' : Proxy} (no : ¬ Ready ss.length ip tp p) (registry : q'.registry = p.registry)
      (runtimes : q'.runtimes = p.runtimes) :
      Launched deviceId ip tp ss.length p q' ∧ Answers ip tp ss.length p none :=
    ⟨.refused no registry runtimes, .not fun all => no all.1⟩
  have ready (few : ss.length < serversCount p) (sockets : SocketsOpened p ip tp)
      (allocated : p.outcome.allocated = true) (inputStarted : p.outcome.inputStarted = true) :
      Ready ss.length ip tp p := by
    refine ⟨count ▸ few, ?_, allocated, inputStarted⟩
    simp [socketsReady, sockets.input, sockets.output]
  cases attempt with
  | full all => exact refused (fun ready => absurd ready.1 (by omega)) rfl rfl
  | noInput _ _ failed => exact refused (by simp [Ready, socketsReady, failed]) rfl rfl
  | noOutput _ _ input _ failed =>
    exact refused (by simp [Ready, socketsReady, input, failed]) rfl rfl
  | noThread _ _ _ none =>
    rcases none with allocated | inputStarted
    · exact refused (by simp [Ready, allocated]) rfl rfl
    · exact refused (by simp [Ready, inputStarted]) rfl rfl
  | orphan _ few sockets allocated inputStarted none =>
    refine ⟨.half _ (ready few sockets allocated inputStarted) none rfl rfl notTold, ?_⟩
    exact .not fun all => by simp [none] at all
  | up few sockets allocated inputStarted outputStarted confirmed =>
    exact launched_of_confirm (ready few sockets allocated inputStarted) outputStarted confirmed
      rfl rfl rfl device (up_opened enabled ⟨rfl, rfl⟩ rfl rfl inputPort outputPort notTold)

/-- No entry of another device is active at a new slot, so none is cleared. -/
theorem register_new (h : Accounted p) (inv : ProxyInvariant p) (deviceId : String) (ip tp : ℕ) :
    (registerDynamicServerRuntime deviceId ip tp p.servers.length p.runtimes.length p).registry =
      match p.registry.findIdx? (!·.active) with
      | none => p.registry
      | some k => p.registry.set k
          ⟨deviceId, ip, tp, p.servers.length, some p.runtimes.length, true⟩ := by
  have elsewhere : ∀ e ∈ p.registry, e.active = true → e.serverIndex ≠ p.servers.length := by
    intro e he active same
    obtain ⟨i, r, points, hr, live⟩ := h.live e he active
    obtain ⟨r', hr', _, _, _, slot⟩ := inv.registry.points e he i points
    rw [hr] at hr'
    cases hr'
    obtain ⟨s, hs, _⟩ := slot live
    have lt := (List.getElem?_eq_some_iff.1 hs).1
    omega
  have kept : (p.registry.map fun e =>
      if e.active && e.serverIndex == p.servers.length && e.deviceId != deviceId then
        { e with active := false, connectionsData := none }
      else e) = p.registry := by
    conv_rhs => rw [← List.map_id p.registry]
    apply List.map_congr_left
    intro e he
    by_cases active : e.active = true
    · simp [elsewhere e he active]
    · simp [active]
  unfold registerDynamicServerRuntime
  cases found : p.registry.findIdx? (!·.active) with
  | none => rfl
  | some i => simp only [kept]

theorem accounted_launched (h : Accounted p) (inv : ProxyInvariant p)
    (launched : Launched deviceId ip tp p.servers.length p q) :
    Accounted q ↔ (Ready p.servers.length ip tp p → p.outcome.outputStarted = true ∧
      ((p.outcome.inputAccepting = true ∧ p.outcome.outputAccepting = true) ↔
        ∃ e ∈ p.registry, e.active = false)) := by
  cases launched with
  | refused not registry runtimes =>
    have same : Accounted q ↔ Accounted p := accounted_congr registry (by simp [runtimes])
    simp [same, h, not]
  | half r ready failed registry runtimes up =>
    rw [accounted_append h inv registry runtimes]
    simp [ready, failed, up]
  | full r ready started registry runtimes up =>
    rw [register_new h inv] at registry
    have accepting : told r = false ↔
        p.outcome.inputAccepting = true ∧ p.outcome.outputAccepting = true := by
      simp [up]
    simp only [ready, started, true_and, forall_const, ← accepting]
    cases found : p.registry.findIdx? (!·.active) with
    | none =>
      simp only [found] at registry
      have full : ¬ ∃ e ∈ p.registry, e.active = false := by
        rintro ⟨e, he, free⟩
        have := List.findIdx?_eq_none_iff.1 found e he
        simp [free] at this
      rw [accounted_append h inv registry runtimes]
      simp [full]
    | some k =>
      simp only [found] at registry
      obtain ⟨lt, free, _⟩ := List.findIdx?_eq_some_iff_getElem.1 found
      have slot : p.registry[k]? = some p.registry[k] := List.getElem?_eq_getElem lt
      have free' : p.registry[k].active = false := by simpa using free
      have room : ∃ e ∈ p.registry, e.active = false := ⟨_, List.getElem_mem lt, free'⟩
      rw [accounted_register h inv slot free' rfl rfl registry runtimes]
      simp [room]

/-- A server that could not be started is taken off the array again. -/
theorem create_launched (reallocated : p.outcome.reallocated = true) (ports : ip ≠ 0 ∧ tp ≠ 0)
    (e : createDynamicServerForDevice cfg deviceId ip tp info p = (q, o)) :
    ∃ q', Launched deviceId ip tp p.servers.length p q' ∧ q.registry = q'.registry ∧
      q.runtimes = q'.runtimes := by
  unfold createDynamicServerForDevice at e
  rw [if_neg (by simp [ports, reallocated])] at e
  dsimp only at e
  generalize hs : startDynamicServerAtIndex cfg p.servers.length deviceId ip tp
    (wantsSsl cfg info.enableInputSsl) (wantsSsl cfg info.enableTunnelSsl)
    { p with servers := p.servers ++ [ProxyServer.zero] } = result at e
  obtain ⟨q', started⟩ := result
  refine ⟨q', ?_, ?_⟩
  · cases (start_launched hs rfl).1 with
    | refused not registry runtimes => exact .refused not registry runtimes
    | half r ready failed registry runtimes up => exact .half r ready failed registry runtimes up
    | full r ready started registry runtimes up =>
      exact .full r ready started (registry.trans (registerDynamicServerRuntime_congr _ _ rfl))
        runtimes up
  · cases started with
    | none =>
      obtain ⟨rfl, rfl⟩ := Prod.mk.inj e
      exact ⟨rfl, rfl⟩
    | some index =>
      obtain ⟨rfl, rfl⟩ := Prod.mk.inj e
      exact ⟨rfl, rfl⟩

/-- The entries that are free once the device's own have been stopped. -/
theorem room_iff (inv : ProxyInvariant p) :
    (∃ e ∈ (stopDynamicRuntimesForDevice deviceId ip tp p).registry, e.active = false) ↔
      Room deviceId ip tp p := by
  obtain ⟨registry, _⟩ := stopWhere_spec inv
    (fun e => stopMatches deviceId ip tp e && !slotMismatch p.servers e)
  unfold stopDynamicRuntimesForDevice Room
  simp only [registry, List.mem_map, exists_exists_and_eq_and]
  refine exists_congr fun e => and_congr_right fun he => ?_
  have active := inv.registry.active e he
  unfold clearEntry
  split
  · rename_i cleared
    simp only [Bool.and_eq_true, Bool.not_eq_true'] at cleared
    simp [cleared]
  · rename_i kept
    rw [← active] at kept
    by_cases on : e.active = true
    · simp only [on, Bool.true_and, Bool.and_eq_true, Bool.not_eq_true', not_and] at kept ⊢
      simpa using kept
    · simp [on]

theorem ensure_accounted (h : Accounted p) (inv : ProxyInvariant p)
    (e : ensureDynamicServerForDevice cfg deviceId ip tp info p = (q, o)) :
    Accounted q ↔ (Launches cfg deviceId ip tp info p → Smooth deviceId ip tp p) := by
  unfold ensureDynamicServerForDevice at e
  split at e
  case isTrue zero =>
    obtain ⟨rfl, rfl⟩ := Prod.mk.inj e
    have no : ¬ Launches cfg deviceId ip tp info p := by
      rintro ⟨⟨ip0, tp0⟩, _⟩
      simp [ip0, tp0] at zero
    simp [no, h]
  case isFalse ports =>
    have ports : ip ≠ 0 ∧ tp ≠ 0 := by simpa using ports
    dsimp only at e
    split at e
    case h_1 entry healthy =>
      obtain ⟨rfl, rfl⟩ := Prod.mk.inj e
      have no : ¬ Launches cfg deviceId ip tp info p := by
        rintro ⟨_, unhealthy, _⟩
        simp [healthy] at unhealthy
      simp [no, h]
    case h_2 unhealthy =>
      have stopped := inv.stopWhere
        (fun e => stopMatches deviceId ip tp e && !slotMismatch p.servers e)
      have accounted := h.stopWhere inv
        (fun e => stopMatches deviceId ip tp e && !slotMismatch p.servers e)
      obtain ⟨_, spec⟩ := stopWhere_spec inv
        (fun e => stopMatches deviceId ip tp e && !slotMismatch p.servers e)
      have room : (∃ e ∈ (stopDynamicRuntimesForDevice deviceId ip tp p).registry,
          e.active = false) ↔ Room deviceId ip tp p := room_iff inv
      have servers : (stopDynamicRuntimesForDevice deviceId ip tp p).servers = p.servers :=
        spec.servers
      have outcome : (stopDynamicRuntimesForDevice deviceId ip tp p).outcome = p.outcome :=
        spec.outcome
      change ProxyInvariant (stopDynamicRuntimesForDevice deviceId ip tp p) at stopped
      change Accounted (stopDynamicRuntimesForDevice deviceId ip tp p) at accounted
      rw [findStoppedDynamicServer_none stopped] at e
      have launches : Launches cfg deviceId ip tp info p ↔ p.outcome.reallocated = true ∧
          Ready p.servers.length ip tp (stopDynamicRuntimesForDevice deviceId ip tp p) := by
        simp [Launches, Ready, ports, unhealthy, outcome]
      by_cases reallocated : p.outcome.reallocated = true
      · obtain ⟨q', launched, registry, runtimes⟩ :=
          create_launched (outcome ▸ reallocated) ports e
        have same : Accounted q ↔ Accounted q' := accounted_congr registry (by simp [runtimes])
        rw [same, accounted_launched accounted stopped launched, launches, servers, outcome, room]
        simp [Smooth, reallocated]
      · have unchanged : q = stopDynamicRuntimesForDevice deviceId ip tp p := by
          unfold createDynamicServerForDevice at e
          rw [if_pos (by simp [outcome, reallocated])] at e
          exact (Prod.mk.inj e).1.symm
        have no : ¬ Launches cfg deviceId ip tp info p := fun l => reallocated (launches.1 l).1
        simp [no, unchanged, accounted]

theorem next_invariant (inv : ProxyInvariant p) (a : Action) : ProxyInvariant (next cfg p a) := by
  have answered (outcome : StartOutcome) : ProxyInvariant { p with outcome := outcome } :=
    ⟨inv.enabled, inv.registry, inv.sockets⟩
  cases a with
  | ensure deviceId ip tp info outcome =>
    exact (ensureDynamicServerForDevice_spec (answered outcome) rfl).1
  | stop deviceId ip tp => exact inv.stopWhere _
  | reload deviceId ip info outcome =>
    simp only [next, reloadDynamicServerTls]
    split
    · exact answered outcome
    · exact (ensureDynamicServerForDevice_spec ((answered outcome).stopWhere _) rfl).1
  | acceptorExit i isTunnel => exact inv.acceptorExit i isTunnel

theorem next_accounted (inv : ProxyInvariant p) (h : Accounted p) (a : Action) :
    Accounted (next cfg p a) ↔ Careful cfg p a := by
  have answered (outcome : StartOutcome) : ProxyInvariant { p with outcome := outcome } :=
    ⟨inv.enabled, inv.registry, inv.sockets⟩
  have still (outcome : StartOutcome) : Accounted { p with outcome := outcome } :=
    ⟨h.referenced, h.live⟩
  cases a with
  | ensure deviceId ip tp info outcome =>
    exact ensure_accounted (still outcome) (answered outcome) rfl
  | stop deviceId ip tp => exact iff_of_true (h.stopWhere inv _) trivial
  | reload deviceId ip info outcome =>
    simp only [next, reloadDynamicServerTls, Careful]
    split
    · rename_i zero
      refine iff_of_true (still outcome) ?_
      rintro ⟨⟨ip0, _⟩, _⟩
      exact absurd (by simpa using zero) ip0
    · have stopped := (answered outcome).stopWhere
        (fun e => stopMatches deviceId ip (tunnelPort ip) e && !slotMismatch p.servers e)
      have accounted := (still outcome).stopWhere (answered outcome)
        (fun e => stopMatches deviceId ip (tunnelPort ip) e && !slotMismatch p.servers e)
      exact ensure_accounted accounted stopped rfl
  | acceptorExit i isTunnel =>
    have same : Accounted (acceptorExit i isTunnel p) ↔ Accounted p :=
      accounted_acceptorExit i isTunnel
    exact iff_of_true (same.2 h) trivial

theorem fresh_accounted (h : Fresh p) : Accounted p := by
  refine ⟨?_, ?_⟩
  · intro i r hr
    simp [h.noRuntimes] at hr
  · intro e he active
    rw [h.empty e he] at active
    exact absurd active nofun

/-- In a run of starts, stops and TLS reloads every runtime that is up has exactly one active
registry entry, and every active entry has a runtime that is up, in all states that are reached,
exactly when every start that gets as far as a running acceptor is smooth. -/
theorem accounted_iff_careful {log : List (Proxy × Action)} (run : (system cfg).Run log p) :
    ((∀ e ∈ log, Accounted e.1) ∧ Accounted p) ↔ ∀ e ∈ log, Careful cfg e.1 e.2 := by
  have start : ∀ p, (system cfg).initial p → ProxyInvariant p ∧ Accounted p :=
    fun p fresh => ⟨fresh.invariant, fresh_accounted fresh⟩
  have keep : ∀ p a, ProxyInvariant p → (system cfg).enabled p a →
      ProxyInvariant ((system cfg).next p a) := fun _ a inv _ => next_invariant inv a
  have exactly : ∀ p a, ProxyInvariant p → Accounted p → (system cfg).enabled p a →
      (Accounted ((system cfg).next p a) ↔ Careful cfg p a) :=
    fun _ a inv accounted _ => next_accounted inv accounted a
  exact run.throughout_iff start keep exactly

def plainConfig : Config := ⟨3600, 30, "", "", id⟩

def succeeds : StartOutcome :=
  { reallocated := true, sslContextCreated := true, inputSocket := true, inputListens := true,
    outputSocket := true, outputListens := true, allocated := true, inputStarted := true,
    outputStarted := true, inputAccepting := true, outputAccepting := true }

def noServers : Proxy :=
  ⟨[], List.replicate maxDynamicServerRuntimes emptyEntry, [], ⟨[], 3⟩, succeeds⟩

def infoOf (deviceId : String) : DeviceInfo :=
  ⟨deviceId, "", "", 1, "", 0, .active, false, false, 0, 0⟩

theorem noServers_fresh : (system plainConfig).initial noServers := by
  refine ⟨?_, rfl, rfl, ?_, ?_⟩ <;> simp [noServers]

def smoothRun : List Action :=
  [.ensure "A" 6000 6001 (infoOf "A") succeeds, .ensure "B" 6002 6003 (infoOf "B") succeeds,
    .reload "A" 6000 (infoOf "A") succeeds, .stop "B" 6002 6003]

theorem smoothRun_accounted : ∃ log p, (system plainConfig).Run log p ∧
    p.runtimes.map told = [true, true, false] ∧ Accounted p := by
  obtain ⟨log, p, run, found⟩ := (System.Run.start noServers_fresh).follow_any smoothRun
    (fun r => decide (r.2.runtimes.map told = [true, true, false] ∧
      ∀ e ∈ r.1, Careful plainConfig e.1 e.2)) (by decide +kernel)
  obtain ⟨runtimes, careful⟩ := of_decide_eq_true found
  exact ⟨log, p, run, runtimes, ((accounted_iff_careful run).2 careful).2⟩

/-- The output acceptor leaves before the last check: the runtime is stopped, its entry stays. -/
theorem stopped_runtime_registered : ∃ log p, (system plainConfig).Run log p ∧ ¬ Accounted p := by
  obtain ⟨log, p, run, found⟩ := (System.Run.start noServers_fresh).follow_any
    [.ensure "A" 6000 6001 (infoOf "A") { succeeds with outputAccepting := false }]
    (fun r => decide (r.2.registry.head? = some ⟨"A", 6000, 6001, 0, some 0, true⟩ ∧
      r.2.runtimes.map told = [true])) (by decide +kernel)
  obtain ⟨entry, runtimes⟩ := of_decide_eq_true found
  refine ⟨log, p, run, ?_⟩
  intro accounted
  obtain ⟨i, r, points, hr, live⟩ := accounted.live _ (List.mem_of_mem_head? entry) rfl
  have stopped : told r = true := by
    have mem := List.mem_map_of_mem (f := told) (List.mem_of_getElem? hr)
    rw [runtimes] at mem
    exact List.mem_singleton.1 mem
  exact absurd live (by simp [stopped])

end RegistryAgreement
