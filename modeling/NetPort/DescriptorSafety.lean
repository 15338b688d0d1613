import NetPort.ProcessLedger

/-! When the server process closes every descriptor and frees every context at most once. -/
namespace DescriptorSafety

open StepRuns ProxyRuntimes RuntimeInvariant RegistryAgreement ResourceLedger ProcessLedger

/-- A field of a runtime, or the `socket_local` of an acceptor. -/
inductive Holder where
  | field (l : Place)
  | accepted (runtime : ℕ) (isTunnel : Bool)

def Holder.runtime : Holder → ℕ
  | field l => l.runtime
  | accepted i _ => i

/-- What is held is open: in a field it has been stored and not been closed since. -/
def Holds (s : Process) : Holder → ℕ → Prop
  | .field l, f => s.named l = some f ∧ s.closed l = false ∧ f ≠ 0
  | .accepted i t, f => s.acceptors (i, t) = .accepted f

inductive ContextPlace where
  | runtime (i : ℕ)
  | server (j : ℕ)

/-- Contexts belong to the runtimes and to the static servers; a slot of a dynamic server has a
copy of its runtime's. -/
def HoldsContext (s : Process) : ContextPlace → ℕ → Prop
  | .runtime i, c => s.finished = false ∧ s.runtimeContexts i = some c
  | .server j, c => s.finished = false ∧ s.serverContexts j = some c ∧
      ∃ server, s.proxy.servers[j]? = some server ∧ server.isDynamicPort = false

def restarts : Statement → Bool
  | .cleanup _ | .stopSlot _ _ | .closeSlot _ | .restart _ _ _ _ _ => true
  | _ => false

structure Invariant (s : Process) : Prop where
  next : s.descriptors.next = s.proxy.kernel.nextFd
  books : Books s.descriptors Holder.runtime (Holds s)
  contexts : Books s.contexts (fun _ => ()) (HoldsContext s)
  servers : ∀ (j : ℕ) server, s.proxy.servers[j]? = some server → server.isDynamicPort = true →
    s.serverRuntimes j < s.proxy.runtimes.length
  serversDistinct : ∀ (j j' : ℕ) server server', s.proxy.servers[j]? = some server →
    s.proxy.servers[j']? = some server' → server.isDynamicPort = true →
    server'.isDynamicPort = true → s.serverRuntimes j = s.serverRuntimes j' → j = j'
  proxy : ProxyInvariant s.proxy
  neverRestarts : ∀ st ∈ s.control, restarts st = false
  finished : s.finished = true → s.control = []

variable {cfg : Config} {slots : ℕ} {s t : Process} {i j : ℕ} {r : ProxyServer} {d : String}
  {l : Place} {f : ℕ} {hit : DynamicServerRuntime → Bool} {p q : Proxy} {info : DeviceInfo}
  {ip tp : ℕ} {x : Holder} {isTunnel : Bool} {st : Statement}

theorem Invariant.sound (h : Invariant s) : Sound s := ⟨h.books.balanced, h.contexts.balanced⟩

structure Kept (s t : Process) : Prop where
  servers : t.proxy.servers = s.proxy.servers
  runtimes : t.proxy.runtimes.length = s.proxy.runtimes.length
  contexts : t.contexts = s.contexts
  runtimeContexts : t.runtimeContexts = s.runtimeContexts
  serverContexts : t.serverContexts = s.serverContexts
  serverRuntimes : t.serverRuntimes = s.serverRuntimes
  finished : t.finished = s.finished

theorem Invariant.kept (h : Invariant s) (kept : Kept s t)
    (next : t.descriptors.next = t.proxy.kernel.nextFd)
    (books : Books t.descriptors Holder.runtime (Holds t)) (proxy : ProxyInvariant t.proxy)
    (control : t.control = s.control) : Invariant t := by
  have holds : HoldsContext t = HoldsContext s := by
    funext l c
    cases l <;> simp only [HoldsContext, kept.servers, kept.runtimeContexts, kept.serverContexts,
      kept.finished]
  refine ⟨next, books, ?_, ?_, ?_, proxy, ?_, ?_⟩
  · rw [kept.contexts, holds]
    exact h.contexts
  · rw [kept.servers, kept.serverRuntimes, kept.runtimes]
    exact h.servers
  · rw [kept.servers, kept.serverRuntimes]
    exact h.serversDistinct
  · rw [control]
    exact h.neverRestarts
  · rw [control, kept.finished]
    exact h.finished

theorem Invariant.instructed (h : Invariant s) (running : s.finished = false)
    {statements : List Statement} (never : ∀ st ∈ statements, restarts st = false) :
    Invariant { s with control := statements } :=
  ⟨h.next, h.books, h.contexts, h.servers, h.serversDistinct, h.proxy, never, by simp [running]⟩

theorem Invariant.push (h : Invariant s) (running : s.finished = false)
    {statements : List Statement} (never : ∀ st ∈ statements, restarts st = false) :
    Invariant (s.push statements) := by
  refine h.instructed running fun st mem => ?_
  rcases List.mem_append.1 mem with new | old
  · exact never st new
  · exact h.neverRestarts st old

section Runtimes

structure Tame (g : ProxyServer → ProxyServer) : Prop where
  deviceId : ∀ r, (g r).deviceId = r.deviceId
  inputPort : ∀ r, (g r).inputPort = r.inputPort
  outputPort : ∀ r, (g r).outputPort = r.outputPort
  told : ∀ r, told (g r) = false → told r = false
  input : ∀ r, (g r).input = r.input ∨ (g r).input = none
  output : ∀ r, (g r).output = r.output ∨ (g r).output = none

theorem tame_disabled : Tame disabled := by
  refine ⟨fun _ => rfl, fun _ => rfl, fun _ => rfl, ?_, fun _ => .inl rfl, fun _ => .inl rfl⟩
  intro r live
  simp [told, disabled] at live

theorem tame_freed : Tame fun r => { r with sslCtx := false } :=
  ⟨fun _ => rfl, fun _ => rfl, fun _ => rfl, fun _ live => live, fun _ => .inl rfl,
    fun _ => .inl rfl⟩

theorem tame_withoutListener (isTunnel : Bool) : Tame (withoutListener isTunnel) := by
  cases isTunnel
  · exact ⟨fun _ => rfl, fun _ => rfl, fun _ => rfl, fun _ live => live, fun _ => .inr rfl,
      fun _ => .inl rfl⟩
  · exact ⟨fun _ => rfl, fun _ => rfl, fun _ => rfl, fun _ live => live, fun _ => .inl rfl,
      fun _ => .inr rfl⟩

theorem tame_exited (isTunnel : Bool) : Tame (exited isTunnel) := by
  cases isTunnel <;> exact ⟨fun _ => rfl, fun _ => rfl, fun _ => rfl, fun _ live => live,
    fun _ => .inl rfl, fun _ => .inl rfl⟩

variable {g : ProxyServer → ProxyServer}

@[simp] theorem setRuntime_servers : (setRuntime i g p).servers = p.servers := by
  unfold setRuntime
  split <;> rfl

@[simp] theorem setRuntime_kernel : (setRuntime i g p).kernel = p.kernel := by
  unfold setRuntime
  split <;> rfl

theorem setRuntime_getElem (j : ℕ) : (setRuntime i g p).runtimes[j]? =
    if j = i then p.runtimes[j]?.map g else p.runtimes[j]? := by
  unfold setRuntime
  cases hr : p.runtimes[i]? with
  | none =>
    by_cases same : j = i
    · simp [same, hr]
    · simp [same]
  | some r =>
    have lt := (List.getElem?_eq_some_iff.1 hr).1
    by_cases same : j = i
    · subst same
      simp [List.getElem?_set_self lt, hr]
    · simp [List.getElem?_set_ne (Ne.symm same), same]

@[simp] theorem setRuntime_length : (setRuntime i g p).runtimes.length = p.runtimes.length := by
  unfold setRuntime
  split
  · rfl
  · exact List.length_set

theorem setRuntime_invariant (h : ProxyInvariant p) (tame : Tame g) :
    ProxyInvariant (setRuntime i g p) := by
  unfold setRuntime
  cases hr : p.runtimes[i]? with
  | none => exact h
  | some r =>
    refine ⟨h.enabled, h.registry.evolve ?_, ?_⟩
    · exact evolves_set hr (tame.deviceId r) (tame.inputPort r) (tame.outputPort r) (tame.told r)
    · exact h.sockets.set hr (tame.inputPort r) (tame.outputPort r) (tame.input r) (tame.output r)

theorem close_invariant (h : ProxyInvariant p) (fd : Option ℕ) :
    ProxyInvariant { p with kernel := p.kernel.close fd } :=
  ⟨h.enabled, h.registry, h.sockets.shrink (shrinks_close p.kernel fd)⟩

end Runtimes

section Fields

@[simp] theorem close_nextFd (k : Kernel) (fd : Option ℕ) : (k.close fd).nextFd = k.nextFd := by
  cases fd <;> rfl

@[simp] theorem closeIf_next (L : Ledger ℕ) (fd : Option ℕ) : (L.closeIf fd i).next = L.next := by
  cases fd <;> rfl

theorem named_setRuntime {g : ProxyServer → ProxyServer}
    (same : ∀ t r, listenerOf t (g r) = listenerOf t r) (l : Place) :
    { s with proxy := setRuntime i g s.proxy }.named l = s.named l := by
  cases l with
  | connection => rfl
  | listener j t =>
    simp only [Process.named, setRuntime_getElem]
    by_cases here : j = i
    · subst here
      cases s.proxy.runtimes[j]? <;> simp [same]
    · simp [here]

theorem named_clearField (l l' : Place) :
    (s.clearField l).named l' = if l' = l then none else s.named l' := by
  cases l with
  | listener i t =>
    cases l' with
    | listener j t' =>
      simp only [Process.clearField, Process.named, setRuntime_getElem, Place.listener.injEq]
      by_cases here : j = i
      · cases hr : s.proxy.runtimes[j]? <;> cases t <;> cases t' <;>
          simp_all [listenerOf, withoutListener]
      · simp [here]
    | connection => simp [Process.clearField, Process.named]
  | connection i k t =>
    cases l' with
    | listener => simp [Process.clearField, Process.named]
    | connection j k' t' =>
      simp only [Process.clearField, Process.named, Place.connection.injEq]
      by_cases here : (j, k', t') = (i, k, t)
      · obtain ⟨rfl, rfl, rfl⟩ : j = i ∧ k' = k ∧ t' = t := by simpa using here
        simp
      · rw [Function.update_of_ne here, if_neg (by simpa using here)]

@[simp] theorem clearField_closed : (s.clearField l).closed = s.closed := by
  cases l <;> rfl

@[simp] theorem clearField_acceptors : (s.clearField l).acceptors = s.acceptors := by
  cases l <;> rfl

@[simp] theorem clearField_descriptors : (s.clearField l).descriptors = s.descriptors := by
  cases l <;> rfl

/-- The fields name what they named, or nothing, and no acceptor has a new socket. -/
theorem holds_fewer (fields : ∀ l f, t.named l = some f → s.named l = some f)
    (closed : t.closed = s.closed) (acceptors : ∀ i isTunnel f,
      t.acceptors (i, isTunnel) = .accepted f → s.acceptors (i, isTunnel) = .accepted f)
    (held : Holds t x f) : Holds s x f := by
  cases x with
  | field l => exact ⟨fields l f held.1, closed ▸ held.2.1, held.2.2⟩
  | accepted i isTunnel => exact acceptors i isTunnel f held

theorem clearField_invariant (h : Invariant s) : Invariant (s.clearField l) := by
  have fewer : ∀ x f, Holds (s.clearField l) x f → Holds s x f := by
    intro x f held
    refine holds_fewer ?_ (by simp) (by simp) held
    intro l' f names
    rw [named_clearField] at names
    split at names
    · cases names
    · exact names
  refine h.kept ?_ ?_ ?_ ?_ ?_
  · cases l
    · exact ⟨setRuntime_servers, setRuntime_length, rfl, rfl, rfl, rfl, rfl⟩
    · exact ⟨rfl, rfl, rfl, rfl, rfl, rfl, rfl⟩
  · cases l
    · simp only [Process.clearField, setRuntime_kernel]
      exact h.next
    · exact h.next
  · rw [clearField_descriptors]
    exact h.books.mono fewer
  · cases l
    · exact setRuntime_invariant h.proxy (tame_withoutListener _)
    · exact h.proxy
  · cases l <;> rfl

theorem holds_closeField (held : Holds (s.closeField l) x f) : Holds s x f ∧ x ≠ .field l := by
  cases x with
  | accepted => exact ⟨held, nofun⟩
  | field l' =>
    obtain ⟨names, isOpen, nonzero⟩ := held
    by_cases here : l' = l
    · simp [Process.closeField, here] at isOpen
    · simp only [Process.closeField, Function.update_of_ne here] at isOpen
      refine ⟨⟨?_, isOpen, nonzero⟩, by simpa using here⟩
      cases l' <;> exact names

theorem closeField_invariant (h : Invariant s) (unclosed : Unclosed s l) :
    Invariant (s.closeField l) := by
  refine h.kept ⟨rfl, rfl, rfl, rfl, rfl, rfl, rfl⟩ ?_ ?_ (close_invariant h.proxy _) rfl
  · simp only [Process.closeField, Process.close, closeIf_next, close_nextFd]
    exact h.next
  · refine (h.books.mono fun x f held => (holds_closeField held).1).closeIf ?_
    intro f names
    obtain ⟨nonzero, isOpen⟩ := unclosed f names
    have held : Holds s (.field l) f := ⟨names, isOpen, nonzero⟩
    exact h.books.loose_of_held held fun _ _ => holds_closeField

end Fields

section Control

theorem stopDynamicServerRuntime_neverRestarts
    (mem : st ∈ ProcessLedger.stopDynamicServerRuntime slots i d p) : restarts st = false := by
  unfold ProcessLedger.stopDynamicServerRuntime at mem
  split at mem
  · cases mem
  split at mem
  · cases mem
  · simp only [List.mem_cons, List.mem_append, List.mem_map, List.not_mem_nil, or_false] at mem
    rcases mem with (rfl | ⟨l, _, rfl⟩) | rfl <;> rfl

theorem stopEntry_neverRestarts {e : DynamicServerRuntime × ℕ}
    (mem : st ∈ stopEntry slots hit p e) : restarts st = false := by
  unfold stopEntry at mem
  split at mem
  · cases mem
  split at mem
  · rcases List.mem_append.1 mem with stop | forget
    · exact stopDynamicServerRuntime_neverRestarts stop
    · rw [List.mem_singleton.1 forget]
      rfl
  · cases mem

theorem stopWhere_invariant (h : Invariant s) (running : s.finished = false) :
    Invariant (ProcessLedger.stopWhere slots hit s) := by
  refine h.push running fun st mem => ?_
  obtain ⟨e, _, entry⟩ := List.mem_flatMap.1 mem
  exact stopEntry_neverRestarts entry

theorem ensure_invariant (h : Invariant s) (running : s.finished = false) :
    Invariant (ProcessLedger.ensureDynamicServerForDevice cfg d ip tp info s) := by
  unfold ProcessLedger.ensureDynamicServerForDevice
  split
  · exact h
  split
  · exact h
  · exact h.push running (by simp [restarts])

theorem test_invariant (h : Invariant s) (running : s.finished = false) :
    Invariant (if (s.named l).isSome then s.push [.close l, .clear l] else s) := by
  split
  · exact h.push running (by simp [restarts])
  · exact h

theorem setRuntime_holds {g : ProxyServer → ProxyServer}
    (same : ∀ t r, listenerOf t (g r) = listenerOf t r) :
    Holds { s with proxy := setRuntime i g s.proxy } = Holds s := by
  funext x f
  cases x with
  | field l => simp only [Holds, named_setRuntime same]
  | accepted => rfl

theorem setRuntime_keeps (h : Invariant s) {g : ProxyServer → ProxyServer} (tame : Tame g)
    (same : ∀ t r, listenerOf t (g r) = listenerOf t r) :
    Invariant { s with proxy := setRuntime i g s.proxy } := by
  refine h.kept ⟨setRuntime_servers, setRuntime_length, rfl, rfl, rfl, rfl, rfl⟩ ?_ ?_ ?_ rfl
  · simpa only [setRuntime_kernel] using h.next
  · rw [setRuntime_holds same]
    exact h.books
  · exact setRuntime_invariant h.proxy tame

theorem cleanupContext_invariant (h : Invariant s) (running : s.finished = false) :
    Invariant { s.free (s.runtimeContexts i) with
      runtimeContexts := Function.update s.runtimeContexts i none } := by
  have left : ∀ l c, HoldsContext { s.free (s.runtimeContexts i) with
      runtimeContexts := Function.update s.runtimeContexts i none } l c →
      HoldsContext s l c ∧ l ≠ .runtime i := by
    rintro (j | j) c held
    · obtain ⟨running, context⟩ := held
      by_cases same : j = i
      · simp [same] at context
      · simp only [Function.update_of_ne same] at context
        exact ⟨⟨running, context⟩, by simpa using same⟩
    · exact ⟨held, nofun⟩
  refine ⟨h.next, h.books, ?_, h.servers, h.serversDistinct, h.proxy, h.neverRestarts, h.finished⟩
  refine (h.contexts.mono fun l c held => (left l c held).1).closeIf ?_
  intro c context
  have here : HoldsContext s (.runtime i) c := ⟨running, context⟩
  exact h.contexts.loose_of_held here left

theorem forget_invariant (h : Invariant s) (n : ℕ) :
    Invariant { s with proxy := { s.proxy with
      registry := s.proxy.registry.modify n fun e =>
        { e with active := false, connectionsData := none } } } := by
  refine ⟨h.next, h.books, h.contexts, h.servers, h.serversDistinct, ?_, h.neverRestarts,
    h.finished⟩
  refine ⟨h.proxy.enabled, h.proxy.registry.cleared ?_, h.proxy.sockets⟩
  intro e mem
  obtain ⟨k, found⟩ := List.getElem?_of_mem mem
  rw [List.getElem?_modify] at found
  obtain ⟨e', found', rfl⟩ := Option.map_eq_some_iff.1 found
  split
  · exact .inr ⟨rfl, rfl⟩
  · exact .inl (List.mem_of_getElem? found')

end Control

section Start

variable {ss : List ProxyServer} {o : Option ℕ} {enableInputSsl enableTunnelSsl : Bool}

def socketsNext (k : Kernel) (o : StartOutcome) (ip tp : ℕ) : ℕ :=
  let (_, inputOk, k) := k.initSocket o.inputSocket o.inputListens ip
  if !inputOk then k.nextFd else (k.initSocket o.outputSocket o.outputListens tp).2.2.nextFd

theorem initSocket_exact (k : Kernel) (socket listens : Bool) (port : ℕ) :
    k.initSocket socket listens port = (none, false, k) ∨
      k.initSocket socket listens port = (some k.nextFd, false, { k with nextFd := k.nextFd + 1 }) ∨
      k.initSocket socket listens port = (some k.nextFd, true, opened k port) := by
  unfold Kernel.initSocket
  split
  · exact .inl rfl
  · split
    · exact .inr (.inr rfl)
    · exact .inr (.inl rfl)

theorem socketsReady_iff {k : Kernel} {o : StartOutcome} : socketsReady k o ip tp = true ↔
    k.initSocket o.inputSocket o.inputListens ip = (some k.nextFd, true, opened k ip) ∧
      (opened k ip).initSocket o.outputSocket o.outputListens tp =
        (some (opened k ip).nextFd, true, opened (opened k ip) tp) := by
  unfold socketsReady
  rcases initSocket_exact k o.inputSocket o.inputListens ip with input | input | input
  · simp [input]
  · simp [input]
  · simp only [input, true_and, Bool.true_and]
    rcases initSocket_exact (opened k ip) o.outputSocket o.outputListens tp with
      output | output | output <;> simp [output]

theorem newServer_isDynamicPort (cfg : Config) (outcome : StartOutcome) (deviceId : String)
    (ip tp : ℕ) (enableInputSsl enableTunnelSsl : Bool) :
    (newServer cfg outcome deviceId ip tp enableInputSsl enableTunnelSsl).isDynamicPort = true := by
  unfold newServer applyDynamicServerSslConfig initSslContext
  split_ifs <;> rfl

theorem serversCount_last (servers : p.servers = ss ++ [ProxyServer.zero]) :
    serversCount p = (ss.length + 1) % 2 ^ 16 := by
  simp only [serversCount, servers, List.length_append, List.length_singleton]

theorem ready_of_opened (few : ss.length < (ss.length + 1) % 2 ^ 16)
    (sockets : SocketsOpened p ip tp) (allocated : p.outcome.allocated = true)
    (inputStarted : p.outcome.inputStarted = true) : Ready ss.length ip tp p :=
  ⟨few, socketsReady_iff.2 ⟨sockets.input, sockets.output⟩, allocated, inputStarted⟩

theorem start_refused
    (e : ProxyRuntimes.startDynamicServerAtIndex cfg ss.length d ip tp enableInputSsl
      enableTunnelSsl p = (q, o)) (servers : p.servers = ss ++ [ProxyServer.zero])
    (few : ss.length < (ss.length + 1) % 2 ^ 16) (not : ¬ Ready ss.length ip tp p) :
    o = none ∧ q.runtimes = p.runtimes ∧ (∃ x, q.servers = ss ++ [x]) ∧
      q.kernel.nextFd = socketsNext p.kernel p.outcome ip tp := by
  cases attempt_of_start e servers with
  | full count =>
    rw [serversCount_last servers] at count
    omega
  | noInput x _ failed => exact ⟨rfl, rfl, ⟨x, rfl⟩, by simp [socketsNext, failed]⟩
  | noOutput x _ input _ failed =>
    refine ⟨rfl, rfl, ⟨x, rfl⟩, (close_nextFd _ _).trans ?_⟩
    simp [socketsNext, input, failed]
  | noThread x _ sockets _ _ next =>
    refine ⟨rfl, rfl, ⟨x, rfl⟩, next.trans ?_⟩
    simp only [socketsNext, sockets.input, sockets.output, Bool.not_true, Bool.false_eq_true,
      if_false]
    rfl
  | orphan _ _ sockets allocated inputStarted =>
    exact absurd (ready_of_opened few sockets allocated inputStarted) not
  | up _ sockets allocated inputStarted =>
    exact absurd (ready_of_opened few sockets allocated inputStarted) not

/-- A start without a failure: one runtime more, on two listeners. -/
theorem start_up
    (e : ProxyRuntimes.startDynamicServerAtIndex cfg ss.length d ip tp enableInputSsl
      enableTunnelSsl p = (q, o)) (servers : p.servers = ss ++ [ProxyServer.zero])
    (ready : Ready ss.length ip tp p) (up : AllUp p.outcome) :
    o = some ss.length ∧ (∃ r, q.runtimes = p.runtimes ++ [r] ∧
        (r.isInputRunning = true ∧ r.isOutputRunning = true) ∧
        r.input = some p.kernel.nextFd ∧ r.output = some (p.kernel.nextFd + 1)) ∧
      (∃ x, q.servers = ss ++ [x] ∧ x.isDynamicPort = true) ∧
      q.kernel.nextFd = p.kernel.nextFd + 2 := by
  obtain ⟨few, sockets, allocated, inputStarted⟩ := ready
  obtain ⟨_, outputStarted, inputAccepting, outputAccepting⟩ := up
  obtain ⟨input, output⟩ := socketsReady_iff.1 sockets
  obtain ⟨device, inputPort, outputPort, enabled⟩ := newServer_fields cfg p.outcome d ip tp
    enableInputSsl enableTunnelSsl
  have notTold := newServer_notTold cfg p.outcome d ip tp enableInputSsl enableTunnelSsl
  have dynamic := newServer_isDynamicPort cfg p.outcome d ip tp enableInputSsl enableTunnelSsl
  have attempt := attempt_of_start e servers
  generalize newServer cfg p.outcome d ip tp enableInputSsl enableTunnelSsl = server
    at attempt device inputPort outputPort enabled notTold dynamic
  cases attempt with
  | full count =>
    rw [serversCount_last servers] at count
    omega
  | noInput _ _ failed => simp [input] at failed
  | noOutput _ _ _ _ failed => simp [output] at failed
  | noThread _ _ _ refused => simp [allocated, inputStarted] at refused
  | orphan _ _ _ _ _ refused => simp [outputStarted] at refused
  | up _ _ _ _ _ confirmed =>
    have only := registerDynamicServerRuntime_registry_only d ip tp ss.length p.runtimes.length
      { p with
        servers := ss ++ [{ onSockets server p.kernel with isOutputRunning := true }]
        runtimes := p.runtimes ++ [{ onSockets server p.kernel with isOutputRunning := true }]
        kernel := opened (opened p.kernel ip) tp }
    rw [confirmStarted_up (r := { onSockets server p.kernel with isOutputRunning := true })]
      at confirmed
    · obtain ⟨rfl, rfl⟩ := Prod.mk.inj confirmed
      rw [only]
      exact ⟨rfl, ⟨_, rfl, ⟨rfl, rfl⟩, rfl, rfl⟩, ⟨_, rfl, dynamic⟩, rfl⟩
    · rw [only]
      simp
    · rw [only]
      exact up_opened enabled ⟨rfl, rfl⟩ rfl rfl inputPort outputPort notTold
    · rw [only]
      exact inputAccepting
    · rw [only]
      exact outputAccepting

/-- Nothing that is held has changed: the slot in question is not in the array any more. -/
theorem Invariant.refused (h : Invariant s) (servers : q.servers = s.proxy.servers)
    (runtimes : q.runtimes = s.proxy.runtimes) (proxy : ProxyInvariant q)
    {contexts : ℕ → Option ℕ} {serverRuntimes : ℕ → ℕ} {D : Ledger ℕ} {C : Ledger Unit}
    (next : D.next = q.kernel.nextFd)
    (slot : ∀ j < s.proxy.servers.length, contexts j = s.serverContexts j ∧
      serverRuntimes j = s.serverRuntimes j)
    (books : Books D Holder.runtime (Holds s))
    (freed : Books C (fun _ => ()) (HoldsContext s)) :
    Invariant { s with
      proxy := q
      serverContexts := contexts
      serverRuntimes := serverRuntimes
      descriptors := D
      contexts := C } := by
  have lt : ∀ (j : ℕ) server, s.proxy.servers[j]? = some server → j < s.proxy.servers.length :=
    fun j server hj => (List.getElem?_eq_some_iff.1 hj).1
  refine ⟨next, books.mono ?_, freed.mono ?_, ?_, ?_, proxy, h.neverRestarts, h.finished⟩
  · intro x f held
    refine holds_fewer ?_ ?_ ?_ held
    · intro l f names
      cases l
      · simpa only [Process.named, runtimes] using names
      · exact names
    · rfl
    · exact fun _ _ _ same => same
  · rintro (i | j) c held
    · exact held
    · obtain ⟨running, context, server, hj, static⟩ := held
      dsimp only at hj context
      rw [servers] at hj
      rw [(slot j (lt j server hj)).1] at context
      exact ⟨running, context, server, hj, static⟩
  · intro j server hj dynamic
    dsimp only at hj ⊢
    rw [servers] at hj
    rw [(slot j (lt j server hj)).2, runtimes]
    exact h.servers j server hj dynamic
  · intro j j' server server' hj hj' dynamic dynamic' same
    dsimp only at hj hj' same
    rw [servers] at hj hj'
    rw [(slot j (lt j server hj)).2, (slot j' (lt j' server' hj')).2] at same
    exact h.serversDistinct j j' server server' hj hj' dynamic dynamic' same

/-- The context of a start that fails is freed at once, or forgotten. -/
theorem contexts_refused {C : Ledger Unit} {holds : ContextPlace → ℕ → Prop}
    (h : Books C (fun _ => ()) holds) (created : Bool) :
    Books (if created then C.openNew () else C) (fun _ => ()) holds ∧
      Books ((if created then C.openNew () else C).closeIf
        (if created then some C.next else none) ()) (fun _ => ()) holds := by
  cases created with
  | false => exact ⟨h, h⟩
  | true => exact ⟨h.openNew (), (h.openNew ()).close (h.loose_new ())⟩

theorem openedContext (created : Bool) :
    (if created = true then { s with contexts := s.contexts.openNew () } else s) =
      { s with contexts := if created = true then s.contexts.openNew () else s.contexts } := by
  cases created <;> rfl

/-- The sockets of a start that fails are closed once, or forgotten. -/
theorem startLedger_refused {holds : Holder → ℕ → Prop} {context : ContextPlace → ℕ → Prop}
    (next : s.descriptors.next = s.proxy.kernel.nextFd)
    (books : Books s.descriptors Holder.runtime holds)
    (contexts : Books s.contexts (fun _ => ()) context) (confirmed : Bool) {n : ℕ}
    (not : ¬ (socketsReady s.proxy.kernel s.proxy.outcome ip tp = true ∧
      s.proxy.outcome.allocated = true)) :
    ∃ serverContexts serverRuntimes D C,
      startLedger cfg slots n d ip tp enableInputSsl enableTunnelSsl q confirmed s =
        { s with
          proxy := q
          serverContexts := serverContexts
          serverRuntimes := serverRuntimes
          descriptors := D
          contexts := C } ∧
      (∀ j < n, serverContexts j = s.serverContexts j ∧ serverRuntimes j = s.serverRuntimes j) ∧
      D.next = socketsNext s.proxy.kernel s.proxy.outcome ip tp ∧
      Books D Holder.runtime holds ∧ Books C (fun _ => ()) context := by
  have slot : ∀ j < n, ∀ (g : ℕ → Option ℕ) (x : Option ℕ) (g' : ℕ → ℕ) (x' : ℕ),
      Function.update g n x j = g j ∧ Function.update g' n x' j = g' j := by
    intro j lt g x g' x'
    have ne : j ≠ n := by omega
    exact ⟨Function.update_of_ne ne .., Function.update_of_ne ne ..⟩
  unfold startLedger
  dsimp only
  generalize newServer cfg s.proxy.outcome d ip tp enableInputSsl enableTunnelSsl = server
  obtain ⟨kept, freed⟩ := contexts_refused contexts server.sslCtx
  have one := books.openNew s.proxy.runtimes.length
  have loose := books.loose_new s.proxy.runtimes.length
  unfold socketsNext
  rw [openedContext]
  rcases initSocket_exact s.proxy.kernel s.proxy.outcome.inputSocket s.proxy.outcome.inputListens ip
    with input | input | input <;> simp only [input, Bool.not_false, Bool.not_true, if_true,
      Bool.false_eq_true, if_false]
  · exact ⟨_, _, _, _, rfl, fun j lt => slot j lt .., next, books, freed⟩
  · exact ⟨_, _, _, _, rfl, fun j lt => slot j lt .., congrArg (· + 1) next, one, freed⟩
  have two := one.openNew s.proxy.runtimes.length
  have looseInput := loose.openNew s.proxy.runtimes.length
  have looseOutput := one.loose_new s.proxy.runtimes.length
  rcases initSocket_exact (opened s.proxy.kernel ip) s.proxy.outcome.outputSocket
    s.proxy.outcome.outputListens tp with output | output | output <;>
    simp only [output, Bool.not_false, Bool.not_true, if_true, Bool.false_eq_true, if_false]
  · rw [← next]
    exact ⟨_, _, _, _, rfl, fun j lt => slot j lt .., congrArg (· + 1) next, one.close loose, freed⟩
  · rw [← next]
    exact ⟨_, _, _, _, rfl, fun j lt => slot j lt .., congrArg (· + 2) next, two.close looseInput,
      freed⟩
  have sockets : socketsReady s.proxy.kernel s.proxy.outcome ip tp = true :=
    socketsReady_iff.2 ⟨input, output⟩
  have unallocated : s.proxy.outcome.allocated = false := by
    by_contra allocated
    exact not ⟨sockets, by simpa using allocated⟩
  have ne : s.descriptors.next + 1 ≠ s.descriptors.next := Nat.succ_ne_self _
  have fd : (opened s.proxy.kernel ip).nextFd = s.descriptors.next + 1 := congrArg (· + 1) next.symm
  simp only [unallocated, fd, Bool.not_false, if_true]
  rw [← next]
  exact ⟨_, _, _, _, rfl, fun j lt => slot j lt .., congrArg (· + 2) next,
    (two.close looseInput).close (looseOutput.close ne), kept⟩

/-- The context of the new server, and the ledger that it is in. -/
def NewContext (s : Process) (context : Option ℕ) (C : Ledger Unit) : Prop :=
  (context = none ∧ C = s.contexts) ∨
    (context = some s.contexts.next ∧ C = s.contexts.openNew ())

/-- What the books are after a new server has been started in slot `n`. -/
def afterStart (s : Process) (n : ℕ) (q : Proxy) (context : Option ℕ) (C : Ledger Unit) : Process :=
  { s with
    proxy := q
    connections := fun l => if l.1 = s.proxy.runtimes.length then .zero else s.connections l
    closed := fun l => if l.runtime = s.proxy.runtimes.length then false else s.closed l
    acceptors := fun l => if l.1 = s.proxy.runtimes.length then .waiting else s.acceptors l
    runtimeContexts := Function.update s.runtimeContexts s.proxy.runtimes.length context
    serverContexts := Function.update s.serverContexts n context
    serverRuntimes := Function.update s.serverRuntimes n s.proxy.runtimes.length
    descriptors := (s.descriptors.openNew s.proxy.runtimes.length).openNew
      s.proxy.runtimes.length
    contexts := C }

theorem startLedger_up {n : ℕ}
    (sockets : socketsReady s.proxy.kernel s.proxy.outcome ip tp = true)
    (allocated : s.proxy.outcome.allocated = true) (up : AllUp s.proxy.outcome) :
    ∃ context C, NewContext s context C ∧
      startLedger cfg slots n d ip tp enableInputSsl enableTunnelSsl q true s =
        afterStart s n q context C := by
  obtain ⟨input, output⟩ := socketsReady_iff.1 sockets
  obtain ⟨inputStarted, outputStarted, _, _⟩ := up
  unfold startLedger
  dsimp only
  generalize newServer cfg s.proxy.outcome d ip tp enableInputSsl enableTunnelSsl = server
  refine ⟨if server.sslCtx = true then some s.contexts.next else none,
    if server.sslCtx = true then s.contexts.openNew () else s.contexts, ?_, ?_⟩
  · cases server.sslCtx with
    | false => exact .inl ⟨rfl, rfl⟩
    | true => exact .inr ⟨rfl, rfl⟩
  · rw [openedContext]
    simp only [input, output, allocated, inputStarted, outputStarted, Bool.not_true,
      Bool.false_eq_true, if_false, if_true]
    rfl

section Started

variable {x : ProxyServer} {context : Option ℕ} {C : Ledger Unit}

structure Joined (s : Process) (q : Proxy) (r x : ProxyServer) : Prop where
  runtimes : q.runtimes = s.proxy.runtimes ++ [r]
  input : r.input = some s.proxy.kernel.nextFd
  output : r.output = some (s.proxy.kernel.nextFd + 1)
  servers : q.servers = s.proxy.servers ++ [x]
  dynamic : x.isDynamicPort = true

theorem Joined.runtime (joined : Joined s q r x) (i : ℕ) : q.runtimes[i]? =
    if i = s.proxy.runtimes.length then some r else s.proxy.runtimes[i]? := by
  rw [joined.runtimes]
  grind

theorem Joined.server (joined : Joined s q r x) {server : ProxyServer}
    (found : q.servers[j]? = some server) :
    (s.proxy.servers[j]? = some server ∧ j ≠ s.proxy.servers.length) ∨
      (j = s.proxy.servers.length ∧ server = x) := by
  rw [joined.servers] at found
  grind

/-- The holders hold what they held, and the new listeners the new descriptors. -/
theorem Joined.holds (joined : Joined s q r x) {y : Holder} {n : ℕ}
    (held : Holds (afterStart s n q context C) y f) :
    (Holds s y f ∨ y = .field (.listener s.proxy.runtimes.length false) ∧
        f = s.proxy.kernel.nextFd) ∨
      y = .field (.listener s.proxy.runtimes.length true) ∧ f = s.proxy.kernel.nextFd + 1 := by
  cases y with
  | field l =>
    obtain ⟨names, isOpen, nonzero⟩ := held
    by_cases here : l.runtime = s.proxy.runtimes.length
    · cases l with
      | listener i t =>
        obtain rfl : i = s.proxy.runtimes.length := here
        simp only [Process.named, afterStart, joined.runtime, if_true, Option.bind_some] at names
        cases t with
        | false =>
          exact .inl (.inr ⟨rfl, (Option.some.inj (joined.input.symm.trans names)).symm⟩)
        | true => exact .inr ⟨rfl, (Option.some.inj (joined.output.symm.trans names)).symm⟩
      | connection i k t =>
        obtain rfl : i = s.proxy.runtimes.length := here
        simp only [Process.named, afterStart, if_true, Connection.zero, Option.some.injEq] at names
        exact absurd names.symm nonzero
    · refine .inl (.inl ⟨?_, ?_, nonzero⟩)
      · cases l with
        | listener i t =>
          have ne : i ≠ s.proxy.runtimes.length := here
          simpa only [Process.named, afterStart, joined.runtime, if_neg ne] using names
        | connection i k t =>
          have ne : i ≠ s.proxy.runtimes.length := here
          simpa only [Process.named, afterStart, if_neg ne] using names
      · simpa only [afterStart, if_neg here] using isOpen
  | accepted i t =>
    by_cases here : i = s.proxy.runtimes.length
    · simp [Holds, afterStart, here] at held
    · simp only [Holds, afterStart, if_neg here] at held
      exact .inl (.inl held)

theorem Joined.holdsContext (joined : Joined s q r x) {l : ContextPlace} {c : ℕ}
    (held : HoldsContext (afterStart s s.proxy.servers.length q context C) l c) :
    HoldsContext s l c ∨ (l = .runtime s.proxy.runtimes.length ∧ context = some c) := by
  rcases l with i | j
  · obtain ⟨running, holds⟩ := held
    by_cases here : i = s.proxy.runtimes.length
    · simp only [afterStart, here, Function.update_self] at holds
      exact .inr ⟨by rw [here], holds⟩
    · simp only [afterStart, Function.update_of_ne here] at holds
      exact .inl ⟨running, holds⟩
  · obtain ⟨running, holds, server, found, static⟩ := held
    rcases joined.server found with ⟨old, other⟩ | ⟨_, rfl⟩
    · simp only [afterStart, Function.update_of_ne other] at holds
      exact .inl ⟨running, holds, server, old, static⟩
    · rw [joined.dynamic] at static
      cases static

theorem Joined.books (joined : Joined s q r x) (h : Invariant s) {n : ℕ} :
    Books (afterStart s n q context C).descriptors Holder.runtime
      (Holds (afterStart s n q context C)) := by
  have one := h.books.openNew s.proxy.runtimes.length
  have two := one.openNew s.proxy.runtimes.length
  have inputLoose := (h.books.loose_new s.proxy.runtimes.length).openNew s.proxy.runtimes.length
  have outputLoose := one.loose_new s.proxy.runtimes.length
  have inputTaken : Books _ Holder.runtime fun y f => Holds s y f ∨
      (y = .field (.listener s.proxy.runtimes.length false) ∧ f = s.descriptors.next) :=
    two.take (l := .field (.listener s.proxy.runtimes.length false)) inputLoose fun _ _ => id
  refine inputTaken.take (l := .field (.listener s.proxy.runtimes.length true))
    ⟨outputLoose.opened, outputLoose.isOpen, ?_⟩ fun y f held => ?_
  · rintro y (old | ⟨_, same⟩)
    · exact outputLoose.unheld y old
    · exact Nat.succ_ne_self _ same
  · have holders := joined.holds held
    rw [← h.next] at holders
    exact holders

theorem Joined.contexts (joined : Joined s q r x) (h : Invariant s)
    (new : NewContext s context C) :
    Books C (fun _ => ()) (HoldsContext (afterStart s s.proxy.servers.length q context C)) := by
  rcases new with ⟨rfl, rfl⟩ | ⟨rfl, rfl⟩
  · refine h.contexts.mono fun l c held => ?_
    rcases joined.holdsContext held with old | ⟨_, none⟩
    · exact old
    · cases none
  · refine (h.contexts.openNew ()).take (l := .runtime s.proxy.runtimes.length)
      (h.contexts.loose_new ()) fun l c held => ?_
    rcases joined.holdsContext held with old | ⟨rfl, same⟩
    · exact .inl old
    · exact .inr ⟨rfl, (Option.some.inj same).symm⟩

theorem Joined.serverRuntime (joined : Joined s q r x) (h : Invariant s) {server : ProxyServer}
    (found : q.servers[j]? = some server) (isDynamic : server.isDynamicPort = true) :
    (s.proxy.servers[j]? = some server ∧
        (afterStart s s.proxy.servers.length q context C).serverRuntimes j = s.serverRuntimes j ∧
        s.serverRuntimes j < s.proxy.runtimes.length) ∨
      (j = s.proxy.servers.length ∧
        (afterStart s s.proxy.servers.length q context C).serverRuntimes j =
          s.proxy.runtimes.length) := by
  rcases joined.server found with ⟨old, other⟩ | ⟨rfl, rfl⟩
  · exact .inl ⟨old, Function.update_of_ne other _ _, h.servers j server old isDynamic⟩
  · exact .inr ⟨rfl, Function.update_self _ _ _⟩

theorem Invariant.started (h : Invariant s) (new : NewContext s context C)
    (joined : Joined s q r x) (proxy : ProxyInvariant q)
    (nextFd : q.kernel.nextFd = s.proxy.kernel.nextFd + 2) :
    Invariant (afterStart s s.proxy.servers.length q context C) := by
  have length : q.runtimes.length = s.proxy.runtimes.length + 1 := by
    rw [joined.runtimes, List.length_append, List.length_singleton]
  refine ⟨?_, joined.books h, joined.contexts h new, ?_, ?_, proxy, h.neverRestarts, h.finished⟩
  · exact (congrArg (· + 2) h.next).trans nextFd.symm
  · intro j server found isDynamic
    refine Nat.lt_of_lt_of_eq ?_ length.symm
    rcases joined.serverRuntime h found isDynamic with ⟨_, same, bound⟩ | ⟨_, same⟩
    · rw [same]
      omega
    · rw [same]
      exact Nat.lt_succ_self _
  · intro j j' server server' found found' isDynamic isDynamic' same
    rcases joined.serverRuntime h found isDynamic with ⟨old, one, bound⟩ | ⟨here, one⟩ <;>
      rcases joined.serverRuntime h found' isDynamic' with ⟨old', two, bound'⟩ | ⟨here', two⟩ <;>
      rw [one, two] at same
    · exact h.serversDistinct j j' server server' old old' isDynamic isDynamic' same
    · omega
    · omega
    · rw [here, here']

end Started

theorem create_invariant (h : Invariant s)
    (up : Attempts ip tp s.proxy → AllUp s.proxy.outcome) :
    Invariant (ProcessLedger.createDynamicServerForDevice cfg slots d ip tp info s) := by
  unfold ProcessLedger.createDynamicServerForDevice
  split
  case isTrue => exact h
  case isFalse tried =>
    have reallocated : s.proxy.outcome.reallocated = true := by
      by_contra not
      exact tried (by simp [not])
    dsimp only
    by_cases few : s.proxy.servers.length < (s.proxy.servers.length + 1) % 2 ^ 16
    · have count : ¬ serversCount { s.proxy with
          servers := s.proxy.servers ++ [ProxyServer.zero] } ≤ s.proxy.servers.length := by
        simp only [serversCount, List.length_append, List.length_singleton]
        omega
      simp only [ProcessLedger.startDynamicServerAtIndex, count, if_false]
      generalize hp : ProxyRuntimes.startDynamicServerAtIndex cfg s.proxy.servers.length d ip tp
        (wantsSsl cfg info.enableInputSsl) (wantsSsl cfg info.enableTunnelSsl)
        { s.proxy with servers := s.proxy.servers ++ [ProxyServer.zero] } = started
      obtain ⟨q, o⟩ := started
      have proxy : ∀ q', ProxyRuntimes.createDynamicServerForDevice cfg d ip tp info s.proxy =
          (q', o) → ProxyInvariant q' := fun q' e =>
        (createDynamicServerForDevice_spec h.proxy e).1
      unfold ProxyRuntimes.createDynamicServerForDevice at proxy
      rw [if_neg tried] at proxy
      simp only [hp] at proxy
      by_cases ready : socketsReady s.proxy.kernel s.proxy.outcome ip tp = true ∧
          s.proxy.outcome.allocated = true
      · obtain ⟨sockets, allocated⟩ := ready
        have allUp := up ⟨reallocated, few, sockets, allocated⟩
        obtain ⟨rfl, ⟨r, runtimes, _, input, output⟩, ⟨x, servers, dynamic⟩, nextFd⟩ :=
          start_up hp rfl ⟨few, sockets, allocated, allUp.1⟩ allUp
        obtain ⟨context, C, new, ledger⟩ := @startLedger_up cfg slots
          { s with proxy := { s.proxy with servers := s.proxy.servers ++ [ProxyServer.zero] } } d q
          ip tp (wantsSsl cfg info.enableInputSsl) (wantsSsl cfg info.enableTunnelSsl)
          s.proxy.servers.length sockets allocated allUp
        simp only [Option.isSome_some, ledger]
        exact h.started new ⟨runtimes, input, output, servers, dynamic⟩ (proxy q rfl) nextFd
      · obtain ⟨rfl, runtimes, ⟨x, servers⟩, nextFd⟩ := start_refused hp rfl few
          fun all => ready ⟨all.2.1, all.2.2.1⟩
        obtain ⟨contexts, serverRuntimes, D, C, ledger, slot, next, books, freed⟩ :=
          @startLedger_refused cfg slots { s with proxy := { s.proxy with
            servers := s.proxy.servers ++ [ProxyServer.zero] } } d q ip tp
            (wantsSsl cfg info.enableInputSsl) (wantsSsl cfg info.enableTunnelSsl) _ _ h.next
            h.books h.contexts false s.proxy.servers.length ready
        simp only [Option.isSome_none, ledger]
        have shorter : q.servers.dropLast = s.proxy.servers := by simp [servers]
        exact h.refused (q := { q with servers := q.servers.dropLast }) shorter runtimes
          (proxy _ rfl) (next.trans nextFd.symm) slot books freed
    · have count : serversCount { s.proxy with
          servers := s.proxy.servers ++ [ProxyServer.zero] } ≤ s.proxy.servers.length := by
        simp only [serversCount, List.length_append, List.length_singleton]
        omega
      simp only [ProcessLedger.startDynamicServerAtIndex, count, if_true,
        List.dropLast_concat]
      exact h

theorem start_invariant (h : Invariant s)
    (up : Attempts ip tp s.proxy → AllUp s.proxy.outcome) :
    Invariant (ProcessLedger.startDynamicServer cfg slots d ip tp info s) := by
  unfold ProcessLedger.startDynamicServer
  rw [findStoppedDynamicServer_none h.proxy]
  exact create_invariant h up

end Start

section Sockets

variable {a : Acceptor} {fd k : ℕ} {c : Handler}

theorem accept_invariant (h : Invariant s) : Invariant (accept i isTunnel s) := by
  refine h.kept ⟨rfl, rfl, rfl, rfl, rfl, rfl, rfl⟩ (congrArg (· + 1) h.next) ?_ ?_ rfl
  · refine (h.books.openNew i).take (l := .accepted i isTunnel) (h.books.loose_new i) ?_
    intro x f held
    cases x with
    | field l =>
      refine .inl ⟨?_, held.2.1, held.2.2⟩
      cases l <;> exact held.1
    | accepted j t =>
      by_cases here : (j, t) = (i, isTunnel)
      · obtain ⟨rfl, rfl⟩ : j = i ∧ t = isTunnel := by simpa using here
        simp only [Holds, accept, Process.setAcceptor, Function.update_self,
          Acceptor.accepted.injEq] at held
        exact .inr ⟨rfl, held.symm⟩
      · simp only [Holds, accept, Process.setAcceptor, Function.update_of_ne here] at held
        exact .inl held
  · exact ⟨h.proxy.enabled, h.proxy.registry,
      h.proxy.sockets.shrink ⟨fun _ mem => mem, Nat.le_succ _⟩⟩

theorem holds_setAcceptor (other : a.hasAccepted = false)
    (held : Holds (s.setAcceptor i isTunnel a) x f) : Holds s x f ∧ x ≠ .accepted i isTunnel := by
  cases x with
  | field l =>
    refine ⟨⟨?_, held.2.1, held.2.2⟩, nofun⟩
    cases l <;> exact held.1
  | accepted j t =>
    by_cases here : (j, t) = (i, isTunnel)
    · simp only [Holds, Process.setAcceptor, here, Function.update_self] at held
      simp [held, Acceptor.hasAccepted] at other
    · simp only [Holds, Process.setAcceptor, Function.update_of_ne here] at held
      exact ⟨held, by simpa using here⟩

theorem setAcceptor_invariant (h : Invariant s) (other : a.hasAccepted = false) :
    Invariant (s.setAcceptor i isTunnel a) :=
  h.kept ⟨rfl, rfl, rfl, rfl, rfl, rfl, rfl⟩ h.next
    (h.books.mono fun _ _ held => (holds_setAcceptor other held).1) h.proxy rfl

theorem holds_close (fd : Option ℕ) : Holds (s.close fd i) = Holds s := by
  funext x f
  cases x with
  | field l => cases l <;> rfl
  | accepted => rfl

theorem refuse_invariant (h : Invariant s) (accepted : s.acceptors (i, isTunnel) = .accepted fd) :
    Invariant ((s.close (some fd) i).setAcceptor i isTunnel .waiting) := by
  have left : ∀ x f, Holds ((s.close (some fd) i).setAcceptor i isTunnel .waiting) x f →
      Holds s x f ∧ x ≠ .accepted i isTunnel := by
    intro x f held
    obtain ⟨before, ne⟩ := holds_setAcceptor rfl held
    rw [holds_close] at before
    exact ⟨before, ne⟩
  refine h.kept ⟨rfl, rfl, rfl, rfl, rfl, rfl, rfl⟩ ?_ ?_ (close_invariant h.proxy _) rfl
  · simp only [Process.setAcceptor, Process.close, closeIf_next, close_nextFd]
    exact h.next
  · have held : Holds s (.accepted i isTunnel) fd := accepted
    exact (h.books.mono fun x f held => (left x f held).1).close (h.books.loose_of_held held left)

theorem assign_invariant (h : Invariant s) (accepted : s.acceptors (i, isTunnel) = .accepted fd) :
    Invariant (assign slots i isTunnel fd s) := by
  unfold assign
  cases freeSlot slots i isTunnel s with
  | none => exact refuse_invariant h accepted
  | some k =>
    refine h.kept ⟨rfl, rfl, rfl, rfl, rfl, rfl, rfl⟩ h.next ?_ h.proxy rfl
    have held : Holds s (.accepted i isTunnel) fd := accepted
    have emptied : Books s.descriptors Holder.runtime fun x f =>
        Holds s x f ∧ x ≠ .accepted i isTunnel := h.books.mono fun _ _ both => both.1
    have loose : Loose s.descriptors (fun x f => Holds s x f ∧ x ≠ .accepted i isTunnel) fd i :=
      h.books.loose_of_held held fun _ _ both => both
    refine emptied.take (l := .field (.connection i k isTunnel)) loose ?_
    intro x f held
    cases x with
    | accepted j t =>
      have before : Holds (s.setAcceptor i isTunnel (.stored fd k)) (.accepted j t) f := held
      exact .inl (holds_setAcceptor rfl before)
    | field l =>
      obtain ⟨names, isOpen, nonzero⟩ := held
      by_cases here : l = .connection i k isTunnel
      · subst here
        simp only [Process.named, Function.update_self, Option.some.injEq] at names
        exact .inr ⟨rfl, names.symm⟩
      · simp only [Function.update_of_ne here] at isOpen
        refine .inl ⟨⟨?_, isOpen, nonzero⟩, nofun⟩
        cases l with
        | listener => exact names
        | connection j k' t =>
          have ne : (j, k', t) ≠ (i, k, isTunnel) := by simpa using here
          simpa only [Process.named, Function.update_of_ne ne] using names

theorem createHandler_invariant (h : Invariant s) {created : Bool}
    (stored : created = false → isTunnel = false → StillStored s i (.stored fd k)) :
    Invariant (createHandler i isTunnel created fd k s) := by
  have waits : Invariant (s.setAcceptor i isTunnel .waiting) := setAcceptor_invariant h rfl
  unfold createHandler
  cases created with
  | true =>
    exact ⟨waits.next, waits.books, waits.contexts, waits.servers, waits.serversDistinct,
      waits.proxy, waits.neverRestarts, waits.finished⟩
  | false =>
    cases isTunnel with
    | true => exact waits
    | false =>
      -- the number is still in the slot, so closing it is closing the field
      obtain ⟨names, unclosed⟩ := stored rfl rfl
      have same : { (s.setAcceptor i false .waiting).close (some fd) i with
          closed := Function.update s.closed (.connection i k false) true } =
          (s.setAcceptor i false .waiting).closeField (.connection i k false) := by
        have read : (s.setAcceptor i false .waiting).named (.connection i k false) = some fd :=
          names
        simp only [Process.closeField, read]
        rfl
      have read : (s.setAcceptor i false .waiting).named (.connection i k false) = some fd := names
      simp only [read, if_true, Bool.false_eq_true, if_false]
      exact same ▸ closeField_invariant waits unclosed

theorem handlers_invariant (h : Invariant s) (handlers : List Handler) :
    Invariant { s with handlers := handlers } :=
  ⟨h.next, h.books, h.contexts, h.servers, h.serversDistinct, h.proxy, h.neverRestarts, h.finished⟩

theorem setConnected_invariant (h : Invariant s) (connected : Bool) :
    Invariant (s.setConnected c connected) := by
  refine h.kept ⟨rfl, rfl, rfl, rfl, rfl, rfl, rfl⟩ h.next ?_ h.proxy rfl
  refine h.books.mono fun x f held => holds_fewer ?_ ?_ ?_ held
  case refine_2 => rfl
  case refine_3 => exact fun _ _ _ same => same
  intro l f names
  cases l with
  | listener => exact names
  | connection i k t =>
    by_cases here : (i, k, t) = (c.runtime, c.slot, c.isTunnel)
    · simpa only [Process.named, Process.setConnected, here, Function.update_self] using names
    · simpa only [Process.named, Process.setConnected, Function.update_of_ne here] using names

end Sockets

section SwitcherStop

def contextPlace (s : Process) (j : ℕ) : ContextPlace :=
  if s.proxy.servers[j]?.any (·.isDynamicPort) then .runtime (s.serverRuntimes j) else .server j

def contextPlaces (s : Process) : List (ContextPlace × ℕ) :=
  (List.range (serversCount s.proxy)).filterMap fun j =>
    (s.serverContexts j).map fun c => (contextPlace s j, c)

theorem switcherServersStop_contexts : (switcherServersStop s).contexts =
    s.contexts.closeAll (fun _ => ()) (contextPlaces s) := by
  simp [switcherServersStop, contextPlaces, Ledger.closeAll, List.map_filterMap, Function.comp_def]

theorem contextPlace_held (running : s.finished = false) (kept : ContextsKept s)
    {p : ContextPlace × ℕ} (mem : p ∈ contextPlaces s) : HoldsContext s p.1 p.2 := by
  obtain ⟨j, bound, found⟩ := List.mem_filterMap.1 mem
  obtain ⟨c, context, rfl⟩ := Option.map_eq_some_iff.1 found
  have lt := List.mem_range.1 bound
  have inside : j < s.proxy.servers.length := Nat.lt_of_lt_of_le lt (Nat.mod_le ..)
  have slot := List.getElem?_eq_getElem inside
  cases dynamic : s.proxy.servers[j].isDynamicPort with
  | true =>
    have place : contextPlace s j = .runtime (s.serverRuntimes j) := by
      simp [contextPlace, slot, dynamic]
    have same := kept j lt _ slot dynamic (by simp [context])
    rw [place]
    exact ⟨running, same.trans context⟩
  | false =>
    have place : contextPlace s j = .server j := by simp [contextPlace, slot, dynamic]
    rw [place]
    exact ⟨running, context, _, slot, dynamic⟩

theorem contextPlaces_nodup (h : Invariant s) : ((contextPlaces s).map Prod.fst).Nodup := by
  have places : (contextPlaces s).map Prod.fst =
      ((List.range (serversCount s.proxy)).filter fun j => (s.serverContexts j).isSome).map
        (contextPlace s) := by
    unfold contextPlaces
    induction List.range (serversCount s.proxy) with
    | nil => rfl
    | cons j js ih => cases context : s.serverContexts j <;> simp [context, ih]
  rw [places]
  refine List.Nodup.map_on ?_ (List.nodup_range.filter _)
  intro j hj j' hj' same
  have inside : ∀ j ∈ (List.range (serversCount s.proxy)).filter fun j =>
      (s.serverContexts j).isSome, ∃ server, s.proxy.servers[j]? = some server := by
    intro j hj
    have lt := List.mem_range.1 (List.mem_of_mem_filter hj)
    exact ⟨_, List.getElem?_eq_getElem (Nat.lt_of_lt_of_le lt (Nat.mod_le ..))⟩
  obtain ⟨server, slot⟩ := inside j hj
  obtain ⟨server', slot'⟩ := inside j' hj'
  cases dynamic : server.isDynamicPort <;> cases dynamic' : server'.isDynamicPort <;>
    simp only [contextPlace, slot, slot', dynamic, dynamic', Option.any_some, if_true, if_false,
      Bool.false_eq_true, reduceCtorEq, ContextPlace.runtime.injEq,
      ContextPlace.server.injEq] at same
  · exact same
  · exact h.serversDistinct j j' _ _ slot slot' dynamic dynamic' same

theorem switcherStop_invariant (h : Invariant s) (running : s.finished = false)
    (idle : s.control = []) (kept : ContextsKept s) : Invariant (switcherServersStop s) := by
  refine ⟨h.next, h.books, ?_, h.servers, h.serversDistinct, h.proxy, h.neverRestarts,
    fun _ => idle⟩
  rw [switcherServersStop_contexts]
  refine h.contexts.closeAll (fun p mem => contextPlace_held running kept mem)
    (contextPlaces_nodup h) ?_
  rintro (i | j) c ⟨finished, _⟩
  · exact absurd finished (by simp [switcherServersStop])
  · exact absurd finished (by simp [switcherServersStop])

end SwitcherStop

section Runs

variable {a : ProcessLedger.Action} {log : List (Process × ProcessLedger.Action)}

theorem execute_invariant (h : Invariant s) (running : s.finished = false)
    (never : restarts st = false) (careful : CarefulStatement s st) :
    Invariant (execute cfg slots s st) := by
  cases st with
  | ensure d ip tp info => exact ensure_invariant h running
  | stop d ip tp => exact stopWhere_invariant h running
  | start d ip tp info => exact start_invariant h careful
  | disable i => exact setRuntime_keeps h tame_disabled fun t r => by cases t <;> rfl
  | test l => exact test_invariant h running
  | close l => exact closeField_invariant h careful
  | clear l => exact clearField_invariant h
  | cleanupContext i =>
    exact setRuntime_keeps (cleanupContext_invariant h running) tame_freed
      fun t r => by cases t <;> rfl
  | forget n => exact forget_invariant h n
  | cleanup => cases never
  | stopSlot => cases never
  | closeSlot => cases never
  | restart => cases never

theorem nextStatement_invariant (h : Invariant s)
    (careful : ∀ st ∈ s.control.head?, CarefulStatement s st) :
    Invariant (nextStatement cfg slots s) := by
  unfold nextStatement
  cases control : s.control with
  | nil => exact h
  | cons st rest =>
    have running : s.finished = false := by
      by_contra finished
      simp [h.finished (by simpa using finished)] at control
    have never := h.neverRestarts
    rw [control] at never careful
    have now := h.instructed running fun st' mem => never st' (List.mem_cons_of_mem st mem)
    exact execute_invariant now running (never st (by simp)) (careful st rfl)

theorem nextHandler_invariant (h : Invariant s) {n : ℕ} {g : Handler → Process → Process}
    (steps : ∀ c ∈ s.handlers[n]?, Invariant (g c s)) : Invariant (nextHandler n g s) := by
  unfold nextHandler
  cases found : s.handlers[n]? with
  | none => exact h
  | some c => exact steps c found

theorem next_invariant (h : Invariant s) (can : ProcessLedger.enabled s a = true)
    (careful : ProcessLedger.Careful s a) : Invariant (ProcessLedger.next cfg slots s a) := by
  have answered (outcome : StartOutcome) : Invariant (s.withOutcome outcome) :=
    ⟨h.next, h.books, h.contexts, h.servers, h.serversDistinct,
      ⟨h.proxy.enabled, h.proxy.registry, h.proxy.sockets⟩, h.neverRestarts, h.finished⟩
  cases a with
  | ensure d ip tp info outcome =>
    obtain ⟨running, _⟩ : s.finished = false ∧ s.control = [] := by
      simpa [ProcessLedger.enabled] using can
    exact (answered outcome).push running (by simp [restarts])
  | stop d ip tp =>
    obtain ⟨running, _⟩ : s.finished = false ∧ s.control = [] := by
      simpa [ProcessLedger.enabled] using can
    exact h.push running (by simp [restarts])
  | reload d ip info outcome =>
    obtain ⟨running, _⟩ : s.finished = false ∧ s.control = [] := by
      simpa [ProcessLedger.enabled] using can
    simp only [ProcessLedger.next]
    split
    · exact h
    · exact (answered outcome).push running (by simp [restarts])
  | control => exact nextStatement_invariant h careful
  | switcherStop =>
    obtain ⟨running, idle⟩ : s.finished = false ∧ s.control = [] := by
      simpa [ProcessLedger.enabled] using can
    exact switcherStop_invariant h running idle careful
  | accept i isTunnel => exact accept_invariant h
  | refuse i isTunnel =>
    simp only [ProcessLedger.next]
    cases acceptor : s.acceptors (i, isTunnel) with
    | accepted fd => exact refuse_invariant h acceptor
    | waiting => exact h
    | stored => exact h
    | leaving => exact h
  | assign i isTunnel =>
    simp only [ProcessLedger.next]
    cases acceptor : s.acceptors (i, isTunnel) with
    | accepted fd => exact assign_invariant h acceptor
    | waiting => exact h
    | stored => exact h
    | leaving => exact h
  | createHandler i isTunnel created =>
    simp only [ProcessLedger.next]
    cases acceptor : s.acceptors (i, isTunnel) with
    | stored fd k =>
      refine createHandler_invariant h fun none input => ?_
      subst input
      exact acceptor ▸ careful none rfl
    | waiting => exact h
    | accepted => exact h
    | leaving => exact h
  | acceptorCloses i isTunnel => exact setAcceptor_invariant (closeField_invariant h careful) rfl
  | acceptorLeaves i isTunnel =>
    exact setRuntime_keeps h (tame_exited isTunnel) fun t r => by cases t <;> cases isTunnel <;> rfl
  | handlerStarts n =>
    simp only [ProcessLedger.next]
    refine nextHandler_invariant h fun c _ => ?_
    exact handlers_invariant (setConnected_invariant h true) _
  | handlerFails n =>
    simp only [ProcessLedger.next]
    refine nextHandler_invariant h fun c found => ?_
    exact handlers_invariant (closeField_invariant h (careful c found)) _
  | handlerTests n =>
    simp only [ProcessLedger.next]
    refine nextHandler_invariant h fun c _ => ?_
    exact handlers_invariant h _
  | handlerCloses n =>
    simp only [ProcessLedger.next]
    refine nextHandler_invariant h fun c found => ?_
    exact handlers_invariant (closeField_invariant h (careful c found)) _
  | handlerClears n =>
    simp only [ProcessLedger.next]
    refine nextHandler_invariant h fun c _ => ?_
    exact handlers_invariant (clearField_invariant h) _
  | handlerLeaves n =>
    simp only [ProcessLedger.next]
    refine nextHandler_invariant h fun c _ => ?_
    exact handlers_invariant (setConnected_invariant h false) _

def idle : Process :=
  { proxy := noServers, connections := fun _ => .zero, closed := fun _ => false,
    acceptors := fun _ => .waiting, handlers := [], control := [],
    runtimeContexts := fun _ => none, serverContexts := fun _ => none, serverRuntimes := fun _ => 0,
    descriptors := ⟨[], [], 3⟩, contexts := ⟨[], [], 0⟩, finished := false }

/-- A connection that gets the handler `h`. -/
def connects (i : ℕ) (isTunnel : Bool) (h : ℕ) : List ProcessLedger.Action :=
  [.accept i isTunnel, .assign i isTunnel, .createHandler i isTunnel true, .handlerStarts h]

end Runs

end DescriptorSafety
