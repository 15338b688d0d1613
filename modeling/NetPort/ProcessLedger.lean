import NetPort.RegistryAgreement
import NetPort.ResourceLedger

/-! The descriptors and SSL contexts of the server process: the fields of slots, runtimes and
connection slots that name them, and the calls that close and free what the fields name. The
control thread goes on statement by statement, between the steps of acceptors and handlers. -/
namespace ProcessLedger

open StepRuns ProxyRuntimes RuntimeInvariant RegistryAgreement ResourceLedger

/-- One direction of `proxy_server_local_socket_data_t` -/
structure Connection where
  socket : Option ℕ
  connected : Bool
  deriving DecidableEq, Repr

/-- `memset(connections_data->local_sockets, 0, ...)` -/
def Connection.zero : Connection := ⟨some 0, false⟩

/-- A field of a runtime that names a descriptor: a listener, or one side of a connection slot. -/
inductive Place where
  | listener (runtime : ℕ) (isTunnel : Bool)
  | connection (runtime slot : ℕ) (isTunnel : Bool)
  deriving DecidableEq, Repr

def Place.runtime : Place → ℕ
  | listener i _ => i
  | connection i _ _ => i

inductive Stage where
  | created
  | serving
  | closing
  | clearing
  | leaving
  deriving DecidableEq, Repr

/-- A thread in `connection_input_handler` or `connection_output_handler`. -/
structure Handler where
  runtime : ℕ
  slot : ℕ
  isTunnel : Bool
  stage : Stage
  deriving DecidableEq, Repr

def Handler.place (c : Handler) : Place := .connection c.runtime c.slot c.isTunnel

/-- A thread in `serverInputThread` or `serverOutputThread`, with its `socket_local`. -/
inductive Acceptor where
  | waiting
  | accepted (fd : ℕ)
  | stored (fd slot : ℕ)
  | leaving
  deriving DecidableEq, Repr

inductive Statement where
  | ensure (deviceId : String) (inputPort tunnelPort : ℕ) (info : DeviceInfo)
  | stop (deviceId : String) (inputPort tunnelPort : ℕ)
  | start (deviceId : String) (inputPort tunnelPort : ℕ) (info : DeviceInfo)
  | disable (runtime : ℕ)
  | test (place : Place)
  | close (place : Place)
  | clear (place : Place)
  | cleanupContext (runtime : ℕ)
  | forget (entry : ℕ)
  | cleanup (index : ℕ)
  | stopSlot (index : ℕ) (deviceId : String)
  | closeSlot (index : ℕ)
  | restart (index : ℕ) (deviceId : String) (inputPort tunnelPort : ℕ) (info : DeviceInfo)
  deriving DecidableEq, Repr

structure Process where
  proxy : Proxy
  connections : ℕ × ℕ × Bool → Connection
  /-- No field of the source: what the place names has been closed since it was stored there. -/
  closed : Place → Bool
  acceptors : ℕ × Bool → Acceptor
  handlers : List Handler
  /-- What the control thread has still to do -/
  control : List Statement
  /-- `ssl_ctx` of the runtimes and of the `servers` array -/
  runtimeContexts : ℕ → Option ℕ
  serverContexts : ℕ → Option ℕ
  /-- The runtime that a slot of the array was started for -/
  serverRuntimes : ℕ → ℕ
  descriptors : Ledger ℕ
  contexts : Ledger Unit
  finished : Bool

def listenerOf (isTunnel : Bool) (r : ProxyServer) : Option ℕ :=
  if isTunnel then r.output else r.input

def runningOf (isTunnel : Bool) (r : ProxyServer) : Bool :=
  if isTunnel then r.isOutputRunning else r.isInputRunning

def withoutListener (isTunnel : Bool) (r : ProxyServer) : ProxyServer :=
  if isTunnel then { r with output := none } else { r with input := none }

def setRuntime (i : ℕ) (g : ProxyServer → ProxyServer) (p : Proxy) : Proxy :=
  match p.runtimes[i]? with
  | none => p
  | some r => { p with runtimes := p.runtimes.set i (g r) }

namespace Process

def named (s : Process) : Place → Option ℕ
  | .listener i t => s.proxy.runtimes[i]?.bind (listenerOf t)
  | .connection i k t => (s.connections (i, k, t)).socket

/-- `socket` or `accept` -/
def opened (fd : Option ℕ) (runtime : ℕ) (s : Process) : Process :=
  { s with descriptors := s.descriptors.openIf fd runtime }

/-- `close` -/
def close (fd : Option ℕ) (runtime : ℕ) (s : Process) : Process :=
  { s with
    descriptors := s.descriptors.closeIf fd runtime
    proxy := { s.proxy with kernel := s.proxy.kernel.close fd } }

/-- `close` in a start, whose sockets are those of `ProxyRuntimes` -/
def drop (fd : Option ℕ) (runtime : ℕ) (s : Process) : Process :=
  { s with descriptors := s.descriptors.closeIf fd runtime }

/-- `close(l)` -/
def closeField (l : Place) (s : Process) : Process :=
  { s.close (s.named l) l.runtime with closed := Function.update s.closed l true }

/-- `l = -1` -/
def clearField (l : Place) (s : Process) : Process :=
  match l with
  | .listener i t => { s with proxy := setRuntime i (withoutListener t) s.proxy }
  | .connection i k t =>
    { s with
      connections := Function.update s.connections (i, k, t)
        { s.connections (i, k, t) with socket := none } }

/-- `cleanup_ssl_context` -/
def free (context : Option ℕ) (s : Process) : Process :=
  { s with contexts := s.contexts.closeIf context () }

def push (statements : List Statement) (s : Process) : Process :=
  { s with control := statements ++ s.control }

end Process

/-- The fields of a runtime, in the order of `stop_dynamic_server_runtime`. -/
def runtimePlaces (slots : ℕ) (i : ℕ) : List Place :=
  ((List.range slots).product [false, true]).map (fun p => .connection i p.1 p.2) ++
    [.listener i false, .listener i true]

/-- `stop_dynamic_server_runtime` -/
def stopDynamicServerRuntime (slots : ℕ) (i : ℕ) (deviceId : String) (p : Proxy) :
    List Statement :=
  match p.runtimes[i]? with
  | none => []
  | some r =>
    if deviceId != "" && r.deviceId != "" && r.deviceId != deviceId then []
    else .disable i :: (runtimePlaces slots i).map .test ++ [.cleanupContext i]

def stopEntry (slots : ℕ) (hit : DynamicServerRuntime → Bool) (p : Proxy)
    (e : DynamicServerRuntime × ℕ) : List Statement :=
  match e.1.connectionsData with
  | none => []
  | some i =>
    if hit e.1 then stopDynamicServerRuntime slots i e.1.deviceId p ++ [.forget e.2] else []

/-- A loop over the registry, which only the control thread changes. -/
def stopWhere (slots : ℕ) (hit : DynamicServerRuntime → Bool) (s : Process) : Process :=
  s.push (s.proxy.registry.zipIdx.flatMap (stopEntry slots hit s.proxy))

/-- The entries that `stop_dynamic_runtimes_for_device` stops. -/
def stops (deviceId : String) (inputPort tunnelPort : ℕ) (p : Proxy) (e : DynamicServerRuntime) :
    Bool :=
  stopMatches deviceId inputPort tunnelPort e && !slotMismatch p.servers e

def stopDynamicRuntimesForDevice (slots : ℕ) (deviceId : String) (inputPort tunnelPort : ℕ)
    (s : Process) : Process :=
  stopWhere slots (stops deviceId inputPort tunnelPort s.proxy) s

def cleanupDynamicServerSlot (index : ℕ) (s : Process) : Process :=
  match s.proxy.servers[index]? with
  | none => s
  | some server =>
    if server.deviceId == "" then s
    else
      s.push [.stop server.deviceId server.inputPort server.outputPort,
        .stopSlot index server.deviceId, .closeSlot index]

/-- The end of `cleanup_dynamic_server_slot`: the fields of the slot are copies of those of the
runtime it was started for. -/
def closeSlot (index : ℕ) (s : Process) : Process :=
  match s.proxy.servers[index]? with
  | none => s
  | some server =>
    let s := s.close server.input (s.serverRuntimes index)
    let s := s.close server.output (s.serverRuntimes index)
    { s.free (s.serverContexts index) with
      proxy := setServer index server.stopped s.proxy
      serverContexts := Function.update s.serverContexts index none }

def allocateRuntime (i : ℕ) (context : Option ℕ) (s : Process) : Process :=
  { s with
    connections := fun l => if l.1 = i then .zero else s.connections l
    closed := fun l => if l.runtime = i then false else s.closed l
    acceptors := fun l => if l.1 = i then .waiting else s.acceptors l
    runtimeContexts := Function.update s.runtimeContexts i context }

/-- An acceptor of the new runtime has left before the last check of the start. -/
def acceptorLeft (i : ℕ) (isTunnel : Bool) (fd : Option ℕ) (s : Process) : Process :=
  { s.close fd i with closed := Function.update s.closed (.listener i isTunnel) true }

/-- What `start_dynamic_server_at_index` opens, closes and frees once the slot is cleaned up;
`proxy` is what it leaves of the servers, and `confirmed` its last check. -/
def startLedger (cfg : Config) (slots : ℕ) (index : ℕ) (deviceId : String)
    (inputPort tunnelPort : ℕ) (enableInputSsl enableTunnelSsl : Bool) (proxy : Proxy)
    (confirmed : Bool) (s : Process) : Process :=
  let o := s.proxy.outcome
  let runtime := s.proxy.runtimes.length
  let server := newServer cfg o deviceId inputPort tunnelPort enableInputSsl enableTunnelSsl
  let context := if server.sslCtx then some s.contexts.next else none
  let (input, inputOk, kernel) := s.proxy.kernel.initSocket o.inputSocket o.inputListens inputPort
  let s := if server.sslCtx then { s with contexts := s.contexts.openNew () } else s
  let s := { s with
    proxy := proxy
    serverContexts := Function.update s.serverContexts index context
    serverRuntimes := Function.update s.serverRuntimes index runtime }
  let s := s.opened input runtime
  if !inputOk then s.free context
  else
    let (output, outputOk, kernel) := kernel.initSocket o.outputSocket o.outputListens tunnelPort
    let s := s.opened output runtime
    if !outputOk then (s.drop input runtime).free context
    else if !o.allocated then (s.drop input runtime).drop output runtime
    -- an acceptor that has left by its check has closed its socket, and so does the caller
    else if !o.inputStarted then
      ((s.drop input runtime).drop input runtime).drop output runtime
    else if !o.outputStarted then
      let s := allocateRuntime runtime none s
      { ((s.drop output runtime).drop input runtime).drop output runtime with
        closed := Function.update s.closed (.listener runtime false) true }
    else
      let s := allocateRuntime runtime context s
      if confirmed then s
      else
        let r := { server with
          input := input, output := output
          isInputRunning := o.inputAccepting, isOutputRunning := o.outputAccepting }
        let s := { s with proxy := { s.proxy with
          runtimes := s.proxy.runtimes.set runtime r, kernel := kernel } }
        let s := if o.inputAccepting then s else acceptorLeft runtime false input s
        let s := if o.outputAccepting then s else acceptorLeft runtime true output s
        s.push (stopDynamicServerRuntime slots runtime deviceId s.proxy)

/-- `start_dynamic_server_at_index` after its call of `cleanup_dynamic_server_slot` -/
def startDynamicServerAtIndex (cfg : Config) (slots : ℕ) (index : ℕ) (deviceId : String)
    (inputPort tunnelPort : ℕ) (enableInputSsl enableTunnelSsl : Bool) (s : Process) :
    Process × Option ℕ :=
  let (proxy, started) := ProxyRuntimes.startDynamicServerAtIndex cfg index deviceId inputPort
    tunnelPort enableInputSsl enableTunnelSsl s.proxy
  if serversCount s.proxy ≤ index then (s, none)
  else
    (startLedger cfg slots index deviceId inputPort tunnelPort enableInputSsl enableTunnelSsl
      proxy started.isSome s, started)

/-- The slot of a new server has no device, so nothing is cleaned up. -/
def createDynamicServerForDevice (cfg : Config) (slots : ℕ) (deviceId : String)
    (inputPort tunnelPort : ℕ) (info : DeviceInfo) (s : Process) : Process :=
  if inputPort == 0 || tunnelPort == 0 || !s.proxy.outcome.reallocated then s
  else
    let index := s.proxy.servers.length
    let s := { s with proxy := { s.proxy with servers := s.proxy.servers ++ [ProxyServer.zero] } }
    let (s, started) := startDynamicServerAtIndex cfg slots index deviceId inputPort tunnelPort
      (wantsSsl cfg info.enableInputSsl) (wantsSsl cfg info.enableTunnelSsl) s
    match started with
    | some _ => s
    | none => { s with proxy := { s.proxy with servers := s.proxy.servers.dropLast } }

/-- `ensure_dynamic_server_for_device` up to its stop -/
def ensureDynamicServerForDevice (cfg : Config) (deviceId : String) (inputPort tunnelPort : ℕ)
    (info : DeviceInfo) (s : Process) : Process :=
  if inputPort == 0 || tunnelPort == 0 then s
  else
    match findHealthyDynamicServer inputPort tunnelPort (wantsSsl cfg info.enableInputSsl)
        (wantsSsl cfg info.enableTunnelSsl) s.proxy with
    | some _ => s
    | none => s.push [.stop deviceId inputPort tunnelPort, .start deviceId inputPort tunnelPort info]

/-- The rest of `ensure_dynamic_server_for_device` -/
def startDynamicServer (cfg : Config) (slots : ℕ) (deviceId : String) (inputPort tunnelPort : ℕ)
    (info : DeviceInfo) (s : Process) : Process :=
  match findStoppedDynamicServer deviceId inputPort tunnelPort s.proxy with
  | none => createDynamicServerForDevice cfg slots deviceId inputPort tunnelPort info s
  | some index => s.push [.cleanup index, .restart index deviceId inputPort tunnelPort info]

def restartDynamicServer (cfg : Config) (slots : ℕ) (index : ℕ) (deviceId : String)
    (inputPort tunnelPort : ℕ) (info : DeviceInfo) (s : Process) : Process :=
  match startDynamicServerAtIndex cfg slots index deviceId inputPort tunnelPort
      (wantsSsl cfg info.enableInputSsl) (wantsSsl cfg info.enableTunnelSsl) s with
  | (s, some _) => s
  | (s, none) => createDynamicServerForDevice cfg slots deviceId inputPort tunnelPort info s

def disabled (r : ProxyServer) : ProxyServer :=
  { r with stopInputRunning := true, stopOutputRunning := true, enable := false }

def execute (cfg : Config) (slots : ℕ) (s : Process) : Statement → Process
  | .ensure deviceId inputPort tunnelPort info =>
    ensureDynamicServerForDevice cfg deviceId inputPort tunnelPort info s
  | .stop deviceId inputPort tunnelPort =>
    stopDynamicRuntimesForDevice slots deviceId inputPort tunnelPort s
  | .start deviceId inputPort tunnelPort info =>
    startDynamicServer cfg slots deviceId inputPort tunnelPort info s
  | .disable i => { s with proxy := setRuntime i disabled s.proxy }
  | .test l => if (s.named l).isSome then s.push [.close l, .clear l] else s
  | .close l => s.closeField l
  | .clear l => s.clearField l
  | .cleanupContext i =>
    { s.free (s.runtimeContexts i) with
      runtimeContexts := Function.update s.runtimeContexts i none
      proxy := setRuntime i (fun r => { r with sslCtx := false }) s.proxy }
  | .forget n =>
    { s with proxy := { s.proxy with
        registry := s.proxy.registry.modify n fun e =>
          { e with active := false, connectionsData := none } } }
  | .cleanup index => cleanupDynamicServerSlot index s
  | .stopSlot index deviceId =>
    stopWhere slots (fun e => e.serverIndex == index && e.deviceId == deviceId) s
  | .closeSlot index => closeSlot index s
  | .restart index deviceId inputPort tunnelPort info =>
    restartDynamicServer cfg slots index deviceId inputPort tunnelPort info s

/-- `switcher_servers_stop` -/
def switcherServersStop (s : Process) : Process :=
  let fields := (List.range (serversCount s.proxy)).filterMap s.serverContexts
  { s with
    contexts := s.contexts.closeAll (fun _ => ()) (fields.map fun c => (c, c))
    serverContexts := fun j => if j < serversCount s.proxy then none else s.serverContexts j
    finished := true }

/-- `get_input_socket_with_output` and `get_free_output_socket` -/
def freeSlot (slots : ℕ) (i : ℕ) (isTunnel : Bool) (s : Process) : Option ℕ :=
  (List.range slots).find? fun k =>
    !(s.connections (i, k, isTunnel)).connected &&
      (isTunnel || (s.connections (i, k, true)).connected)

namespace Process

def setAcceptor (i : ℕ) (isTunnel : Bool) (a : Acceptor) (s : Process) : Process :=
  { s with acceptors := Function.update s.acceptors (i, isTunnel) a }

def setHandler (h : ℕ) (c : Handler) (stage : Stage) (s : Process) : Process :=
  { s with handlers := s.handlers.set h { c with stage := stage } }

def setConnected (c : Handler) (connected : Bool) (s : Process) : Process :=
  let l := (c.runtime, c.slot, c.isTunnel)
  { s with
    connections := Function.update s.connections l { s.connections l with connected := connected } }

end Process

def accept (i : ℕ) (isTunnel : Bool) (s : Process) : Process :=
  let fd := s.descriptors.next
  { (s.opened (some fd) i).setAcceptor i isTunnel (.accepted fd) with
    proxy := { s.proxy with kernel := { s.proxy.kernel with nextFd := s.proxy.kernel.nextFd + 1 } } }

/-- The acceptor puts `socket_local` in a free slot, or closes it. -/
def assign (slots : ℕ) (i : ℕ) (isTunnel : Bool) (fd : ℕ) (s : Process) : Process :=
  match freeSlot slots i isTunnel s with
  | none => (s.close (some fd) i).setAcceptor i isTunnel .waiting
  | some k =>
    let l := (i, k, isTunnel)
    { s.setAcceptor i isTunnel (.stored fd k) with
      connections := Function.update s.connections l { s.connections l with socket := some fd }
      closed := Function.update s.closed (.connection i k isTunnel) false }

/-- Without a thread the input acceptor closes the socket, which the slot still names. -/
def createHandler (i : ℕ) (isTunnel created : Bool) (fd k : ℕ) (s : Process) : Process :=
  let s := s.setAcceptor i isTunnel .waiting
  if created then { s with handlers := s.handlers ++ [⟨i, k, isTunnel, .created⟩] }
  else if isTunnel then s
  else
    let l := Place.connection i k false
    { s.close (some fd) i with
      closed := if s.named l = some fd then Function.update s.closed l true else s.closed }

inductive Action where
  | ensure (deviceId : String) (inputPort tunnelPort : ℕ) (info : DeviceInfo)
      (outcome : StartOutcome)
  | stop (deviceId : String) (inputPort tunnelPort : ℕ)
  | reload (deviceId : String) (inputPort : ℕ) (info : DeviceInfo) (outcome : StartOutcome)
  /-- The next statement of the control thread -/
  | control
  | switcherStop
  | accept (runtime : ℕ) (isTunnel : Bool)
  /-- `fcntl` fails. -/
  | refuse (runtime : ℕ) (isTunnel : Bool)
  | assign (runtime : ℕ) (isTunnel : Bool)
  | createHandler (runtime : ℕ) (isTunnel created : Bool)
  | acceptorCloses (runtime : ℕ) (isTunnel : Bool)
  | acceptorLeaves (runtime : ℕ) (isTunnel : Bool)
  | handlerStarts (handler : ℕ)
  /-- Without a context or an SSL object the handler closes the socket and returns. -/
  | handlerFails (handler : ℕ)
  | handlerTests (handler : ℕ)
  | handlerCloses (handler : ℕ)
  | handlerClears (handler : ℕ)
  | handlerLeaves (handler : ℕ)

def Process.withOutcome (outcome : StartOutcome) (s : Process) : Process :=
  { s with proxy := { s.proxy with outcome := outcome } }

def Process.atStage (stage : Stage) (h : ℕ) (s : Process) : Bool :=
  s.handlers[h]?.any fun c => c.stage == stage

def Process.tls (h : ℕ) (s : Process) : Bool :=
  s.handlers[h]?.any fun c => s.proxy.runtimes[c.runtime]?.any fun r =>
    if c.isTunnel then r.enableOutputSsl else r.enableInputSsl

def Process.running (i : ℕ) (isTunnel : Bool) (s : Process) : Bool :=
  s.proxy.runtimes[i]?.any (runningOf isTunnel)

def Acceptor.hasAccepted : Acceptor → Bool
  | accepted _ => true
  | waiting | stored _ _ | leaving => false

def Acceptor.hasStored : Acceptor → Bool
  | stored _ _ => true
  | waiting | accepted _ | leaving => false

/-- One request of the control thread after the other; it has ended when the servers are
stopped. -/
def enabled (s : Process) : Action → Bool
  | .ensure _ _ _ _ _ | .stop _ _ _ | .reload _ _ _ _ | .switcherStop =>
    !s.finished && s.control.isEmpty
  | .control => !s.control.isEmpty
  | .accept i isTunnel => s.running i isTunnel && s.acceptors (i, isTunnel) == .waiting &&
      (s.named (.listener i isTunnel)).isSome && !s.closed (.listener i isTunnel)
  | .refuse i isTunnel | .assign i isTunnel => (s.acceptors (i, isTunnel)).hasAccepted
  | .createHandler i isTunnel _ => (s.acceptors (i, isTunnel)).hasStored
  | .acceptorCloses i isTunnel => s.running i isTunnel && s.acceptors (i, isTunnel) == .waiting
  | .acceptorLeaves i isTunnel => s.running i isTunnel && s.acceptors (i, isTunnel) == .leaving
  | .handlerStarts h => s.atStage .created h
  | .handlerFails h => s.atStage .serving h && s.tls h
  | .handlerTests h => s.atStage .serving h
  | .handlerCloses h => s.atStage .closing h
  | .handlerClears h => s.atStage .clearing h
  | .handlerLeaves h => s.atStage .leaving h

def nextStatement (cfg : Config) (slots : ℕ) (s : Process) : Process :=
  match s.control with
  | [] => s
  | st :: rest => execute cfg slots { s with control := rest } st

def nextHandler (h : ℕ) (f : Handler → Process → Process) (s : Process) : Process :=
  match s.handlers[h]? with
  | none => s
  | some c => f c s

def next (cfg : Config) (slots : ℕ) (s : Process) : Action → Process
  | .ensure deviceId inputPort tunnelPort info outcome =>
    (s.withOutcome outcome).push [.ensure deviceId inputPort tunnelPort info]
  | .stop deviceId inputPort tunnelPort => s.push [.stop deviceId inputPort tunnelPort]
  | .reload deviceId inputPort info outcome =>
    if inputPort == 0 then s
    else
      (s.withOutcome outcome).push [.stop deviceId inputPort (tunnelPort inputPort),
        .ensure deviceId inputPort (tunnelPort inputPort) info]
  | .control => nextStatement cfg slots s
  | .switcherStop => switcherServersStop s
  | .accept i isTunnel => accept i isTunnel s
  | .refuse i isTunnel =>
    match s.acceptors (i, isTunnel) with
    | .accepted fd => (s.close (some fd) i).setAcceptor i isTunnel .waiting
    | _ => s
  | .assign i isTunnel =>
    match s.acceptors (i, isTunnel) with
    | .accepted fd => assign slots i isTunnel fd s
    | _ => s
  | .createHandler i isTunnel created =>
    match s.acceptors (i, isTunnel) with
    | .stored fd k => createHandler i isTunnel created fd k s
    | _ => s
  | .acceptorCloses i isTunnel =>
    (s.closeField (.listener i isTunnel)).setAcceptor i isTunnel .leaving
  | .acceptorLeaves i isTunnel => { s with proxy := setRuntime i (exited isTunnel) s.proxy }
  | .handlerStarts h =>
    nextHandler h (fun c s => (s.setConnected c true).setHandler h c .serving) s
  | .handlerFails h => nextHandler h (fun c s => (s.closeField c.place).setHandler h c .leaving) s
  | .handlerTests h =>
    nextHandler h (fun c s =>
      s.setHandler h c (if (s.named c.place).isSome then .closing else .leaving)) s
  | .handlerCloses h =>
    nextHandler h (fun c s => (s.closeField c.place).setHandler h c .clearing) s
  | .handlerClears h => nextHandler h (fun c s => (s.clearField c.place).setHandler h c .leaving) s
  | .handlerLeaves h =>
    nextHandler h (fun c s =>
      { s.setConnected c false with handlers := s.handlers.eraseIdx h }) s

/-- Only static servers, each with its own context or none, and no descriptor in the ledger. -/
structure Initial (s : Process) : Prop where
  proxy : Fresh s.proxy
  zero : ∀ l, s.connections l = .zero
  waiting : ∀ l, s.acceptors l = .waiting
  noHandlers : s.handlers = []
  idle : s.control = []
  noContexts : ∀ i, s.runtimeContexts i = none
  descriptors : s.descriptors = ⟨[], [], s.proxy.kernel.nextFd⟩
  nonzero : 0 < s.proxy.kernel.nextFd
  noneFreed : s.contexts.closed = []
  created : ∀ c ∈ s.contexts.opened, c.1 < s.contexts.next
  serverContexts : ∀ j c, s.serverContexts j = some c → (c, ()) ∈ s.contexts.opened
  distinct : ∀ i j c, s.serverContexts i = some c → s.serverContexts j = some c → i = j
  running : s.finished = false

def system (cfg : Config) (slots : ℕ) : System Process Action :=
  ⟨Initial, fun s a => enabled s a = true, next cfg slots⟩

instance (cfg : Config) (slots : ℕ) (s : Process) (a : Action) :
    Decidable ((system cfg slots).enabled s a) :=
  inferInstanceAs (Decidable (enabled s a = true))

/-- Every descriptor is closed and every context freed at most once, and a descriptor only for the
runtime that it was opened for. -/
structure Sound (s : Process) : Prop where
  descriptors : s.descriptors.Balanced
  contexts : s.contexts.Balanced

/-- What the place names was stored there, and no thread has closed it and left the number. -/
def Unclosed (s : Process) (l : Place) : Prop :=
  ∀ f ∈ s.named l, f ≠ 0 ∧ s.closed l = false

def Attempts (ip tp : ℕ) (p : Proxy) : Prop :=
  p.outcome.reallocated = true ∧ p.servers.length < (p.servers.length + 1) % 2 ^ 16 ∧
    socketsReady p.kernel p.outcome ip tp = true ∧ p.outcome.allocated = true

def AllUp (o : StartOutcome) : Prop :=
  o.inputStarted = true ∧ o.outputStarted = true ∧ o.inputAccepting = true ∧
    o.outputAccepting = true

def CarefulStatement (s : Process) : Statement → Prop
  | .close l => Unclosed s l
  | .start _ ip tp _ => Attempts ip tp s.proxy → AllUp s.proxy.outcome
  | _ => True

/-- The slot still names the socket for which the acceptor has no thread. -/
def StillStored (s : Process) (i : ℕ) : Acceptor → Prop
  | .stored fd k => s.named (.connection i k false) = some fd ∧
      Unclosed s (.connection i k false)
  | _ => True

/-- The runtime of every dynamic server with a context still has it. -/
def ContextsKept (s : Process) : Prop :=
  ∀ j < serversCount s.proxy, ∀ server ∈ s.proxy.servers[j]?, server.isDynamicPort = true →
    (s.serverContexts j).isSome = true → s.runtimeContexts (s.serverRuntimes j) = s.serverContexts j

def Careful (s : Process) : Action → Prop
  | .control => ∀ st ∈ s.control.head?, CarefulStatement s st
  | .switcherStop => ContextsKept s
  | .createHandler i isTunnel created =>
    created = false → isTunnel = false → StillStored s i (s.acceptors (i, false))
  | .acceptorCloses i isTunnel => Unclosed s (.listener i isTunnel)
  | .handlerFails h | .handlerCloses h => ∀ c ∈ s.handlers[h]?, Unclosed s c.place
  | _ => True

instance (s : Process) (l : Place) : Decidable (Unclosed s l) :=
  inferInstanceAs (Decidable (∀ f ∈ s.named l, _))

instance (ip tp : ℕ) (p : Proxy) : Decidable (Attempts ip tp p) :=
  inferInstanceAs (Decidable (_ ∧ _))

instance (o : StartOutcome) : Decidable (AllUp o) := inferInstanceAs (Decidable (_ ∧ _))

instance (s : Process) : (st : Statement) → Decidable (CarefulStatement s st)
  | .close l => inferInstanceAs (Decidable (Unclosed s l))
  | .start _ ip tp _ =>
    inferInstanceAs (Decidable (Attempts ip tp s.proxy → AllUp s.proxy.outcome))
  | .ensure _ _ _ _ | .stop _ _ _ | .disable _ | .test _ | .clear _ | .cleanupContext _ | .forget _
  | .cleanup _ | .stopSlot _ _ | .closeSlot _ | .restart _ _ _ _ _ => isTrue trivial

instance (s : Process) (i : ℕ) : (a : Acceptor) → Decidable (StillStored s i a)
  | .stored fd k => inferInstanceAs (Decidable (s.named (.connection i k false) = some fd ∧ _))
  | .waiting | .accepted _ | .leaving => isTrue trivial

instance (s : Process) : Decidable (ContextsKept s) :=
  inferInstanceAs (Decidable (∀ j < serversCount s.proxy, _))

instance (s : Process) : (a : Action) → Decidable (Careful s a)
  | .control => inferInstanceAs (Decidable (∀ st ∈ s.control.head?, CarefulStatement s st))
  | .switcherStop => inferInstanceAs (Decidable (ContextsKept s))
  | .createHandler i isTunnel created =>
    inferInstanceAs (Decidable
      (created = false → isTunnel = false → StillStored s i (s.acceptors (i, false))))
  | .acceptorCloses i isTunnel => inferInstanceAs (Decidable (Unclosed s (.listener i isTunnel)))
  | .handlerFails h | .handlerCloses h =>
    inferInstanceAs (Decidable (∀ c ∈ s.handlers[h]?, Unclosed s c.place))
  | .ensure _ _ _ _ _ | .stop _ _ _ | .reload _ _ _ _ | .accept _ _ | .refuse _ _ | .assign _ _
  | .acceptorLeaves _ _ | .handlerStarts _ | .handlerTests _ | .handlerClears _
  | .handlerLeaves _ => isTrue trivial

end ProcessLedger
