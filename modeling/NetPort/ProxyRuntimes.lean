import Mathlib.Data.List.Nodup
import NetPort.DeviceTables

/-! The dynamic proxy servers of one process: the `servers` array, the registry
`g_dynamic_runtimes`, the runtimes its entries point to and the listening sockets.
Descriptors are fresh numbers; what the kernel and OpenSSL answer to the next start is
a `StartOutcome`, chosen by the environment. Connection slots are not part of it. -/
namespace ProxyRuntimes


/-- Device fields that `device_authenticate` and `device_manager_load_device_by_id` copy;
an absent text or port is empty or zero. -/
structure DeviceInfo where
  deviceId : String
  name : String
  type : String
  userId : ℕ
  internalAddress : String
  internalPort : ℕ
  status : DeviceTables.DeviceStatus
  enableInputSsl : Bool
  enableTunnelSsl : Bool
  assignedPort : ℕ
  tunnelPort : ℕ
  deriving DecidableEq, Repr

/-- The settings that `device_manager_init` copies, and the hash that OpenSSL computes. -/
structure Config where
  sessionTimeout : ℕ
  heartbeatInterval : ℕ
  sslCertFile : String
  sslKeyFile : String
  sha256Hex : String → String

def Config.sslCertsConfigured (cfg : Config) : Bool := cfg.sslCertFile != "" && cfg.sslKeyFile != ""

/-- `proxy_server_t`; `none` is the descriptor -1. -/
structure ProxyServer where
  enable : Bool
  inputPort : ℕ
  input : Option ℕ
  isInputEnabled : Bool
  isInputRunning : Bool
  stopInputRunning : Bool
  outputPort : ℕ
  output : Option ℕ
  isOutputEnabled : Bool
  isOutputRunning : Bool
  stopOutputRunning : Bool
  enableOutputSsl : Bool
  enableInputSsl : Bool
  sslCtx : Bool
  certFile : String
  keyFile : String
  deviceId : String
  isDynamicPort : Bool
  deriving DecidableEq, Repr

/-- `memset(server, 0, sizeof(*server))`: both descriptors are 0. -/
def ProxyServer.zero : ProxyServer :=
  { enable := false, inputPort := 0, input := some 0, isInputEnabled := false,
    isInputRunning := false, stopInputRunning := false, outputPort := 0, output := some 0,
    isOutputEnabled := false, isOutputRunning := false, stopOutputRunning := false,
    enableOutputSsl := false, enableInputSsl := false, sslCtx := false, certFile := "",
    keyFile := "", deviceId := "", isDynamicPort := false }

/-- `dynamic_server_runtime_t`; `connectionsData` points into `Proxy.runtimes`. -/
structure DynamicServerRuntime where
  deviceId : String
  inputPort : ℕ
  tunnelPort : ℕ
  serverIndex : ℕ
  connectionsData : Option ℕ
  active : Bool
  deriving DecidableEq, Repr

structure Kernel where
  listening : List (ℕ × ℕ)
  nextFd : ℕ
  deriving DecidableEq, Repr

structure StartOutcome where
  reallocated : Bool
  sslContextCreated : Bool
  inputSocket : Bool
  inputListens : Bool
  outputSocket : Bool
  outputListens : Bool
  allocated : Bool
  inputStarted : Bool
  outputStarted : Bool
  inputAccepting : Bool
  outputAccepting : Bool
  deriving DecidableEq, Repr

structure Proxy where
  servers : List ProxyServer
  registry : List DynamicServerRuntime
  runtimes : List ProxyServer
  kernel : Kernel
  outcome : StartOutcome

def maxDynamicServerRuntimes : ℕ := 256

def emptyEntry : DynamicServerRuntime := ⟨"", 0, 0, 0, none, false⟩

namespace Kernel

def close (k : Kernel) : Option ℕ → Kernel
  | none => k
  | some fd => { k with listening := k.listening.filter fun l => l.1 != fd }

def portInUse (k : Kernel) (port : ℕ) : Bool := k.listening.any fun l => l.2 == port

/-- `SO_ACCEPTCONN` -/
def acceptsOn (k : Kernel) (fd : ℕ) : Bool := k.listening.any fun l => l.1 == fd

/-- `init_input_socket` and `init_output_socket`: the descriptor left in the server, and
whether the socket listens. -/
def initSocket (k : Kernel) (socket listens : Bool) (port : ℕ) : Option ℕ × Bool × Kernel :=
  if !socket then (none, false, k)
  else if listens && !k.portInUse port then
    (some k.nextFd, true, ⟨(k.nextFd, port) :: k.listening, k.nextFd + 1⟩)
  else (some k.nextFd, false, { k with nextFd := k.nextFd + 1 })

end Kernel

def isRuntimeListenerActive (k : Kernel) (runtime : ProxyServer) (port : ℕ) (isTunnel : Bool) :
    Bool :=
  let fd := if isTunnel then runtime.output else runtime.input
  let running := if isTunnel then runtime.isOutputRunning else runtime.isInputRunning
  let boundPort := if isTunnel then runtime.outputPort else runtime.inputPort
  runtime.enable && running && boundPort == port && fd.any k.acceptsOn

def dynamicRuntimeSslMatches (runtime : ProxyServer) (enableInputSsl enableTunnelSsl : Bool) :
    Bool :=
  runtime.enableInputSsl == enableInputSsl && runtime.enableOutputSsl == enableTunnelSsl

/-- What `stop_dynamic_server_runtime` leaves in the runtime. -/
def ProxyServer.stopped (r : ProxyServer) : ProxyServer :=
  { r with
    stopInputRunning := true
    stopOutputRunning := true
    enable := false
    input := none
    output := none
    sslCtx := false }

def stopDynamicServerRuntime (connectionsData : ℕ) (deviceId : String) (p : Proxy) : Proxy :=
  match p.runtimes[connectionsData]? with
  | none => p
  | some r =>
    if deviceId != "" && r.deviceId != "" && r.deviceId != deviceId then p
    else
      { p with
        runtimes := p.runtimes.set connectionsData r.stopped
        kernel := (p.kernel.close r.input).close r.output }

/-- The match of `stop_dynamic_runtimes_for_device`. -/
def stopMatches (deviceId : String) (inputPort tunnelPort : ℕ) (e : DynamicServerRuntime) :
    Bool :=
  let samePorts := e.inputPort == inputPort && e.tunnelPort == tunnelPort
  if deviceId != "" then
    e.deviceId == deviceId && (inputPort == 0 || tunnelPort == 0 || samePorts)
  else inputPort != 0 && tunnelPort != 0 && samePorts

def slotMismatch (servers : List ProxyServer) (e : DynamicServerRuntime) : Bool :=
  servers[e.serverIndex]?.any fun s => s.deviceId != "" && s.deviceId != e.deviceId

/-- One registry loop: entries that `hit` selects are stopped and cleared. -/
def stopEntries (hit : DynamicServerRuntime → Bool) :
    List DynamicServerRuntime → Proxy → List DynamicServerRuntime × Proxy
  | [], p => ([], p)
  | e :: es, p =>
    match e.connectionsData with
    | none =>
      let (es', p') := stopEntries hit es p
      (e :: es', p')
    | some i =>
      if hit e then
        let (es', p') := stopEntries hit es (stopDynamicServerRuntime i e.deviceId p)
        ({ e with active := false, connectionsData := none } :: es', p')
      else
        let (es', p') := stopEntries hit es p
        (e :: es', p')

def stopWhere (hit : DynamicServerRuntime → Bool) (p : Proxy) : Proxy :=
  let (registry, p') := stopEntries hit p.registry p
  { p' with registry := registry }

def stopDynamicRuntimesForDevice (deviceId : String) (inputPort tunnelPort : ℕ) (p : Proxy) :
    Proxy :=
  stopWhere (fun e => stopMatches deviceId inputPort tunnelPort e && !slotMismatch p.servers e) p

def stopDynamicServerForDevice (deviceId : String) (inputPort tunnelPort : ℕ) (p : Proxy) :
    Proxy :=
  stopDynamicRuntimesForDevice deviceId inputPort tunnelPort p

def cleanupDynamicServerSlot (index : ℕ) (p : Proxy) : Proxy :=
  match p.servers[index]? with
  | none => p
  | some server =>
    if server.deviceId == "" then p
    else
      let p := stopDynamicRuntimesForDevice server.deviceId server.inputPort server.outputPort p
      let p := stopWhere (fun e => e.serverIndex == index && e.deviceId == server.deviceId) p
      { p with
        servers := p.servers.set index server.stopped
        kernel := (p.kernel.close server.input).close server.output }

/-- The test of `find_healthy_dynamic_server`: ports and TLS modes, not the device. -/
def isHealthy (inputPort tunnelPort : ℕ) (enableInputSsl enableTunnelSsl : Bool) (p : Proxy)
    (e : DynamicServerRuntime) : Bool :=
  e.active && e.inputPort == inputPort && e.tunnelPort == tunnelPort &&
    (e.connectionsData.bind (p.runtimes[·]?)).any fun r =>
      r.enable && r.isInputRunning && r.isOutputRunning && r.input.isSome && r.output.isSome &&
        dynamicRuntimeSslMatches r enableInputSsl enableTunnelSsl &&
        isRuntimeListenerActive p.kernel r inputPort false &&
        isRuntimeListenerActive p.kernel r tunnelPort true

def findHealthyDynamicServer (inputPort tunnelPort : ℕ) (enableInputSsl enableTunnelSsl : Bool)
    (p : Proxy) : Option DynamicServerRuntime :=
  p.registry.find? (isHealthy inputPort tunnelPort enableInputSsl enableTunnelSsl p)

/-- `init_ssl_context`: without a context both flags fall back to plain. -/
def initSslContext (created : Bool) (server : ProxyServer) : ProxyServer :=
  if !(server.enableOutputSsl || server.enableInputSsl) then server
  else if server.certFile == "" || server.keyFile == "" || !created then
    { server with enableOutputSsl := false, enableInputSsl := false }
  else { server with sslCtx := true }

def applyDynamicServerSslConfig (cfg : Config) (created enableInputSsl enableTunnelSsl : Bool)
    (server : ProxyServer) : ProxyServer :=
  if !enableInputSsl && !enableTunnelSsl then server
  else if !cfg.sslCertsConfigured then server
  else
    initSslContext created
      { server with
        certFile := cfg.sslCertFile
        keyFile := cfg.sslKeyFile
        enableInputSsl := server.enableInputSsl || enableInputSsl
        enableOutputSsl := server.enableOutputSsl || enableTunnelSsl }

/-- `start_server_listening_threads`, on a server whose both sides are enabled. An acceptor
that is not running at its check has closed its socket. When only the output side fails, the
runtime is freed under its running input acceptor and stays behind unregistered. -/
def startServerListeningThreads (server : ProxyServer) (p : Proxy) : Proxy × Option ℕ :=
  if !p.outcome.allocated then (p, none)
  else if !p.outcome.inputStarted then ({ p with kernel := p.kernel.close server.input }, none)
  else if !p.outcome.outputStarted then
    ({ p with
        runtimes := p.runtimes ++ [{ server with isInputRunning := true }]
        kernel := p.kernel.close server.output }, none)
  else
    let runtime := { server with isInputRunning := true, isOutputRunning := true }
    ({ p with runtimes := p.runtimes ++ [runtime] }, some p.runtimes.length)

def registerDynamicServerRuntime (deviceId : String) (inputPort tunnelPort : ℕ)
    (serverIndex connectionsData : ℕ) (p : Proxy) : Proxy :=
  match p.registry.findIdx? (!·.active) with
  | none => p
  | some i =>
    let cleared := p.registry.map fun e =>
      if e.active && e.serverIndex == serverIndex && e.deviceId != deviceId then
        { e with active := false, connectionsData := none }
      else e
    { p with
      registry := cleared.set i
        ⟨deviceId, inputPort, tunnelPort, serverIndex, some connectionsData, true⟩ }

/-- An acceptor thread leaves its loop: it closes the descriptor the server names. -/
def acceptorExit (connectionsData : ℕ) (isTunnel : Bool) (p : Proxy) : Proxy :=
  match p.runtimes[connectionsData]? with
  | none => p
  | some r =>
    if isTunnel then
      { p with
        runtimes := p.runtimes.set connectionsData { r with isOutputRunning := false }
        kernel := p.kernel.close r.output }
    else
      { p with
        runtimes := p.runtimes.set connectionsData { r with isInputRunning := false }
        kernel := p.kernel.close r.input }

/-- The slot as `start_dynamic_server_at_index` fills it before any socket exists. -/
def newServer (cfg : Config) (outcome : StartOutcome) (deviceId : String)
    (inputPort tunnelPort : ℕ) (enableInputSsl enableTunnelSsl : Bool) : ProxyServer :=
  applyDynamicServerSslConfig cfg outcome.sslContextCreated enableInputSsl enableTunnelSsl
    { ProxyServer.zero with
      enable := true
      inputPort := inputPort
      outputPort := tunnelPort
      isInputEnabled := true
      isOutputEnabled := true
      isDynamicPort := true
      deviceId := deviceId }

/-- `servers_count` is a 16-bit counter of the `servers` array. -/
def serversCount (p : Proxy) : ℕ := p.servers.length % 2 ^ 16

def setServer (index : ℕ) (server : ProxyServer) (p : Proxy) : Proxy :=
  { p with servers := p.servers.set index server }

/-- The end of `start_dynamic_server_at_index`: both listeners are up, or the runtime is
stopped again. Its registry entry stays either way. -/
def confirmStarted (deviceId : String) (inputPort tunnelPort : ℕ) (index connectionsData : ℕ)
    (p : Proxy) : Proxy × Option ℕ :=
  let p := if p.outcome.inputAccepting then p else acceptorExit connectionsData false p
  let p := if p.outcome.outputAccepting then p else acceptorExit connectionsData true p
  if p.runtimes[connectionsData]?.any fun r =>
      isRuntimeListenerActive p.kernel r inputPort false &&
        isRuntimeListenerActive p.kernel r tunnelPort true then (p, some index)
  else (stopDynamicServerRuntime connectionsData deviceId p, none)

def startDynamicServerAtIndex (cfg : Config) (index : ℕ) (deviceId : String)
    (inputPort tunnelPort : ℕ) (enableInputSsl enableTunnelSsl : Bool) (p : Proxy) :
    Proxy × Option ℕ :=
  if serversCount p ≤ index then (p, none)
  else
    let p := cleanupDynamicServerSlot index p
    let server := newServer cfg p.outcome deviceId inputPort tunnelPort enableInputSsl
      enableTunnelSsl
    let (input, inputOk, kernel) :=
      p.kernel.initSocket p.outcome.inputSocket p.outcome.inputListens inputPort
    if !inputOk then
      (setServer index { server with
          input := input, isInputEnabled := false, enable := false, sslCtx := false }
        { p with kernel := kernel }, none)
    else
      let (output, outputOk, kernel) :=
        kernel.initSocket p.outcome.outputSocket p.outcome.outputListens tunnelPort
      let server := { server with input := input, output := output }
      if !outputOk then
        (setServer index { server with
            isOutputEnabled := false, enable := false, input := none, sslCtx := false }
          { p with kernel := kernel.close input }, none)
      else
        match startServerListeningThreads server { p with kernel := kernel } with
        | (p, none) =>
          (setServer index { server with enable := false, input := none, output := none }
            { p with kernel := (p.kernel.close input).close output }, none)
        | (p, some runtime) =>
          let p := setServer index { server with isInputRunning := true, isOutputRunning := true } p
          confirmStarted deviceId inputPort tunnelPort index runtime
            (registerDynamicServerRuntime deviceId inputPort tunnelPort index runtime p)

def findStoppedDynamicServer (deviceId : String) (inputPort tunnelPort : ℕ) (p : Proxy) :
    Option ℕ :=
  let stopped := fun s : ProxyServer => s.isDynamicPort && !s.enable
  (p.servers.findIdx? fun s => stopped s && s.deviceId == deviceId).or
    (p.servers.findIdx? fun s =>
      stopped s && s.inputPort == inputPort && s.outputPort == tunnelPort)

def wantsSsl (cfg : Config) (flag : Bool) : Bool := flag && cfg.sslCertsConfigured

def createDynamicServerForDevice (cfg : Config) (deviceId : String) (inputPort tunnelPort : ℕ)
    (info : DeviceInfo) (p : Proxy) : Proxy × Option ℕ :=
  if inputPort == 0 || tunnelPort == 0 || !p.outcome.reallocated then (p, none)
  else
    let index := p.servers.length
    let (p, started) := startDynamicServerAtIndex cfg index deviceId inputPort tunnelPort
      (wantsSsl cfg info.enableInputSsl) (wantsSsl cfg info.enableTunnelSsl)
      { p with servers := p.servers ++ [ProxyServer.zero] }
    match started with
    | some _ => (p, started)
    | none => ({ p with servers := p.servers.dropLast }, none)

def ensureDynamicServerForDevice (cfg : Config) (deviceId : String) (inputPort tunnelPort : ℕ)
    (info : DeviceInfo) (p : Proxy) : Proxy × Option ℕ :=
  if inputPort == 0 || tunnelPort == 0 then (p, none)
  else
    let enableInputSsl := wantsSsl cfg info.enableInputSsl
    let enableTunnelSsl := wantsSsl cfg info.enableTunnelSsl
    match findHealthyDynamicServer inputPort tunnelPort enableInputSsl enableTunnelSsl p with
    | some e => (p, some e.serverIndex)
    | none =>
      let p := stopDynamicRuntimesForDevice deviceId inputPort tunnelPort p
      match findStoppedDynamicServer deviceId inputPort tunnelPort p with
      | none => createDynamicServerForDevice cfg deviceId inputPort tunnelPort info p
      | some index =>
        match startDynamicServerAtIndex cfg index deviceId inputPort tunnelPort enableInputSsl
            enableTunnelSsl p with
        | (p, some started) => (p, some started)
        | (p, none) => createDynamicServerForDevice cfg deviceId inputPort tunnelPort info p

end ProxyRuntimes
