import Mathlib.Data.List.Infix
import Mathlib.Data.List.TakeWhile
import NetPort.ClientUpdate
import NetPort.RegistrationWait

/-! The command that the web page shows for a device, and how the client reads it: `main` goes over
the arguments once, and `main_with_device_registration` once more. -/
namespace ClientCommand

open ShellWords RegistrationWait

abbrev Word := List Char

/-- The arguments of `buildDeviceClientCommand`; `connections` is the whole part of a finite
number. -/
structure Options where
  deviceId : Word
  token : Word
  internalPort : Option ℕ
  internalAddress : Option Word
  registrationPort : ℕ
  portHostBase : Option ℕ
  connections : Option ℤ

def normalizeConnections : Option ℤ → ℕ
  | none => 1
  | some value => if value < 1 then 1 else (min value 32).toNat

def truthyPort (n : Option ℕ) : Option ℕ := n.filter (· ≠ 0)

def truthyText (w : Option Word) : Option Word := w.filter (· ≠ [])

def decimal (n : ℕ) : Word := Nat.toDigits 10 n

def buildDeviceClientCommand (o : Options) : List Char :=
  let cmd := "./module_net_port_client-0.0.4 --device-id ".toList ++ o.deviceId ++
    " --device-token ".toList ++ o.token ++
    " --registration-server SERVER_IP --registration-port ".toList ++ decimal o.registrationPort ++
    " --registration-ca-file server.crt".toList
  let cmd := match truthyPort o.portHostBase with
    | some base => cmd ++ " --port-host-base ".toList ++ decimal base
    | none => cmd
  let cmd := cmd ++ " --connections ".toList ++ decimal (normalizeConnections o.connections)
  let address := truthyText o.internalAddress
  if (truthyPort o.internalPort).isSome then
    match address with
    | some address =>
      if address ≠ "127.0.0.1".toList then cmd ++ " --host_out ".toList ++ address else cmd
    | none => cmd
  else cmd ++ " --host_out ".toList ++ address.getD "127.0.0.1".toList ++ " -p_out 22".toList

/-- The shell of POSIX, for characters; more of them count as special than it takes for special. -/
def shell : Alphabet Char where
  quote := '\''
  blank c := c == ' ' || c == '\t'
  special c := !ClientUpdate.plainByte c.toNat

/-- `strstr(w, part) != NULL` -/
def strstr (part : String) (w : Word) : Bool := decide (part.toList <:+: w)

/-- `strcmp(w, text) == 0` -/
def is (text : String) (w : Word) : Bool := w == text.toList

def isspace (c : Char) : Bool := c == ' ' || (9 ≤ c.toNat && c.toNat ≤ 13)

def scanDigits (text : Word) : Option (Bool × ℕ) :=
  let text := text.dropWhile isspace
  let negative : Bool := text.head? = some '-'
  let unsigned := if negative ∨ text.head? = some '+' then text.tail else text
  let digits := unsigned.takeWhile Char.isDigit
  if digits = [] then none else some (negative, Nat.ofDigitChars 10 digits 0)

/-- `strtol(text, NULL, 10)`, and whether there was a number. -/
def scanNumber (text : Word) : Option ℤ :=
  (scanDigits text).map fun (negative, n) =>
    max (-2 ^ 63) (min (2 ^ 63 - 1) (if negative then -n else n))

/-- `strtoul(text, NULL, 10)`, by which `%hu` reads. -/
def scanUnsigned (text : Word) : Option ℕ :=
  (scanDigits text).map fun (negative, n) =>
    if 2 ^ 64 ≤ n then 2 ^ 64 - 1 else if negative then (2 ^ 64 - n) % 2 ^ 64 else n

/-- `(uint16_t)atoi(text)` -/
def atoi16 (text : Word) : ℕ := uint16OfInt ((scanNumber text).getD 0)

/-- The `int` that `%d` stores. -/
def int32 (n : ℤ) : ℤ := (n + 2 ^ 31) % 2 ^ 32 - 2 ^ 31

structure ClientSettings where
  inputAddress : Word
  inputPort : ℕ
  outputAddress : Word
  outputPort : ℕ
  connectionsCount : ℤ
  timeoutSeconds : ℤ
  disableTimeout : Bool
  enableSsl : Bool
  enableOutputSsl : Bool
  caFile : Word
  deriving DecidableEq, Repr

def initialSettings : ClientSettings where
  inputAddress := "82.146.44.140".toList
  inputPort := 0
  outputAddress := "127.0.0.1".toList
  outputPort := 22
  connectionsCount := 1
  timeoutSeconds := 900
  disableTimeout := false
  enableSsl := false
  enableOutputSsl := false
  caFile := []

/-- The loop of `main`; `rest` begins with `argv[i]`. -/
structure Scan where
  settings : ClientSettings
  showHelp : Bool
  hasDeviceArgs : Bool
  rest : List Word
  deriving DecidableEq, Repr

/-- An argument with a value, over which `i` moves on; the checks that follow look at the value.
The error is the exit code. -/
def withValue (key : Word → Bool) (store : ClientSettings → Word → Except ℤ ClientSettings)
    (s : Scan) : Except ℤ Scan :=
  match s.rest with
  | arg :: value :: rest =>
    if key arg then do
      let settings ← store s.settings value
      pure { s with settings := settings, showHelp := false, rest := value :: rest }
    else pure s
  | _ => pure s

def withFlag (key : Word → Bool) (set : Scan → Scan) (s : Scan) : Except ℤ Scan :=
  pure (if s.rest.head?.any key then set s else s)

/-- `verbose_level` is not initialised: `junk` is what it holds when no number follows. -/
def verbose (junk : ℤ) (s : Scan) : Except ℤ Scan :=
  match s.rest with
  | [] => pure s
  | arg :: _ =>
    if strstr "-v" arg then
      let level := ((scanNumber (arg.drop 2)).map int32).getD junk
      if 0 < level ∧ level ≤ 7 then pure s else throw (-1)
    else pure s

/-- `sscanf(value, "%hu", …)` -/
def storePort (set : ℕ → ClientSettings) (value : Word) : Except ℤ ClientSettings :=
  match scanUnsigned value with
  | some n => pure (set (n % 2 ^ 16))
  | none => throw (-1)

/-- `sscanf(value, "%d", …)`, for what has to be positive. -/
def storePositive (set : ℤ → ClientSettings) (value : Word) : Except ℤ ClientSettings :=
  match (scanNumber value).map int32 with
  | some n => if n ≤ 0 then throw (-1) else pure (set n)
  | none => throw (-1)

/-- The checks of `main` for one `i`, up to those for the addresses and ports. -/
def readAddresses (junk : ℤ) (s : Scan) : Except ℤ Scan := do
  let s ← verbose junk s
  let s ← withValue (strstr "--host_in") (fun t v => pure { t with inputAddress := v.take 31 }) s
  let s ← withValue (strstr "--host_out") (fun t v => pure { t with outputAddress := v.take 31 }) s
  let s ← withValue (strstr "-p_in") (fun t => storePort fun n => { t with inputPort := n }) s
  withValue (strstr "-p_out") (fun t => storePort fun n => { t with outputPort := n }) s

def readConnections : Scan → Except ℤ Scan :=
  withValue (fun w => is "--connections" w || is "-c" w)
    (fun t => storePositive fun n => { t with connectionsCount := n })

def isUpdateFlag (w : Word) : Bool :=
  is "--check-update" w || is "--auto-update" w || is "--update-server" w || is "--update-arch" w ||
    is "--install-dir" w

def readOptions (s : Scan) : Except ℤ Scan := do
  let s ← withValue (fun w => is "--timeout" w || is "-t" w)
    (fun t => storePositive fun n => { t with timeoutSeconds := n }) s
  let s ← withFlag (is "--disable-timeout")
    (fun s =>
      { s with settings := { s.settings with disableTimeout := true }, showHelp := false }) s
  let s ← withFlag (fun w => is "--help" w || is "--h" w) (fun s => { s with showHelp := true }) s
  let s ← withFlag (fun w => is "--ssl" w || is "-e" w)
    (fun s => { s with settings := { s.settings with enableSsl := true }, showHelp := false }) s
  let s ← withFlag (fun w => is "--ssl-output" w || is "-o" w)
    (fun s => { s with settings := { s.settings with enableOutputSsl := true }, showHelp := false })
    s
  let s ← withValue (fun w => is "--ca-file" w || is "-a" w)
    (fun t v => pure { t with caFile := v.take 255 }) s
  let s ← withFlag (is "--device-id")
    (fun s => { s with hasDeviceArgs := true, showHelp := false }) s
  withFlag isUpdateFlag (fun s => { s with showHelp := false }) s

def readArgument (junk : ℤ) (s : Scan) : Except ℤ Scan := do
  let s ← readAddresses junk s
  let s ← readConnections s
  readOptions s

def readArguments (junk : ℤ) : ℕ → Scan → Except ℤ Scan
  | 0, s => pure s
  | n + 1, s =>
    match s.rest with
    | [] => pure s
    | _ => do
      let s ← readArgument junk s
      readArguments junk n { s with rest := s.rest.tail }

/-- The variables that `main_with_device_registration` sets. -/
structure DeviceArgs where
  deviceId : Option Word
  authToken : Option Word
  registrationServer : Option Word
  registrationPort : ℕ
  tunnelPortOverride : ℕ
  portHostBase : ℕ
  portRangeStart : ℕ
  registrationCaFile : Word
  registrationNoSsl : Bool
  deriving DecidableEq, Repr

def initialDeviceArgs : DeviceArgs := ⟨none, none, none, 8443, 0, 0, 6000, [], false⟩

def readDeviceArgs (a : DeviceArgs) : List Word → DeviceArgs
  | [] => a
  | [w] => if is "--registration-no-ssl" w then { a with registrationNoSsl := true } else a
  | w :: v :: rest =>
    if is "--device-id" w then readDeviceArgs { a with deviceId := some v } rest
    else if is "--device-token" w then readDeviceArgs { a with authToken := some v } rest
    else if is "--registration-server" w then
      readDeviceArgs { a with registrationServer := some v } rest
    else if is "--registration-port" w then
      readDeviceArgs { a with registrationPort := atoi16 v } rest
    else if is "--tunnel-port" w then readDeviceArgs { a with tunnelPortOverride := atoi16 v } rest
    else if is "--port-host-base" w then readDeviceArgs { a with portHostBase := atoi16 v } rest
    else if is "--port-range-start" w then readDeviceArgs { a with portRangeStart := atoi16 v } rest
    else if is "--registration-ca-file" w then
      readDeviceArgs { a with registrationCaFile := v.take 511 } rest
    else if is "--ca-file" w || is "-a" w then
      readDeviceArgs (if a.registrationCaFile = [] then { a with registrationCaFile := v.take 511 }
        else a) rest
    else if is "--registration-no-ssl" w then
      readDeviceArgs { a with registrationNoSsl := true } (v :: rest)
    else if is "-p_in" w then readDeviceArgs { a with tunnelPortOverride := atoi16 v } rest
    else readDeviceArgs a (v :: rest)

/-- What `device_registration_init` keeps to register with. -/
structure Credentials where
  deviceId : Word
  authToken : Word
  serverHost : Word
  serverPort : ℕ
  tls : Bool
  caFile : Word
  deriving DecidableEq, Repr

/-- What the answer to the registration left in `g_device_state`. -/
structure Registered where
  tunnelPort : ℕ
  tunnelTls : Bool
  device : DeviceState

/-- The port of `apply_tunnel_settings`. -/
def connectPort (a : DeviceArgs) (tunnelPort : ℕ) : ℕ :=
  if a.tunnelPortOverride ≠ 0 then a.tunnelPortOverride
  else if a.portHostBase ≠ 0 then
    uint16OfInt (a.portHostBase + ((tunnelPort : ℤ) - a.portRangeStart))
  else tunnelPort

def applyTunnelTls (caFile : Word) (tunnelTls : Bool) (t : ClientSettings) : ClientSettings :=
  if !tunnelTls then { t with enableSsl := false, caFile := [] }
  else if caFile = [] then t
  else { t with enableSsl := true, caFile := caFile.take 255 }

def applyTunnelSettings (a : DeviceArgs) (host : Word) (r : Registered) (t : ClientSettings) :
    ClientSettings :=
  applyTunnelTls a.registrationCaFile r.tunnelTls
    { t with inputAddress := host.take 31, inputPort := connectPort a r.tunnelPort }

/-- `apply_output_target_from_registration` and `validate_output_target` -/
def applyOutput (argv : List Word) (r : Registered) (t : ClientSettings) : Option ClientSettings :=
  let output := applyOutputTarget r.device
    { cliOutputHost := argv.any (is "--host_out"), cliOutputPort := argv.any (is "-p_out"),
      outputAddress := .ofList t.outputAddress, outputPort := t.outputPort }
  if validateOutputTarget output then
    some { t with outputAddress := output.outputAddress.toList, outputPort := output.outputPort }
  else none

/-- `main_with_device_registration` up to the start of the threads: what it registers with, and the
settings after an answer. -/
def mainWithDeviceRegistration (argv : List Word) (r : Registered) (t : ClientSettings) :
    Option (Credentials × ClientSettings) := do
  let a := readDeviceArgs initialDeviceArgs argv.tail
  let deviceId ← a.deviceId
  let authToken ← a.authToken
  let server ← a.registrationServer
  let host := server.take 256
  let settings ← applyOutput argv.tail r (applyTunnelSettings a host r t)
  pure ({ deviceId := deviceId.take 64, authToken := authToken.take 256, serverHost := host,
          serverPort := a.registrationPort, tls := !a.registrationNoSsl,
          caFile := a.registrationCaFile }, settings)

inductive Outcome where
  | exits (code : ℤ)
  | usage
  | update
  | legacy (settings : ClientSettings)
  | device (started : Option (Credentials × ClientSettings))
  deriving DecidableEq, Repr

/-- `main` until its threads run. -/
def main (junk : ℤ) (argv : List Word) (r : Registered) : Outcome :=
  match readArguments junk argv.length ⟨initialSettings, true, false, argv.tail⟩ with
  | .error code => .exits code
  | .ok s =>
    if s.showHelp then .usage
    else if argv.tail.any (is "--check-update") || argv.tail.any (is "--auto-update") then .update
    else if s.hasDeviceArgs then .device (mainWithDeviceRegistration argv r s.settings)
    else .legacy s.settings

/-- The arguments that are meant, once the address of the server is put in for `SERVER_IP`. -/
def outputArguments (o : Options) : List Word :=
  match truthyPort o.internalPort, truthyText o.internalAddress with
  | some _, some address =>
    if address ≠ "127.0.0.1".toList then ["--host_out".toList, address] else []
  | some _, none => []
  | none, address =>
    ["--host_out".toList, address.getD "127.0.0.1".toList, "-p_out".toList, "22".toList]

def hostArguments (o : Options) : List Word :=
  match truthyPort o.portHostBase with
  | some base => ["--port-host-base".toList, decimal base]
  | none => []

def arguments (o : Options) (server : Word) : List Word :=
  ["--device-id".toList, o.deviceId, "--device-token".toList, o.token,
    "--registration-server".toList, server, "--registration-port".toList,
    decimal o.registrationPort, "--registration-ca-file".toList, "server.crt".toList] ++
  hostArguments o ++
  ["--connections".toList, decimal (normalizeConnections o.connections)] ++ outputArguments o

def program : Word := "./module_net_port_client-0.0.4".toList

def Plain (w : Word) : Prop := w ≠ [] ∧ ∀ c ∈ w, ClientUpdate.plainByte c.toNat = true

variable {o : Options} {server w : Word} {junk : ℤ}

theorem is_toList (k k' : String) : is k k'.toList = decide (k' = k) := by
  by_cases same : k' = k
  · simp only [is, same, beq_self_eq_true, decide_true]
  · have apart : k'.toList ≠ k.toList := fun h => same (String.toList_inj.1 h)
    simp only [is, beq_eq_false_iff_ne.2 apart, same, decide_false]

theorem is_self (k : String) : is k k.toList = true := beq_self_eq_true k.toList

theorem is_other {k k' : String} (other : k' ≠ k) : ¬is k k'.toList = true := by
  rw [is_toList, decide_eq_true_eq]
  exact other

theorem is_none {keys : List String} {k' : String} (other : k' ∉ keys) :
    ∀ k ∈ keys, is k k'.toList = false := by
  intro k mem
  rw [is_toList, decide_eq_false]
  rintro rfl
  exact other mem

theorem is_never {flag : String} {words : List String} (other : flag ∉ words) :
    ∀ w ∈ words, is flag w.toList = false := by
  intro w mem
  rw [is_toList, decide_eq_false]
  rintro rfl
  exact other mem

theorem mem_dashed (tail : Word) : '-' ∈ (String.ofList ('-' :: tail)).toList := by
  rw [String.toList_ofList]
  exact List.mem_cons_self

theorem mem_all_dashed (tails : List Word) :
    ∀ k ∈ tails.map fun tail => String.ofList ('-' :: tail), '-' ∈ k.toList := by
  intro k mem
  obtain ⟨tail, _, rfl⟩ := List.mem_map.1 mem
  exact mem_dashed tail

theorem plain_literal (w : Word)
    (plain : (!w.isEmpty && w.all fun c => ClientUpdate.plainByte c.toNat) = true) :
    Plain (String.ofList w).toList := by
  obtain ⟨filled, all⟩ := Bool.and_eq_true_iff.1 plain
  rw [String.toList_ofList]
  refine ⟨?_, List.all_eq_true.1 all⟩
  rintro rfl
  cases filled

theorem strstr_literal (part w : Word) :
    strstr (String.ofList part) (String.ofList w).toList = decide (part <:+: w) := by
  rw [strstr, String.toList_ofList, String.toList_ofList]

theorem strstr_literals (parts words : List Word)
    (apart : (words.all fun w => parts.all fun part => !decide (part <:+: w)) = true) :
    ∀ k ∈ words.map String.ofList, ∀ part ∈ parts.map String.ofList,
      strstr part k.toList = false := by
  intro k mem part mem'
  obtain ⟨w, inside, rfl⟩ := List.mem_map.1 mem
  obtain ⟨p, inside', rfl⟩ := List.mem_map.1 mem'
  have outside := List.all_eq_true.1 (List.all_eq_true.1 apart w inside) p inside'
  rw [strstr_literal]
  exact Bool.not_eq_eq_eq_not.1 outside

theorem toList_between (name : String) :
    (" " ++ name ++ " ").toList = ' ' :: (name.toList ++ [' ']) := by
  rw [String.toList_append, String.toList_append]
  rfl

theorem toList_dashes (name : String) : ("--" ++ name).toList = '-' :: '-' :: name.toList := by
  rw [String.toList_append]
  rfl

theorem toList_after (name : String) : (" " ++ name).toList = ' ' :: name.toList := by
  rw [String.toList_append]
  rfl

theorem decimal_isDigit {n : ℕ} {c : Char} (mem : c ∈ decimal n) : c.isDigit = true :=
  Nat.isDigit_of_mem_toDigits (by decide) (by decide) mem

theorem plain_decimal (n : ℕ) : Plain (decimal n) := by
  refine ⟨Nat.toDigits_ne_nil, fun c mem => ?_⟩
  have digit : c.isDigit = true := decimal_isDigit mem
  obtain ⟨low, high⟩ := Char.isDigit_iff_toNat.1 digit
  have zero : '0'.toNat = 48 := rfl
  have nine : '9'.toNat = 57 := rfl
  simp only [ClientUpdate.plainByte, Bool.or_eq_true, Bool.and_eq_true, decide_eq_true_eq]
  omega

theorem legal_plain (plain : Plain w) : (Piece.plain w).Legal shell := by
  refine ⟨plain.1, fun c mem => ?_⟩
  have code := plain.2 c mem
  refine ⟨?_, ?_, by simp [shell, code]⟩
  · rintro rfl
    exact absurd code (by decide)
  · simp only [shell, Bool.or_eq_false_iff, beq_eq_false_iff_ne]
    constructor
    · rintro rfl
      exact absurd code (by decide)
    · rintro rfl
      exact absurd code (by decide)

theorem render_plain (first : Word) (rest : List Word) :
    render shell ' ' ((first :: rest).map Piece.plain) =
      first ++ rest.flatMap fun w => ' ' :: w := by
  induction rest generalizing first with
  | nil => simp [render, Piece.text]
  | cons second rest ih =>
    have later := ih second
    simp only [List.map_cons] at later ⊢
    rw [render, later]
    rfl

theorem program_deviceId : "./module_net_port_client-0.0.4 --device-id ".toList =
    program ++ ' ' :: ("--device-id".toList ++ [' ']) := by
  have parts : "./module_net_port_client-0.0.4 --device-id " =
      "./module_net_port_client-0.0.4" ++ (" " ++ "--device-id" ++ " ") := by simp
  rw [parts, String.toList_append, toList_between]
  rfl

theorem command_eq (o : Options) : buildDeviceClientCommand o =
    program ++ (arguments o "SERVER_IP".toList).flatMap fun w => ' ' :: w := by
  have second : " --device-token ".toList = _ := toList_between "--device-token"
  have third : " --registration-server SERVER_IP --registration-port ".toList =
      ' ' :: ("--registration-server".toList ++ ' ' :: ("SERVER_IP".toList ++
        ' ' :: ("--registration-port".toList ++ [' ']))) := by
    rw [← toList_between, ← String.toList_append, ← toList_after, ← String.toList_append,
      ← toList_after]
    exact congrArg String.toList rfl
  have fourth : " --registration-ca-file server.crt".toList =
      ' ' :: ("--registration-ca-file".toList ++ ' ' :: "server.crt".toList) := by
    rw [← toList_after, ← String.toList_append, ← toList_after]
    exact congrArg String.toList rfl
  have base : " --port-host-base ".toList = _ := toList_between "--port-host-base"
  have connections : " --connections ".toList = _ := toList_between "--connections"
  have host : " --host_out ".toList = _ := toList_between "--host_out"
  have port : " -p_out 22".toList = ' ' :: ("-p_out".toList ++ ' ' :: "22".toList) := by
    rw [← toList_after, ← String.toList_append, ← toList_after]
    exact congrArg String.toList rfl
  simp only [buildDeviceClientCommand, arguments, hostArguments, outputArguments,
    program_deviceId, second, third, fourth, base, connections, host, port]
  generalize "127.0.0.1".toList = loopback
  cases truthyPort o.portHostBase <;> cases truthyPort o.internalPort <;>
    cases truthyText o.internalAddress <;>
    simp only [Option.isSome_none, Option.isSome_some, Bool.false_eq_true, if_true, if_false,
      Option.getD_none, Option.getD_some, List.flatMap_cons, List.flatMap_nil, List.append_assoc,
      List.cons_append, List.nil_append, List.append_nil]
  · split
    · simp only [List.flatMap_cons, List.flatMap_nil, List.cons_append, List.append_nil]
    · simp only [List.flatMap_nil, List.append_nil]
  · split
    · simp only [List.flatMap_cons, List.flatMap_nil, List.cons_append, List.append_nil]
    · simp only [List.flatMap_nil, List.append_nil]

/-- What `main` looks for inside an argument, and what it compares with a whole one. -/
def partKeys : List String := ["-v", "--host_in", "--host_out", "-p_in", "-p_out"]

def optionKeys : List String :=
  ["--connections", "-c", "--timeout", "-t", "--disable-timeout", "--help", "--h", "--ssl", "-e",
    "--ssl-output", "-o", "--ca-file", "-a", "--check-update", "--auto-update", "--update-server",
    "--update-arch", "--install-dir"]

def wholeKeys : List String := "--device-id" :: optionKeys

/-- An argument that no check of `main` takes for a key. -/
def Inert (w : Word) : Prop :=
  (∀ k ∈ partKeys, strstr k w = false) ∧ ∀ k ∈ wholeKeys, is k w = false

theorem strstr_no_dash {part : String} (dash : '-' ∈ part.toList) (none_ : '-' ∉ w) :
    strstr part w = false := by
  simp only [strstr, decide_eq_false_iff_not]
  intro inside
  exact none_ (inside.subset dash)

theorem is_no_dash {text : String} (dash : '-' ∈ text.toList) (none_ : '-' ∉ w) :
    is text w = false := by
  simp only [is, beq_eq_false_iff_ne]
  rintro rfl
  exact none_ dash

theorem inert_of_no_dash (none_ : '-' ∉ w) : Inert w := by
  have parts : ∀ k ∈ partKeys, '-' ∈ k.toList := mem_all_dashed [_, _, _, _, _]
  have wholes : ∀ k ∈ wholeKeys, '-' ∈ k.toList :=
    mem_all_dashed [_, _, _, _, _, _, _, _, _, _, _, _, _, _, _, _, _, _, _]
  exact ⟨fun k mem => strstr_no_dash (parts k mem) none_,
    fun k mem => is_no_dash (wholes k mem) none_⟩

def fixedWords : List String :=
  ["--device-token", "--registration-server", "--registration-port", "--registration-ca-file",
    "server.crt", "--port-host-base"]

theorem fixedWords_parts : ∀ k ∈ "--device-id" :: "--connections" :: fixedWords,
    ∀ part ∈ partKeys, strstr part k.toList = false :=
  strstr_literals [_, _, _, _, _] [_, _, _, _, _, _, _, _] rfl

theorem fixedWords_inert : ∀ k ∈ fixedWords, Inert k.toList := by
  have apart : ∀ k ∈ fixedWords, k ∉ wholeKeys := by simp [fixedWords, wholeKeys, optionKeys]
  intro k mem
  have parts := fixedWords_parts k (List.mem_cons_of_mem _ (List.mem_cons_of_mem _ mem))
  exact ⟨parts, is_none (apart k mem)⟩

variable {t : ClientSettings} {help device : Bool} {rest : List Word} {n : ℕ}

theorem withValue_off {key : Word → Bool} {store : ClientSettings → Word → Except ℤ ClientSettings}
    (off : key w = false) :
    withValue key store ⟨t, help, device, w :: rest⟩ = .ok ⟨t, help, device, w :: rest⟩ := by
  cases rest with
  | nil => rfl
  | cons v rest =>
    simp only [withValue, off, Bool.false_eq_true, if_false]
    rfl

theorem withFlag_off {key : Word → Bool} {set : Scan → Scan} (off : key w = false) :
    withFlag key set ⟨t, help, device, w :: rest⟩ = .ok ⟨t, help, device, w :: rest⟩ := by
  simp only [withFlag, List.head?_cons, Option.any_some, off, Bool.false_eq_true, if_false]
  rfl

theorem withFlag_on {key : Word → Bool} {set : Scan → Scan} (on : key w = true) :
    withFlag key set ⟨t, help, device, w :: rest⟩ = .ok (set ⟨t, help, device, w :: rest⟩) := by
  simp only [withFlag, List.head?_cons, Option.any_some, on, if_true]
  rfl

theorem verbose_off (off : strstr "-v" w = false) :
    verbose junk ⟨t, help, device, w :: rest⟩ = .ok ⟨t, help, device, w :: rest⟩ := by
  simp only [verbose, off, Bool.false_eq_true, if_false]
  rfl

theorem ok_bind {ε α β : Type} (a : α) (f : α → Except ε β) : ((.ok a : Except ε α) >>= f) = f a :=
  rfl

theorem withValue_on {key : Word → Bool} {store : ClientSettings → Word → Except ℤ ClientSettings}
    {t' : ClientSettings} {v : Word} (on : key w = true) (stored : store t v = .ok t') :
    withValue key store ⟨t, help, device, w :: v :: rest⟩ = .ok ⟨t', false, device, v :: rest⟩ := by
  simp only [withValue, on, if_true, stored, ok_bind]
  rfl

theorem readAddresses_inert (part : ∀ k ∈ partKeys, strstr k w = false) :
    readAddresses junk ⟨t, help, device, w :: rest⟩ = .ok ⟨t, help, device, w :: rest⟩ := by
  simp only [partKeys, List.forall_mem_cons] at part
  obtain ⟨loud, hostIn, hostOut, portIn, portOut, _⟩ := part
  rw [readAddresses, verbose_off loud, ok_bind, withValue_off hostIn, ok_bind,
    withValue_off hostOut, ok_bind, withValue_off portIn, ok_bind, withValue_off portOut]

theorem readConnections_off (off : ∀ k ∈ optionKeys, is k w = false) :
    readConnections ⟨t, help, device, w :: rest⟩ = .ok ⟨t, help, device, w :: rest⟩ := by
  simp only [optionKeys, List.forall_mem_cons] at off
  exact withValue_off (by rw [off.1, off.2.1]; rfl)

/-- The options see nothing but `--device-id`. -/
theorem readOptions_device (off : ∀ k ∈ optionKeys, is k w = false) :
    readOptions ⟨t, help, device, w :: rest⟩ =
      .ok (if is "--device-id" w then ⟨t, false, true, w :: rest⟩
        else ⟨t, help, device, w :: rest⟩) := by
  simp only [optionKeys, List.forall_mem_cons] at off
  obtain ⟨_, _, timeout, t_, disable, help_, h, ssl, e, sslOutput, o, caFile, a, check, auto, url,
    arch, dir, _⟩ := off
  have neither {first second : String} (no : is first w = false) (nor : is second w = false) :
      (is first w || is second w) = false := by
    rw [no, nor]
    rfl
  have update : isUpdateFlag w = false := by
    simp only [isUpdateFlag, check, auto, url, arch, dir, Bool.or_self]
  rw [readOptions, withValue_off (neither timeout t_), ok_bind, withFlag_off disable, ok_bind,
    withFlag_off (neither help_ h), ok_bind, withFlag_off (neither ssl e), ok_bind,
    withFlag_off (neither sslOutput o), ok_bind, withValue_off (neither caFile a), ok_bind]
  by_cases id : is "--device-id" w = true
  · rw [withFlag_on id, ok_bind, withFlag_off update, if_pos id]
  · rw [withFlag_off (Bool.of_not_eq_true id), ok_bind, withFlag_off update, if_neg id]

theorem Inert.options (h : Inert w) : ∀ k ∈ optionKeys, is k w = false :=
  (List.forall_mem_cons.1 h.2).2

theorem Inert.deviceId (h : Inert w) : is "--device-id" w = false := (List.forall_mem_cons.1 h.2).1

theorem readOptions_inert (h : Inert w) :
    readOptions ⟨t, help, device, w :: rest⟩ = .ok ⟨t, help, device, w :: rest⟩ := by
  rw [readOptions_device h.options, h.deviceId]
  rfl

theorem readArgument_inert (h : Inert w) :
    readArgument junk ⟨t, help, device, w :: rest⟩ = .ok ⟨t, help, device, w :: rest⟩ := by
  rw [readArgument, readAddresses_inert h.1, ok_bind, readConnections_off h.options, ok_bind,
    readOptions_inert h]

theorem readArguments_inert (h : Inert w) :
    readArguments junk (n + 1) ⟨t, help, device, w :: rest⟩ =
      readArguments junk n ⟨t, help, device, rest⟩ := by
  rw [readArguments, readArgument_inert h]
  rfl

theorem readArguments_deviceId :
    readArguments junk (n + 1) ⟨t, help, device, "--device-id".toList :: rest⟩ =
      readArguments junk n ⟨t, false, true, rest⟩ := by
  have parts := fixedWords_parts "--device-id" List.mem_cons_self
  have off : ∀ k ∈ optionKeys, is k "--device-id".toList = false := is_none (by simp [optionKeys])
  rw [readArguments, readArgument, readAddresses_inert parts, ok_bind, readConnections_off off,
    ok_bind, readOptions_device off, if_pos (is_self _)]
  rfl

theorem readArguments_hostOut {v : Word} (h : Inert v) :
    readArguments junk (n + 1) ⟨t, help, device, "--host_out".toList :: v :: rest⟩ =
      readArguments junk n ⟨{ t with outputAddress := v.take 31 }, false, device, rest⟩ := by
  have part := h.1
  simp only [partKeys, List.forall_mem_cons] at part
  obtain ⟨_, _, _, portIn, portOut, _⟩ := part
  have loud : strstr "-v" "--host_out".toList = false := strstr_literal _ _
  have hostIn : strstr "--host_in" "--host_out".toList = false := strstr_literal _ _
  have hostOut : strstr "--host_out" "--host_out".toList = true := strstr_literal _ _
  rw [readArguments, readArgument, readAddresses, verbose_off loud, ok_bind,
    withValue_off hostIn, ok_bind, withValue_on hostOut rfl, ok_bind,
    withValue_off portIn, ok_bind, withValue_off portOut, ok_bind, readConnections_off h.options,
    ok_bind, readOptions_inert h]
  rfl

theorem readArguments_portOut {v : Word} {port : ℕ} (h : Inert v)
    (number : scanUnsigned v = some port) :
    readArguments junk (n + 1) ⟨t, help, device, "-p_out".toList :: v :: rest⟩ =
      readArguments junk n ⟨{ t with outputPort := port % 2 ^ 16 }, false, device, rest⟩ := by
  have stored : storePort (fun n => { t with outputPort := n }) v =
      .ok { t with outputPort := port % 2 ^ 16 } := by
    rw [storePort, number]
    rfl
  have loud : strstr "-v" "-p_out".toList = false := strstr_literal _ _
  have hostIn : strstr "--host_in" "-p_out".toList = false := strstr_literal _ _
  have hostOut : strstr "--host_out" "-p_out".toList = false := strstr_literal _ _
  have portIn : strstr "-p_in" "-p_out".toList = false := strstr_literal _ _
  have portOut : strstr "-p_out" "-p_out".toList = true := strstr_literal _ _
  rw [readArguments, readArgument, readAddresses, verbose_off loud, ok_bind,
    withValue_off hostIn, ok_bind, withValue_off hostOut, ok_bind,
    withValue_off portIn, ok_bind, withValue_on portOut stored, ok_bind,
    readConnections_off h.options, ok_bind, readOptions_inert h]
  rfl

theorem readArguments_connections {v : Word} {count : ℤ} (h : Inert v)
    (number : scanNumber v = some count) (positive : 0 < int32 count) :
    readArguments junk (n + 1) ⟨t, help, device, "--connections".toList :: v :: rest⟩ =
      readArguments junk n ⟨{ t with connectionsCount := int32 count }, false, device, rest⟩ := by
  have stored : storePositive (fun n => { t with connectionsCount := n }) v =
      .ok { t with connectionsCount := int32 count } := by
    rw [storePositive, number, Option.map_some]
    exact if_neg (not_le.2 positive)
  have read : readConnections ⟨t, help, device, "--connections".toList :: v :: rest⟩ =
      .ok ⟨{ t with connectionsCount := int32 count }, false, device, v :: rest⟩ :=
    withValue_on (by rw [is_self, Bool.true_or]) stored
  have parts := fixedWords_parts "--connections" (List.mem_cons_of_mem _ List.mem_cons_self)
  rw [readArguments, readArgument, readAddresses_inert parts, ok_bind, read, ok_bind,
    readOptions_inert h]
  rfl

theorem scanDigits_decimal (number : ℕ) : scanDigits (decimal number) = some (false, number) := by
  have digits : ∀ c ∈ decimal number, c.isDigit = true :=
    fun _ mem => decimal_isDigit mem
  have value : Nat.ofDigitChars 10 (decimal number) 0 = number := Nat.ofDigitChars_ten_toDigits
  have some_ := (plain_decimal number).1
  revert digits value some_
  cases decimal number with
  | nil => exact fun _ _ some_ => absurd rfl some_
  | cons c rest =>
    intro digits value _
    have digit := digits c List.mem_cons_self
    have low : 48 ≤ c.toNat := by
      simp only [Char.isDigit, Bool.and_eq_true, decide_eq_true_eq] at digit
      exact digit.1
    have minus : c ≠ '-' := by
      rintro rfl
      exact absurd digit (by decide)
    have plus : c ≠ '+' := by
      rintro rfl
      exact absurd digit (by decide)
    have blank : isspace c = false := by
      have other : c ≠ ' ' := by
        rintro rfl
        exact absurd digit (by decide)
      simp only [isspace, beq_eq_false_iff_ne.2 other, Bool.false_or, Bool.and_eq_false_iff,
        decide_eq_false_iff_not]
      omega
    have all : (c :: rest).takeWhile Char.isDigit = c :: rest := by
      rw [List.takeWhile_eq_self_iff]
      exact digits
    have kept : (c :: rest).dropWhile isspace = c :: rest := by
      rw [List.dropWhile_cons_of_neg (by simp [blank])]
    simp only [scanDigits, kept, List.head?_cons, Option.some.injEq, minus, plus, decide_false,
      Bool.false_eq_true, or_self, if_false, all, value, reduceCtorEq]

theorem scanNumber_decimal (number : ℕ) (bound : number < 2 ^ 63) :
    scanNumber (decimal number) = some (number : ℤ) := by
  rw [scanNumber, scanDigits_decimal, Option.map_some]
  simp only [Bool.false_eq_true, if_false]
  congr 1
  omega

theorem ssh_toList : "22".toList = ['2', '2'] := String.toList_ofList

structure Fits (size : ℕ) (w : Word) : Prop where
  plain : Plain w
  short : w.length ≤ size

theorem fits_literal {size : ℕ} (w : Word) (plain : Plain (String.ofList w).toList)
    (short : w.length ≤ size) (none_ : '-' ∉ w) :
    Fits size (String.ofList w).toList ∧ '-' ∉ (String.ofList w).toList := by
  rw [String.toList_ofList] at plain ⊢
  exact ⟨⟨plain, short⟩, none_⟩

theorem Fits.take {size k : ℕ} (h : Fits size w) (le : size ≤ k) : w.take k = w :=
  List.take_of_length_le (h.short.trans le)

/-- The values of a device as the backend takes them, with addresses that the client has room for.
Tokens are hexadecimal, and the client takes numeric addresses. -/
structure Usable (o : Options) (server : Word) : Prop where
  deviceId : Fits 64 o.deviceId
  inert : Inert o.deviceId
  token : Fits 256 o.token ∧ '-' ∉ o.token
  server : Fits 31 server ∧ '-' ∉ server
  address : ∀ a, truthyText o.internalAddress = some a → Fits 31 a ∧ '-' ∉ a
  registrationPort : o.registrationPort < 2 ^ 16
  portHostBase : ∀ b, truthyPort o.portHostBase = some b → b < 2 ^ 16

theorem decimal_no_dash (number : ℕ) : '-' ∉ decimal number := by
  intro mem
  exact absurd (decimal_isDigit mem) (by decide)

theorem inert_decimal (number : ℕ) : Inert (decimal number) :=
  inert_of_no_dash (decimal_no_dash number)

theorem normalizeConnections_range (c : Option ℤ) :
    1 ≤ normalizeConnections c ∧ normalizeConnections c ≤ 32 := by
  cases c with
  | none => decide
  | some value =>
    simp only [normalizeConnections]
    split
    · decide
    · omega

theorem readArguments_nil (n : ℕ) :
    readArguments junk n ⟨t, help, device, []⟩ = .ok ⟨t, help, device, []⟩ := by
  cases n <;> rfl

theorem readArguments_hostArguments (o : Options) :
    readArguments junk (n + (hostArguments o).length) ⟨t, help, device, hostArguments o ++ rest⟩ =
      readArguments junk n ⟨t, help, device, rest⟩ := by
  unfold hostArguments
  split
  · have name : Inert "--port-host-base".toList := fixedWords_inert _ (by simp [fixedWords])
    exact (readArguments_inert name).trans (readArguments_inert (inert_decimal _))
  · rfl

def withOutput (o : Options) (t : ClientSettings) : ClientSettings :=
  match truthyPort o.internalPort, truthyText o.internalAddress with
  | some _, some address =>
    if address ≠ "127.0.0.1".toList then { t with outputAddress := address } else t
  | some _, none => t
  | none, address =>
    { t with outputAddress := address.getD "127.0.0.1".toList, outputPort := 22 }

theorem Usable.getD_address (usable : Usable o server) :
    Fits 31 ((truthyText o.internalAddress).getD "127.0.0.1".toList) ∧
      '-' ∉ (truthyText o.internalAddress).getD "127.0.0.1".toList := by
  cases address : truthyText o.internalAddress with
  | some a => exact usable.address a address
  | none => exact fits_literal _ (plain_literal _ rfl) (by decide) (by decide)

theorem readArguments_outputArguments (usable : Usable o server) :
    readArguments junk (n + (outputArguments o).length) ⟨t, false, device, outputArguments o⟩ =
      .ok ⟨withOutput o t, false, device, []⟩ := by
  have host {a : Word} {rest : List Word} (fits : Fits 31 a ∧ '-' ∉ a) :
      readArguments junk (n + rest.length + 2)
          ⟨t, false, device, "--host_out".toList :: a :: rest⟩ =
        readArguments junk (n + rest.length + 1)
          ⟨{ t with outputAddress := a }, false, device, rest⟩ := by
    rw [readArguments_hostOut (inert_of_no_dash fits.2), fits.1.take le_rfl]
  cases port : truthyPort o.internalPort with
  | some p =>
    cases address : truthyText o.internalAddress with
    | some a =>
      simp only [outputArguments, withOutput, port, address]
      split
      · exact (host (usable.address a address)).trans (readArguments_nil _)
      · exact readArguments_nil _
    | none =>
      simp only [outputArguments, withOutput, port, address]
      exact readArguments_nil _
  | none =>
    have fits := usable.getD_address
    have number : scanUnsigned "22".toList = some 22 := by
      rw [ssh_toList]
      decide
    have ssh : Inert "22".toList := inert_of_no_dash (by rw [ssh_toList]; decide)
    simp only [outputArguments, withOutput, port]
    refine (host fits).trans ((readArguments_portOut ssh number).trans ?_)
    exact readArguments_nil _

theorem readArguments_arguments (usable : Usable o server) :
    readArguments junk (n + (arguments o server).length)
        ⟨initialSettings, true, false, arguments o server⟩ =
      .ok ⟨withOutput o { initialSettings with
        connectionsCount := normalizeConnections o.connections }, false, true, []⟩ := by
  obtain ⟨low, high⟩ := normalizeConnections_range o.connections
  have count : int32 (normalizeConnections o.connections) = normalizeConnections o.connections := by
    unfold int32
    omega
  have words := fixedWords_inert
  simp only [fixedWords, List.forall_mem_cons] at words
  obtain ⟨token, server_, port, caFile, file, _⟩ := words
  have fuel : n + (arguments o server).length = n + (outputArguments o).length + 1 + 1 +
      (hostArguments o).length + 1 + 1 + 1 + 1 + 1 + 1 + 1 + 1 + 1 + 1 := by
    simp only [arguments, List.length_append, List.length_cons, List.length_nil]
    omega
  rw [fuel]
  simp only [arguments, List.append_assoc, List.cons_append, List.nil_append]
  rw [readArguments_deviceId, readArguments_inert usable.inert,
    readArguments_inert token, readArguments_inert (inert_of_no_dash usable.token.2),
    readArguments_inert server_, readArguments_inert (inert_of_no_dash usable.server.2),
    readArguments_inert port, readArguments_inert (inert_decimal _),
    readArguments_inert caFile, readArguments_inert file,
    readArguments_hostArguments,
    readArguments_connections (inert_decimal _) (scanNumber_decimal _ (by omega))
      (by rw [count]; omega), count, Nat.add_right_comm n _ 1]
  exact readArguments_outputArguments usable

def deviceKeys : List String :=
  ["--device-id", "--device-token", "--registration-server", "--registration-port", "--tunnel-port",
    "--port-host-base", "--port-range-start", "--registration-ca-file", "--ca-file", "-a",
    "--registration-no-ssl", "-p_in"]

variable {a : DeviceArgs}

theorem readDeviceArgs_skip (off : ∀ k ∈ deviceKeys, is k w = false) :
    readDeviceArgs a (w :: rest) = readDeviceArgs a rest := by
  simp only [deviceKeys, List.forall_mem_cons] at off
  obtain ⟨id, token, server, port, tunnel, base, range, caFile, ca, a_, noSsl, portIn, _⟩ := off
  cases rest with
  | nil => simp only [readDeviceArgs, noSsl, Bool.false_eq_true, if_false]
  | cons v rest =>
    rw [readDeviceArgs]
    simp only [id, token, server, port, tunnel, base, range, caFile, ca, a_, noSsl, portIn,
      Bool.or_self, Bool.false_eq_true, if_false]

theorem readDeviceArgs_word {k : String} (other : k ∉ deviceKeys) :
    readDeviceArgs a (k.toList :: rest) = readDeviceArgs a rest :=
  readDeviceArgs_skip (is_none other)

theorem readDeviceArgs_no_dash (none_ : '-' ∉ w) :
    readDeviceArgs a (w :: rest) = readDeviceArgs a rest := by
  have dashes : ∀ k ∈ deviceKeys, '-' ∈ k.toList :=
    mem_all_dashed [_, _, _, _, _, _, _, _, _, _, _, _]
  exact readDeviceArgs_skip fun k mem => is_no_dash (dashes k mem) none_

theorem readDeviceArgs_outputArguments (usable : Usable o server) :
    readDeviceArgs a (outputArguments o) = a := by
  have nothing : readDeviceArgs a [] = a := by rw [readDeviceArgs]
  unfold outputArguments
  split
  · rename_i address _ known
    split
    · rw [readDeviceArgs_word (by simp [deviceKeys]),
        readDeviceArgs_no_dash (usable.address address known).2, nothing]
    · exact nothing
  · exact nothing
  · rw [readDeviceArgs_word (by simp [deviceKeys]),
      readDeviceArgs_no_dash usable.getD_address.2, readDeviceArgs_word (by simp [deviceKeys]),
      readDeviceArgs_word (by simp [deviceKeys]), nothing]

theorem atoi16_decimal {number : ℕ} (small : number < 2 ^ 16) :
    atoi16 (decimal number) = number := by
  rw [atoi16, scanNumber_decimal number (by omega), Option.getD_some, uint16OfInt]
  omega

theorem readDeviceArgs_deviceId : readDeviceArgs a ("--device-id".toList :: v :: rest) =
    readDeviceArgs { a with deviceId := some v } rest := by
  rw [readDeviceArgs, if_pos (is_self _)]

theorem readDeviceArgs_deviceToken : readDeviceArgs a ("--device-token".toList :: v :: rest) =
    readDeviceArgs { a with authToken := some v } rest := by
  rw [readDeviceArgs, if_neg (is_other (by simp)), if_pos (is_self _)]

theorem readDeviceArgs_registrationServer :
    readDeviceArgs a ("--registration-server".toList :: v :: rest) =
      readDeviceArgs { a with registrationServer := some v } rest := by
  rw [readDeviceArgs, if_neg (is_other (by simp)), if_neg (is_other (by simp)),
    if_pos (is_self _)]

theorem readDeviceArgs_registrationPort :
    readDeviceArgs a ("--registration-port".toList :: v :: rest) =
      readDeviceArgs { a with registrationPort := atoi16 v } rest := by
  rw [readDeviceArgs, if_neg (is_other (by simp)), if_neg (is_other (by simp)),
    if_neg (is_other (by simp)), if_pos (is_self _)]

theorem readDeviceArgs_registrationCaFile :
    readDeviceArgs a ("--registration-ca-file".toList :: v :: rest) =
      readDeviceArgs { a with registrationCaFile := v.take 511 } rest := by
  rw [readDeviceArgs, if_neg (is_other (by simp)), if_neg (is_other (by simp)),
    if_neg (is_other (by simp)), if_neg (is_other (by simp)), if_neg (is_other (by simp)),
    if_neg (is_other (by simp)), if_neg (is_other (by simp)), if_pos (is_self _)]

theorem readDeviceArgs_portHostBase : readDeviceArgs a ("--port-host-base".toList :: v :: rest) =
    readDeviceArgs { a with portHostBase := atoi16 v } rest := by
  rw [readDeviceArgs, if_neg (is_other (by simp)), if_neg (is_other (by simp)),
    if_neg (is_other (by simp)), if_neg (is_other (by simp)), if_neg (is_other (by simp)),
    if_pos (is_self _)]

def deviceArgs (o : Options) (server : Word) : DeviceArgs where
  deviceId := some o.deviceId
  authToken := some o.token
  registrationServer := some server
  registrationPort := o.registrationPort
  tunnelPortOverride := 0
  portHostBase := (truthyPort o.portHostBase).getD 0
  portRangeStart := 6000
  registrationCaFile := "server.crt".toList
  registrationNoSsl := false

theorem readDeviceArgs_arguments (usable : Usable o server) :
    readDeviceArgs initialDeviceArgs (arguments o server) = deviceArgs o server := by
  have last {a : DeviceArgs} : readDeviceArgs a ("--connections".toList ::
      decimal (normalizeConnections o.connections) :: outputArguments o) = a := by
    rw [readDeviceArgs_word (by simp [deviceKeys]), readDeviceArgs_no_dash (decimal_no_dash _),
      readDeviceArgs_outputArguments usable]
  have registrationPort := atoi16_decimal usable.registrationPort
  simp only [arguments, List.append_assoc, List.cons_append, List.nil_append]
  rw [readDeviceArgs_deviceId, readDeviceArgs_deviceToken, readDeviceArgs_registrationServer,
    readDeviceArgs_registrationPort, readDeviceArgs_registrationCaFile, registrationPort]
  cases base : truthyPort o.portHostBase with
  | none =>
    simp only [hostArguments, base, List.nil_append, last, deviceArgs]
    rfl
  | some b =>
    have hostBase := atoi16_decimal (usable.portHostBase b base)
    simp only [hostArguments, base, List.cons_append, List.nil_append, deviceArgs]
    rw [readDeviceArgs_portHostBase, hostBase, last]
    rfl

theorem strstr_of_is {text : String} (h : strstr text w = false) : is text w = false := by
  simp only [is, beq_eq_false_iff_ne]
  rintro rfl
  simp [strstr] at h

/-- A flag that is none of the fixed arguments is looked for among the last ones. -/
theorem arguments_any (usable : Usable o server) (flag : String) (dash : '-' ∈ flag.toList)
    (deviceId : is flag o.deviceId = false)
    (fixed : ∀ w ∈ ["--device-id", "--device-token", "--registration-server",
      "--registration-port", "--registration-ca-file", "server.crt", "--port-host-base",
      "--connections"], is flag w.toList = false) :
    (arguments o server).any (is flag) = (outputArguments o).any (is flag) := by
  simp only [List.forall_mem_cons] at fixed
  obtain ⟨id, token, server_, port, caFile, file, base, connections, _⟩ := fixed
  have number (n : ℕ) : is flag (decimal n) = false := is_no_dash dash (decimal_no_dash n)
  have host : (hostArguments o).any (is flag) = false := by
    unfold hostArguments
    split
    · simp only [List.any_cons, List.any_nil, number, base,
        Bool.or_self]
    · rfl
  simp only [arguments, List.any_append, List.any_cons, List.any_nil, host, number, deviceId,
    is_no_dash dash usable.token.2, is_no_dash dash usable.server.2, id, token, server_, port,
    caFile, file, connections, Bool.or_self, Bool.false_or]

def target (o : Options) : Word × ℕ :=
  ((truthyText o.internalAddress).getD "127.0.0.1".toList, (truthyPort o.internalPort).getD 22)

def answer (o : Options) (tunnelPort : ℕ) (tunnelTls : Bool) : Registered where
  tunnelPort := tunnelPort
  tunnelTls := tunnelTls
  device := ⟨.ofList (o.internalAddress.getD []), o.internalPort.getD 0⟩

def meant (o : Options) (server : Word) (tunnelPort : ℕ) (tunnelTls : Bool) :
    Credentials × ClientSettings :=
  (⟨o.deviceId, o.token, server, o.registrationPort, true, "server.crt".toList⟩,
    { inputAddress := server
      inputPort := match truthyPort o.portHostBase with
        | some base => uint16OfInt (base + ((tunnelPort : ℤ) - 6000))
        | none => tunnelPort
      outputAddress := (target o).1
      outputPort := (target o).2
      connectionsCount := normalizeConnections o.connections
      timeoutSeconds := 900
      disableTimeout := false
      enableSsl := tunnelTls
      enableOutputSsl := false
      caFile := if tunnelTls then "server.crt".toList else [] })

theorem words_command (usable : Usable o server) : words shell (buildDeviceClientCommand o) =
    some (program :: arguments o "SERVER_IP".toList) := by
  have host : ∀ w ∈ hostArguments o, Plain w := by
    unfold hostArguments
    split
    · simp only [List.forall_mem_cons]
      exact ⟨plain_literal _ rfl, plain_decimal _, List.forall_mem_nil _⟩
    · exact List.forall_mem_nil _
  have output : ∀ w ∈ outputArguments o, Plain w := by
    unfold outputArguments
    split
    · rename_i address _ known
      split
      · simp only [List.forall_mem_cons]
        exact ⟨plain_literal _ rfl, (usable.address address known).1.plain, List.forall_mem_nil _⟩
      · exact List.forall_mem_nil _
    · exact List.forall_mem_nil _
    · simp only [List.forall_mem_cons]
      exact ⟨plain_literal _ rfl, usable.getD_address.1.plain, plain_literal _ rfl,
        plain_literal _ rfl, List.forall_mem_nil _⟩
  have plain : ∀ w ∈ program :: arguments o "SERVER_IP".toList, Plain w := by
    simp only [arguments, List.forall_mem_cons, List.forall_mem_append]
    have nothing : ∀ w ∈ ([] : List Word), Plain w := List.forall_mem_nil _
    exact ⟨plain_literal _ rfl, ⟨⟨⟨plain_literal _ rfl, usable.deviceId.plain,
      plain_literal _ rfl, usable.token.1.plain, plain_literal _ rfl, plain_literal _ rfl,
      plain_literal _ rfl, plain_decimal _, plain_literal _ rfl, plain_literal _ rfl, nothing⟩,
      host⟩, plain_literal _ rfl, plain_decimal _, nothing⟩, output⟩
  rw [command_eq, ← render_plain, words_render rfl (by decide) ?_,
    List.map_map]
  · simp [Function.comp_def, Piece.word]
  · intro p mem
    obtain ⟨w, inside, rfl⟩ := List.mem_map.1 mem
    exact legal_plain (plain w inside)

theorem outputArguments_any (usable : Usable o server) {flag : String} (dash : '-' ∈ flag.toList) :
    (outputArguments o).any (is flag) = match truthyPort o.internalPort with
      | some _ => is flag "--host_out".toList &&
          (truthyText o.internalAddress).any (· != "127.0.0.1".toList)
      | none => is flag "--host_out".toList || is flag "-p_out".toList := by
  have address := is_no_dash dash usable.getD_address.2
  have ssh : is flag "22".toList = false := is_no_dash dash (by rw [ssh_toList]; decide)
  unfold outputArguments
  revert address
  generalize "127.0.0.1".toList = loopback
  intro address
  cases port : truthyPort o.internalPort with
  | none => simp only [List.any_cons, List.any_nil, address, ssh, Bool.or_false, Bool.false_or]
  | some p =>
    cases known : truthyText o.internalAddress with
    | none => simp only [List.any_nil, Option.any_none, Bool.and_false]
    | some a =>
      rw [known, Option.getD_some] at address
      by_cases same : a = loopback
      · simp only [same, ne_eq, not_true_eq_false, if_false, List.any_nil, Option.any_some,
          bne_self_eq_false, Bool.and_false]
      · have differs : (a != loopback) = true := bne_iff_ne.2 same
        simp only [same, ne_eq, not_false_eq_true, if_true, List.any_cons, List.any_nil, address,
          Option.any_some, differs, Bool.and_true, Bool.or_false]

theorem truthyPort_getD (n : Option ℕ) : n.getD 0 = (truthyPort n).getD 0 := by
  cases n with
  | none => rfl
  | some n => by_cases zero : n = 0 <;> simp [truthyPort, Option.filter, zero]

theorem truthyPort_ne_zero {p : ℕ} {m : Option ℕ} (h : truthyPort m = some p) : p ≠ 0 := by
  simp only [truthyPort, Option.filter_eq_some_iff, decide_eq_true_eq] at h
  exact h.2

theorem truthyText_getD (v : Option Word) : v.getD [] = (truthyText v).getD [] := by
  cases v with
  | none => rfl
  | some v => by_cases empty : v = [] <;> simp [truthyText, Option.filter, empty]

theorem truthyText_ne_nil {v : Word} {m : Option Word} (h : truthyText m = some v) : v ≠ [] := by
  simp only [truthyText, Option.filter_eq_some_iff, decide_eq_true_eq] at h
  exact h.2

theorem withOutput_only (o : Options) (t : ClientSettings) : withOutput o t =
    { t with
      outputAddress := (withOutput o t).outputAddress
      outputPort := (withOutput o t).outputPort } := by
  unfold withOutput
  split
  · split <;> rfl
  · rfl
  · rfl

theorem applyOutputTarget_meant (usable : Usable o server) {tunnelPort : ℕ} {tunnelTls : Bool} :
    applyOutputTarget (answer o tunnelPort tunnelTls).device
        { cliOutputHost := (outputArguments o).any (is "--host_out")
          cliOutputPort := (outputArguments o).any (is "-p_out")
          outputAddress := .ofList (withOutput o t).outputAddress
          outputPort := (withOutput o t).outputPort } =
      { cliOutputHost := (outputArguments o).any (is "--host_out")
        cliOutputPort := (outputArguments o).any (is "-p_out")
        outputAddress := .ofList (target o).1
        outputPort := (target o).2 } := by
  have host : (outputArguments o).any (is "--host_out") = _ :=
    outputArguments_any usable (mem_dashed _)
  have port : (outputArguments o).any (is "-p_out") = _ :=
    outputArguments_any usable (mem_dashed _)
  have same := is_self "--host_out"
  have other : is "-p_out" "--host_out".toList = false := by
    rw [is_toList, decide_eq_false (by simp)]
  have self := is_self "-p_out"
  rw [same, Bool.true_and] at host
  rw [other, Bool.false_and] at port
  have row : (answer o tunnelPort tunnelTls).device =
      ⟨.ofList ((truthyText o.internalAddress).getD []), (truthyPort o.internalPort).getD 0⟩ := by
    rw [answer, ← truthyPort_getD, ← truthyText_getD]
  rw [row, applyOutputTarget]
  cases internalPort : truthyPort o.internalPort with
  | none =>
    rw [internalPort] at host port
    simp only [Bool.true_or] at host
    simp only [self, Bool.or_true] at port
    simp [host, port, withOutput, target, internalPort]
  | some p =>
    have nonzero := truthyPort_ne_zero internalPort
    rw [internalPort] at host port
    cases known : truthyText o.internalAddress with
    | none =>
      rw [known] at host
      simp only [Option.any_none] at host
      simp [host, port, target, internalPort, known, nonzero]
    | some a =>
      have some_ := truthyText_ne_nil known
      have short := (usable.address a known).1.take le_rfl
      rw [known] at host
      by_cases local_ : a = "127.0.0.1".toList
      · have hides : (a != "127.0.0.1".toList) = false := by simp [local_]
        simp only [Option.any_some, hides] at host
        have filled : String.ofList a ≠ "" := by
          intro empty
          exact some_ (String.ofList_eq_empty_iff.1 empty)
        have copy : copied (String.ofList a) = String.ofList a := by
          rw [copied, String.toList_ofList, short]
        have given : target o = (a, p) := by
          rw [target, internalPort, known]
          rfl
        simp only [host, port, given, Bool.false_eq_true, if_false, Option.getD_some, filled, ne_eq,
          not_false_eq_true, if_true, copy, Bool.not_false, Bool.true_and, bne_iff_ne, nonzero]
      · have shows : (a != "127.0.0.1".toList) = true := bne_iff_ne.2 local_
        simp only [Option.any_some, shows] at host
        have out : (withOutput o t).outputAddress = a := by
          rw [withOutput, internalPort, known]
          exact congrArg _ (if_pos local_)
        have given : target o = (a, p) := by
          rw [target, internalPort, known]
          rfl
        simp only [host, port, out, given, if_true, Option.getD_some, Bool.not_false, Bool.true_and,
          bne_iff_ne, nonzero, ne_eq, not_false_eq_true]

theorem target_valid (usable : Usable o server) : (target o).1 ≠ [] ∧ (target o).2 ≠ 0 := by
  refine ⟨usable.getD_address.1.plain.1, ?_⟩
  cases port : truthyPort o.internalPort with
  | none => simp [target, port]
  | some p =>
    have nonzero := truthyPort_ne_zero port
    simp [target, port, nonzero]

theorem connectPort_meant (o : Options) (server : Word) (tunnelPort : ℕ) :
    connectPort (deviceArgs o server) tunnelPort = match truthyPort o.portHostBase with
      | some base => uint16OfInt (base + ((tunnelPort : ℤ) - 6000))
      | none => tunnelPort := by
  unfold connectPort deviceArgs
  cases base : truthyPort o.portHostBase with
  | none => rfl
  | some b =>
    have nonzero := truthyPort_ne_zero base
    simp only [ne_eq, not_true_eq_false, if_false, Option.getD_some, nonzero, not_false_eq_true,
      if_true]
    rfl

theorem applyTunnelTls_file {file : Word} (given : file ≠ []) (short : file.take 255 = file)
    (tunnelTls : Bool) : applyTunnelTls file tunnelTls t =
      { t with enableSsl := tunnelTls, caFile := if tunnelTls then file else [] } := by
  cases tunnelTls with
  | false => rfl
  | true => simp [applyTunnelTls, given, short]

theorem applyOutput_meant (usable : Usable o server) (tunnelPort : ℕ) (tunnelTls : Bool)
    {t' : ClientSettings} (address : t'.outputAddress = (withOutput o t).outputAddress)
    (port : t'.outputPort = (withOutput o t).outputPort) :
    applyOutput (arguments o server) (answer o tunnelPort tunnelTls) t' =
      some { t' with outputAddress := (target o).1, outputPort := (target o).2 } := by
  have hostFlag := arguments_any usable "--host_out" (mem_dashed _)
    (strstr_of_is (usable.inert.1 _ (by simp [partKeys]))) (is_never (by simp))
  have portFlag := arguments_any usable "-p_out" (mem_dashed _)
    (strstr_of_is (usable.inert.1 _ (by simp [partKeys]))) (is_never (by simp))
  obtain ⟨filled, nonzero⟩ := target_valid usable
  have kept : String.ofList (target o).1 ≠ "" := fun empty =>
    filled (String.ofList_eq_empty_iff.1 empty)
  rw [applyOutput, hostFlag, portFlag, address, port, applyOutputTarget_meant usable]
  refine (if_pos ?_).trans ?_
  · simp [validateOutputTarget, nonzero, kept]
  · rw [String.toList_ofList]

theorem applyTunnelSettings_meant (usable : Usable o server) (r : Registered) :
    applyTunnelSettings (deviceArgs o server) server r t = { t with
      inputAddress := server
      inputPort := connectPort (deviceArgs o server) r.tunnelPort
      enableSsl := r.tunnelTls
      caFile := if r.tunnelTls then "server.crt".toList else [] } := by
  have file : Fits 255 "server.crt".toList ∧ '-' ∉ "server.crt".toList :=
    fits_literal _ (plain_literal _ rfl) (by decide) (by decide)
  have given := file.1.plain.1
  have short := file.1.take le_rfl
  rw [applyTunnelSettings, usable.server.1.take le_rfl]
  exact applyTunnelTls_file given short r.tunnelTls

theorem mainWithDeviceRegistration_arguments (usable : Usable o server) (tunnelPort : ℕ)
    (tunnelTls : Bool) :
    mainWithDeviceRegistration (program :: arguments o server) (answer o tunnelPort tunnelTls)
        (withOutput o t) =
      some (⟨o.deviceId, o.token, server, o.registrationPort, true, "server.crt".toList⟩,
        { withOutput o t with
          inputAddress := server
          inputPort := connectPort (deviceArgs o server) tunnelPort
          outputAddress := (target o).1
          outputPort := (target o).2
          enableSsl := tunnelTls
          caFile := if tunnelTls then "server.crt".toList else [] }) := by
  have tunnel := applyTunnelSettings_meant usable (answer o tunnelPort tunnelTls)
    (t := withOutput o t)
  have address := congrArg ClientSettings.outputAddress tunnel
  have port := congrArg ClientSettings.outputPort tunnel
  have settings := applyOutput_meant usable tunnelPort tunnelTls address port
  have host := usable.server.1.take (k := 256) (by decide)
  have id := usable.deviceId.take le_rfl
  have token := usable.token.1.take le_rfl
  rw [mainWithDeviceRegistration]
  simp only [List.tail_cons, readDeviceArgs_arguments usable]
  change (applyOutput (arguments o server) (answer o tunnelPort tunnelTls)
    (applyTunnelSettings (deviceArgs o server) (server.take 256) (answer o tunnelPort tunnelTls)
      (withOutput o t)) >>= fun settings => some (Credentials.mk (o.deviceId.take 64)
        (o.token.take 256) (server.take 256) o.registrationPort true "server.crt".toList,
        settings)) = _
  rw [host, id, token, settings, tunnel]
  rfl

/-- A key that the command does not use is not among its arguments. -/
theorem arguments_lacks (usable : Usable o server) {flag : String} (dash : '-' ∈ flag.toList)
    (key : flag ∈ wholeKeys) (fixed : flag ∉ ["--device-id", "--device-token",
      "--registration-server", "--registration-port", "--registration-ca-file", "server.crt",
      "--port-host-base", "--connections"])
    (output : flag ∉ ["--host_out", "-p_out"]) : (arguments o server).any (is flag) = false := by
  rw [arguments_any usable flag dash (usable.inert.2 flag key) (is_never fixed),
    outputArguments_any usable dash]
  have other := is_never output
  simp only [List.forall_mem_cons] at other
  rw [other.1, other.2.1]
  cases truthyPort o.internalPort <;> rfl

theorem main_arguments (usable : Usable o server) (tunnelPort : ℕ) (tunnelTls : Bool) :
    main junk (program :: arguments o server) (answer o tunnelPort tunnelTls) =
      .device (some (meant o server tunnelPort tunnelTls)) := by
  have check : (arguments o server).any (is "--check-update") = false :=
    arguments_lacks usable (mem_dashed _) (by simp [wholeKeys, optionKeys]) (by simp) (by simp)
  have auto : (arguments o server).any (is "--auto-update") = false :=
    arguments_lacks usable (mem_dashed _) (by simp [wholeKeys, optionKeys]) (by simp) (by simp)
  have read : readArguments junk (1 + (arguments o server).length)
      ⟨initialSettings, true, false, arguments o server⟩ = _ :=
    readArguments_arguments usable
  have started := mainWithDeviceRegistration_arguments usable tunnelPort tunnelTls
    (t := { initialSettings with connectionsCount := normalizeConnections o.connections })
  rw [main, List.length_cons, Nat.add_comm, List.tail_cons, read]
  simp only [Bool.false_eq_true, if_false, check, auto, Bool.or_self, if_true, started, meant,
    ← connectPort_meant o server]
  rw [withOutput_only]
  rfl

/-- The shell splits the command that the page shows into the arguments that are meant, and the
client, given the address of the server, registers as the device with its token and then connects
its tunnel and its target as they are configured. -/
theorem command_configures (usable : Usable o server) (tunnelPort : ℕ) (tunnelTls : Bool) :
    words shell (buildDeviceClientCommand o) = some (program :: arguments o "SERVER_IP".toList) ∧
      main junk (program :: arguments o server) (answer o tunnelPort tunnelTls) =
        .device (some (meant o server tunnelPort tunnelTls)) :=
  ⟨words_command usable, main_arguments usable tunnelPort tunnelTls⟩

def gateway : Options where
  deviceId := "gw-01".toList
  token := "5f0c".toList
  internalPort := some 8080
  internalAddress := some "10.0.0.5".toList
  registrationPort := 8443
  portHostBase := some 49000
  connections := none

theorem command_configures_gateway :
    words shell (buildDeviceClientCommand gateway) =
        some (program :: arguments gateway "SERVER_IP".toList) ∧
      main 0 (program :: arguments gateway "192.168.1.2".toList) (answer gateway 6003 true) =
        .device (some (meant gateway "192.168.1.2".toList 6003 true)) := by
  refine command_configures ?_ 6003 true
  have address (a : Word) (known : truthyText gateway.internalAddress = some a) :
      Fits 31 a ∧ '-' ∉ a := by
    have same : "10.0.0.5".toList = a := Option.some.inj known
    subst same
    exact fits_literal _ (plain_literal _ rfl) (by decide) (by decide)
  have base (b : ℕ) (known : truthyPort gateway.portHostBase = some b) : b < 2 ^ 16 := by
    have same : 49000 = b := Option.some.inj known
    omega
  constructor
  · exact ⟨plain_literal _ rfl, by decide⟩
  · have parts : ∀ k ∈ ["gw-01"], ∀ part ∈ partKeys, strstr part k.toList = false :=
      strstr_literals [_, _, _, _, _] [_] rfl
    exact ⟨parts _ List.mem_cons_self, is_none (by simp [wholeKeys, optionKeys])⟩
  · exact fits_literal _ (plain_literal _ rfl) (by decide) (by decide)
  · exact fits_literal _ (plain_literal _ rfl) (by decide) (by decide)
  · exact address
  · decide
  · exact base

/-- The backend lets a device id contain a key of the client. With `-p_out` inside, the client takes
the next argument for a port and ends. -/
theorem command_refused (o : Options) (server : Word) (r : Registered)
    (inside : strstr "-p_out" o.deviceId = true)
    (alone : ∀ k ∈ partKeys, k ≠ "-p_out" → strstr k o.deviceId = false) :
    main junk (program :: arguments o server) r = .exits (-1) := by
  have stored : storePort (fun n => { initialSettings with outputPort := n })
      "--device-token".toList = .error (-1) := by
    have letters : "--device-token".toList = '-' :: '-' :: "device-token".toList :=
      toList_dashes "device-token"
    have number : scanUnsigned "--device-token".toList = none := by
      rw [letters]
      rfl
    rw [storePort, number]
    rfl
  have off {k : String} (mem : k ∈ partKeys) (other : k ≠ "-p_out") : strstr k o.deviceId = false :=
    alone k mem other
  have fails {rest : List Word} {n : ℕ} : readArguments junk (n + 1)
      ⟨initialSettings, false, true, o.deviceId :: "--device-token".toList :: rest⟩ =
        .error (-1) := by
    have read : readAddresses junk
        ⟨initialSettings, false, true, o.deviceId :: "--device-token".toList :: rest⟩ =
          .error (-1) := by
      rw [readAddresses, verbose_off (off (by simp [partKeys]) (by simp)), ok_bind,
        withValue_off (off (by simp [partKeys]) (by simp)), ok_bind,
        withValue_off (off (by simp [partKeys]) (by simp)), ok_bind,
        withValue_off (off (by simp [partKeys]) (by simp)), ok_bind]
      simp only [withValue, inside, if_true, stored]
      rfl
    rw [readArguments, readArgument, read]
    rfl
  have fuel : (program :: arguments o server).length =
      (outputArguments o).length + (hostArguments o).length + 11 + 1 + 1 := by
    simp only [arguments, List.length_append, List.length_cons, List.length_nil]
    omega
  have read : readArguments junk (program :: arguments o server).length
      ⟨initialSettings, true, false, arguments o server⟩ = .error (-1) := by
    rw [fuel]
    simp only [arguments, List.append_assoc, List.cons_append, List.nil_append]
    rw [readArguments_deviceId, fails]
  rw [main, List.tail_cons, read]

theorem command_refused_pump : main 0
    (program :: arguments { gateway with deviceId := "pump-p_out".toList } "192.168.1.2".toList)
    (answer gateway 6003 true) = .exits (-1) :=
  command_refused _ _ _ (strstr_literal _ _) (by decide +kernel)

end ClientCommand
