import Mathlib.Logic.Function.Basic
import NetPort.StepRuns

/-! The connection slots of one server runtime, its two acceptors and the handler threads that they
create. Every access to a flag or a descriptor of a slot and every call on a socket is a step;
the rest of the process opens and closes descriptors between any two. -/
namespace TunnelSlots

open StepRuns

/-- `input` is the user's side and `output` the device's. -/
inductive Side where
  | input
  | output
  deriving DecidableEq, Repr

/-- What a descriptor names. Connections are numbered in the order of their arrival. -/
inductive File where
  | connection (side : Side) (n : ℕ)
  | other
  deriving DecidableEq, Repr

/-- `*_local`, `is_*_connected` and `ssl_*` of one side: -1 and NULL are `none`, and an SSL object
is the descriptor that `SSL_set_fd` gave it. -/
structure Local where
  socket : Option ℕ
  connected : Bool
  ssl : Option (Option ℕ)
  deriving DecidableEq, Repr

/-- Where and for whom a byte of `output_buf` was read: the file, and the user whose connection was
in the slot. -/
structure Reading where
  source : File
  pairedWith : Option ℕ
  deriving DecidableEq, Repr

/-- `proxy_server_local_socket_data_t`. What the users send is not followed. -/
structure Slot where
  input : Local
  output : Local
  closeOutputSocket : Bool
  outputBuf : ℕ → Option Reading

def Slot.get (v : Slot) : Side → Local
  | .input => v.input
  | .output => v.output

def Slot.set (v : Slot) (side : Side) (l : Local) : Slot :=
  match side with
  | .input => { v with input := l }
  | .output => { v with output := l }

/-- How a handler comes to its end: no context or SSL object, a failed handshake, an `SSL_read`
error, or the loop is over. -/
inductive Leave where
  | unready
  | refused
  | broken
  | ended
  deriving DecidableEq, Repr

inductive Start where
  | created
  | started
  | binding
  | handshaking
  deriving DecidableEq, Repr

/-- The loop of `connection_input_handler`; `last` is `done_output_connection`. -/
inductive InputLoop where
  | selecting
  | reading
  | receiving (fd : ℕ)
  | draining
  | pairing (last : Bool)
  | forwarding (last : Bool)
  deriving DecidableEq, Repr

/-- `sent`, `len_epdu` and `done_output_connection`. -/
structure Batch where
  sent : ℕ
  len : ℕ
  last : Bool
  deriving DecidableEq, Repr

/-- The loop of `connection_output_handler`. -/
inductive OutputLoop where
  | looping
  | selecting
  | reading
  | receiving (fd : ℕ)
  | waiting (len : ℕ)
  | polling (len : ℕ)
  | sending (b : Batch)
  | writing (fd : ℕ) (b : Batch)
  | failed (b : Batch)
  | retrying (b : Batch)
  | rechecking (b : Batch)
  deriving DecidableEq, Repr

/-- From the loop to `return`. -/
inductive Exit where
  | freeing (l : Leave)
  | closing (l : Leave)
  | closingFd (l : Leave) (fd : ℕ)
  | erasing (l : Leave)
  | asking
  | leaving (l : Leave)
  | resetting
  | returning
  deriving DecidableEq, Repr

inductive Phase where
  | start (p : Start)
  | input (p : InputLoop)
  | output (p : OutputLoop)
  | exit (p : Exit)
  | returned
  deriving DecidableEq, Repr

structure Handler where
  slot : ℕ
  side : Side
  phase : Phase
  deriving DecidableEq, Repr

/-- The next access of `serverInputThread` or `serverOutputThread`. -/
inductive Acceptor where
  | waiting
  | scanning (fd slot : ℕ)
  | testing (fd slot : ℕ)
  | found (fd slot : ℕ)
  | stored (fd slot : ℕ)
  deriving DecidableEq, Repr

structure Runtime where
  localSockets : ℕ → Slot
  handlers : List Handler
  acceptors : Side → Acceptor
  files : ℕ → Option File
  arrived : ℕ
  /-- what the output handlers wrote to users' connections -/
  delivered : List (Option Reading × ℕ)

/-- `enable_input_ssl`, `enable_output_ssl` and whether there is an `ssl_ctx`. -/
structure Modes where
  enableInputSsl : Bool
  enableOutputSsl : Bool
  sslCtx : Bool

def Modes.ssl (m : Modes) : Side → Bool
  | .input => m.enableInputSsl
  | .output => m.enableOutputSsl

/-- What the system or OpenSSL answers: success, an error, a time-out or a call to be made again, an
error after which the SSL object is freed, or a number of bytes. -/
inductive Choice where
  | ok
  | fail
  | again
  | broken
  | bytes (n : ℕ)
  deriving DecidableEq, Repr

inductive Action where
  | accept (side : Side) (fd : ℕ) (nonBlocking : Bool)
  | acceptor (side : Side) (c : Choice)
  | handler (i : ℕ) (c : Choice)
  | opened (fd : ℕ) (side : Option Side)
  | closed (fd : ℕ)
  deriving DecidableEq, Repr

namespace Runtime

def pairedWith (s : Runtime) (k : ℕ) : Option ℕ :=
  match (s.localSockets k).input.socket.bind s.files with
  | some (.connection .input n) => some n
  | _ => none

def slot (s : Runtime) (h : Handler) : Slot := s.localSockets h.slot

def own (s : Runtime) (h : Handler) : Local := (s.slot h).get h.side

def setSlot (s : Runtime) (k : ℕ) (v : Slot) : Runtime :=
  { s with localSockets := Function.update s.localSockets k v }

def setOwn (s : Runtime) (h : Handler) (l : Local) : Runtime :=
  s.setSlot h.slot ((s.slot h).set h.side l)

def goto (s : Runtime) (i : ℕ) (h : Handler) (p : Phase) : Runtime :=
  { s with handlers := s.handlers.set i { h with phase := p } }

def close (s : Runtime) (fd : ℕ) : Runtime :=
  { s with files := Function.update s.files fd none }

/-- A descriptor for a connection that arrives, or for anything else. -/
def arrive (s : Runtime) (fd : ℕ) (side : Option Side) : Runtime :=
  { s with
    files := Function.update s.files fd
      (some (match side with
        | some side => .connection side s.arrived
        | none => .other))
    arrived := s.arrived + 1 }

def setAcceptor (s : Runtime) (side : Side) (a : Acceptor) : Runtime :=
  { s with acceptors := Function.update s.acceptors side a }

def create (s : Runtime) (k : ℕ) (side : Side) : Runtime :=
  { s with handlers := s.handlers ++ [⟨k, side, .start .created⟩] }

/-- The `len` bytes that a read from `fd` leaves in `output_buf`. -/
def receive (s : Runtime) (k : ℕ) (source : File) (len : ℕ) : Runtime :=
  let v := s.localSockets k
  s.setSlot k { v with
    outputBuf := fun j => if j < len then some ⟨source, s.pairedWith k⟩ else v.outputBuf j }

/-- `output_buf` from `sent` on reaches the connection that `fd` names. -/
def deliver (s : Runtime) (k fd sent n : ℕ) : Runtime :=
  match s.files fd with
  | some (.connection .input u) =>
    { s with
      delivered := s.delivered ++
        (List.range n).map fun j => ((s.localSockets k).outputBuf (sent + j), u) }
  | _ => s

end Runtime

def Side.top : Side → Phase
  | .input => .input .selecting
  | .output => .output .looping

/-- The loop's `while` after the send loop. -/
def afterSend (side : Side) (last : Bool) : Phase :=
  if last then .exit (.freeing .ended) else side.top

def startUp (m : Modes) (s : Runtime) (i : ℕ) (h : Handler) : Start → Choice → Option Runtime
  | .created, .ok =>
    some ((s.setOwn h { s.own h with connected := true }).goto i h (.start .started))
  | .started, .ok =>
    if m.ssl h.side then
      if m.sslCtx then
        some ((s.setOwn h { s.own h with ssl := some none }).goto i h (.start .binding))
      else none
    else some (s.goto i h h.side.top)
  | .started, .fail =>
    if m.ssl h.side then
      if m.sslCtx then
        some ((s.setOwn h { s.own h with ssl := none }).goto i h (.exit (.closing .unready)))
      else some (s.goto i h (.exit (.closing .unready)))
    else none
  | .binding, .ok =>
    some ((s.setOwn h { s.own h with ssl := (s.own h).ssl.map fun _ => (s.own h).socket }).goto i h
      (.start .handshaking))
  | .handshaking, .ok => some (s.goto i h h.side.top)
  | .handshaking, .fail => some (s.goto i h (.exit (.freeing .refused)))
  | _, _ => none

/-- The user's side. `120` seconds without the device end the wait and the loop. -/
def inputLoop (m : Modes) (s : Runtime) (i : ℕ) (h : Handler) : InputLoop → Choice → Option Runtime
  | .selecting, .ok => some (s.goto i h (.input .reading))
  | .selecting, .again => some s
  | .selecting, .fail => some (s.goto i h (.exit (.freeing .ended)))
  | .reading, c =>
    if m.enableInputSsl then
      match c with
      | .bytes _ => some (s.goto i h (.input .draining))
      | .again => some (s.goto i h (.input .selecting))
      | .fail => some (s.goto i h (.exit (.freeing .ended)))
      | .broken => some (s.goto i h (.exit (.freeing .broken)))
      | .ok => none
    else
      match (s.slot h).input.socket with
      | some fd => some (s.goto i h (.input (.receiving fd)))
      | none => some (s.goto i h (.exit (.freeing .ended)))
  | .receiving _, .bytes _ => some (s.goto i h (.input .draining))
  | .receiving _, .fail => some (s.goto i h (.exit (.freeing .ended)))
  | .draining, .ok =>
    if (s.slot h).closeOutputSocket then some s else some (s.goto i h (.input (.pairing false)))
  | .draining, .fail => some (s.goto i h (.input (.pairing true)))
  | .pairing last, .ok =>
    if (s.slot h).output.connected then some (s.goto i h (.input (.forwarding last))) else some s
  | .pairing _, .fail => some (s.goto i h (.input (.forwarding true)))
  -- one pass of the send loop to the device, and its end
  | .forwarding _, .again => some s
  | .forwarding _, .broken =>
    if m.enableOutputSsl then
      some (s.setSlot h.slot { s.slot h with output := { (s.slot h).output with ssl := none } })
    else none
  | .forwarding last, .ok => some (s.goto i h (afterSend .input last))
  | _, _ => none

/-- After `n` bytes have gone to the user. -/
def afterWrite (s : Runtime) (i : ℕ) (h : Handler) (b : Batch) (n : ℕ) : Runtime :=
  if b.len ≤ b.sent + n then s.goto i h (afterSend .output b.last)
  else s.goto i h (.output (.sending { b with sent := b.sent + n }))

/-- A write of `n` bytes from `output_buf` to the socket `fd`, -1 when it is no connection. -/
def write (s : Runtime) (i : ℕ) (h : Handler) (fd : ℕ) (b : Batch) (n : ℕ) : Option Runtime :=
  match s.files fd with
  | some (.connection _ _) =>
    if b.sent + n ≤ b.len then some (afterWrite (s.deliver h.slot fd b.sent n) i h b n) else none
  | _ => none

/-- A read of up to 4096 bytes from the socket `fd` into `output_buf`. -/
def read (s : Runtime) (i : ℕ) (h : Handler) (fd n : ℕ) : Option Runtime :=
  match s.files fd with
  | some (.connection side d) =>
    if 0 < n ∧ n ≤ 4096 then
      some ((s.receive h.slot (.connection side d) n).goto i h (.output (.waiting n)))
    else none
  | _ => none

/-- `SSL_read` or the start of `recv`. -/
def readOutput (m : Modes) (s : Runtime) (i : ℕ) (h : Handler) (c : Choice) : Option Runtime :=
  if m.enableOutputSsl then
    match c with
    | .bytes n => (s.slot h).output.ssl.join.bind fun fd => read s i h fd n
    | .again => some (s.goto i h (.output .looping))
    | .fail => some (s.goto i h (.exit (.freeing .ended)))
    | .broken => some (s.goto i h (.exit (.freeing .broken)))
    | .ok => none
  else
    match (s.slot h).output.socket with
    | some fd => some (s.goto i h (.output (.receiving fd)))
    | none => some (s.goto i h (.exit (.freeing .ended)))

/-- `SSL_write` or the start of `send`. -/
def sendInput (m : Modes) (s : Runtime) (i : ℕ) (h : Handler) (b : Batch) (c : Choice) :
    Option Runtime :=
  if m.enableInputSsl then
    match (s.slot h).input.ssl with
    | none => some (s.goto i h (afterSend .output b.last))
    | some object =>
      match c with
      | .bytes n => object.bind fun fd => write s i h fd b n
      | .fail => some (s.goto i h (.output (.failed b)))
      | .broken =>
        some ((s.setSlot h.slot
          { s.slot h with input := { (s.slot h).input with ssl := none } }).goto i h
            (.output (.failed b)))
      | _ => none
  else
    match (s.slot h).input.socket with
    | some fd => some (s.goto i h (.output (.writing fd b)))
    | none => some (s.goto i h (.output (.failed b)))

def outputLoop (m : Modes) (s : Runtime) (i : ℕ) (h : Handler) :
    OutputLoop → Choice → Option Runtime
  | .looping, .ok =>
    if (s.slot h).closeOutputSocket then some (s.goto i h (.exit (.freeing .ended)))
    else some (s.goto i h (.output .selecting))
  | .selecting, .ok => some (s.goto i h (.output .reading))
  | .selecting, .again => some (s.goto i h (.output .looping))
  | .selecting, .fail => some (s.goto i h (.exit (.freeing .ended)))
  | .reading, c => readOutput m s i h c
  | .receiving fd, .bytes n => read s i h fd n
  | .receiving _, .fail => some (s.goto i h (.exit (.freeing .ended)))
  | .waiting len, .ok =>
    if (s.slot h).input.connected then some (s.goto i h (.output (.sending ⟨0, len, false⟩)))
    else some (s.goto i h (.output (.polling len)))
  | .polling len, .ok =>
    -- the send loop is entered even so
    if (s.slot h).closeOutputSocket then some (s.goto i h (.output (.sending ⟨0, len, true⟩)))
    else some (s.goto i h (.output (.waiting len)))
  | .sending b, c => sendInput m s i h b c
  | .writing fd b, .bytes n => write s i h fd b n
  | .writing _ b, .fail => some (s.goto i h (.output (.failed b)))
  -- `SSL_write` may return 0; -1 is followed by a look at `errno`
  | .failed b, .ok => if m.enableInputSsl then some (s.goto i h (.output (.sending b))) else none
  | .failed b, .again => some (s.goto i h (.output (.retrying b)))
  | .failed b, .fail => some (s.goto i h (afterSend .output b.last))
  | .retrying b, .ok =>
    if (s.slot h).input.connected then some (s.goto i h (.output (.rechecking b)))
    else some (s.goto i h (afterSend .output b.last))
  | .retrying b, .fail => some (s.goto i h (afterSend .output b.last))
  | .rechecking b, .ok =>
    if (s.slot h).closeOutputSocket then some (s.goto i h (afterSend .output b.last))
    else some (s.goto i h (.output (.sending b)))
  | _, _ => none

/-- What follows `*_local = -1`. -/
def Leave.rest (side : Side) : Leave → Exit
  | .broken => .freeing .ended
  | .ended => if side = .input then .asking else .leaving .ended
  | l => .leaving l

def leave (s : Runtime) (i : ℕ) (h : Handler) : Exit → Option Runtime
  | .freeing l =>
    some ((s.setOwn h { s.own h with ssl := none }).goto i h (.exit (.closing l)))
  | .closing l =>
    match (s.own h).socket with
    | some fd => some (s.goto i h (.exit (.closingFd l fd)))
    | none => some (s.goto i h (.exit (l.rest h.side)))
  | .closingFd l fd =>
    -- without a context or an SSL object the number stays
    some ((s.close fd).goto i h (.exit (if l = .unready then .leaving l else .erasing l)))
  | .erasing l =>
    some ((s.setOwn h { s.own h with socket := none }).goto i h (.exit (l.rest h.side)))
  | .asking =>
    some ((s.setSlot h.slot { s.slot h with closeOutputSocket := true }).goto i h
      (.exit (.leaving .ended)))
  | .leaving l =>
    some ((s.setOwn h { s.own h with connected := false }).goto i h
      (.exit (if l = .ended ∧ h.side = .output then .resetting else .returning)))
  | .resetting =>
    some ((s.setSlot h.slot { s.slot h with closeOutputSocket := false }).goto i h
      (.exit .returning))
  | .returning => some (s.goto i h .returned)

/-- One step of `connection_input_handler` or `connection_output_handler`. -/
def handlerStep (m : Modes) (s : Runtime) (i : ℕ) (h : Handler) (c : Choice) : Option Runtime :=
  match h.phase with
  | .start p => startUp m s i h p c
  | .input p => inputLoop m s i h p c
  | .output p => outputLoop m s i h p c
  | .exit p => leave s i h p
  | .returned => none

/-- The first access of `get_input_socket_with_output` or `get_free_output_socket` to a slot. -/
def Side.examine (side : Side) (fd slot : ℕ) : Acceptor :=
  match side with
  | .input => .scanning fd slot
  | .output => .testing fd slot

/-- `get_*_socket` past the last slot: the connection is closed. -/
def examineNext (count : ℕ) (s : Runtime) (side : Side) (fd slot : ℕ) : Runtime :=
  if slot < count then s.setAcceptor side (side.examine fd slot)
  else (s.close fd).setAcceptor side .waiting

/-- One step of `serverInputThread` or `serverOutputThread` after `accept`. -/
def acceptorStep (count : ℕ) (s : Runtime) (side : Side) (c : Choice) : Option Runtime :=
  match s.acceptors side with
  | .waiting => none
  | .scanning fd k =>
    if (s.localSockets k).output.connected then some (s.setAcceptor side (.testing fd k))
    else some (examineNext count s side fd (k + 1))
  | .testing fd k =>
    if ((s.localSockets k).get side).connected then some (examineNext count s side fd (k + 1))
    else some (s.setAcceptor side (.found fd k))
  | .found fd k =>
    let v := s.localSockets k
    some ((s.setSlot k (v.set side { v.get side with socket := some fd })).setAcceptor side
      (.stored fd k))
  | .stored fd k =>
    match c with
    | .ok => some ((s.create k side).setAcceptor side .waiting)
    -- `Thread_create` returned NULL, which only the input acceptor answers with a `close`
    | .fail =>
      some (if side = .input then (s.close fd).setAcceptor side .waiting
        else s.setAcceptor side .waiting)
    -- `pthread_create` failed, which nothing looks at
    | .again => some (s.setAcceptor side .waiting)
    | _ => none

/-- `count` is `COUNT_SOCKET_THREAD`. -/
def step (count : ℕ) (m : Modes) (s : Runtime) : Action → Option Runtime
  | .accept side fd nonBlocking =>
    if s.acceptors side = .waiting ∧ s.files fd = none then
      -- a connection that cannot be made non-blocking is closed again
      if nonBlocking then some (examineNext count (s.arrive fd (some side)) side fd 0)
      else some { s with arrived := s.arrived + 1 }
    else none
  | .acceptor side c => acceptorStep count s side c
  | .handler i c => s.handlers[i]?.bind fun h => handlerStep m s i h c
  | .opened fd side => if s.files fd = none then some (s.arrive fd side) else none
  | .closed fd => some (s.close fd)

/-- A slot after `memset`. -/
def Slot.zero : Slot := ⟨⟨some 0, false, none⟩, ⟨some 0, false, none⟩, false, fun _ => none⟩

/-- A runtime that has been created; 0 is the standard input, and the connections that are open
elsewhere are different ones. -/
structure Initial (s : Runtime) : Prop where
  slots : s.localSockets = fun _ => .zero
  handlers : s.handlers = []
  acceptors : s.acceptors = fun _ => .waiting
  standardInput : s.files 0 = some .other
  numbered : ∀ fd side n, s.files fd = some (.connection side n) → n < s.arrived
  different : ∀ fd fd' side n, s.files fd = some (.connection side n) →
    s.files fd' = some (.connection side n) → fd = fd'
  delivered : s.delivered = []

def tunnel (count : ℕ) (m : Modes) : System Runtime Action where
  initial := Initial
  enabled s a := (step count m s a).isSome
  next s a := (step count m s a).getD s

instance (count : ℕ) (m : Modes) (s : Runtime) (a : Action) :
    Decidable ((tunnel count m).enabled s a) :=
  inferInstanceAs (Decidable ((step count m s a).isSome = true))

end TunnelSlots
