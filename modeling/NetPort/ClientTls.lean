import NetPort.StepRuns

/-! The TLS side of one connection of the client: what the input thread and the output thread do
to its two sockets and SSL pointers, and how settings from the server change the flags by which
each write chooses between `SSL_write` and `send`. -/
namespace ClientTls

open StepRuns

structure Side where
  /-- -1 is `none`; an open socket has been through a TLS handshake or not -/
  socket : Option Bool
  /-- NULL is `none`; an object belongs to the open socket or to an earlier one -/
  ssl : Option Bool
  deriving DecidableEq, Repr

namespace Side

def opened (d : Side) : Side := ⟨some false, d.ssl.map fun _ => false⟩

def closed (d : Side) : Side := { d with socket := none }

/-- `SSL_free`, and the pointer is NULL. -/
def freed (d : Side) : Side := { d with ssl := none }

/-- `SSL_new` and `SSL_set_fd`; on failure the socket is closed. -/
def sslNew (d : Side) (created : Bool) : Side :=
  if created then { d with ssl := some true } else ⟨none, none⟩

/-- `SSL_connect`; on failure both are given up. -/
def sslConnect (d : Side) (accepted : Bool) : Side :=
  if accepted then { d with socket := some true } else ⟨none, none⟩

end Side

/-- Where a thread stands. `restarting` and `awaiting` occur in the input thread only. -/
inductive Thread where
  | ended
  | restarting
  | connecting
  | connected
  | handshake
  | reading
  | awaiting
  | sending
  | writing (ssl : Bool)
  | leaving
  | closing
  deriving DecidableEq, Repr

def Thread.sends : Thread → Bool
  | .sending => true
  | .writing _ => true
  | _ => false

/-- A write of relayed bytes that the socket took. -/
structure Written where
  tunnel : Bool
  /-- the connection was established with TLS -/
  established : Bool
  ssl : Bool
  /-- through the SSL object of this connection -/
  own : Bool
  /-- `tunnel_tls` of the last settings received -/
  tunnelTls : Bool
  deriving DecidableEq, Repr

structure Client where
  enableSsl : Bool
  enableOutputSsl : Bool
  /-- `ssl_ctx` is not NULL -/
  sslCtx : Bool
  /-- `ca_file` is not empty -/
  caFile : Bool
  /-- `g_registration_ca_file` is not empty -/
  registrationCaFile : Bool
  /-- `g_device_state.tunnel_tls` -/
  tunnelTls : Bool
  tunnel : Side
  output : Side
  inputThread : Thread
  outputThread : Thread
  written : List Written
  deriving DecidableEq, Repr

def ensureClientSslContext (s : Client) (created : Bool) : Client :=
  if !(s.enableSsl || s.enableOutputSsl) then { s with sslCtx := false }
  else if s.sslCtx then s
  else if s.caFile && created then { s with sslCtx := true }
  else { s with enableSsl := false, enableOutputSsl := false }

def applyTunnelTlsClientSettings (s : Client) : Client :=
  if !s.tunnelTls then { s with enableSsl := false, caFile := false }
  else if !s.registrationCaFile then s
  else { s with enableSsl := true, caFile := true }

/-- What one write finds. `again` is the condition of the send loop. -/
inductive Outcome where
  | taken (again : Bool)
  /-- nothing was taken: `EAGAIN`, `WANT_READ`, a closed connection, an error of `send` -/
  | refused (again : Bool)
  /-- any other error of `SSL_write` -/
  | sslError
  deriving DecidableEq, Repr

/-- Such a write is possible: bytes are taken by an open socket only, and `SSL_write` needs an
object. -/
def Side.Writes (d : Side) (ssl : Bool) : Outcome → Prop
  | .taken _ => d.socket ≠ none ∧ (ssl = true → d.ssl ≠ none)
  | .refused _ => True
  | .sslError => ssl = true

instance (d : Side) (ssl : Bool) (o : Outcome) : Decidable (d.Writes ssl o) := by
  rcases o <;> dsimp only [Side.Writes] <;> infer_instance

def Side.write (d : Side) : Outcome → Side
  | .sslError => d.freed
  | _ => d

def Outcome.next : Outcome → Thread
  | .taken again => if again then .sending else .reading
  | .refused again => if again then .sending else .reading
  | .sslError => .reading

def Side.log (d : Side) (tunnel ssl tunnelTls : Bool) : Outcome → List Written
  | .taken _ => [⟨tunnel, d.socket == some true, ssl, ssl && d.ssl == some true, tunnelTls⟩]
  | _ => []

inductive Action where
  -- server_input_thread
  | restartInput
  | connectInput
  | stopInput
  | sslNewInput (created : Bool)
  | plainInput
  | sslConnectInput (accepted : Bool)
  | dropInput
  | closeOutput
  | sslReadErrorInput
  | leaveInput
  | freeInput
  | closeInput (again : Bool)
  | receiveInput
  | serverOutputStart
  | outputRunning
  | outputTimeout
  | chooseOutput
  | writeOutput (o : Outcome)
  -- server_output_thread
  | connectOutput
  | stopOutput
  | sslNewOutput (created : Bool)
  | plainOutput
  | sslConnectOutput (accepted : Bool)
  | receiveOutput
  | sslReadErrorOutput
  | leaveOutput
  | freeOutput
  | endOutput
  | chooseTunnel
  | writeTunnel (o : Outcome)
  -- settings of the server
  | receiveSettings (tunnelTls : Bool)
  | applySettings
  | refreshClientSslContext (created : Bool)
  | closeSockets
  | serverInputStart
  deriving DecidableEq, Repr

/-- Where each thread must stand for an action. Errors, timeouts and stop requests may come at
any time. -/
def Enabled (s : Client) : Action → Prop
  | .restartInput => s.inputThread = .restarting
  | .connectInput => s.inputThread = .connecting
  | .stopInput =>
    s.inputThread = .restarting ∨ s.inputThread = .connecting ∨ s.inputThread = .connected
  | .sslNewInput created =>
    s.inputThread = .connected ∧ s.enableSsl = true ∧ (created = true → s.sslCtx = true)
  | .plainInput => s.inputThread = .connected ∧ s.enableSsl = false
  | .sslConnectInput accepted =>
    s.inputThread = .handshake ∧ (accepted = true → s.tunnel.socket ≠ none ∧ s.tunnel.ssl ≠ none)
  | .dropInput => s.inputThread = .reading
  | .closeOutput => s.inputThread = .restarting
  | .sslReadErrorInput => s.inputThread = .reading ∧ s.enableSsl = true
  | .leaveInput => s.inputThread = .reading
  | .freeInput => s.inputThread = .leaving
  | .closeInput _ => s.inputThread = .closing
  | .receiveInput => s.inputThread = .reading
  | .serverOutputStart => s.inputThread = .awaiting ∧ s.outputThread = .ended
  | .outputRunning =>
    s.inputThread = .awaiting ∧ s.outputThread ≠ .ended ∧ s.outputThread ≠ .connecting ∧
      s.outputThread ≠ .connected ∧ s.outputThread ≠ .handshake
  | .outputTimeout => s.inputThread = .awaiting
  | .chooseOutput => s.inputThread = .sending
  | .writeOutput o =>
    (s.inputThread = .writing true ∧ s.output.Writes true o) ∨
      (s.inputThread = .writing false ∧ s.output.Writes false o)
  | .connectOutput => s.outputThread = .connecting
  | .stopOutput => s.outputThread = .connecting ∨ s.outputThread = .connected
  | .sslNewOutput created =>
    s.outputThread = .connected ∧ s.enableOutputSsl = true ∧ (created = true → s.sslCtx = true)
  | .plainOutput => s.outputThread = .connected ∧ s.enableOutputSsl = false
  | .sslConnectOutput accepted =>
    s.outputThread = .handshake ∧ (accepted = true → s.output.socket ≠ none ∧ s.output.ssl ≠ none)
  | .receiveOutput => s.outputThread = .reading
  | .sslReadErrorOutput => s.outputThread = .reading ∧ s.enableOutputSsl = true
  | .leaveOutput => s.outputThread = .reading
  | .freeOutput => s.outputThread = .leaving
  | .endOutput => s.outputThread = .closing
  | .chooseTunnel => s.outputThread = .sending
  | .writeTunnel o =>
    (s.outputThread = .writing true ∧ s.tunnel.Writes true o) ∨
      (s.outputThread = .writing false ∧ s.tunnel.Writes false o)
  | .receiveSettings _ => True
  | .applySettings => True
  | .refreshClientSslContext _ => True
  | .closeSockets => True
  | .serverInputStart => True

instance (s : Client) (a : Action) : Decidable (Enabled s a) := by
  rcases a <;> dsimp only [Enabled] <;> infer_instance

/-- The send loop has chosen `SSL_write`. -/
def Thread.chosen : Thread → Bool
  | .writing ssl => ssl
  | _ => false

/-- The input thread leaves its pointer alone when it drops a connection; the pointer then belongs
to an earlier socket as soon as the next one is opened. A start of the input thread puts it at the
beginning, whatever became of the one before. -/
def next (s : Client) : Action → Client
  | .restartInput => { s with tunnel := s.tunnel.closed, inputThread := .connecting }
  | .connectInput => { s with tunnel := s.tunnel.opened, inputThread := .connected }
  | .stopInput => { s with tunnel := s.tunnel.closed, inputThread := .ended }
  | .sslNewInput created =>
    { s with
      tunnel := s.tunnel.sslNew created
      inputThread := if created then .handshake else .restarting }
  | .plainInput => { s with inputThread := .reading }
  | .sslConnectInput accepted =>
    { s with
      tunnel := s.tunnel.sslConnect accepted
      inputThread := if accepted then .reading else .restarting }
  | .dropInput => { s with tunnel := s.tunnel.closed, inputThread := .restarting }
  | .closeOutput => { s with output := s.output.closed }
  | .sslReadErrorInput => { s with tunnel := s.tunnel.freed, inputThread := .closing }
  | .leaveInput => { s with inputThread := .leaving }
  | .freeInput =>
    { s with
      tunnel := if s.enableSsl then s.tunnel.freed else s.tunnel
      inputThread := .closing }
  | .closeInput again =>
    { s with
      tunnel := s.tunnel.closed
      inputThread := if again then .restarting else .ended }
  | .receiveInput => { s with inputThread := .awaiting }
  | .serverOutputStart => { s with outputThread := .connecting }
  | .outputRunning => { s with inputThread := .sending }
  | .outputTimeout => { s with inputThread := .restarting }
  | .chooseOutput =>
    { s with inputThread := .writing (s.enableOutputSsl && s.output.ssl.isSome) }
  | .writeOutput o =>
    { s with
      output := s.output.write o
      inputThread := o.next
      written := s.written ++ s.output.log false s.inputThread.chosen s.tunnelTls o }
  | .connectOutput => { s with output := s.output.opened, outputThread := .connected }
  | .stopOutput => { s with output := s.output.closed, outputThread := .ended }
  | .sslNewOutput created =>
    { s with
      output := s.output.sslNew created
      outputThread := if created then .handshake else .ended }
  | .plainOutput => { s with outputThread := .reading }
  | .sslConnectOutput accepted =>
    { s with
      output := s.output.sslConnect accepted
      outputThread := if accepted then .reading else .ended }
  | .receiveOutput => { s with outputThread := .sending }
  | .sslReadErrorOutput => { s with output := s.output.freed, outputThread := .leaving }
  | .leaveOutput => { s with outputThread := .leaving }
  | .freeOutput =>
    { s with
      output := if s.enableOutputSsl then s.output.freed else s.output
      outputThread := .closing }
  | .endOutput => { s with output := s.output.closed, outputThread := .ended }
  | .chooseTunnel => { s with outputThread := .writing (s.enableSsl && s.tunnel.ssl.isSome) }
  | .writeTunnel o =>
    { s with
      tunnel := s.tunnel.write o
      outputThread := o.next
      written := s.written ++ s.tunnel.log true s.outputThread.chosen s.tunnelTls o }
  | .receiveSettings tunnelTls => { s with tunnelTls := tunnelTls }
  | .applySettings => applyTunnelTlsClientSettings s
  | .refreshClientSslContext created => ensureClientSslContext s created
  | .closeSockets => { s with tunnel := s.tunnel.closed, output := s.output.closed }
  | .serverInputStart => { s with inputThread := .restarting }

def Started (s : Client) : Prop :=
  s.tunnel = ⟨none, none⟩ ∧ s.output = ⟨none, none⟩ ∧ s.inputThread = .restarting ∧
    s.outputThread = .ended ∧ s.written = []

def client : System Client Action := ⟨Started, Enabled, next⟩

instance (s : Client) (a : Action) : Decidable (client.enabled s a) :=
  inferInstanceAs (Decidable (Enabled s a))

def Secure (w : Written) : Prop :=
  (w.established = true → w.own = true) ∧
    (w.tunnel = true → w.tunnelTls = true → w.ssl = true)

instance (w : Written) : Decidable (Secure w) :=
  inferInstanceAs (Decidable (_ ∧ _))

/-! A step is careful when no send loop starts against its connection and none is running when
what it chooses by is changed. -/

def Fit (d : Side) (enabled : Bool) : Prop :=
  d.socket = some true → enabled = true ∧ d.ssl ≠ none

instance (d : Side) (enabled : Bool) : Decidable (Fit d enabled) :=
  inferInstanceAs (Decidable (_ → _))

def TlsIdle (d : Side) (writer : Thread) : Prop :=
  writer.sends = true → d.socket ≠ some true

instance (d : Side) (writer : Thread) : Decidable (TlsIdle d writer) :=
  inferInstanceAs (Decidable (_ → _))

def Careful (s : Client) : Action → Prop
  | .receiveOutput =>
    Fit s.tunnel s.enableSsl ∧ (s.tunnelTls = true → s.tunnel.socket ≠ some false)
  | .outputRunning => Fit s.output s.enableOutputSsl
  | .connectInput => s.outputThread.sends = false
  | .sslConnectInput accepted => accepted = true → s.outputThread.sends = false
  | .sslReadErrorInput => TlsIdle s.tunnel s.outputThread
  | .freeInput => s.enableSsl = true → TlsIdle s.tunnel s.outputThread
  | .sslReadErrorOutput => TlsIdle s.output s.inputThread
  | .freeOutput => s.enableOutputSsl = true → TlsIdle s.output s.inputThread
  | .receiveSettings tunnelTls =>
    tunnelTls = true → s.outputThread.sends = true → s.tunnel.socket ≠ some false
  | .applySettings => s.tunnelTls = false → TlsIdle s.tunnel s.outputThread
  | .refreshClientSslContext created =>
    s.sslCtx = false → (s.caFile && created) = false →
      TlsIdle s.tunnel s.outputThread ∧ TlsIdle s.output s.inputThread
  | .serverInputStart => s.inputThread = .ended ∧ s.outputThread = .ended
  | _ => True

instance (s : Client) (a : Action) : Decidable (Careful s a) := by
  rcases a <;> dsimp only [Careful] <;> infer_instance

/-- What holds of a connection between the thread that opens it and the thread that writes to it. -/
structure Kept (d : Side) (enabled : Bool) (opener writer : Thread) : Prop where
  object : d.socket = some true ∨ opener = .handshake → d.ssl ≠ some false
  fit : writer.sends = true → Fit d enabled
  plain : writer = .writing false → d.socket ≠ some true

namespace Kept

variable {d : Side} {enabled : Bool} {opener writer : Thread}

theorem idle (h : d.socket = some true ∨ opener = .handshake → d.ssl ≠ some false)
    (idle : writer.sends = false) : Kept d enabled opener writer := by
  refine ⟨h, ?_, ?_⟩
  · intro sends
    simp [idle] at sends
  · rintro rfl
    simp [Thread.sends] at idle

theorem opened (quiet : writer.sends = false) {opener : Thread} (other : opener ≠ .handshake) :
    Kept d.opened enabled opener writer := by
  apply Kept.idle _ quiet
  rintro (socket | handshake)
  · simp [Side.opened] at socket
  · exact absurd handshake other

theorem closed (h : Kept d enabled opener writer) {opener' : Thread}
    (before : opener' = .handshake → opener = .handshake) :
    Kept d.closed enabled opener' writer := by
  refine ⟨?_, ?_, ?_⟩
  · rintro (socket | handshake)
    · simp [Side.closed] at socket
    · exact h.object (.inr (before handshake))
  · intro _ socket
    simp [Side.closed] at socket
  · intro _ socket
    simp [Side.closed] at socket

theorem freed (quiet : TlsIdle d writer) (opener : Thread) :
    Kept d.freed enabled opener writer := by
  refine ⟨by simp [Side.freed], ?_, ?_⟩
  · intro sends socket
    exact absurd socket (quiet sends)
  · rintro rfl
    exact quiet rfl

/-- The end of a thread frees its object only while the flag is set. -/
theorem frees (h : Kept d enabled opener writer) (quiet : enabled = true → TlsIdle d writer)
    {opener' : Thread} (other : opener' ≠ .handshake) :
    Kept (if enabled then d.freed else d) enabled opener' writer := by
  cases enabled with
  | true => exact Kept.freed (quiet rfl) opener'
  | false =>
    refine ⟨?_, h.fit, h.plain⟩
    rintro (socket | handshake)
    · exact h.object (.inl socket)
    · exact absurd handshake other

/-- A thread elsewhere moves, or the opening thread moves without touching the connection. -/
theorem moves (h : Kept d enabled opener writer) {opener' : Thread}
    (before : opener' = .handshake → opener = .handshake) :
    Kept d enabled opener' writer :=
  ⟨fun open_ => h.object (open_.imp_right before), h.fit, h.plain⟩

theorem sslNew (h : Kept d enabled opener writer) (created : Bool) {failed : Thread} :
    Kept (d.sslNew created) enabled (if created then .handshake else failed) writer := by
  cases created with
  | true =>
    refine ⟨by simp [Side.sslNew], ?_, h.plain⟩
    intro sends socket
    exact ⟨(h.fit sends socket).1, by simp [Side.sslNew]⟩
  | false => exact ⟨by simp [Side.sslNew], by simp [Side.sslNew, Fit], by simp [Side.sslNew]⟩

theorem sslConnect (h : Kept d enabled .handshake writer) {accepted : Bool}
    (quiet : accepted = true → writer.sends = false) {opener' : Thread} :
    Kept (d.sslConnect accepted) enabled opener' writer := by
  cases accepted with
  | true => exact Kept.idle (fun _ => h.object (.inr rfl)) (quiet rfl)
  | false =>
    exact ⟨by simp [Side.sslConnect], by simp [Side.sslConnect, Fit], by simp [Side.sslConnect]⟩

theorem enters (h : Kept d enabled opener writer) (fit : Fit d enabled) :
    Kept d enabled opener .sending :=
  ⟨h.object, fun _ => fit, nofun⟩

theorem leaves (h : Kept d enabled opener writer) {writer' : Thread}
    (quiet : writer'.sends = false) : Kept d enabled opener writer' :=
  Kept.idle h.object quiet

/-- The choice between `SSL_write` and `send` falls on `SSL_write` for a connection with TLS. -/
theorem chooses (h : Kept d enabled opener .sending) :
    Kept d enabled opener (.writing (enabled && d.ssl.isSome)) := by
  refine ⟨h.object, fun _ => h.fit rfl, ?_⟩
  intro plain socket
  obtain ⟨flag, object⟩ := h.fit rfl socket
  simp only [flag, Bool.true_and, Thread.writing.injEq, Option.isSome_eq_false_iff,
    Option.isNone_iff_eq_none] at plain
  exact object plain

theorem writes (h : Kept d enabled opener writer) (loop : writer.sends = true) (o : Outcome) :
    Kept (d.write o) enabled opener o.next := by
  cases o with
  | sslError => exact Kept.idle (by simp [Side.write, Side.freed]) rfl
  | taken again =>
    cases again with
    | true => exact h.enters (h.fit loop)
    | false => exact h.leaves rfl
  | refused again =>
    cases again with
    | true => exact h.enters (h.fit loop)
    | false => exact h.leaves rfl

theorem flag (h : Kept d enabled opener writer) {enabled' : Bool}
    (kept : enabled' = false → TlsIdle d writer) : Kept d enabled' opener writer := by
  refine ⟨h.object, ?_, h.plain⟩
  intro sends socket
  cases enabled' with
  | true => exact ⟨rfl, (h.fit sends socket).2⟩
  | false => exact absurd socket (kept rfl sends)

theorem log_secure {ssl tunnel tunnelTls : Bool} {o : Outcome}
    (h : Kept d enabled opener (.writing ssl)) (possible : d.Writes ssl o)
    (strict : tunnel = true → tunnelTls = true → d.socket ≠ some false) :
    ∀ w ∈ d.log tunnel ssl tunnelTls o, Secure w := by
  intro w hw
  cases o with
  | taken again =>
    obtain rfl := List.mem_singleton.1 hw
    obtain ⟨connected, object⟩ := possible
    refine ⟨?_, ?_⟩
    · intro established
      have socket : d.socket = some true := by simpa using established
      cases ssl with
      | false => exact absurd socket (h.plain rfl)
      | true =>
        have own := h.object (.inl socket)
        have present := (h.fit rfl socket).2
        cases pointer : d.ssl with
        | none => exact absurd pointer present
        | some mine => cases mine <;> simp_all
    · intro side last
      cases ssl with
      | true => rfl
      | false =>
        cases socket : d.socket with
        | none => exact absurd socket connected
        | some established =>
          cases established with
          | true => exact absurd socket (h.plain rfl)
          | false => exact absurd socket (strict side last)
  | refused again => simp [Side.log] at hw
  | sslError => simp [Side.log] at hw

end Kept

def Thread.opens (t : Thread) : Prop := t = .connecting ∨ t = .connected ∨ t = .handshake

structure Invariant (s : Client) : Prop where
  tunnel : Kept s.tunnel s.enableSsl s.inputThread s.outputThread
  output : Kept s.output s.enableOutputSsl s.outputThread s.inputThread
  strict : s.outputThread.sends = true → s.tunnelTls = true → s.tunnel.socket ≠ some false
  opening : s.outputThread.opens → s.inputThread.sends = false
  written : ∀ w ∈ s.written, Secure w

variable {s : Client} {a : Action}

theorem Started.invariant (h : Started s) : Invariant s := by
  obtain ⟨tunnel, output, input, outputThread, written⟩ := h
  refine ⟨?_, ?_, ?_, ?_, ?_⟩
  · rw [outputThread, tunnel]
    exact Kept.idle (by simp) rfl
  · rw [input, output]
    exact Kept.idle (by simp) rfl
  · simp [outputThread, Thread.sends]
  · simp [outputThread, Thread.opens]
  · simp [written]

/-- The input thread moves outside its send loop, having done something to the tunnel. -/
theorem Invariant.input (h : Invariant s) {d : Side} {t : Thread} (quiet : t.sends = false)
    (tunnel : Kept d s.enableSsl t s.outputThread)
    (strict : s.outputThread.sends = true → d.socket = some false → s.tunnel.socket = some false) :
    Invariant { s with tunnel := d, inputThread := t } :=
  ⟨tunnel, h.output.leaves quiet,
    fun sends last socket => h.strict sends last (strict sends socket), fun _ => quiet, h.written⟩

theorem Invariant.outputs (h : Invariant s) {d : Side} {t : Thread} (quiet : t.sends = false)
    (output : Kept d s.enableOutputSsl t s.inputThread)
    (opening : t.opens → s.inputThread.sends = false) :
    Invariant { s with output := d, outputThread := t } :=
  ⟨h.tunnel.leaves quiet, output, fun sends => by simp [quiet] at sends, opening, h.written⟩

/-- The flags change with no send loop on the connections that they take TLS from. -/
theorem Invariant.flags (h : Invariant s) {ssl outputSsl : Bool} (ctx ca : Bool)
    (tunnel : ssl = false → TlsIdle s.tunnel s.outputThread)
    (output : outputSsl = false → TlsIdle s.output s.inputThread) :
    Invariant { s with
      enableSsl := ssl, enableOutputSsl := outputSsl, sslCtx := ctx, caFile := ca } :=
  ⟨h.tunnel.flag tunnel, h.output.flag output, h.strict, h.opening, h.written⟩

theorem TlsIdle.of_flag {d : Side} {enabled : Bool} {opener writer : Thread}
    (h : Kept d enabled opener writer) (off : enabled = false) : TlsIdle d writer := by
  intro sends socket
  have on := (h.fit sends socket).1
  simp [off] at on

theorem Invariant.applies (h : Invariant s) (careful : Careful s .applySettings) :
    Invariant (applyTunnelTlsClientSettings s) := by
  unfold applyTunnelTlsClientSettings
  split
  · rename_i off
    have off : s.tunnelTls = false := by simpa using off
    exact h.flags _ _ (fun _ => careful off) (TlsIdle.of_flag h.output)
  · split
    · exact h
    · exact h.flags _ _ (fun on => by simp at on) (TlsIdle.of_flag h.output)

theorem Invariant.refreshes (h : Invariant s) {created : Bool}
    (careful : Careful s (.refreshClientSslContext created)) :
    Invariant (ensureClientSslContext s created) := by
  have tunnel := TlsIdle.of_flag h.tunnel
  have output := TlsIdle.of_flag h.output
  unfold ensureClientSslContext
  split
  · exact h.flags _ _ tunnel output
  · split
    · exact h
    · rename_i missing
      split
      · exact h.flags _ _ tunnel output
      · rename_i failed
        obtain ⟨quiet, quiet'⟩ := careful (by simpa using missing) (by simpa using failed)
        exact h.flags _ _ (fun _ => quiet) (fun _ => quiet')

theorem Writing.cases {t : Thread} {d : Side} {o : Outcome}
    (h : (t = .writing true ∧ d.Writes true o) ∨ (t = .writing false ∧ d.Writes false o)) :
    t = .writing t.chosen ∧ t.sends = true ∧ d.Writes t.chosen o := by
  rcases h with ⟨rfl, possible⟩ | ⟨rfl, possible⟩ <;> exact ⟨rfl, rfl, possible⟩

theorem write_socket (d : Side) (o : Outcome) : (d.write o).socket = d.socket := by
  cases o <;> rfl

theorem Outcome.not_opens (o : Outcome) : ¬ o.next.opens := by
  rcases o with ⟨_ | _⟩ | ⟨_ | _⟩ | _ <;> simp [Outcome.next, Thread.opens]

theorem next_invariant (h : Invariant s) (enabled : Enabled s a) (careful : Careful s a) :
    Invariant (next s a) := by
  cases a with
  | restartInput => exact h.input rfl (h.tunnel.closed nofun) (by simp [Side.closed])
  | connectInput =>
    have quiet : s.outputThread.sends = false := careful
    exact h.input rfl (Kept.opened quiet nofun) (fun sends => by simp [quiet] at sends)
  | stopInput => exact h.input rfl (h.tunnel.closed nofun) (by simp [Side.closed])
  | sslNewInput created =>
    apply h.input (by cases created <;> rfl) (h.tunnel.sslNew created)
    intro _ socket
    cases created with
    | true => exact socket
    | false => simp [Side.sslNew] at socket
  | plainInput => exact h.input rfl (h.tunnel.moves nofun) (fun _ socket => socket)
  | sslConnectInput accepted =>
    have tunnel := h.tunnel
    rw [enabled.1] at tunnel
    apply h.input (by cases accepted <;> rfl) (tunnel.sslConnect careful)
    intro _ socket
    cases accepted <;> simp [Side.sslConnect] at socket
  | dropInput => exact h.input rfl (h.tunnel.closed nofun) (by simp [Side.closed])
  | closeOutput =>
    exact ⟨h.tunnel, h.output.closed id, h.strict, h.opening, h.written⟩
  | sslReadErrorInput => exact h.input rfl (Kept.freed careful _) (fun _ socket => socket)
  | leaveInput => exact h.input rfl (h.tunnel.moves nofun) (fun _ socket => socket)
  | freeInput =>
    have same : (if s.enableSsl then s.tunnel.freed else s.tunnel).socket = s.tunnel.socket := by
      cases s.enableSsl <;> rfl
    exact h.input rfl (h.tunnel.frees careful nofun) (fun _ socket => same ▸ socket)
  | closeInput again =>
    cases again <;> exact h.input rfl (h.tunnel.closed nofun) (by simp [Side.closed])
  | receiveInput => exact h.input rfl (h.tunnel.moves nofun) (fun _ socket => socket)
  | serverOutputStart =>
    exact h.outputs rfl (h.output.moves nofun) (fun _ => by simp [enabled.1, Thread.sends])
  | outputRunning =>
    obtain ⟨_, _, connecting, connected, handshake⟩ := enabled
    refine ⟨h.tunnel.moves nofun, h.output.enters careful, h.strict, ?_, h.written⟩
    rintro (at_ | at_ | at_)
    · exact absurd at_ connecting
    · exact absurd at_ connected
    · exact absurd at_ handshake
  | outputTimeout => exact h.input rfl (h.tunnel.moves nofun) (fun _ socket => socket)
  | chooseOutput =>
    have output := h.output
    rw [show s.inputThread = .sending from enabled] at output
    refine ⟨h.tunnel.moves nofun, output.chooses, h.strict, ?_, h.written⟩
    intro opens
    have sends := h.opening opens
    simp [show s.inputThread = .sending from enabled, Thread.sends] at sends
  | writeOutput o =>
    obtain ⟨writing, sends, possible⟩ := Writing.cases enabled
    have output := h.output
    rw [writing] at output
    have settled : o.next ≠ .handshake := fun at_ => o.not_opens (.inr (.inr at_))
    refine ⟨h.tunnel.moves fun at_ => absurd at_ settled, h.output.writes sends o, h.strict, ?_, ?_⟩
    · intro opens
      simp [h.opening opens] at sends
    · intro w hw
      rcases List.mem_append.1 hw with old | new
      · exact h.written w old
      · exact output.log_secure possible (by simp) w new
  | connectOutput =>
    have quiet := h.opening (.inl enabled)
    exact h.outputs rfl (Kept.opened quiet nofun) (fun _ => quiet)
  | stopOutput => exact h.outputs rfl (h.output.closed nofun) (by simp [Thread.opens])
  | sslNewOutput created =>
    have quiet := h.opening (.inr (.inl enabled.1))
    exact h.outputs (by cases created <;> rfl) (h.output.sslNew created) (fun _ => quiet)
  | plainOutput => exact h.outputs rfl (h.output.moves nofun) (by simp [Thread.opens])
  | sslConnectOutput accepted =>
    have quiet := h.opening (.inr (.inr enabled.1))
    have output := h.output
    rw [enabled.1] at output
    exact h.outputs (by cases accepted <;> rfl) (output.sslConnect fun _ => quiet) (fun _ => quiet)
  | receiveOutput =>
    obtain ⟨fit, strict⟩ := careful
    exact ⟨h.tunnel.enters fit, h.output.moves nofun, fun _ => strict, by simp [next, Thread.opens],
      h.written⟩
  | sslReadErrorOutput => exact h.outputs rfl (Kept.freed careful _) (by simp [Thread.opens])
  | leaveOutput => exact h.outputs rfl (h.output.moves nofun) (by simp [Thread.opens])
  | freeOutput =>
    exact h.outputs rfl (h.output.frees careful nofun) (by simp [Thread.opens])
  | endOutput => exact h.outputs rfl (h.output.closed nofun) (by simp [Thread.opens])
  | chooseTunnel =>
    have tunnel := h.tunnel
    have at_ : s.outputThread = .sending := enabled
    rw [at_] at tunnel
    exact ⟨tunnel.chooses, h.output.moves nofun, fun _ => h.strict (by simp [at_, Thread.sends]),
      by simp [next, Thread.opens], h.written⟩
  | writeTunnel o =>
    obtain ⟨writing, sends, possible⟩ := Writing.cases enabled
    have tunnel := h.tunnel
    rw [writing] at tunnel
    have settled : o.next ≠ .handshake := fun at_ => o.not_opens (.inr (.inr at_))
    refine ⟨h.tunnel.writes sends o, h.output.moves fun at_ => absurd at_ settled, ?_,
      fun opens => absurd opens o.not_opens, ?_⟩
    · intro _ last
      simpa only [next, write_socket] using h.strict sends last
    · intro w hw
      rcases List.mem_append.1 hw with old | new
      · exact h.written w old
      · exact tunnel.log_secure possible (fun _ last => h.strict sends last) w new
  | receiveSettings tunnelTls =>
    exact ⟨h.tunnel, h.output, fun sends last => careful last sends, h.opening, h.written⟩
  | applySettings => exact h.applies careful
  | refreshClientSslContext created => exact h.refreshes careful
  | closeSockets =>
    exact ⟨h.tunnel.closed id, h.output.closed id, by simp [next, Side.closed], h.opening, h.written⟩
  | serverInputStart => exact h.input rfl (h.tunnel.moves nofun) (fun _ socket => socket)

theorem tls_never_degrades {log : List (Client × Action)} (run : client.Run log s)
    (careful : ∀ e ∈ log, Careful e.1 e.2) : ∀ w ∈ s.written, Secure w := by
  suffices Invariant s from this.written
  exact run.invariant (fun _ => Started.invariant) (fun _ _ => next_invariant) careful

def registered : Client :=
  ⟨true, false, true, true, true, true, ⟨none, none⟩, ⟨none, none⟩, .restarting, .ended, []⟩

theorem start_registered : client.Run [] registered := .start ⟨rfl, rfl, rfl, rfl, rfl⟩

def connects : List Action :=
  [.restartInput, .connectInput, .sslNewInput true, .sslConnectInput true, .receiveInput,
    .serverOutputStart, .connectOutput, .plainOutput, .outputRunning, .chooseOutput,
    .writeOutput (.taken false)]

def relays : List Action := [.receiveOutput, .chooseTunnel, .writeTunnel (.taken false)]

theorem relayed_over_tls : ∃ log s, client.Run log s ∧ s.written.length = 2 ∧
    ∀ w ∈ s.written, Secure w := by
  have followed : ∃ log s, client.follow [] registered (connects ++ relays) = some (log, s) ∧
      s.written.length = 2 ∧ ∀ e ∈ log, Careful e.1 e.2 := ⟨_, _, rfl, by decide +kernel⟩
  obtain ⟨log, s, followed, two, careful⟩ := followed
  have run := start_registered.follow followed
  exact ⟨log, s, run, two, tls_never_degrades run careful⟩

/-- A hard error of `SSL_write` frees the object with the socket open: the next chunk goes out
by `send`. -/
theorem plain_after_write_error : ∃ log s, client.Run log s ∧ ∃ w ∈ s.written,
    w.tunnel = true ∧ w.established = true ∧ w.tunnelTls = true ∧ w.ssl = false ∧ ¬ Secure w := by
  have followed : ∃ log s, client.follow [] registered
      (connects ++ [Action.receiveOutput, .chooseTunnel, .writeTunnel .sslError] ++ relays) =
        some (log, s) ∧
      ⟨true, true, false, false, true⟩ ∈ s.written := ⟨_, _, rfl, by decide +kernel⟩
  obtain ⟨log, s, followed, plain⟩ := followed
  have run := start_registered.follow followed
  exact ⟨log, s, run, _, plain, rfl, rfl, rfl, rfl, by decide⟩

end ClientTls
