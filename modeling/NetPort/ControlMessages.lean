import Mathlib.Data.List.TakeWhile
import NetPort.RegistrationWait
import NetPort.SegmentedStreams

/-! What both ends of a control connection read of a message: a single read into a buffer, of a
plain socket or of a TLS connection. -/
namespace ControlMessages

open SegmentedStreams StatementPrograms DeviceTables ProxyRuntimes DeviceManager RegistrationWait

abbrev Bytes := List UInt8

/-- A text as `json_dumps` returns it. -/
structure Message where
  bytes : Bytes
  nonempty : bytes ≠ []
  noNul : 0 ∉ bytes

def tlsRecordMax : ℕ := 16384

/-- A connection with its `SSL`, if it has one, and what arrives at its reader. -/
structure ControlConn where
  ssl : Option (Framing UInt8 tlsRecordMax)
  pieces : List Bytes

/-- The message was written at once, and the transport delivers all of it. More TLS records may
follow. -/
def Delivers (conn : ControlConn) (message : Message) : Prop :=
  match conn.ssl with
  | none => Arrives conn.pieces message.bytes
  | some tls =>
    ∃ rest, Arrives conn.pieces (tls.enclose (message.bytes.take tlsRecordMax) ++ rest)

/-- `SSL_read` returns bytes of one record. -/
def sslRead (tls : Framing UInt8 tlsRecordMax) (pieces : List Bytes) (buflen : ℕ) : Bytes :=
  ((tls.gather [] pieces).getD []).take buflen

/-- `control_conn_read` of the server, and `device_control_recv` of the client. -/
def controlConnRead (conn : ControlConn) (buflen : ℕ) : Bytes :=
  match conn.ssl with
  | none => firstRead buflen conn.pieces
  | some tls => sslRead tls conn.pieces buflen

def bufferSize : ℕ := 4096

def readText (conn : ControlConn) : Option Bytes :=
  let bytesRead := controlConnRead conn (bufferSize - 1)
  if bytesRead = [] then none else some (bytesRead.takeWhile (· ≠ 0))

/-- `loads` is what `validate_json_input` and `json_loads` make of a text. -/
def handleDeviceConnection (cfg : Config) (loads : Bytes → Payload) (conn : ControlConn)
    (clientIp : String) : Control ℤ :=
  match readText conn with
  | none => pure (-1)
  | some text => processJsonMessage cfg ⟨loads text, clientIp⟩

/-- The answer as `device_register_with_server` reads it. -/
def deviceRegisterWithServer (loads : Bytes → Option Json) (conn : ControlConn) :
    Option DeviceState :=
  match readText conn with
  | none => none
  | some text => (loads text).bind registered

/-- The answer as `send_heartbeat` reads it. -/
def sendHeartbeat (loads : Bytes → Option Json) (conn : ControlConn) : HeartbeatResult :=
  match readText conn with
  | none => .failed
  | some text => RegistrationWait.sendHeartbeat (loads text)

variable {conn : ControlConn} {message : Message} {buflen : ℕ}

/-- The message is short enough for the buffer, and TLS or the transport keeps it together. -/
def ArrivesWhole (conn : ControlConn) (message : Message) : Prop :=
  message.bytes.length < bufferSize ∧ (conn.ssl.isSome = true ∨ conn.pieces = [message.bytes])

/-- `SSL_read` waits for the first record, in whatever pieces the transport delivers it. -/
theorem first_record {tls : Framing UInt8 tlsRecordMax} {pieces : List Bytes} {rest : Bytes}
    (arrives : Arrives pieces (tls.enclose (message.bytes.take tlsRecordMax) ++ rest)) :
    tls.gather [] pieces = some (message.bytes.take tlsRecordMax) := by
  have fits : (message.bytes.take tlsRecordMax).length ≤ tlsRecordMax := by
    rw [List.length_take]
    omega
  exact tls.gather_eq fits arrives.whole

theorem controlConnRead_of_sent (h : Delivers conn message) :
    controlConnRead conn buflen <+: message.bytes := by
  obtain ⟨ssl, pieces⟩ := conn
  cases ssl with
  | none =>
    have arrives : Arrives pieces message.bytes := h
    rw [← arrives.whole]
    cases pieces with
    | nil => exact List.nil_prefix
    | cons piece later =>
      exact (List.take_prefix buflen piece).trans (by simp)
  | some tls =>
    obtain ⟨rest, arrives⟩ := h
    simp only [controlConnRead, sslRead, first_record arrives, Option.getD_some]
    exact (List.take_prefix _ _).trans (List.take_prefix _ _)

theorem controlConnRead_iff (h : Delivers conn message) (short : buflen ≤ tlsRecordMax) :
    controlConnRead conn buflen = message.bytes ↔
      message.bytes.length ≤ buflen ∧ (conn.ssl.isSome = true ∨ conn.pieces = [message.bytes]) := by
  obtain ⟨ssl, pieces⟩ := conn
  cases ssl with
  | none =>
    have arrives : Arrives pieces message.bytes := h
    simpa [controlConnRead] using arrives.firstRead_iff message.nonempty
  | some tls =>
    obtain ⟨rest, arrives⟩ := h
    simp only [controlConnRead, sslRead, first_record arrives, Option.getD_some, List.take_take,
      Nat.min_eq_left short, List.take_eq_self_iff]
    simp

/-- What is read has no zero, so that the C string is all of it. -/
theorem readText_iff (h : Delivers conn message) : readText conn = some message.bytes ↔
    controlConnRead conn (bufferSize - 1) = message.bytes := by
  have text : (controlConnRead conn (bufferSize - 1)).takeWhile (· ≠ 0) =
      controlConnRead conn (bufferSize - 1) := by
    rw [List.takeWhile_eq_self_iff]
    intro b hb
    have sent := (controlConnRead_of_sent h).subset hb
    exact decide_eq_true fun zero => message.noNul (zero ▸ sent)
  simp only [readText, text]
  split
  · rename_i nothing
    rw [nothing]
    exact iff_of_false nofun fun empty => message.nonempty empty.symm
  · exact Option.some_inj

theorem readText_whole_iff (h : Delivers conn message) :
    readText conn = some message.bytes ↔ ArrivesWhole conn message := by
  have short : bufferSize - 1 ≤ tlsRecordMax := by decide
  have room : message.bytes.length ≤ bufferSize - 1 ↔ message.bytes.length < bufferSize := by
    have size : 0 < bufferSize := by decide
    omega
  rw [readText_iff h, controlConnRead_iff h short, room, ArrivesWhole]

/-- Both ends go by the bytes that were sent exactly where these fit into the buffer and the
connection is a TLS one or the transport delivers them in one piece. -/
theorem messages_survive_iff (conn : ControlConn) (message : Message)
    (h : Delivers conn message) :
    (readText conn = some message.bytes ↔ ArrivesWhole conn message) ∧
    (ArrivesWhole conn message →
      (∀ cfg loads clientIp, handleDeviceConnection cfg loads conn clientIp =
        processJsonMessage cfg ⟨loads message.bytes, clientIp⟩) ∧
      ∀ loads, deviceRegisterWithServer loads conn = (loads message.bytes).bind registered ∧
        sendHeartbeat loads conn = RegistrationWait.sendHeartbeat (loads message.bytes)) := by
  refine ⟨readText_whole_iff h, fun whole => ?_⟩
  have text := (readText_whole_iff h).2 whole
  constructor
  · intro cfg loads clientIp
    simp only [handleDeviceConnection, text]
  · intro loads
    simp only [deviceRegisterWithServer, sendHeartbeat, text, and_self]

/-! Samples: records with a length of two bytes in front, and a heartbeat. -/

def lengthPrefixed : Framing UInt8 tlsRecordMax where
  enclose r := UInt8.ofNat (r.length / 256) :: UInt8.ofNat (r.length % 256) :: r
  opened
    | high :: low :: rest =>
      if high.toNat * 256 + low.toNat ≤ rest.length then
        some (rest.take (high.toNat * 256 + low.toNat))
      else none
    | _ => none
  whole r rest fits := by
    have length : (r.length / 256) % 256 * 256 + r.length % 256 = r.length := by
      simp only [tlsRecordMax] at fits
      omega
    simp [length]
  part r p fits pre apart := by
    have length : (r.length / 256) % 256 * 256 + r.length % 256 = r.length := by
      simp only [tlsRecordMax] at fits
      omega
    match p with
    | [] => rfl
    | [_] => rfl
    | high :: low :: p =>
      obtain ⟨rfl, tail⟩ := List.cons_prefix_cons.1 pre
      obtain ⟨rfl, body⟩ := List.cons_prefix_cons.1 tail
      have shorter : p.length < r.length := by
        refine lt_of_le_of_ne body.length_le fun same => apart ?_
        rw [body.eq_of_length same]
      simp [length, shorter]

def ascii (s : String) : Bytes := s.toList.map fun c => UInt8.ofNat c.toNat

def beat : Message where
  bytes := ascii "\x7b\"action\":\"heartbeat\",\"session_token\":\"t100\"\x7d"
  nonempty := by decide
  noNul := by decide

def bytewise : ControlConn :=
  ⟨some lengthPrefixed, (lengthPrefixed.enclose beat.bytes).map fun b => [b]⟩

theorem beat_over_tls : readText bytewise = some beat.bytes := by
  have delivers : Delivers bytewise beat := ⟨[], by decide, by decide⟩
  exact (messages_survive_iff bytewise beat delivers).1.2 ⟨by decide, Or.inl rfl⟩

def halves : ControlConn := ⟨none, [beat.bytes.take 10, beat.bytes.drop 10]⟩

/-- The server goes by the first ten bytes of the request. -/
theorem split_request_cut : Delivers halves beat ∧ beat.bytes.length < bufferSize ∧
    readText halves ≠ some beat.bytes ∧ ∀ cfg loads clientIp,
      handleDeviceConnection cfg loads halves clientIp =
        processJsonMessage cfg ⟨loads (beat.bytes.take 10), clientIp⟩ := by
  refine ⟨⟨by decide, by decide⟩, by decide, by decide, fun cfg loads clientIp => rfl⟩

end ControlMessages
