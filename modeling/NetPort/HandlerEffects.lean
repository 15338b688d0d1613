import NetPort.TunnelSlots

/-! What one step of a handler does to its slot, and what its next access may use. -/
namespace TunnelSlots

/-- The handler has set `is_input_connected` or `is_output_connected` and not cleared it. -/
def Phase.connected : Phase → Bool
  | .start .created | .exit .resetting | .exit .returning | .returned => false
  | _ => true

def Phase.cleared : Phase → Bool
  | .exit .resetting | .exit .returning | .returned => true
  | _ => false

/-- Neither the first access nor one that goes with a descriptor that is being closed. -/
def Phase.plain : Phase → Bool
  | .start .created | .exit (.closingFd _ _) | .exit (.erasing _) => false
  | _ => true

/-- `*_local` or the SSL object has the number. -/
def Local.Names (l : Local) (fd : ℕ) : Prop := l.socket = some fd ∨ l.ssl = some (some fd)

/-- The socket that a handler writes to with `send`. -/
def Phase.writes : Phase → Option ℕ
  | .output (.writing fd _) => some fd
  | _ => none

/-- The socket that a handler reads from with `recv`. -/
def Phase.receives : Phase → Option ℕ
  | .output (.receiving fd) => some fd
  | _ => none

def Batch.rest (b : Batch) : List ℕ := List.range' b.sent (b.len - b.sent)

/-- The positions of `output_buf` that are still to be delivered. -/
def Phase.held : Phase → List ℕ
  | .output (.waiting len) => List.range len
  | .output (.polling len) => List.range len
  | .output (.sending b) => b.rest
  | .output (.writing _ b) => b.rest
  | .output (.failed b) => b.rest
  | .output (.retrying b) => b.rest
  | .output (.rechecking b) => b.rest
  | _ => []

def ToUser (s : Runtime) (k fd : ℕ) : Prop :=
  (s.localSockets k).input.Names fd ∨ ∃ h ∈ s.handlers, h.slot = k ∧ h.phase.writes = some fd

def ToDevice (s : Runtime) (k fd : ℕ) : Prop :=
  (s.localSockets k).output.Names fd ∨ ∃ h ∈ s.handlers, h.slot = k ∧ h.phase.receives = some fd

/-- What the next access of a handler may use is what its slot has, and it holds no new bytes. -/
structure Carries (s : Runtime) (h : Handler) (p : Phase) : Prop where
  writes : ∀ fd, p.writes = some fd → ToUser s h.slot fd
  receives : ∀ fd, p.receives = some fd → ToDevice s h.slot fd
  held : ∀ j ∈ p.held, j ∈ h.phase.held
  next : p.plain = true ∨ ∃ l fd, p = .exit (.closingFd l fd) ∧ (s.own h).socket = some fd

/-- The step of the handler `h`, which stands at `i`, to the access `p`: no slot is touched, fields
of its slot are assigned, its flag is, a descriptor is closed, or bytes are read or written. -/
inductive Effect (s : Runtime) (i : ℕ) (h : Handler) : Phase → Runtime → Prop
  | goto {p : Phase} (connected : p.connected = h.phase.connected) (carries : Carries s h p) :
      Effect s i h p (s.goto i h p)
  | slot {p : Phase} {v : Slot} (connected : p.connected = h.phase.connected)
      (carries : Carries s h p)
      (flags : ∀ side, (v.get side).connected = ((s.slot h).get side).connected)
      (input : ∀ fd, v.input.Names fd → (s.slot h).input.Names fd)
      (output : ∀ fd, v.output.Names fd → (s.slot h).output.Names fd)
      (buffer : v.outputBuf = (s.slot h).outputBuf)
      (socket : v.input.socket = (s.slot h).input.socket ∨
        h.side = .input ∧ (∃ l, h.phase = .exit (.erasing l)) ∧ p.plain = true) :
      Effect s i h p ((s.setSlot h.slot v).goto i h p)
  | flag {p : Phase} (before : h.phase.cleared = false) (carries : Carries s h p) :
      Effect s i h p ((s.setOwn h { s.own h with connected := p.connected }).goto i h p)
  | close {l : Leave} {q : Exit} (fd : ℕ) (at_ : h.phase = .exit (.closingFd l fd))
      (next : q = .leaving l ∨ q = .erasing l) :
      Effect s i h (.exit q) ((s.close fd).goto i h (.exit q))
  | read {fd : ℕ} {side : Side} {d n : ℕ} (inside : h.phase.connected = true)
      (device : ToDevice s h.slot fd) (names : s.files fd = some (.connection side d)) :
      Effect s i h (.output (.waiting n))
        ((s.receive h.slot (.connection side d) n).goto i h (.output (.waiting n)))
  | write {p : Phase} {fd n : ℕ} {b : Batch} (connected : p.connected = h.phase.connected)
      (carries : Carries s h p) (user : ToUser s h.slot fd) (batch : h.phase.held = b.rest)
      (room : b.sent + n ≤ b.len) : Effect s i h p ((s.deliver h.slot fd b.sent n).goto i h p)

variable {m : Modes} {s t : Runtime} {c : Choice} {i : ℕ} {h : Handler} {p : Phase}

theorem Carries.silent (writes : p.writes = none) (receives : p.receives = none)
    (plain : p.plain = true) (held : ∀ j ∈ p.held, j ∈ h.phase.held) : Carries s h p := by
  refine ⟨?_, ?_, held, .inl plain⟩
  · intro fd there
    rw [writes] at there
    cases there
  · intro fd there
    rw [receives] at there
    cases there

theorem Carries.quiet (writes : p.writes = none) (receives : p.receives = none)
    (plain : p.plain = true) (held : p.held = []) : Carries s h p := by
  refine .silent writes receives plain ?_
  rw [held]
  intro j there
  cases there

theorem Carries.afterSend (side : Side) (last : Bool) : Carries s h (afterSend side last) := by
  cases side <;> cases last <;> exact .quiet rfl rfl rfl rfl

theorem Carries.exit {q : Exit} (plain : (Phase.exit q).plain = true) : Carries s h (.exit q) :=
  .quiet rfl rfl plain rfl

theorem plain_rest (b : Side) (l : Leave) : (Phase.exit (l.rest b)).plain = true := by
  cases b <;> cases l <;> rfl

@[simp] theorem connected_afterSend (b : Side) (last : Bool) :
    (afterSend b last).connected = true := by
  cases b <;> cases last <;> rfl

@[simp] theorem connected_rest (b : Side) (l : Leave) :
    (Phase.exit (l.rest b)).connected = true := by
  cases b <;> cases l <;> rfl

theorem Local.Names.of_ssl {l : Local} {ssl : Option (Option ℕ)} {fd : ℕ}
    (unbound : ssl.join = none) (names : Local.Names { l with ssl := ssl } fd) : l.Names fd := by
  rcases names with socket | bound
  · exact .inl socket
  · have bound : ssl = some (some fd) := bound
    rw [bound] at unbound
    cases unbound

theorem Local.Names.of_erased {l : Local} {fd : ℕ}
    (names : Local.Names { l with socket := none } fd) : l.Names fd := by
  rcases names with erased | bound
  · cases erased
  · exact .inr bound

theorem rest_start (len : ℕ) (last : Bool) : Batch.rest ⟨0, len, last⟩ = List.range len := by
  rw [Batch.rest, Nat.sub_zero, List.range_eq_range']

theorem goto_self (found : s.handlers[i]? = some h) : s.goto i h h.phase = s := by
  obtain ⟨inside, rfl⟩ := List.getElem?_eq_some_iff.1 found
  have same : s.handlers.set i s.handlers[i] = s.handlers := List.set_getElem_self inside
  change { s with handlers := s.handlers.set i s.handlers[i] } = s
  rw [same]

namespace Effect

theorem next (step : some (s.goto i h p) = some t) (connected : p.connected = h.phase.connected)
    (carries : Carries s h p) : ∃ p, Effect s i h p t := by
  cases step
  exact ⟨p, .goto connected carries⟩

theorem stay (found : s.handlers[i]? = some h) (carries : Carries s h h.phase)
    (step : some s = some t) : ∃ p, Effect s i h p t := by
  rw [← goto_self found] at step
  exact next step rfl carries

theorem own {l : Local} (connected : p.connected = h.phase.connected) (carries : Carries s h p)
    (same : l.connected = (s.own h).connected) (fewer : ∀ fd, l.Names fd → (s.own h).Names fd)
    (socket : l.socket = (s.own h).socket ∨
      (∃ l, h.phase = .exit (.erasing l)) ∧ p.plain = true) :
    Effect s i h p ((s.setOwn h l).goto i h p) := by
  unfold Runtime.own at same fewer socket
  unfold Runtime.setOwn
  cases side : h.side with
  | input =>
    rw [side] at same fewer socket
    refine .slot connected carries (fun b => ?_) fewer (fun _ names => names) rfl
      (socket.imp_right fun erased => ⟨side, erased⟩)
    cases b with
    | input => exact same
    | output => rfl
  | output =>
    rw [side] at same fewer
    refine .slot connected carries (fun b => ?_) (fun _ names => names) fewer rfl (.inl rfl)
    cases b with
    | input => rfl
    | output => exact same

end Effect

theorem startUp_effect {q : Start} (at_ : h.phase = .start q)
    (step : startUp m s i h q c = some t) : ∃ p, Effect s i h p t := by
  have silent {q : Start} (later : (Phase.start q).plain = true) : Carries s h (.start q) :=
    .quiet rfl rfl later rfl
  have top : Carries s h h.side.top := .afterSend h.side false
  have looping : h.side.top.connected = true := connected_afterSend h.side false
  have inside (started : q ≠ .created) : true = h.phase.connected := by
    rw [at_]
    cases q with
    | created => exact absurd rfl started
    | started | binding | handshaking => rfl
  cases q with
  | created =>
    cases c with
    | ok =>
      cases step
      exact ⟨_, .flag (p := .start .started) (by rw [at_]; rfl) (silent rfl)⟩
    | _ => cases step
  | started =>
    have inside := inside nofun
    cases c with
    | ok =>
      simp only [startUp] at step
      split at step
      · split at step
        · cases step
          exact ⟨_, .own inside (silent rfl) rfl (fun _ names => names.of_ssl rfl) (.inl rfl)⟩
        · cases step
      · exact Effect.next step (looping.trans inside) top
    | fail =>
      simp only [startUp] at step
      split at step
      · split at step
        · cases step
          exact ⟨_, .own inside (.exit rfl) rfl (fun _ names => names.of_ssl rfl) (.inl rfl)⟩
        · exact Effect.next step inside (.exit rfl)
      · cases step
    | _ => cases step
  | binding =>
    cases c with
    | ok =>
      cases step
      refine ⟨_, .own (inside nofun) (silent rfl) rfl ?_ (.inl rfl)⟩
      rintro fd (socket | bound)
      · exact .inl socket
      · obtain ⟨_, _, socket⟩ := Option.map_eq_some_iff.1 bound
        exact .inl socket
    | _ => cases step
  | handshaking =>
    have inside := inside nofun
    cases c with
    | ok => exact Effect.next step (looping.trans inside) top
    | fail => exact Effect.next step inside (.exit rfl)
    | _ => cases step

theorem inputLoop_effect {q : InputLoop} (found : s.handlers[i]? = some h)
    (at_ : h.phase = .input q) (step : inputLoop m s i h q c = some t) : ∃ p, Effect s i h p t := by
  have inside : true = h.phase.connected := by rw [at_]; rfl
  have silent (q : InputLoop) : Carries s h (.input q) := .quiet rfl rfl rfl rfl
  have here : Carries s h h.phase := by
    rw [at_]
    exact silent q
  have within (q : InputLoop) (step : some (s.goto i h (.input q)) = some t) :
      ∃ p, Effect s i h p t := Effect.next step inside (silent q)
  have out (l : Leave) (step : some (s.goto i h (.exit (.freeing l))) = some t) :
      ∃ p, Effect s i h p t := Effect.next step inside (.exit rfl)
  cases q with
  | selecting =>
    cases c with
    | ok => exact within _ step
    | again => exact Effect.stay found here step
    | fail => exact out _ step
    | _ => cases step
  | reading =>
    simp only [inputLoop] at step
    split at step
    · cases c with
      | ok => cases step
      | bytes | again => exact within _ step
      | fail | broken => exact out _ step
    · split at step
      · exact within _ step
      · exact out _ step
  | receiving fd =>
    cases c with
    | bytes => exact within _ step
    | fail => exact out _ step
    | _ => cases step
  | draining =>
    cases c with
    | ok =>
      simp only [inputLoop] at step
      split at step
      · exact Effect.stay found here step
      · exact within _ step
    | fail => exact within _ step
    | _ => cases step
  | pairing last =>
    cases c with
    | ok =>
      simp only [inputLoop] at step
      split at step
      · exact within _ step
      · exact Effect.stay found here step
    | fail => exact within _ step
    | _ => cases step
  | forwarding last =>
    cases c with
    | ok => exact Effect.next step ((connected_afterSend _ _).trans inside) (.afterSend _ _)
    | again => exact Effect.stay found here step
    | broken =>
      simp only [inputLoop] at step
      split at step
      · cases step
        have effect : Effect s i h h.phase ((s.setSlot h.slot
            { s.slot h with output := { (s.slot h).output with ssl := none } }).goto i h h.phase) :=
          .slot rfl here (fun side => by cases side <;> rfl) (fun _ names => names)
            (fun _ names => names.of_ssl rfl) rfl (.inl rfl)
        exact ⟨_, goto_self (s := s.setSlot _ _) found ▸ effect⟩
      · cases step
    | _ => cases step

theorem read_effect {fd n : ℕ} (inside : h.phase.connected = true) (device : ToDevice s h.slot fd)
    (step : read s i h fd n = some t) : ∃ p, Effect s i h p t := by
  unfold read at step
  split at step
  · rename_i names
    split at step
    · cases step
      exact ⟨_, .read inside device names⟩
    · cases step
  · cases step

theorem write_effect {fd n : ℕ} {b : Batch} (inside : h.phase.connected = true)
    (user : ToUser s h.slot fd) (batch : h.phase.held = b.rest)
    (step : write s i h fd b n = some t) : ∃ p, Effect s i h p t := by
  unfold write at step
  split at step
  · split at step
    · rename_i room
      cases step
      unfold afterWrite
      split
      · exact ⟨_, .write ((connected_afterSend _ _).trans inside.symm) (.afterSend _ _) user batch
          room⟩
      · refine ⟨_, .write inside.symm (.silent rfl rfl rfl ?_) user batch room⟩
        intro j there
        rw [batch]
        simp only [Phase.held, Batch.rest, List.mem_range'_1] at there ⊢
        omega
    · cases step
  · cases step

theorem readOutput_effect (inside : h.phase.connected = true)
    (step : readOutput m s i h c = some t) : ∃ p, Effect s i h p t := by
  have out (l : Leave) (step : some (s.goto i h (.exit (.freeing l))) = some t) :
      ∃ p, Effect s i h p t := Effect.next step inside.symm (.exit rfl)
  unfold readOutput at step
  split at step
  · cases c with
    | ok => cases step
    | bytes n =>
      obtain ⟨fd, there, step⟩ := Option.bind_eq_some_iff.1 step
      exact read_effect inside (.inl (.inr (Option.join_eq_some_iff.1 there))) step
    | again => exact Effect.next step inside.symm (.quiet rfl rfl rfl rfl)
    | fail | broken => exact out _ step
  · split at step
    · rename_i fd socket
      refine Effect.next (p := .output (.receiving fd)) step inside.symm ⟨?_, ?_, ?_, .inl rfl⟩
      · intro fd' writes
        cases writes
      · intro fd' there
        cases there
        exact .inl (.inl socket)
      · intro j there
        cases there
    · exact out _ step

theorem sendInput_effect {b : Batch} (inside : h.phase.connected = true)
    (batch : h.phase.held = b.rest) (step : sendInput m s i h b c = some t) :
    ∃ p, Effect s i h p t := by
  have failed : Carries s h (.output (.failed b)) := .silent rfl rfl rfl (batch ▸ fun _ there => there)
  unfold sendInput at step
  split at step
  · split at step
    · exact Effect.next step ((connected_afterSend _ _).trans inside.symm) (.afterSend _ _)
    · rename_i object bound
      cases c with
      | bytes n =>
        obtain ⟨fd, rfl, step⟩ := Option.bind_eq_some_iff.1 step
        exact write_effect inside (.inl (.inr bound)) batch step
      | fail => exact Effect.next step inside.symm failed
      | broken =>
        cases step
        exact ⟨_, .slot inside.symm failed (fun side => by cases side <;> rfl)
          (fun _ names => names.of_ssl rfl) (fun _ names => names) rfl (.inl rfl)⟩
      | _ => cases step
  · split at step
    · rename_i fd socket
      refine Effect.next (p := .output (.writing fd b)) step inside.symm ⟨?_, ?_, ?_, .inl rfl⟩
      · intro fd' there
        cases there
        exact .inl (.inl socket)
      · intro fd' receives
        cases receives
      · exact batch ▸ fun _ there => there
    · exact Effect.next step inside.symm failed

theorem outputLoop_effect {q : OutputLoop} (found : s.handlers[i]? = some h)
    (at_ : h.phase = .output q) (step : outputLoop m s i h q c = some t) :
    ∃ p, Effect s i h p t := by
  have mem := List.mem_of_getElem? found
  have inside : h.phase.connected = true := by rw [at_]; rfl
  have out (step : some (s.goto i h (.exit (.freeing .ended))) = some t) :
      ∃ p, Effect s i h p t := Effect.next step inside.symm (.exit rfl)
  have sent (last : Bool) (step : some (s.goto i h (afterSend .output last)) = some t) :
      ∃ p, Effect s i h p t :=
    Effect.next step ((connected_afterSend _ _).trans inside.symm) (.afterSend _ _)
  -- the same bytes are held
  have same (q : OutputLoop) (writes : (Phase.output q).writes = none)
      (receives : (Phase.output q).receives = none) (held : (Phase.output q).held = h.phase.held)
      (step : some (s.goto i h (.output q)) = some t) : ∃ p, Effect s i h p t :=
    Effect.next step inside.symm (.silent writes receives rfl (held ▸ fun _ there => there))
  cases q with
  | looping =>
    cases c with
    | ok =>
      simp only [outputLoop] at step
      split at step
      · exact out step
      · exact same _ rfl rfl (by rw [at_]; rfl) step
    | _ => cases step
  | selecting =>
    cases c with
    | ok | again => exact same _ rfl rfl (by rw [at_]; rfl) step
    | fail => exact out step
    | _ => cases step
  | reading => exact readOutput_effect inside step
  | receiving fd =>
    cases c with
    | bytes => exact read_effect inside (.inr ⟨h, mem, rfl, by rw [at_]; rfl⟩) step
    | fail => exact out step
    | _ => cases step
  | waiting len =>
    cases c with
    | ok =>
      simp only [outputLoop] at step
      split at step
      · exact same _ rfl rfl (by rw [at_]; exact rest_start len false) step
      · exact same _ rfl rfl (by rw [at_]; rfl) step
    | _ => cases step
  | polling len =>
    cases c with
    | ok =>
      simp only [outputLoop] at step
      split at step
      · exact same _ rfl rfl (by rw [at_]; exact rest_start len true) step
      · exact same _ rfl rfl (by rw [at_]; rfl) step
    | _ => cases step
  | sending b => exact sendInput_effect inside (by rw [at_]; rfl) step
  | writing fd b =>
    cases c with
    | bytes =>
      exact write_effect inside (.inr ⟨h, mem, rfl, by rw [at_]; rfl⟩) (by rw [at_]; rfl) step
    | fail => exact same _ rfl rfl (by rw [at_]; rfl) step
    | _ => cases step
  | failed b =>
    cases c with
    | ok =>
      simp only [outputLoop] at step
      split at step
      · exact same _ rfl rfl (by rw [at_]; rfl) step
      · cases step
    | again => exact same _ rfl rfl (by rw [at_]; rfl) step
    | fail => exact sent _ step
    | _ => cases step
  | retrying b =>
    cases c with
    | ok =>
      simp only [outputLoop] at step
      split at step
      · exact same _ rfl rfl (by rw [at_]; rfl) step
      · exact sent _ step
    | fail => exact sent _ step
    | _ => cases step
  | rechecking b =>
    cases c with
    | ok =>
      simp only [outputLoop] at step
      split at step
      · exact sent _ step
      · exact same _ rfl rfl (by rw [at_]; rfl) step
    | _ => cases step

theorem leave_effect {q : Exit} (at_ : h.phase = .exit q) (step : leave s i h q = some t) :
    ∃ p, Effect s i h p t := by
  cases q with
  | freeing l =>
    cases step
    exact ⟨_, .own (by rw [at_]; rfl) (.exit rfl) rfl (fun _ names => names.of_ssl rfl) (.inl rfl)⟩
  | closing l =>
    simp only [leave] at step
    split at step
    · rename_i fd socket
      refine Effect.next step (by rw [at_]; rfl) ⟨nofun, nofun, fun _ there => ?_, ?_⟩
      · cases there
      · exact .inr ⟨l, fd, rfl, socket⟩
    · exact Effect.next step ((connected_rest _ _).trans (by rw [at_]; rfl)) (.exit (plain_rest _ _))
  | closingFd l fd =>
    cases step
    refine ⟨_, .close fd at_ ?_⟩
    split
    · exact .inl rfl
    · exact .inr rfl
  | erasing l =>
    cases step
    exact ⟨_, .own ((connected_rest _ _).trans (by rw [at_]; rfl)) (.exit (plain_rest _ _)) rfl
      (fun _ names => names.of_erased) (.inr ⟨⟨l, at_⟩, plain_rest _ _⟩)⟩
  | asking =>
    cases step
    exact ⟨_, .slot (by rw [at_]; rfl) (.exit rfl) (fun side => by cases side <;> rfl)
      (fun _ names => names) (fun _ names => names) rfl (.inl rfl)⟩
  | leaving l =>
    have cleared : (Phase.exit (if l = .ended ∧ h.side = .output then .resetting
        else .returning)).connected = false := by
      split <;> rfl
    have plain : (Phase.exit (if l = .ended ∧ h.side = .output then .resetting
        else .returning)).plain = true := by
      split <;> rfl
    simp only [leave, ← cleared] at step
    cases step
    exact ⟨_, .flag (by rw [at_]; rfl) (.exit plain)⟩
  | resetting =>
    cases step
    exact ⟨_, .slot (by rw [at_]; rfl) (.exit rfl) (fun side => by cases side <;> rfl)
      (fun _ names => names) (fun _ names => names) rfl (.inl rfl)⟩
  | returning =>
    exact Effect.next step (by rw [at_]; rfl) (.quiet rfl rfl rfl rfl)

theorem handlerStep_effect (found : s.handlers[i]? = some h)
    (step : handlerStep m s i h c = some t) :
    h.phase ≠ .returned ∧ ∃ p, Effect s i h p t := by
  unfold handlerStep at step
  split at step
  · exact ⟨by simp [*], startUp_effect ‹_› step⟩
  · exact ⟨by simp [*], inputLoop_effect found ‹_› step⟩
  · exact ⟨by simp [*], outputLoop_effect found ‹_› step⟩
  · exact ⟨by simp [*], leave_effect ‹_› step⟩
  · cases step

end TunnelSlots
