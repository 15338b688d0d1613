import NetPort.LastAlive
import NetPort.ResourceLedger
import NetPort.StepRuns

/-! When the input threads of a client connection release what they open: the descriptor in
conn->input and the TLS object in conn->ssl_input. -/
namespace InputResources

open StepRuns ResourceLedger LastAlive

/-- conn->input or conn->ssl_input, with the book of all that was ever stored there. -/
structure Slot where
  held : Option ℕ
  ledger : Ledger Unit
  books : Books ledger (fun _ : Unit => ()) fun _ f => held = some f

namespace Slot

variable {s : Slot} {f : ℕ}

theorem emptied (s : Slot) : Books s.ledger (fun _ : Unit => ()) fun _ _ => False :=
  s.books.mono fun _ _ never => never.elim

def initial : Slot where
  held := none
  ledger := ⟨[], [], 0⟩
  books := ⟨⟨List.nodup_nil, by simp⟩, by simp, by simp, by simp⟩

def create (s : Slot) : Slot where
  held := some s.ledger.next
  ledger := s.ledger.openNew ()
  books := by
    refine (s.emptied.openNew ()).take (l := ()) (s.emptied.loose_new ()) ?_
    intro l f held
    exact .inr ⟨rfl, (Option.some.inj held).symm⟩

/-- close() or SSL_free when the field is set, and the field cleared. -/
def release (s : Slot) : Slot where
  held := none
  ledger := s.ledger.closeIf s.held ()
  books := by
    have emptied := s.emptied.closeIf (f := s.held) (w := ()) fun f held =>
      s.books.loose_of_held (l := ()) held fun _ _ never => never.elim
    exact emptied.mono fun _ _ never => nomatch never

def clear (s : Slot) : Slot where
  held := none
  ledger := s.ledger
  books := s.emptied.mono fun _ _ never => nomatch never

/-- Everything ever stored was closed, except what the field has now. -/
def Tidy (s : Slot) : Prop := ∀ c ∈ s.ledger.opened, s.ledger.IsClosed c.1 ∨ s.held = some c.1

/-- The field is clear and everything ever stored in it was closed. -/
def Cleared (s : Slot) : Prop := s.held = none ∧ ∀ c ∈ s.ledger.opened, s.ledger.IsClosed c.1

@[simp] theorem held_create : s.create.held = some s.ledger.next := rfl

@[simp] theorem held_release : s.release.held = none := rfl

@[simp] theorem held_clear : s.clear.held = none := rfl

theorem cleared_iff : s.Cleared ↔ s.Tidy ∧ s.held = none := by
  constructor
  · rintro ⟨none, closed⟩
    exact ⟨fun c hc => .inl (closed c hc), none⟩
  · rintro ⟨tidy, none⟩
    refine ⟨none, fun c hc => ?_⟩
    rcases tidy c hc with closed | held
    · exact closed
    · simp [none] at held

theorem tidy_initial : initial.Tidy := by simp [Tidy, initial]

@[simp] theorem tidy_release : s.release.Tidy ↔ s.Tidy := by
  cases held : s.held with
  | none => simp [Tidy, release, held, Ledger.closeIf]
  | some f =>
    simp only [Tidy, release, held, Ledger.closeIf, Ledger.close, Ledger.IsClosed, List.map_append,
      List.mem_append, List.map_cons, List.map_nil, List.mem_singleton, reduceCtorEq, or_false,
      Option.some.injEq, eq_comm]

theorem tidy_clear : s.clear.Tidy ↔ s.Tidy ∧ s.held = none := by
  constructor
  · intro tidy
    have closed : ∀ c ∈ s.ledger.opened, s.ledger.IsClosed c.1 := by
      intro c hc
      simpa [clear] using tidy c hc
    refine ⟨fun c hc => .inl (closed c hc), ?_⟩
    cases held : s.held with
    | none => rfl
    | some f =>
      obtain ⟨opened, isOpen⟩ := s.books.held () f held
      exact absurd (closed _ opened) isOpen
  · intro h
    have cleared := cleared_iff.2 h
    exact fun c hc => .inl (cleared.2 c hc)

theorem tidy_create : s.create.Tidy ↔ s.Tidy ∧ s.held = none := by
  rw [← tidy_clear]
  constructor
  · intro tidy c hc
    rcases tidy c (List.mem_append_left _ hc) with closed | held
    · exact .inl closed
    · have fresh := s.books.fresh c hc
      have same := Option.some.inj held
      omega
  · intro tidy c hc
    rcases List.mem_append.1 hc with old | new
    · rcases tidy c old with closed | held
      · exact .inl closed
      · exact nomatch held
    · rw [List.mem_singleton.1 new]
      exact .inr rfl

end Slot

inductive Phase where
  | label
  | settling
  | connecting
  | paused
  | dialling
  | retrying
  | unconnected
  | connected
  | securing
  | handshake
  | pausing
  | reading
  | awaiting
  | restarting
  | leaving
  | closing
  | deciding
  | ended
  deriving DecidableEq, Repr

/-- What becomes of init_input_sockets; a socket whose option cannot be set is not closed there. -/
inductive SocketSetup where
  | done
  | noSocket
  | noOption
  deriving DecidableEq, Repr

/-- SSL_read below one that does not only ask for more. -/
inductive SslReadEnd where
  | zeroReturn
  | error
  deriving DecidableEq, Repr

inductive Event where
  | reset
  | stops
  | setUp (r : SocketSetup)
  | loopStops
  | waits
  | dials
  | staysRevoked
  | resume (r : SocketSetup)
  | connects
  | connectFails
  | retry (r : SocketSetup)
  | givesUp
  | plain
  | secures
  | sslNew (created : Bool)
  | sslConnect (established : Bool)
  | pauseEnds
  | inactive
  | sslReadEnds (r : SslReadEnd)
  | recvEnds
  | received
  | outputRuns
  | outputTimesOut
  | restarts
  | leaves
  | frees
  | closes
  | ends
  | beginsAgain

structure World where
  input : Slot
  ssl : Slot
  enableSsl : Bool
  stopRunning : Bool
  gracefulShutdown : Bool
  threads : List Phase
  reached : List (Slot × Slot)

namespace World

def stopping (w : World) : Bool := w.stopRunning || w.gracefulShutdown

def openInput (w : World) : World := { w with input := w.input.create }

def closeInput (w : World) : World := { w with input := w.input.release }

def loseInput (w : World) : World := { w with input := w.input.clear }

def newSsl (w : World) : World := { w with ssl := w.ssl.create }

def freeSsl (w : World) : World := { w with ssl := w.ssl.release }

def loseSsl (w : World) : World := { w with ssl := w.ssl.clear }

def initInputSockets (w : World) : SocketSetup → World
  | .done | .noOption => w.openInput
  | .noSocket => w.loseInput

def move (w : World) (i : ℕ) (p : Phase) : World := { w with threads := w.threads.set i p }

/-- Control reaches the label; what the two fields have there is remembered. -/
def toLabel (w : World) (i : ℕ) : World :=
  { w with threads := w.threads.set i .label, reached := w.reached ++ [(w.input, w.ssl)] }

end World

def Event.At : Event → Phase → Prop
  | .reset, p => p = .label
  | .stops, p => p ∈ [.settling, .paused, .retrying, .unconnected, .securing, .pausing]
  | .setUp _, p => p = .settling
  | .loopStops, p | .waits, p | .dials, p => p = .connecting
  | .staysRevoked, p | .resume _, p => p = .paused
  | .connects, p | .connectFails, p => p = .dialling
  | .retry _, p => p = .retrying
  | .givesUp, p => p = .unconnected
  | .plain, p | .secures, p => p = .connected
  | .sslNew _, p => p = .securing
  | .sslConnect _, p => p = .handshake
  | .pauseEnds, p => p = .pausing
  | .inactive, p | .sslReadEnds _, p | .recvEnds, p | .received, p | .leaves, p => p = .reading
  | .outputRuns, p | .outputTimesOut, p => p = .awaiting
  | .restarts, p => p = .restarting
  | .frees, p => p = .leaving
  | .closes, p => p = .closing
  | .ends, p | .beginsAgain, p => p = .deciding

/-- What it must have found in the flags of the entry and in its fields. -/
def Event.Guard (w : World) : Event → Prop
  | .stops | .ends => w.stopping = true
  | .setUp _ | .staysRevoked | .resume _ | .retry _ | .givesUp | .sslNew _ | .pauseEnds
  | .beginsAgain => w.stopping = false
  | .loopStops => w.stopRunning = true
  | .waits | .dials => w.stopRunning = false
  | .connects => w.input.held ≠ none
  | .plain | .recvEnds => w.enableSsl = false
  | .secures => w.enableSsl = true
  | .sslReadEnds r => w.enableSsl = true ∧ (r = .zeroReturn → w.ssl.held ≠ none)
  | _ => True

/-- The thread `i` takes a step. -/
def advance (w : World) (i : ℕ) : Event → World
  | .reset => w.loseInput.move i .settling
  | .stops => w.closeInput.move i .ended
  | .setUp .done => (w.initInputSockets .done).move i .connecting
  | .setUp r => (w.initInputSockets r).toLabel i
  | .loopStops => w.move i .unconnected
  | .waits => w.move i .paused
  | .dials => w.move i .dialling
  | .staysRevoked => w.move i .connecting
  | .resume .done => (w.closeInput.initInputSockets .done).move i .dialling
  | .resume r => (w.closeInput.initInputSockets r).move i .connecting
  | .connects => w.move i .connected
  | .connectFails => w.closeInput.move i .retrying
  | .retry r => (w.initInputSockets r).move i .connecting
  | .givesUp => w.toLabel i
  | .plain => w.move i .reading
  | .secures => w.move i .securing
  | .sslNew true => w.newSsl.move i .handshake
  | .sslNew false => w.loseSsl.closeInput.move i .pausing
  | .sslConnect true => w.move i .reading
  | .sslConnect false => w.freeSsl.closeInput.move i .pausing
  | .pauseEnds => w.toLabel i
  -- the read loop: only an error of SSL_read frees the object
  | .inactive | .recvEnds | .sslReadEnds .zeroReturn => w.closeInput.move i .restarting
  | .sslReadEnds .error => w.freeSsl.closeInput.move i .restarting
  | .received => w.move i .awaiting
  | .outputRuns => w.move i .reading
  | .outputTimesOut | .restarts | .beginsAgain => w.toLabel i
  | .leaves => w.move i .leaving
  | .frees => (if w.enableSsl then w.freeSsl else w).move i .closing
  | .closes => w.closeInput.move i .deciding
  | .ends => w.move i .ended

/-- Besides the steps of the input threads: server_input_start, the settings and the flags, the
close of the restarter, and the output thread, which frees the object when it cannot write. -/
inductive Action where
  | start
  | thread (i : ℕ) (e : Event)
  | setEnableSsl (enabled : Bool)
  | setStop (stop : Bool)
  | shutDown
  | restarterCloses
  | outputFrees

def Enabled (w : World) : Action → Prop
  | .thread i e => (∃ p ∈ w.threads[i]?, e.At p) ∧ e.Guard w
  | _ => True

def next (w : World) : Action → World
  | .start =>
    { w with
      stopRunning := false
      threads := w.threads ++ [.label]
      reached := w.reached ++ [(w.input, w.ssl)] }
  | .thread i e => advance w i e
  | .setEnableSsl enabled => { w with enableSsl := enabled }
  | .setStop stop => { w with stopRunning := stop }
  | .shutDown => { w with gracefulShutdown := true }
  | .restarterCloses => w.closeInput
  | .outputFrees => w.freeSsl

def Initial (w : World) : Prop :=
  w.input = .initial ∧ w.ssl = .initial ∧ w.threads = [] ∧ w.reached = []

def system : System World Action := ⟨Initial, Enabled, next⟩

instance (e : Event) (p : Phase) : Decidable (e.At p) := by
  cases e <;> dsimp only [Event.At] <;> infer_instance

instance (w : World) (e : Event) : Decidable (e.Guard w) := by
  cases e <;> dsimp only [Event.Guard] <;> infer_instance

instance (w : World) (a : Action) : Decidable (Enabled w a) := by
  cases a <;> dsimp only [Enabled] <;> infer_instance

instance (w : World) (a : Action) : Decidable (system.enabled w a) :=
  inferInstanceAs (Decidable (Enabled w a))

/-- Every socket and every object is released exactly once before the next one is made, and at the
label the fields are clear. -/
structure Released (w : World) : Prop where
  sockets : w.input.Tidy ∧ w.input.ledger.Balanced
  objects : w.ssl.Tidy ∧ w.ssl.ledger.Balanced
  label : ∀ r ∈ w.reached, r.1.Cleared ∧ r.2.Cleared

namespace Released

variable {w : World} {i : ℕ} {p : Phase}

theorem closeInput (h : Released w) : Released w.closeInput :=
  ⟨⟨Slot.tidy_release.2 h.sockets.1, w.closeInput.input.books.balanced⟩, h.objects, h.label⟩

theorem freeSsl (h : Released w) : Released w.freeSsl :=
  ⟨h.sockets, ⟨Slot.tidy_release.2 h.objects.1, w.freeSsl.ssl.books.balanced⟩, h.label⟩

theorem loseInput (h : Released w) (none : w.input.held = none) : Released w.loseInput :=
  ⟨⟨Slot.tidy_clear.2 ⟨h.sockets.1, none⟩, h.sockets.2⟩, h.objects, h.label⟩

theorem loseSsl (h : Released w) (none : w.ssl.held = none) : Released w.loseSsl :=
  ⟨h.sockets, ⟨Slot.tidy_clear.2 ⟨h.objects.1, none⟩, h.objects.2⟩, h.label⟩

theorem newSsl (h : Released w) (none : w.ssl.held = none) : Released w.newSsl :=
  ⟨h.sockets, ⟨Slot.tidy_create.2 ⟨h.objects.1, none⟩, w.newSsl.ssl.books.balanced⟩, h.label⟩

theorem initInputSockets (h : Released w) (none : w.input.held = none) (r : SocketSetup) :
    Released (w.initInputSockets r) := by
  have opened : Released w.openInput :=
    ⟨⟨Slot.tidy_create.2 ⟨h.sockets.1, none⟩, w.openInput.input.books.balanced⟩, h.objects, h.label⟩
  cases r with
  | done => exact opened
  | noOption => exact opened
  | noSocket => exact h.loseInput none

theorem move (h : Released w) : Released (w.move i p) := ⟨h.sockets, h.objects, h.label⟩

theorem reach (h : Released w) (none : w.input.held = none ∧ w.ssl.held = none) :
    ∀ r ∈ w.reached ++ [(w.input, w.ssl)], r.1.Cleared ∧ r.2.Cleared := by
  intro r hr
  rcases List.mem_append.1 hr with old | new
  · exact h.label r old
  · rw [List.mem_singleton.1 new]
    exact ⟨Slot.cleared_iff.2 ⟨h.sockets.1, none.1⟩, Slot.cleared_iff.2 ⟨h.objects.1, none.2⟩⟩

theorem toLabel (h : Released w) (none : w.input.held = none ∧ w.ssl.held = none) :
    Released (w.toLabel i) := ⟨h.sockets, h.objects, h.reach none⟩

end Released

def Careful (w : World) : Action → Prop
  -- the entry has no thread that has not ended
  | .start => ∀ p ∈ w.threads, p = .ended
  | .thread _ (.setUp .noOption) => False
  -- the stop flag that ended the connect loop was cleared again
  | .thread _ .givesUp => w.input.held = none
  | .thread _ .inactive | .thread _ .recvEnds | .thread _ (.sslReadEnds .zeroReturn) =>
    w.ssl.held = none
  | .thread _ .outputTimesOut => w.input.held = none ∧ w.ssl.held = none
  | .thread _ .frees => w.enableSsl = true ∨ w.ssl.held = none
  | _ => True

instance (w : World) (a : Action) : Decidable (Careful w a) := by
  dsimp only [Careful]
  split <;> infer_instance

/-- What the fields have where the only thread is that has not ended. -/
def World.Meets (w : World) : Phase → Prop
  | .label | .settling | .retrying | .pausing | .restarting | .deciding | .ended =>
    w.input.held = none ∧ w.ssl.held = none
  | .connecting | .paused | .dialling | .unconnected | .connected | .securing | .closing =>
    w.ssl.held = none
  | .handshake | .reading | .awaiting | .leaving => True

structure Invariant (w : World) : Prop where
  released : Released w
  retired : Retired .ended w.threads
  last : w.Meets (w.threads.getLastD .ended)

section Steps

variable {w v : World} {i : ℕ} {p q : Phase} {e : Event}

theorem Event.At.alive (h : e.At p) : p ≠ .ended := by
  rintro rfl
  cases e <;> simp [Event.At] at h

theorem meets_closeInput (h : w.Meets p) : w.closeInput.Meets p := by
  have input : w.closeInput.input.held = none := rfl
  have ssl : w.closeInput.ssl = w.ssl := rfl
  cases p <;> simp_all [World.Meets]

theorem meets_freeSsl (h : w.Meets p) : w.freeSsl.Meets p := by
  have input : w.freeSsl.input = w.input := rfl
  have ssl : w.freeSsl.ssl.held = none := rfl
  cases p <;> simp_all [World.Meets]

namespace Invariant

theorem moved (h : Invariant w) (here : w.threads[i]? = some p) (alive : p ≠ .ended)
    (threads : v.threads = w.threads) (released : Released v) (meets : v.Meets q) :
    Invariant (v.move i q) := by
  obtain ⟨retired, last⟩ := h.retired.set here alive (q := q)
  refine ⟨released.move, ?_, ?_⟩
  · simpa only [World.move, threads] using retired
  · have after : (v.move i q).threads.getLastD .ended = q := by simpa only [World.move, threads]
    rw [after]
    cases q <;> exact meets

theorem labelled (h : Invariant w) (here : w.threads[i]? = some p) (alive : p ≠ .ended)
    (threads : v.threads = w.threads) (released : Released v)
    (none : v.input.held = none ∧ v.ssl.held = none) : Invariant (v.toLabel i) := by
  obtain ⟨retired, last⟩ := h.retired.set here alive (q := .label)
  refine ⟨released.toLabel none, ?_, ?_⟩
  · simpa only [World.toLabel, threads] using retired
  · have after : (v.toLabel i).threads.getLastD .ended = .label := by
      simpa only [World.toLabel, threads]
    rw [after]
    exact none

theorem advance (h : Invariant w) (here : w.threads[i]? = some p) (place : e.At p)
    (guard : e.Guard w) (careful : Careful w (.thread i e)) : Invariant (advance w i e) := by
  have released := h.released
  have meets : w.Meets p := h.retired.getLastD here place.alive ▸ h.last
  have moved : ∀ {v : World} {q : Phase}, v.threads = w.threads → Released v → v.Meets q →
      Invariant (v.move i q) := h.moved here place.alive
  have labelled : ∀ {v : World}, v.threads = w.threads → Released v →
      (v.input.held = none ∧ v.ssl.held = none) → Invariant (v.toLabel i) :=
    h.labelled here place.alive
  cases e with
  | reset =>
    cases place
    exact moved rfl (released.loseInput meets.1) ⟨rfl, meets.2⟩
  | stops =>
    have ssl : w.ssl.held = none := by
      simp only [Event.At, List.mem_cons, List.not_mem_nil, or_false] at place
      rcases place with rfl | rfl | rfl | rfl | rfl | rfl
      · exact meets.2
      · exact meets
      · exact meets.2
      · exact meets
      · exact meets
      · exact meets.2
    exact moved rfl released.closeInput ⟨rfl, ssl⟩
  | setUp r =>
    cases place
    have initialised := released.initInputSockets meets.1 r
    cases r with
    | done => exact moved rfl initialised meets.2
    | noSocket => exact labelled rfl initialised ⟨rfl, meets.2⟩
    | noOption => exact careful.elim
  | loopStops =>
    cases place
    exact moved rfl released meets
  | waits =>
    cases place
    exact moved rfl released meets
  | dials =>
    cases place
    exact moved rfl released meets
  | staysRevoked =>
    cases place
    exact moved rfl released meets
  | resume r =>
    cases place
    have initialised := released.closeInput.initInputSockets rfl r
    cases r <;> exact moved rfl initialised meets
  | connects =>
    cases place
    exact moved rfl released meets
  | connectFails =>
    cases place
    exact moved rfl released.closeInput ⟨rfl, meets⟩
  | retry r =>
    cases place
    have initialised := released.initInputSockets meets.1 r
    cases r <;> exact moved rfl initialised meets.2
  | givesUp =>
    cases place
    exact labelled rfl released ⟨careful, meets⟩
  | plain =>
    cases place
    exact moved rfl released trivial
  | secures =>
    cases place
    exact moved rfl released meets
  | sslNew created =>
    cases place
    cases created with
    | true => exact moved rfl (released.newSsl meets) trivial
    | false => exact moved rfl (released.loseSsl meets).closeInput ⟨rfl, rfl⟩
  | sslConnect established =>
    cases established with
    | true => exact moved rfl released trivial
    | false => exact moved rfl released.freeSsl.closeInput ⟨rfl, rfl⟩
  | pauseEnds =>
    cases place
    exact labelled rfl released meets
  | inactive => exact moved rfl released.closeInput ⟨rfl, careful⟩
  | sslReadEnds r =>
    cases r with
    | zeroReturn => exact moved rfl released.closeInput ⟨rfl, careful⟩
    | error => exact moved rfl released.freeSsl.closeInput ⟨rfl, rfl⟩
  | recvEnds => exact moved rfl released.closeInput ⟨rfl, careful⟩
  | received => exact moved rfl released trivial
  | outputRuns => exact moved rfl released trivial
  | outputTimesOut => exact labelled rfl released careful
  | restarts =>
    cases place
    exact labelled rfl released meets
  | leaves => exact moved rfl released trivial
  | frees =>
    cases enabled : w.enableSsl with
    | true =>
      simp only [InputResources.advance, enabled, if_true]
      exact moved rfl released.freeSsl rfl
    | false =>
      simp only [InputResources.advance, enabled, Bool.false_eq_true, if_false]
      refine moved rfl released ?_
      rcases careful with on | none
      · simp [enabled] at on
      · exact none
  | closes =>
    cases place
    exact moved rfl released.closeInput ⟨rfl, meets⟩
  | ends =>
    cases place
    exact moved rfl released meets
  | beginsAgain =>
    cases place
    exact labelled rfl released meets

theorem start (h : Invariant w) (ended : ∀ p ∈ w.threads, p = .ended) :
    Invariant (next w .start) := by
  have last : w.threads.getLastD .ended = .ended :=
    getLastD_of_all (P := fun p : Phase => p = .ended) rfl ended
  have none : w.input.held = none ∧ w.ssl.held = none := by
    have meets := h.last
    rwa [last] at meets
  refine ⟨⟨h.released.sockets, h.released.objects, h.released.reach none⟩, ?_, ?_⟩
  · exact retired_append ended
  · simpa [next, World.Meets] using none

theorem step {a : Action} (h : Invariant w) (enabled : Enabled w a) (careful : Careful w a) :
    Invariant (next w a) := by
  cases a with
  | start => exact h.start careful
  | thread i e =>
    obtain ⟨⟨p, here, place⟩, guard⟩ := enabled
    exact h.advance here place guard careful
  | setEnableSsl enabled =>
    exact ⟨⟨h.released.sockets, h.released.objects, h.released.label⟩, h.retired, h.last⟩
  | setStop stop =>
    exact ⟨⟨h.released.sockets, h.released.objects, h.released.label⟩, h.retired, h.last⟩
  | shutDown =>
    exact ⟨⟨h.released.sockets, h.released.objects, h.released.label⟩, h.retired, h.last⟩
  | restarterCloses => exact ⟨h.released.closeInput, h.retired, meets_closeInput h.last⟩
  | outputFrees => exact ⟨h.released.freeSsl, h.retired, meets_freeSsl h.last⟩

theorem initial (h : Initial w) : Invariant w := by
  obtain ⟨input, ssl, threads, reached⟩ := h
  refine ⟨⟨?_, ?_, by simp [reached]⟩, threads ▸ retired_nil, ?_⟩
  · rw [input]
    exact ⟨Slot.tidy_initial, Slot.initial.books.balanced⟩
  · rw [ssl]
    exact ⟨Slot.tidy_initial, Slot.initial.books.balanced⟩
  · simp [threads, World.Meets, input, ssl, Slot.initial]

end Invariant

end Steps

variable {w : World} {log : List (World × Action)}

/-- In a run without those branches every resource is released before the next is made. -/
theorem released_while_careful (run : system.Run log w) (careful : ∀ e ∈ log, Careful e.1 e.2) :
    Released w := by
  have invariant : Invariant w := run.invariant (fun _ initial => .initial initial)
    (fun _ _ inv enabled careful => inv.step enabled careful) careful
  exact invariant.released

def fresh (enableSsl : Bool) : World :=
  { input := .initial, ssl := .initial, enableSsl, stopRunning := false, gracefulShutdown := false,
    threads := [], reached := [] }

theorem start_fresh (enableSsl : Bool) : system.Run [] (fresh enableSsl) :=
  .start ⟨rfl, rfl, rfl, rfl⟩

def connecting : List Action :=
  [Event.reset, .setUp .done, .dials, .connects].map (.thread 0)

def failingTls : List Action :=
  .start :: connecting ++
    [Event.secures, .sslNew true, .sslConnect false, .pauseEnds].map (Action.thread 0) ++
    connecting ++
    [Event.secures, .sslNew true, .sslConnect true, .sslReadEnds .error, .restarts].map
      (Action.thread 0)

theorem failing_tls_released :
    ∃ log w, system.Run log w ∧ w.reached.length = 3 ∧ w.ssl.ledger.closed.length = 2 ∧
      Released w := by
  obtain ⟨log, w, run, found⟩ := (start_fresh true).follow_any failingTls
    (fun r => r.2.reached.length = 3 ∧ r.2.ssl.ledger.closed.length = 2 ∧
      ∀ e ∈ r.1, Careful e.1 e.2) (by decide +kernel)
  obtain ⟨three, two, careful⟩ := of_decide_eq_true found
  exact ⟨log, w, run, three, two, released_while_careful run careful⟩

/-- The server closes the TLS connection: the label is reached with ssl_input set, and the next
SSL_new is stored over it. -/
def closedTls : List Action :=
  .start :: connecting ++ [Event.secures, .sslNew true, .sslConnect true, .sslReadEnds .zeroReturn,
    .restarts].map (Action.thread 0) ++ connecting ++
    [Event.secures, .sslNew true].map (Action.thread 0)

theorem close_notify_leaks :
    ∃ log w, system.Run log w ∧ (∃ r ∈ w.reached, r.2.held = some 0) ∧ w.ssl.held = some 1 ∧
      ¬ w.ssl.ledger.IsClosed 0 ∧ ¬ Released w := by
  obtain ⟨log, w, run, found⟩ := (start_fresh true).follow_any closedTls
    (fun r => (∃ x ∈ r.2.reached, x.2.held = some 0) ∧ r.2.ssl.held = some 1 ∧
      0 ∉ r.2.ssl.ledger.closed.map Prod.fst) (by decide +kernel)
  obtain ⟨⟨x, reached, held⟩, next, isOpen⟩ := of_decide_eq_true found
  refine ⟨log, w, run, ⟨x, reached, held⟩, next, isOpen, ?_⟩
  intro released
  simp [(released.label x reached).2.1] at held

end InputResources
