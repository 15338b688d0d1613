import Mathlib.Logic.Function.Basic
import NetPort.LastAlive
import NetPort.StepRuns

/-! How the threads of a client connection come and go: the flags of its entry, and those who start
threads by them. What a restart does to the other entries only takes time here. -/
namespace ClientThreads

open StepRuns LastAlive

inductive Direction where
  | input
  | output
  deriving DecidableEq, Repr

inductive Flag where
  | isRunning (d : Direction)
  | isStarting (d : Direction)
  | stopRunning (d : Direction)
  deriving DecidableEq, Repr

def Flag.direction : Flag → Direction
  | .isRunning d | .isStarting d | .stopRunning d => d

/-- A thread from its creation to its return. The three places in server_output_start are only an
input thread's; one that leaves has some flags still to clear, in their order. -/
inductive Phase where
  | connecting
  | announcing
  | running
  | checked
  | creating
  | awaiting
  | leaving (rest : List Flag)
  | exited
  deriving DecidableEq, Repr

/-- switcher_servers_restart_input_threads, with the flags it has still to set or to reset, and
server_input_start, which it calls as switcher_servers_start does. -/
inductive Starter where
  | stopping (rest : List Flag)
  | waiting
  | resetting (rest : List Flag)
  | calling
  | checked
  | creating
  | awaiting
  | done
  deriving DecidableEq, Repr

structure World where
  flags : Flag → Bool
  shutdown : Bool
  threads : Direction → List Phase
  starters : List Starter

namespace World

def set (w : World) (f : Flag) (b : Bool) : World :=
  { w with flags := Function.update w.flags f b }

def move (w : World) (d : Direction) (i : ℕ) (p : Phase) : World :=
  { w with threads := Function.update w.threads d ((w.threads d).set i p) }

def create (w : World) (d : Direction) : World :=
  { w with threads := Function.update w.threads d (w.threads d ++ [Phase.connecting]) }

def put (w : World) (i : ℕ) (p : Starter) : World := { w with starters := w.starters.set i p }

def stopRequested (w : World) (d : Direction) : Bool := w.flags (.stopRunning d) || w.shutdown

end World

/-- The flags that a thread clears before it returns, on each of its ways out; a failed handshake
of the output thread clears none. -/
def exits : Direction → Phase → List (List Flag)
  | .input, .connecting => [[.isStarting .input, .isRunning .input]]
  | .input, .running => [[.isRunning .input, .isStarting .input]]
  | .output, .connecting =>
    [[.isRunning .output], [.isStarting .output, .isRunning .output], []]
  | .output, .running => [[.isRunning .output, .isStarting .output, .stopRunning .output]]
  | _, _ => []

inductive ThreadEvent where
  | announces
  | begins
  | again
  | leaves (rest : List Flag)
  | clears (f : Flag) (rest : List Flag)
  | returns
  | testsOutput
  | marksOutput
  | createsOutput (created : Bool)
  | outputStarted
  | outputTimesOut

inductive StarterEvent where
  | stops (f : Flag) (rest : List Flag)
  | closes
  | endsWait
  | resets (f : Flag) (rest : List Flag)
  | calls
  | tests
  | marks
  | creates (created : Bool)
  | started

/-- Where a thread must be for its step, and what it must have found in the flags. An output thread
can fail at any time. -/
def ThreadEvent.Guard (w : World) (d : Direction) (p : Phase) : ThreadEvent → Prop
  | .announces => p = .connecting
  | .begins => p = .announcing
  | .again => d = .input ∧ p = .running
  | .leaves rest => rest ∈ exits d p ∧ (d = .input → w.stopRequested d = true)
  | .clears f rest => p = .leaving (f :: rest)
  | .returns => p = .leaving []
  | .testsOutput => d = .input ∧ p = .running ∧ w.flags (.isRunning .output) = false ∧
      w.flags (.isStarting .output) = false
  | .marksOutput => d = .input ∧ p = .checked
  | .createsOutput _ => d = .input ∧ p = .creating
  | .outputStarted => d = .input ∧ p = .awaiting ∧ w.flags (.isStarting .output) = false
  | .outputTimesOut => d = .input ∧ p = .awaiting

/-- The wait for is_running_input ends with the flag or after 10 s. -/
def StarterEvent.Guard (w : World) (p : Starter) : StarterEvent → Prop
  | .stops f rest => p = .stopping (f :: rest)
  | .closes => p = .stopping []
  | .endsWait => p = .waiting
  | .resets f rest => p = .resetting (f :: rest)
  | .calls => p = .resetting []
  | .tests => p = .calling
  | .marks => p = .checked
  | .creates _ => p = .creating
  | .started => p = .awaiting ∧ w.flags (.isStarting .input) = false

def advance (w : World) (d : Direction) (i : ℕ) : ThreadEvent → World
  | .announces => (w.set (.isRunning d) true).move d i .announcing
  | .begins => (w.set (.isStarting d) false).move d i .running
  -- back to the label: is_running_input stays as it is
  | .again => w.move d i .connecting
  | .leaves rest => w.move d i (.leaving rest)
  | .clears f rest => (w.set f false).move d i (.leaving rest)
  | .returns => w.move d i .exited
  | .testsOutput => w.move d i .checked
  | .marksOutput =>
    ((w.set (.isStarting .output) true).set (.stopRunning .output) false).move d i .creating
  | .createsOutput true => (w.move d i .awaiting).create .output
  | .createsOutput false => (w.set (.isStarting .output) false).move d i .running
  | .outputStarted => w.move d i .running
  | .outputTimesOut => (w.set (.isStarting .output) false).move d i .running

def resetFlags : List Flag :=
  [.stopRunning .input, .stopRunning .output, .isRunning .input, .isRunning .output,
    .isStarting .input, .isStarting .output]

def drive (w : World) (i : ℕ) : StarterEvent → World
  | .stops f rest => (w.set f true).put i (.stopping rest)
  | .closes => w.put i .waiting
  | .endsWait => w.put i (.resetting resetFlags)
  | .resets f rest => (w.set f false).put i (.resetting rest)
  | .calls => w.put i .calling
  -- server_input_start only looks at is_running_input
  | .tests => w.put i (if w.flags (.isRunning .input) then .done else .checked)
  | .marks => ((w.set (.isStarting .input) true).set (.stopRunning .input) false).put i .creating
  | .creates true => (w.put i .awaiting).create .input
  | .creates false => (w.set (.isStarting .input) false).put i .done
  | .started => w.put i .done

/-- A restart comes with a registration or new TLS settings, a drop before it or alone. -/
inductive Action where
  | thread (d : Direction) (i : ℕ) (e : ThreadEvent)
  | starter (i : ℕ) (e : StarterEvent)
  | restart
  | drop
  | shutDown

def Enabled (w : World) : Action → Prop
  | .thread d i e => ∃ p ∈ (w.threads d)[i]?, e.Guard w d p
  | .starter i e => ∃ p ∈ w.starters[i]?, e.Guard w p
  | _ => True

def next (w : World) : Action → World
  | .thread d i e => advance w d i e
  | .starter i e => drive w i e
  | .restart =>
    { w with starters := w.starters ++ [.stopping [.stopRunning .input, .stopRunning .output]] }
  | .drop => (w.set (.stopRunning .input) true).set (.stopRunning .output) true
  | .shutDown => { w with shutdown := true }

/-- The entry as switcher_servers_start has zeroed it, before its call of server_input_start. -/
def Initial (w : World) : Prop :=
  (∀ f, w.flags f = false) ∧ (∀ d, w.threads d = []) ∧ w.starters = [.calling]

def system : System World Action := ⟨Initial, Enabled, next⟩

instance (w : World) (d : Direction) (p : Phase) (e : ThreadEvent) : Decidable (e.Guard w d p) := by
  cases e <;> dsimp only [ThreadEvent.Guard] <;> infer_instance

instance (w : World) (p : Starter) (e : StarterEvent) : Decidable (e.Guard w p) := by
  cases e <;> dsimp only [StarterEvent.Guard] <;> infer_instance

instance (w : World) (a : Action) : Decidable (Enabled w a) := by
  cases a <;> dsimp only [Enabled] <;> infer_instance

instance (w : World) (a : Action) : Decidable (system.enabled w a) :=
  inferInstanceAs (Decidable (Enabled w a))

/-- At most one input thread and one output thread that have not returned. -/
def OneLive (w : World) : Prop := ∀ d, (w.threads d).countP (fun p => p ≠ .exited) ≤ 1

def Phase.Departing : Phase → Prop
  | .leaving _ | .exited => True
  | _ => False

def Phase.Leaving : Phase → Prop
  | .leaving _ => True
  | _ => False

/-- No thread of the direction stands on its flags, and none is about to be created. -/
def World.Unused (w : World) : Direction → Prop
  | .input => (∀ p ∈ w.threads .input, p.Departing) ∧ .creating ∉ w.starters
  | .output => (∀ p ∈ w.threads .output, p.Departing) ∧ .creating ∉ w.threads .input

def Careful (w : World) : Action → Prop
  -- the reset of a restart whose wait has not seen the threads go
  | .starter _ (.resets (.isRunning d) _) => w.Unused d
  | .starter _ (.resets (.isStarting d) _) => w.Unused d
  -- server_input_start while a thread is starting, or has cleared its flags and not returned
  | .starter _ .marks => w.flags (.isRunning .input) = false ∧
      w.flags (.isStarting .input) = false ∧ ∀ p ∈ w.threads .input, ¬ p.Leaving
  | .thread _ _ .marksOutput => ∀ p ∈ w.threads .output, ¬ p.Leaving
  -- the 5 s of server_output_start, while the thread still connects
  | .thread _ _ .outputTimesOut => ∀ p ∈ w.threads .output, p.Departing
  | _ => True

instance (p : Phase) : Decidable p.Departing := by
  cases p <;> dsimp only [Phase.Departing] <;> infer_instance

instance (p : Phase) : Decidable p.Leaving := by
  cases p <;> dsimp only [Phase.Leaving] <;> infer_instance

instance (w : World) (d : Direction) : Decidable (w.Unused d) := by
  cases d <;> dsimp only [World.Unused] <;> infer_instance

instance (w : World) (a : Action) : Decidable (Careful w a) := by
  dsimp only [Careful]
  split <;> infer_instance

def World.last (w : World) (d : Direction) : Phase := (w.threads d).getLastD .exited

def World.Covered (w : World) (d : Direction) : Phase → Prop
  | .connecting => w.flags (.isStarting d) = true ∨ w.flags (.isRunning d) = true
  | .announcing | .running | .awaiting => w.flags (.isRunning d) = true
  | .checked => w.flags (.isRunning d) = true ∧ w.flags (.isRunning .output) = false ∧
      w.flags (.isStarting .output) = false
  | .creating => w.flags (.isRunning d) = true ∧ w.flags (.isStarting .output) = true ∧
      w.last .output = .exited
  | .leaving rest => ∀ f ∈ rest, f.direction = d
  | .exited => True

structure Invariant (w : World) : Prop where
  retired : ∀ d, Retired .exited (w.threads d)
  covered : ∀ d, w.Covered d (w.last d)
  creating : .creating ∈ w.starters →
    w.flags (.isStarting .input) = true ∧ w.last .input = .exited
  once : ∀ i j : ℕ, w.starters[i]? = some Starter.creating →
    w.starters[j]? = some Starter.creating → i = j
  stopping : ∀ rest, .stopping rest ∈ w.starters → ∀ f ∈ rest, ∃ d, f = .stopRunning d

section Steps

variable {w v : World} {d : Direction} {i : ℕ} {p q : Phase} {f : Flag} {b : Bool} {s : Starter}
  {rest : List Flag}

@[simp] theorem flags_set (g : Flag) : (w.set f b).flags g = if g = f then b else w.flags g :=
  Function.update_apply ..

theorem flags_set_direction {g : Flag} (other : g.direction ≠ f.direction) :
    (w.set f b).flags g = w.flags g := by
  rw [flags_set, if_neg (fun same => other (congrArg Flag.direction same))]

@[simp] theorem flags_move : (w.move d i p).flags = w.flags := rfl

@[simp] theorem flags_put : (w.put i s).flags = w.flags := rfl

@[simp] theorem flags_create : (w.create d).flags = w.flags := rfl

@[simp] theorem last_set (e : Direction) : (w.set f b).last e = w.last e := rfl

@[simp] theorem last_put (e : Direction) : (w.put i s).last e = w.last e := rfl

theorem last_move_other {e : Direction} (other : e ≠ d) : (w.move d i p).last e = w.last e := by
  simp [World.last, World.move, other]

theorem last_create_other {e : Direction} (other : e ≠ d) : (w.create d).last e = w.last e := by
  simp [World.last, World.create, other]

theorem last_create : (w.create d).last d = .connecting := by
  simp [World.last, World.create]

@[simp] theorem covered_stop {e : Direction} :
    (w.set (.stopRunning e) b).Covered d p ↔ w.Covered d p := by
  cases p <;> simp [World.Covered]

theorem exits_direction : ∀ rest ∈ exits d p, ∀ f ∈ rest, f.direction = d := by
  cases d <;> cases p <;> simp [exits, Flag.direction]

theorem covered_congr (flags : v.flags = w.flags) (last : v.last .output = w.last .output) :
    v.Covered d p ↔ w.Covered d p := by
  cases p <;> simp only [World.Covered, flags, last]

/-- Only the flags of its own direction matter to an output thread. -/
theorem Covered.output (h : w.Covered .output p)
    (flags : ∀ f : Flag, f.direction = .output → v.flags f = w.flags f)
    (last : v.last .output = w.last .output) : v.Covered .output p := by
  have running := flags (.isRunning .output) rfl
  have starting := flags (.isStarting .output) rfl
  cases p <;> simp only [World.Covered, running, starting, last] at h ⊢ <;> exact h

theorem Covered.input (h : w.Covered .input p)
    (flags : ∀ f : Flag, f.direction = .input → v.flags f = w.flags f)
    (checked : p = .checked →
      v.flags (.isRunning .output) = false ∧ v.flags (.isStarting .output) = false)
    (creating : p ≠ .creating) : v.Covered .input p := by
  have running := flags (.isRunning .input) rfl
  have starting := flags (.isStarting .input) rfl
  cases p with
  | checked => exact ⟨running.trans h.1, checked rfl⟩
  | creating => exact absurd rfl creating
  | connecting => simpa only [World.Covered, running, starting] using h
  | announcing => exact running.trans h
  | running => exact running.trans h
  | awaiting => exact running.trans h
  | leaving rest => exact h
  | exited => trivial

namespace Invariant

theorem last_eq (h : Invariant w) (here : (w.threads d)[i]? = some p) (alive : p ≠ .exited) :
    w.last d = p := (h.retired d).getLastD here alive

theorem last_move (h : Invariant w) (here : (w.threads d)[i]? = some p) (alive : p ≠ .exited)
    (threads : v.threads = w.threads) : (v.move d i q).last d = q := by
  have after := ((h.retired d).set here alive (q := q)).2
  simpa [World.last, World.move, threads] using after

theorem retired_move (h : Invariant w) (here : (w.threads d)[i]? = some p) (alive : p ≠ .exited)
    (threads : v.threads = w.threads) (e : Direction) :
    Retired .exited ((v.move d i q).threads e) := by
  by_cases same : e = d
  · subst same
    have after := ((h.retired e).set here alive (q := q)).1
    simpa [World.move, threads] using after
  · have before := h.retired e
    simpa [World.move, same, threads] using before

theorem moved_input (h : Invariant w) (here : (w.threads .input)[i]? = some p)
    (alive : p ≠ .exited) (threads : v.threads = w.threads) (starters : v.starters = w.starters)
    (own : v.Covered .input q) (other : v.Covered .output (w.last .output)) :
    Invariant (v.move .input i q) := by
  have others : (v.move .input i q).last .output = v.last .output := last_move_other nofun
  have same : v.last .output = w.last .output := by simp only [World.last, threads]
  refine ⟨h.retired_move here alive threads, ?_, ?_, ?_, ?_⟩
  · intro d
    rw [covered_congr flags_move others]
    cases d with
    | input => rwa [h.last_move here alive threads]
    | output => rwa [others, same]
  · intro creating
    have last := (h.creating (starters ▸ creating)).2
    exact absurd ((h.last_eq here alive).symm.trans last) alive
  · have once := h.once
    rwa [← starters] at once
  · have stopping := h.stopping
    rwa [← starters] at stopping

/-- A step of the output thread that is alive; the input thread is not about to create one. -/
theorem moved_output (h : Invariant w) (here : (w.threads .output)[i]? = some p)
    (alive : p ≠ .exited) (threads : v.threads = w.threads) (starters : v.starters = w.starters)
    (flags : ∀ f : Flag, f.direction = .input → v.flags f = w.flags f)
    (checked : w.last .input = .checked →
      v.flags (.isRunning .output) = false ∧ v.flags (.isStarting .output) = false)
    (own : v.Covered .output q) (plain : q ≠ .creating) : Invariant (v.move .output i q) := by
  have same : v.last .input = w.last .input := by simp only [World.last, threads]
  have others : (v.move .output i q).last .input = w.last .input := by
    rwa [last_move_other (by simp)]
  refine ⟨h.retired_move here alive threads, ?_, ?_, ?_, ?_⟩
  · intro d
    cases d with
    | input =>
      rw [others]
      refine Covered.input (h.covered .input) flags checked ?_
      intro creating
      have covered := h.covered .input
      rw [creating] at covered
      exact alive ((h.last_eq here alive).symm.trans covered.2.2)
    | output =>
      rw [h.last_move here alive threads]
      cases q with
      | creating => exact absurd rfl plain
      | connecting => exact own
      | announcing => exact own
      | running => exact own
      | checked => exact own
      | awaiting => exact own
      | leaving rest => exact own
      | exited => trivial
  · intro creating
    have starting := h.creating (starters ▸ creating)
    exact ⟨(flags (.isStarting .input) rfl).trans starting.1, others.trans starting.2⟩
  · have once := h.once
    rwa [← starters] at once
  · have stopping := h.stopping
    rwa [← starters] at stopping

theorem moved (h : Invariant w) (here : (w.threads d)[i]? = some p) (alive : p ≠ .exited)
    (covered : w.Covered d q) (plain : q ≠ .creating) : Invariant (w.move d i q) := by
  cases d with
  | input => exact h.moved_input here alive rfl rfl covered (h.covered .output)
  | output =>
    refine h.moved_output here alive rfl rfl (fun _ _ => rfl) ?_ covered plain
    intro checked
    have tested := h.covered .input
    rw [checked] at tested
    exact tested.2

/-- A step that sets one flag of its direction; an output thread raises none while the input thread
stands between its test and the start of another. -/
theorem flagged (h : Invariant w) (here : (w.threads d)[i]? = some p) (alive : p ≠ .exited)
    (own : f.direction = d) (raised : d = .output → w.last .input = .checked → b = false)
    (covered : (w.set f b).Covered d q) (plain : q ≠ .creating) :
    Invariant ((w.set f b).move d i q) := by
  cases d with
  | input =>
    refine h.moved_input here alive rfl rfl covered (Covered.output (h.covered .output) ?_ rfl)
    intro g output
    exact flags_set_direction (by simp [own, output])
  | output =>
    refine h.moved_output here alive rfl rfl ?_ ?_ covered plain
    · intro g input
      exact flags_set_direction (by simp [own, input])
    · intro checked
      have tested := h.covered .input
      rw [checked] at tested
      have lowered := raised rfl checked
      simp [tested.2.1, tested.2.2, lowered]

theorem created (h : Invariant w) (none : w.last d = .exited)
    (starting : w.flags (.isStarting d) = true) (starters : d = .input → .creating ∉ w.starters)
    (input : d = .output → w.last .input ≠ .creating) : Invariant (w.create d) := by
  refine ⟨?_, ?_, ?_, h.once, h.stopping⟩
  · intro e
    by_cases same : e = d
    · subst same
      simpa [World.create] using retired_append ((h.retired e).all_dead none)
    · simpa [World.create, same] using h.retired e
  · intro e
    by_cases same : e = d
    · subst same
      rw [last_create]
      exact .inl starting
    · rw [last_create_other same]
      cases e with
      | input =>
        have output : d = .output := by cases d <;> simp_all
        refine Covered.input (h.covered .input) (fun _ _ => rfl) ?_ (input output)
        intro checked
        have tested := h.covered .input
        rw [checked] at tested
        exact tested.2
      | output => exact Covered.output (h.covered .output) (fun _ _ => rfl) (last_create_other same)
  · intro creating
    cases d with
    | input => exact absurd creating (starters rfl)
    | output =>
      rw [last_create_other (by simp)]
      exact h.creating creating

/-- With both flags clear and no thread on its way out there is none alive. -/
theorem none_alive (h : Invariant w) (running : w.flags (.isRunning d) = false)
    (starting : w.flags (.isStarting d) = false) (all : ∀ p ∈ w.threads d, ¬ p.Leaving) :
    w.last d = .exited := by
  have covered := h.covered d
  have leaving : ¬ (w.last d).Leaving := getLastD_of_all id all
  cases last : w.last d with
  | exited => rfl
  | leaving rest =>
    rw [last] at leaving
    exact absurd trivial leaving
  | connecting => simp [last, World.Covered, running, starting] at covered
  | announcing => simp [last, World.Covered, running] at covered
  | running => simp [last, World.Covered, running] at covered
  | checked => simp [last, World.Covered, running] at covered
  | creating => simp [last, World.Covered, running] at covered
  | awaiting => simp [last, World.Covered, running] at covered

theorem covered_departing (h : Invariant w) (departing : (w.last d).Departing) :
    v.Covered d (w.last d) := by
  have covered := h.covered d
  cases last : w.last d with
  | exited => trivial
  | leaving rest =>
    rw [last] at covered
    exact covered
  | connecting => exact absurd departing (by simp [last, Phase.Departing])
  | announcing => exact absurd departing (by simp [last, Phase.Departing])
  | running => exact absurd departing (by simp [last, Phase.Departing])
  | checked => exact absurd departing (by simp [last, Phase.Departing])
  | creating => exact absurd departing (by simp [last, Phase.Departing])
  | awaiting => exact absurd departing (by simp [last, Phase.Departing])

theorem advance {e : ThreadEvent} (h : Invariant w) (here : (w.threads d)[i]? = some p)
    (guard : e.Guard w d p) (careful : Careful w (.thread d i e)) :
    Invariant (advance w d i e) := by
  have covered : p ≠ .exited → w.Covered d p := fun alive => h.last_eq here alive ▸ h.covered d
  cases e with
  | announces =>
    cases guard
    refine h.flagged here nofun rfl ?_ (by simp [World.Covered]) nofun
    -- the test of the input thread has seen both flags of this one clear
    rintro rfl checked
    have tested := h.covered .input
    rw [checked] at tested
    simpa [World.Covered, tested.2.1, tested.2.2] using covered nofun
  | begins =>
    cases guard
    refine h.flagged here nofun rfl (fun _ _ => rfl) ?_ nofun
    simpa [World.Covered] using covered nofun
  | again =>
    obtain ⟨rfl, rfl⟩ := guard
    exact h.moved here nofun (.inr (covered nofun)) nofun
  | leaves rest =>
    obtain ⟨way, _⟩ := guard
    refine h.moved here ?_ ?_ nofun
    · rintro rfl
      cases d <;> simp [exits] at way
    · exact exits_direction rest way
  | clears f rest =>
    cases guard
    have own := covered nofun
    refine h.flagged here nofun (own f List.mem_cons_self) (fun _ _ => rfl) ?_ nofun
    exact fun g hg => own g (List.mem_cons_of_mem _ hg)
  | returns =>
    cases guard
    exact h.moved here nofun trivial nofun
  | testsOutput =>
    obtain ⟨rfl, rfl, running, starting⟩ := guard
    exact h.moved here nofun ⟨covered nofun, running, starting⟩ nofun
  | marksOutput =>
    obtain ⟨rfl, rfl⟩ := guard
    have tested := covered nofun
    have none := h.none_alive tested.2.1 tested.2.2 careful
    refine h.moved_input here nofun rfl rfl ?_ ?_
    · simp [World.Covered, tested.1, none]
    · rw [none]
      trivial
  | createsOutput created =>
    obtain ⟨rfl, rfl⟩ := guard
    obtain ⟨running, starting, none⟩ := covered nofun
    cases created with
    | true =>
      have awaits := h.moved here nofun (q := .awaiting) running nofun
      refine awaits.created ?_ starting nofun ?_
      · rw [last_move_other (by simp), none]
      · rw [h.last_move here nofun rfl]
        simp
    | false =>
      refine h.moved_input here nofun rfl rfl ?_ ?_
      · simpa [World.Covered] using running
      · rw [none]
        trivial
  | outputStarted =>
    obtain ⟨rfl, rfl, _⟩ := guard
    exact h.moved here nofun (covered nofun) nofun
  | outputTimesOut =>
    obtain ⟨rfl, rfl⟩ := guard
    have departing : (w.last .output).Departing := getLastD_of_all trivial careful
    refine h.moved_input here nofun rfl rfl ?_ (h.covered_departing departing)
    simpa [World.Covered] using covered nofun

theorem reset_covered (h : Invariant w) (unused : w.Unused f.direction) (e : Direction) :
    (w.set f false).Covered e (w.last e) := by
  by_cases same : f.direction = e
  · subst same
    refine h.covered_departing (getLastD_of_all trivial ?_)
    cases direction : f.direction <;> rw [direction] at unused <;> exact unused.1
  · cases e with
    | output =>
      refine Covered.output (h.covered .output) (fun g output => flags_set_direction ?_) rfl
      rw [output]
      exact Ne.symm same
    | input =>
      have output : f.direction = .output := by cases direction : f.direction <;> simp_all
      rw [output] at unused
      refine Covered.input (h.covered .input) (fun g input => flags_set_direction ?_) ?_ ?_
      · simp [input, output]
      · intro checked
        have tested := h.covered .input
        rw [checked] at tested
        simp [tested.2.1, tested.2.2]
      · refine getLastD_of_all (P := fun p : Phase => p ≠ .creating) nofun ?_
        rintro _ mem rfl
        exact unused.2 mem

theorem creating_of_set (mem : .creating ∈ w.starters.set i s) (plain : s ≠ .creating) :
    .creating ∈ w.starters := by
  rcases List.mem_or_eq_of_mem_set mem with old | new
  · exact old
  · exact absurd new.symm plain

theorem driven (h : Invariant w) (threads : v.threads = w.threads)
    (starters : v.starters = w.starters) (covered : ∀ d, v.Covered d (w.last d))
    (starting : .creating ∈ w.starters.set i s → v.flags (.isStarting .input) = true)
    (plain : s ≠ .creating)
    (stopping : ∀ rest, s = .stopping rest → ∀ f ∈ rest, ∃ d, f = .stopRunning d) :
    Invariant (v.put i s) := by
  have last : ∀ d, (v.put i s).last d = w.last d := fun d => by simp only [World.last, World.put,
    threads]
  have after : (v.put i s).starters = w.starters.set i s := by simp only [World.put, starters]
  refine ⟨?_, ?_, ?_, ?_, ?_⟩
  · intro d
    simpa only [World.put, threads] using h.retired d
  · intro d
    rw [last, covered_congr flags_put rfl]
    exact covered d
  · intro creating
    rw [after] at creating
    rw [last]
    exact ⟨starting creating, (h.creating (creating_of_set creating plain)).2⟩
  · have before : ∀ j : ℕ, (w.starters.set i s)[j]? = some Starter.creating →
        w.starters[j]? = some Starter.creating := by
      intro j creating
      rw [List.getElem?_set] at creating
      split at creating
      · split at creating
        · exact absurd (Option.some.inj creating) plain
        · exact nomatch creating
      · exact creating
    intro j k creating creating'
    rw [after] at creating creating'
    exact h.once j k (before j creating) (before k creating')
  · intro rest mem
    rw [after] at mem
    rcases List.mem_or_eq_of_mem_set mem with old | new
    · exact h.stopping rest old
    · exact stopping rest new.symm

/-- The only starter that was about to create a thread is past it. -/
theorem none_creating (h : Invariant w) (here : w.starters[i]? = some .creating)
    (plain : s ≠ .creating) : .creating ∉ w.starters.set i s := by
  intro mem
  obtain ⟨j, creating⟩ := List.getElem?_of_mem mem
  rw [List.getElem?_set] at creating
  split at creating
  · split at creating
    · exact plain (Option.some.inj creating)
    · exact nomatch creating
  · rename_i other
    exact other (h.once i j here creating)

theorem marks (h : Invariant w) (running : w.flags (.isRunning .input) = false)
    (starting : w.flags (.isStarting .input) = false)
    (all : ∀ p ∈ w.threads .input, ¬ p.Leaving) : Invariant (drive w i .marks) := by
  have none := h.none_alive running starting all
  have fresh : .creating ∉ w.starters := by
    intro creating
    have pending := (h.creating creating).1
    simp [starting] at pending
  refine ⟨h.retired, ?_, ?_, ?_, ?_⟩
  · intro d
    cases d with
    | input =>
      refine h.covered_departing ?_
      rw [none]
      trivial
    | output =>
      refine Covered.output (h.covered .output) ?_ rfl
      intro g output
      have mine : ∀ f : Flag, f.direction = .input → g ≠ f := by
        rintro f input rfl
        exact nomatch input.symm.trans output
      simp [drive, mine (.isStarting .input) rfl, mine (.stopRunning .input) rfl]
  · exact fun _ => ⟨by simp [drive], none⟩
  · have mine : ∀ j : ℕ, (w.starters.set i .creating)[j]? = some Starter.creating → j = i := by
      intro j creating
      by_contra other
      rw [List.getElem?_set_ne (Ne.symm other)] at creating
      exact fresh (List.mem_of_getElem? creating)
    exact fun j k creating creating' => (mine j creating).trans (mine k creating').symm
  · intro rest mem
    rcases List.mem_or_eq_of_mem_set mem with old | new
    · exact h.stopping rest old
    · exact nomatch new

theorem drive {e : StarterEvent} (h : Invariant w) (here : w.starters[i]? = some s)
    (guard : e.Guard w s) (careful : Careful w (.starter i e)) : Invariant (drive w i e) := by
  have same : ∀ {t : Starter}, t ≠ .creating → (∀ rest, t ≠ .stopping rest) →
      Invariant (w.put i t) := by
    intro t plain quiet
    refine h.driven rfl rfl h.covered ?_ plain fun rest stopping => absurd stopping (quiet rest)
    exact fun creating => (h.creating (creating_of_set creating plain)).1
  cases e with
  | stops f rest =>
    cases guard
    have stops := h.stopping _ (List.mem_of_getElem? here)
    obtain ⟨d, rfl⟩ := stops f List.mem_cons_self
    refine h.driven rfl rfl (fun d => covered_stop.2 (h.covered d)) ?_ nofun ?_
    · intro creating
      simpa using (h.creating (creating_of_set creating nofun)).1
    · rintro _ ⟨⟩
      exact fun f hf => stops f (List.mem_cons_of_mem _ hf)
  | closes => exact same nofun nofun
  | endsWait => exact same nofun nofun
  | resets f rest =>
    refine h.driven rfl rfl ?_ ?_ nofun nofun
    · cases f with
      | isRunning d => exact h.reset_covered careful
      | isStarting d => exact h.reset_covered careful
      | stopRunning d => exact fun d => covered_stop.2 (h.covered d)
    · intro creating
      have before := creating_of_set creating nofun
      rw [flags_set]
      split
      · rename_i starting
        subst starting
        exact absurd before careful.2
      · exact (h.creating before).1
  | calls => exact same nofun nofun
  | tests =>
    simp only [ClientThreads.drive]
    split
    · exact same nofun nofun
    · exact same nofun nofun
  | marks => exact h.marks careful.1 careful.2.1 careful.2.2
  | creates created =>
    cases guard
    have pending := h.creating (List.mem_of_getElem? here)
    cases created with
    | true =>
      have awaits := same (t := .awaiting) nofun nofun
      exact awaits.created pending.2 pending.1 (fun _ => h.none_creating here nofun) nofun
    | false =>
      refine h.driven rfl rfl ?_ ?_ nofun nofun
      rotate_left
      · exact fun creating => absurd creating (h.none_creating here nofun)
      intro d
      cases d with
      | input => exact h.covered_departing (by rw [pending.2]; trivial)
      | output =>
        exact Covered.output (h.covered .output) (fun g output => flags_set_direction
          (by rw [output]; nofun)) rfl
  | started => exact same nofun nofun

theorem restart (h : Invariant w) : Invariant (next w .restart) := by
  have before : ∀ j : ℕ, (next w .restart).starters[j]? = some Starter.creating →
      w.starters[j]? = some Starter.creating := by
    intro j creating
    simp only [next, List.getElem?_append] at creating
    split at creating
    · exact creating
    · have mem := List.mem_of_getElem? creating
      simp at mem
  refine ⟨h.retired, h.covered, ?_, ?_, ?_⟩
  · intro creating
    have mem : .creating ∈ w.starters := by simpa [next] using creating
    exact h.creating mem
  · exact fun j k creating creating' => h.once j k (before j creating) (before k creating')
  · intro rest mem
    rcases List.mem_append.1 mem with old | new
    · exact h.stopping rest old
    · cases List.mem_singleton.1 new
      simp

theorem step {a : Action} (h : Invariant w) (enabled : Enabled w a) (careful : Careful w a) :
    Invariant (next w a) := by
  cases a with
  | thread d i e =>
    obtain ⟨p, here, guard⟩ := enabled
    exact h.advance here guard careful
  | starter i e =>
    obtain ⟨s, here, guard⟩ := enabled
    exact h.drive here guard careful
  | restart => exact h.restart
  | drop =>
    refine ⟨h.retired, fun d => ?_, fun creating => ?_, h.once, h.stopping⟩
    · exact covered_stop.2 (covered_stop.2 (h.covered d))
    · have starting := h.creating creating
      exact ⟨by simpa [next] using starting.1, starting.2⟩
  | shutDown =>
    refine ⟨h.retired, fun d => ?_, h.creating, h.once, h.stopping⟩
    exact (covered_congr (w := w) rfl rfl).2 (h.covered d)

theorem initial (h : Initial w) : Invariant w := by
  obtain ⟨-, threads, starters⟩ := h
  refine ⟨?_, ?_, ?_, ?_, ?_⟩
  · intro d
    rw [threads]
    exact retired_nil
  · intro d
    rw [World.last, threads]
    trivial
  · simp [starters]
  · intro i j creating
    have mem := List.mem_of_getElem? creating
    simp [starters] at mem
  · simp [starters]

end Invariant

end Steps

variable {w : World} {log : List (World × Action)}

/-- In a run whose resets, starts and timeouts find the threads that the flags do not tell of gone,
at most one thread of each direction has not returned. -/
theorem one_live_while_careful (run : system.Run log w) (careful : ∀ e ∈ log, Careful e.1 e.2) :
    OneLive w := by
  have invariant : Invariant w := run.invariant (fun _ initial => .initial initial)
    (fun _ _ inv enabled careful => inv.step enabled careful) careful
  exact fun d => (invariant.retired d).countP

def zeroed : World :=
  { flags := fun _ => false, shutdown := false, threads := fun _ => [], starters := [.calling] }

theorem start_zeroed : system.Run [] zeroed := .start ⟨fun _ => rfl, fun _ => rfl, rfl⟩

def starts : List Action := [StarterEvent.tests, .marks, .creates true].map (.starter 0)

def each {ε : Type} (e : Flag → List Flag → ε) : List Flag → List ε
  | [] => []
  | f :: rest => e f rest :: each e rest

def stopsAll : List Action :=
  let events : List StarterEvent :=
    each StarterEvent.stops [.stopRunning .input, .stopRunning .output] ++ [StarterEvent.closes]
  .restart :: events.map (.starter 1)

def startsAgain : List Action :=
  let events : List StarterEvent :=
    .endsWait :: each StarterEvent.resets resetFlags ++
      [StarterEvent.calls, .tests, .marks, .creates true]
  events.map (.starter 1)

def connects : List Action :=
  [ThreadEvent.announces, .begins, .testsOutput, .marksOutput, .createsOutput true].map
      (Action.thread .input 0) ++
    [ThreadEvent.announces, .begins].map (Action.thread .output 0) ++
      [Action.thread .input 0 .outputStarted]

def leaves (d : Direction) (rest : List Flag) : List Action :=
  let events : List ThreadEvent := .leaves rest :: each ThreadEvent.clears rest ++ [ThreadEvent.returns]
  events.map (.thread d 0)

theorem restart_after_return :
    ∃ log w, system.Run log w ∧ (w.threads .input).length = 2 ∧ OneLive w := by
  obtain ⟨log, w, run, found⟩ := start_zeroed.follow_any
    (starts ++ connects ++ stopsAll ++ leaves .input [.isRunning .input, .isStarting .input] ++
      leaves .output [.isRunning .output, .isStarting .output, .stopRunning .output] ++ startsAgain)
    (fun r => (r.2.threads .input).length = 2 ∧ ∀ e ∈ r.1, Careful e.1 e.2) (by decide +kernel)
  obtain ⟨two, careful⟩ := of_decide_eq_true found
  exact ⟨log, w, run, two, one_live_while_careful run careful⟩

/-- The thread is still connecting when the restart comes: is_running_input is not set yet, so the
wait ends at once, and its stop flag is cleared before it looks. -/
theorem restart_while_connecting :
    ∃ log w, system.Run log w ∧ w.threads .input = [.connecting, .connecting] ∧
      w.flags (.stopRunning .input) = false ∧ ¬ OneLive w := by
  obtain ⟨log, w, run, found⟩ := start_zeroed.follow_any (starts ++ stopsAll ++ startsAgain)
    (fun r => r.2.threads .input = [.connecting, .connecting] ∧
      r.2.flags (.stopRunning .input) = false) (by decide +kernel)
  obtain ⟨both, cleared⟩ := of_decide_eq_true found
  refine ⟨log, w, run, both, cleared, ?_⟩
  intro one
  have threads : w.threads .input = [.connecting, .connecting] := both
  have count := one .input
  simp [threads] at count

end ClientThreads
