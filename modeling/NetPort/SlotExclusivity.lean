import NetPort.HandlerEffects

/-! When a connection slot is given to a connection only after the handler of the one before has
returned. -/
namespace TunnelSlots

open StepRuns

/-- `is_input_connected` or `is_output_connected`. -/
def Runtime.flag (s : Runtime) (k : ℕ) (side : Side) : Bool :=
  ((s.localSockets k).get side).connected

/-- Every handler of this side that was created for the slot has returned. -/
def Vacant (s : Runtime) (k : ℕ) (side : Side) : Prop :=
  ∀ h ∈ s.handlers, h.slot = k → h.side = side → h.phase = .returned

instance (s : Runtime) (k : ℕ) (side : Side) : Decidable (Vacant s k side) :=
  inferInstanceAs (Decidable (∀ h ∈ s.handlers, h.slot = k → h.side = side → h.phase = .returned))

def Exclusive (s : Runtime) : Action → Prop
  | .acceptor side _ =>
    match s.acceptors side with
    | .found _ k => Vacant s k side
    | _ => True
  | _ => True

/-- The acceptor finds a slot's flag unset only when no handler there has yet to set it or has
cleared it without having returned. -/
def Settled (s : Runtime) : Action → Prop
  | .acceptor side _ =>
    match s.acceptors side with
    | .testing _ k => s.flag k side = false → ∀ h ∈ s.handlers, h.slot = k → h.side = side →
        h.phase.connected = true ∨ h.phase = .returned
    | _ => True
  | _ => True

instance (s : Runtime) (a : Action) : Decidable (Exclusive s a) := by
  rcases a <;> dsimp only [Exclusive] <;> try infer_instance
  split <;> infer_instance

instance (s : Runtime) (a : Action) : Decidable (Settled s a) := by
  rcases a <;> dsimp only [Settled] <;> try infer_instance
  split <;> infer_instance

structure Invariant (s : Runtime) : Prop where
  one : ∀ (i j : ℕ) h h', s.handlers[i]? = some h → s.handlers[j]? = some h' → h.slot = h'.slot →
    h.side = h'.side → h.phase ≠ .returned → h'.phase ≠ .returned → i = j
  flag : ∀ k side, s.flag k side = true ↔
    ∃ h ∈ s.handlers, h.slot = k ∧ h.side = side ∧ h.phase.connected = true
  pending : ∀ fd k side, s.acceptors side = .found fd k ∨ s.acceptors side = .stored fd k →
    Vacant s k side

variable {count : ℕ} {m : Modes} {s t u : Runtime} {a : Action} {c : Choice} {i k : ℕ} {h : Handler}
  {side : Side} {p : Phase} {v : Slot} {log : List (Runtime × Action)}

@[simp] theorem get_set (v : Slot) (a b : Side) (l : Local) :
    (v.set a l).get b = if b = a then l else v.get b := by
  cases a <;> cases b <;> rfl

theorem flag_setSlot (j : ℕ) (b : Side) :
    (s.setSlot k v).flag j b = if j = k then (v.get b).connected else s.flag j b := by
  by_cases same : j = k
  · simp [Runtime.flag, Runtime.setSlot, same]
  · simp [Runtime.flag, Runtime.setSlot, same]

theorem flag_setOwn (l : Local) (j : ℕ) (b : Side) :
    (s.setOwn h l).flag j b = if j = h.slot ∧ b = h.side then l.connected else s.flag j b := by
  rw [Runtime.setOwn, flag_setSlot]
  by_cases same : j = h.slot
  · by_cases own : b = h.side
    · simp [same, own]
    · simp [same, own, Runtime.flag, Runtime.slot]
  · simp [same]

theorem flag_setSlot_kept (h : ∀ b, (v.get b).connected = s.flag k b) (j : ℕ) (b : Side) :
    (s.setSlot k v).flag j b = s.flag j b := by
  rw [flag_setSlot]
  by_cases same : j = k
  · rw [if_pos same, h, same]
  · rw [if_neg same]

/-- The handlers after a step of the one that stands at `i`. -/
theorem handler_set {j : ℕ} {h₁ h' : Handler} (found : s.handlers[i]? = some h)
    (at_ : (s.handlers.set i h₁)[j]? = some h') :
    j = i ∧ h' = h₁ ∨ j ≠ i ∧ s.handlers[j]? = some h' := by
  by_cases same : i = j
  · subst same
    rw [List.getElem?_set_self (List.getElem?_eq_some_iff.1 found).1] at at_
    exact .inl ⟨rfl, (Option.some.inj at_).symm⟩
  · rw [List.getElem?_set_ne same] at at_
    exact .inr ⟨Ne.symm same, at_⟩

theorem handler_create {j : ℕ} (at_ : (s.create k side).handlers[j]? = some h) :
    s.handlers[j]? = some h ∨ j = s.handlers.length ∧ h = ⟨k, side, .start .created⟩ := by
  unfold Runtime.create at at_
  by_cases inside : j < s.handlers.length
  · rw [List.getElem?_append_left inside] at at_
    exact .inl at_
  · rw [List.getElem?_append_right (by omega)] at at_
    obtain ⟨here, rfl⟩ := List.getElem?_eq_some_iff.1 at_
    simp only [List.length_singleton] at here
    exact .inr ⟨by omega, by simp⟩

/-- One step of the handler `h`, which stands at `i`. -/
structure Moved (s : Runtime) (i : ℕ) (h : Handler) (p : Phase) (t : Runtime) : Prop where
  handlers : t.handlers = s.handlers.set i { h with phase := p }
  acceptors : t.acceptors = s.acceptors
  running : h.phase ≠ .returned
  elsewhere : ∀ j b, ¬ (j = h.slot ∧ b = h.side) → t.flag j b = s.flag j b
  own : t.flag h.slot h.side = p.connected ∨
    t.flag h.slot h.side = s.flag h.slot h.side ∧ p.connected = h.phase.connected

/-- A step that keeps the flags takes the handler from one access to the next. -/
theorem Moved.kept (handlers : u.handlers = s.handlers) (acceptors : u.acceptors = s.acceptors)
    (running : h.phase ≠ .returned) (flags : ∀ j b, u.flag j b = s.flag j b)
    (connected : p.connected = h.phase.connected) : Moved s i h p (u.goto i h p) where
  handlers := by rw [Runtime.goto, handlers]
  acceptors := acceptors
  running := running
  elsewhere j b _ := flags j b
  own := .inr ⟨flags _ _, connected⟩

theorem deliver_kept (s : Runtime) (k fd sent n : ℕ) :
    (s.deliver k fd sent n).handlers = s.handlers ∧
      (s.deliver k fd sent n).acceptors = s.acceptors ∧
      (s.deliver k fd sent n).localSockets = s.localSockets := by
  unfold Runtime.deliver
  split <;> simp

theorem Effect.moved (effect : Effect s i h p t) (running : h.phase ≠ .returned) :
    Moved s i h p t := by
  cases effect with
  | goto connected => exact .kept rfl rfl running (fun _ _ => rfl) connected
  | slot connected _ flags => exact .kept rfl rfl running (flag_setSlot_kept flags) connected
  | flag =>
    refine ⟨rfl, rfl, running, fun j b other => ?_, .inl ?_⟩
    · exact (flag_setOwn _ j b).trans (if_neg other)
    · exact (flag_setOwn _ _ _).trans (if_pos ⟨rfl, rfl⟩)
  | close _ at_ next =>
    refine .kept rfl rfl running (fun _ _ => rfl) ?_
    rw [at_]
    rcases next with rfl | rfl <;> rfl
  | read inside =>
    refine .kept rfl rfl running (flag_setSlot_kept fun b => ?_) inside.symm
    cases b <;> rfl
  | @write _ fd n b connected =>
    obtain ⟨handlers, acceptors, slots⟩ := deliver_kept s h.slot fd b.sent n
    refine .kept handlers acceptors running (fun j side => ?_) connected
    rw [Runtime.flag, slots]
    rfl

theorem phase_of_connected (connected : p.connected = true) : p ≠ .returned := by
  rintro rfl
  cases connected

theorem Moved.vacant (found : s.handlers[i]? = some h) (moved : Moved s i h p t)
    (vacant : Vacant s k side) : Vacant t k side := by
  intro h' mem slot own
  rw [moved.handlers] at mem
  rcases List.mem_or_eq_of_mem_set mem with old | rfl
  · exact vacant h' old slot own
  · exact absurd (vacant h (List.mem_of_getElem? found) slot own) moved.running

theorem Moved.invariant (inv : Invariant s) (found : s.handlers[i]? = some h)
    (moved : Moved s i h p t) : Invariant t := by
  have inside : i < s.handlers.length := (List.getElem?_eq_some_iff.1 found).1
  have old (j : ℕ) (h' : Handler) (at_ : t.handlers[j]? = some h') :
      j = i ∧ h' = { h with phase := p } ∨ j ≠ i ∧ s.handlers[j]? = some h' :=
    handler_set found (moved.handlers ▸ at_)
  refine ⟨?_, ?_, ?_⟩
  · intro j j' a b at_ at_' slot own running running'
    rcases old j a at_ with ⟨rfl, rfl⟩ | ⟨_, at_⟩ <;>
      rcases old j' b at_' with ⟨rfl, rfl⟩ | ⟨_, at_'⟩
    · rfl
    · exact inv.one _ _ h b found at_' slot own moved.running running'
    · exact inv.one _ _ a h at_ found slot own running moved.running
    · exact inv.one _ _ a b at_ at_' slot own running running'
  · intro k side
    by_cases here : k = h.slot ∧ side = h.side
    · obtain ⟨rfl, rfl⟩ := here
      have alone : (∃ a ∈ t.handlers, a.slot = h.slot ∧ a.side = h.side ∧
          a.phase.connected = true) ↔ p.connected = true := by
        constructor
        · rintro ⟨a, mem, slot, own, connected⟩
          obtain ⟨j, at_⟩ := List.mem_iff_getElem?.1 mem
          rcases old j a at_ with ⟨-, rfl⟩ | ⟨other, at_⟩
          · exact connected
          · exact absurd (inv.one _ _ a h at_ found slot own (phase_of_connected connected)
              moved.running) other
        · intro connected
          refine ⟨{ h with phase := p }, ?_, rfl, rfl, connected⟩
          rw [moved.handlers]
          exact List.mem_set inside _
      have before : s.flag h.slot h.side = true ↔ h.phase.connected = true := by
        rw [inv.flag]
        constructor
        · rintro ⟨a, mem, slot, own, connected⟩
          obtain ⟨j, at_⟩ := List.mem_iff_getElem?.1 mem
          have same := inv.one _ _ a h at_ found slot own (phase_of_connected connected)
            moved.running
          rw [same, found] at at_
          cases at_
          exact connected
        · intro connected
          exact ⟨h, List.mem_of_getElem? found, rfl, rfl, connected⟩
      rw [alone]
      rcases moved.own with set | ⟨kept, same⟩
      · rw [set]
      · rw [kept, same, before]
    · rw [moved.elsewhere k side here, inv.flag]
      constructor
      · rintro ⟨a, mem, rfl, rfl, connected⟩
        obtain ⟨j, at_⟩ := List.mem_iff_getElem?.1 mem
        refine ⟨a, ?_, rfl, rfl, connected⟩
        have other : i ≠ j := by
          rintro rfl
          rw [found] at at_
          cases at_
          exact here ⟨rfl, rfl⟩
        rw [moved.handlers]
        exact List.mem_of_getElem? ((List.getElem?_set_ne other).trans at_)
      · rintro ⟨a, mem, rfl, rfl, connected⟩
        obtain ⟨j, at_⟩ := List.mem_iff_getElem?.1 mem
        rcases old j a at_ with ⟨-, rfl⟩ | ⟨-, at_⟩
        · exact absurd ⟨rfl, rfl⟩ here
        · exact ⟨a, List.mem_of_getElem? at_, rfl, rfl, connected⟩
  · intro fd k side at_
    rw [moved.acceptors] at at_
    exact moved.vacant found (inv.pending fd k side at_)

/-- Flags and handlers stay, and an acceptor that gets hold of a slot finds it vacant. -/
theorem Invariant.acceptor (inv : Invariant s) (handlers : t.handlers = s.handlers)
    (flags : ∀ k b, t.flag k b = s.flag k b)
    (pending : ∀ fd k b, t.acceptors b = .found fd k ∨ t.acceptors b = .stored fd k →
      Vacant s k b) : Invariant t := by
  refine ⟨?_, ?_, ?_⟩
  · rw [handlers]
    exact inv.one
  · intro k b
    rw [flags, handlers]
    exact inv.flag k b
  · intro fd k b at_
    rw [Vacant, handlers]
    exact pending fd k b at_

theorem Invariant.setAcceptor (inv : Invariant s) {next : Acceptor}
    (handlers : t.handlers = s.handlers) (flags : ∀ k b, t.flag k b = s.flag k b)
    (acceptors : t.acceptors = s.acceptors)
    (pending : ∀ fd k, next = .found fd k ∨ next = .stored fd k → Vacant s k side) :
    Invariant (t.setAcceptor side next) := by
  refine inv.acceptor handlers flags fun fd k b at_ => ?_
  simp only [Runtime.setAcceptor, acceptors] at at_
  by_cases same : b = side
  · subst same
    simp only [Function.update_self] at at_
    exact pending fd k at_
  · simp only [Function.update_of_ne same] at at_
    exact inv.pending fd k b at_

theorem Invariant.examineNext (inv : Invariant s) {fd k : ℕ} (handlers : t.handlers = s.handlers)
    (flags : ∀ k b, t.flag k b = s.flag k b) (acceptors : t.acceptors = s.acceptors) :
    Invariant (examineNext count t side fd k) := by
  simp only [TunnelSlots.examineNext]
  split
  · exact inv.setAcceptor handlers flags acceptors (by cases side <;> simp [Side.examine])
  · exact inv.setAcceptor handlers flags acceptors (by simp)

theorem Invariant.create (inv : Invariant s) (vacant : Vacant s k side) :
    Invariant ((s.create k side).setAcceptor side .waiting) := by
  have absent (h : Handler) (j : ℕ) (at_ : s.handlers[j]? = some h) (slot : h.slot = k)
      (own : h.side = side) : h.phase = .returned :=
    vacant h (List.mem_of_getElem? at_) slot own
  refine ⟨?_, ?_, ?_⟩
  · intro j j' a b at_ at_' slot own running running'
    rcases handler_create at_ with at_ | ⟨rfl, rfl⟩ <;>
      rcases handler_create at_' with at_' | ⟨rfl, rfl⟩
    · exact inv.one _ _ a b at_ at_' slot own running running'
    · exact absurd (absent a _ at_ slot own) running
    · exact absurd (absent b _ at_' slot.symm own.symm) running'
    · rfl
  · intro j b
    refine (inv.flag j b).trans ?_
    simp [Runtime.create, Runtime.setAcceptor, or_and_right, exists_or, Phase.connected]
  · intro fd j b at_
    have other : b ≠ side := by
      rintro rfl
      simp [Runtime.setAcceptor] at at_
    simp only [Runtime.setAcceptor, Runtime.create, Function.update_of_ne other] at at_
    intro h mem slot own
    rcases List.mem_append.1 mem with mem | new
    · exact inv.pending fd j b at_ h mem slot own
    · rw [List.mem_singleton.1 new] at own
      exact absurd own.symm other

theorem acceptorStep_invariant (inv : Invariant s) (settled : Settled s (.acceptor side c))
    (step : acceptorStep count s side c = some t) : Invariant t := by
  unfold acceptorStep at step
  split at step
  · cases step
  · split at step
    · cases step
      exact inv.setAcceptor rfl (fun _ _ => rfl) rfl (by simp)
    · cases step
      exact inv.examineNext rfl (fun _ _ => rfl) rfl
  · rename_i fd k at_
    split at step
    · cases step
      exact inv.examineNext rfl (fun _ _ => rfl) rfl
    · rename_i unset
      cases step
      refine inv.setAcceptor rfl (fun _ _ => rfl) rfl fun fd' k' found => ?_
      simp only [Acceptor.found.injEq, reduceCtorEq, or_false] at found
      obtain ⟨-, rfl⟩ := found
      -- the flag is unset, so no handler here is between setting and clearing it
      have free : s.flag k side = false := Bool.eq_false_iff.2 unset
      intro h mem slot own
      simp only [Settled, at_] at settled
      rcases settled free h mem slot own with connected | returned
      · rw [(inv.flag k side).2 ⟨h, mem, slot, own, connected⟩] at free
        cases free
      · exact returned
  · rename_i fd k at_
    cases step
    refine inv.setAcceptor rfl (fun j b => ?_) rfl fun fd' k' stored => ?_
    · apply flag_setSlot_kept
      intro b
      by_cases same : b = side
      · simp [Runtime.flag, same]
      · simp [Runtime.flag, same]
    · simp only [reduceCtorEq, Acceptor.stored.injEq, false_or] at stored
      obtain ⟨-, rfl⟩ := stored
      exact inv.pending fd k side (.inl at_)
  · rename_i fd k at_
    have vacant := inv.pending fd k side (.inr at_)
    split at step
    · cases step
      exact inv.create vacant
    · cases step
      split
      · exact inv.setAcceptor rfl (fun _ _ => rfl) rfl (by simp)
      · exact inv.setAcceptor rfl (fun _ _ => rfl) rfl (by simp)
    · cases step
      exact inv.setAcceptor rfl (fun _ _ => rfl) rfl (by simp)
    · cases step

theorem step_invariant (inv : Invariant s) (settled : Settled s a)
    (step : step count m s a = some t) : Invariant t := by
  cases a with
  | accept side fd nonBlocking =>
    simp only [TunnelSlots.step] at step
    split at step
    · split at step
      · cases step
        exact inv.examineNext rfl (fun _ _ => rfl) rfl
      · cases step
        exact inv.acceptor rfl (fun _ _ => rfl) inv.pending
    · cases step
  | acceptor side c => exact acceptorStep_invariant inv settled step
  | handler i c =>
    obtain ⟨h, found, step⟩ := Option.bind_eq_some_iff.1 step
    obtain ⟨running, p, effect⟩ := handlerStep_effect found step
    exact (effect.moved running).invariant inv found
  | opened fd side =>
    simp only [TunnelSlots.step] at step
    split at step
    · cases step
      exact inv.acceptor rfl (fun _ _ => rfl) inv.pending
    · cases step
  | closed fd =>
    cases step
    exact inv.acceptor rfl (fun _ _ => rfl) inv.pending

theorem Initial.invariant (initial : Initial s) : Invariant s := by
  refine ⟨?_, ?_, ?_⟩
  · simp [initial.handlers]
  · intro k side
    simp only [Runtime.flag, initial.slots, initial.handlers]
    cases side <;> simp [Slot.get, Slot.zero]
  · simp [initial.acceptors]

theorem step_of_enabled (enabled : (tunnel count m).enabled s a) :
    step count m s a = some ((tunnel count m).next s a) := by
  obtain ⟨t, step⟩ := Option.isSome_iff_exists.1 enabled
  simp [tunnel, step]

/-- A slot is given to a second connection of a kind only after the handler of the first has
returned, in a run in which the flags that the acceptors find unset are settled. -/
theorem slot_exclusive (run : (tunnel count m).Run log s) (settled : ∀ e ∈ log, Settled e.1 e.2) :
    ∀ e ∈ log, Exclusive e.1 e.2 := by
  have inv : ∀ e ∈ log, Invariant e.1 :=
    run.found (fun _ => Initial.invariant)
      (fun s a inv enabled settled => step_invariant inv settled (step_of_enabled enabled)) settled
  rintro ⟨s, a⟩ mem
  cases a with
  | acceptor side c =>
    simp only [Exclusive]
    split
    · exact (inv _ mem).pending _ _ side (.inl ‹_›)
    · trivial
  | _ => trivial

namespace Sample

def created : Runtime where
  localSockets _ := .zero
  handlers := []
  acceptors _ := .waiting
  files fd := if fd = 0 then some .other else none
  arrived := 0
  delivered := []

theorem initial : Initial created where
  slots := rfl
  handlers := rfl
  acceptors := rfl
  standardInput := rfl
  numbered fd side n h := by
    simp only [created] at h
    split at h <;> cases h
  different fd fd' side n h _ := by
    simp only [created] at h
    split at h <;> cases h
  delivered := rfl

def plain : Modes := ⟨false, false, true⟩

def arrives (side : Side) (fd : ℕ) : List Action :=
  .accept side fd true ::
    List.replicate (if side = .input then 4 else 3) (.acceptor side .ok)

def attached : List Action :=
  arrives .output 5 ++ [Action.handler 0 .ok] ++ arrives .input 6 ++ [Action.handler 1 .ok]

def userLeaves : List Action :=
  [Action.handler 1 .ok, .handler 1 .fail] ++ List.replicate 7 (Action.handler 1 .ok)

def inTurn : List Action := attached ++ userLeaves ++ arrives .input 7

def backToBack : List Action :=
  arrives .output 5 ++ [Action.handler 0 .ok] ++ arrives .input 6 ++ arrives .input 7

end Sample

/-- The first slot is given to two users, one after the other. -/
theorem attached_exclusive : ∃ log t, (tunnel 25 Sample.plain).Run log t ∧
    t.handlers.countP (fun h => h.slot = 0 && h.side = .input) = 2 ∧
    ∀ e ∈ log, Exclusive e.1 e.2 := by
  have run := System.Run.start (m := tunnel 25 Sample.plain) Sample.initial
  obtain ⟨log, t, run, found⟩ := run.follow_any Sample.inTurn
    (fun r => decide (r.2.handlers.countP (fun h => h.slot = 0 && h.side = .input) = 2) &&
      decide (∀ e ∈ r.1, Settled e.1 e.2)) (by decide +kernel)
  simp only [Bool.and_eq_true, decide_eq_true_eq] at found
  exact ⟨log, t, run, found.1, slot_exclusive run found.2⟩

theorem slot_given_twice : ¬ ∀ (count : ℕ) (m : Modes) (log : List (Runtime × Action))
    (s : Runtime), (tunnel count m).Run log s → ∀ e ∈ log, Exclusive e.1 e.2 := by
  intro always
  have run := System.Run.start (m := tunnel 25 Sample.plain) Sample.initial
  obtain ⟨log, t, run, found⟩ := run.follow_any Sample.backToBack
    (fun r => !decide (∀ e ∈ r.1, Exclusive e.1 e.2)) (by decide +kernel)
  rw [decide_eq_true (always _ _ log t run)] at found
  cases found

end TunnelSlots
