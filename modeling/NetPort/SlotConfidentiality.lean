import NetPort.SlotExclusivity

/-! For whom the bytes were read that an output handler delivers to a user. -/
namespace TunnelSlots

open StepRuns

/-- From a read from the device to the end of the send loop to the user. -/
def Phase.forwards : Phase → Bool
  | .output (.waiting _) => true
  | .output (.polling _) => true
  | .output (.sending _) => true
  | .output (.writing _ _) => true
  | .output (.failed _) => true
  | .output (.retrying _) => true
  | .output (.rechecking _) => true
  | _ => false

def Acceptor.fd : Acceptor → Option ℕ
  | .waiting => none
  | .scanning fd _ => some fd
  | .testing fd _ => some fd
  | .found fd _ => some fd
  | .stored fd _ => some fd

def Acceptor.slot : Acceptor → Option ℕ
  | .waiting => none
  | .scanning _ k => some k
  | .testing _ k => some k
  | .found _ k => some k
  | .stored _ k => some k

def File.device : File → Bool
  | .connection .output _ => true
  | _ => false

/-- Every byte was read while the connection of the user that it was delivered to was there. -/
def ReadForUser (s : Runtime) : Prop :=
  ∀ e ∈ s.delivered, ∃ r ∈ e.1, r.source.device = true ∧ r.pairedWith = some e.2

/-- No byte was read while the connection of another user was there. -/
def NotAnothers (s : Runtime) : Prop :=
  ∀ e ∈ s.delivered, ∀ r ∈ e.1, ∀ a ∈ r.pairedWith, a = e.2

def Recorded (count : ℕ) (s : Runtime) (fd : ℕ) : Prop :=
  (∃ k ∈ List.range count,
      (s.localSockets k).input.Names fd ∨ (s.localSockets k).output.Names fd) ∨
    (∃ h ∈ s.handlers, h.phase.writes = some fd ∨ h.phase.receives = some fd) ∨
    (s.acceptors .input).fd = some fd ∨ (s.acceptors .output).fd = some fd

/-- No handler of the slot forwards bytes, those of users have cleared `is_input_connected`, and
`ssl_input` is NULL. -/
def Released (s : Runtime) (k : ℕ) : Prop :=
  (s.localSockets k).input.ssl = none ∧
    ∀ h ∈ s.handlers, h.slot = k →
      h.phase.forwards = false ∧ (h.side = .input → h.phase.cleared = true)

/-- No number is given to a new connection while the runtime still has it, and a slot is given to a
user when it is released by the one before. -/
def Careful (count : ℕ) (s : Runtime) : Action → Prop
  | .accept _ fd _ => ¬ Recorded count s fd
  | .opened fd _ => ¬ Recorded count s fd
  | .acceptor .input _ =>
    match s.acceptors .input with
    | .found _ k => Released s k
    | _ => True
  | _ => True

instance (s : Runtime) : Decidable (ReadForUser s) := inferInstanceAs (Decidable (∀ _ ∈ _, _))

instance (s : Runtime) : Decidable (NotAnothers s) := inferInstanceAs (Decidable (∀ _ ∈ _, _))

instance (l : Local) (fd : ℕ) : Decidable (l.Names fd) := inferInstanceAs (Decidable (_ ∨ _))

instance (count : ℕ) (s : Runtime) (fd : ℕ) : Decidable (Recorded count s fd) :=
  inferInstanceAs (Decidable (_ ∨ _ ∨ _ ∨ _))

instance (s : Runtime) (k : ℕ) : Decidable (Released s k) := inferInstanceAs (Decidable (_ ∧ _))

instance (count : ℕ) (s : Runtime) (a : Action) : Decidable (Careful count s a) := by
  rcases a <;> try (dsimp only [Careful]; infer_instance)
  rename_i side choice
  rcases side
  · dsimp only [Careful]
    rcases s.acceptors .input <;> infer_instance
  · exact isTrue trivial

def Reaches (s : Runtime) (k user : ℕ) : Prop :=
  ∃ fd, ToUser s k fd ∧ s.files fd = some (.connection .input user)

def Kept (s : Runtime) (k : ℕ) (cell : Option Reading) : Prop :=
  ∃ r ∈ cell, r.source.device = true ∧ ∀ u, Reaches s k u → r.pairedWith = some u

/-- `input_local` -/
def Runtime.inputLocal (s : Runtime) (k : ℕ) : Option ℕ := (s.localSockets k).input.socket

structure Private (count : ℕ) (s : Runtime) : Prop where
  slots : ∀ h ∈ s.handlers, h.slot < count
  acceptors : ∀ side k, (s.acceptors side).slot = some k → k < count
  alone : ∀ (i j : ℕ) h h', s.handlers[i]? = some h → s.handlers[j]? = some h' → h.slot = h'.slot →
    h.side = .input → h'.side = .input → h.phase.cleared = false → h'.phase.cleared = false → i = j
  pending : ∀ fd k, s.acceptors .input = .stored fd k →
    ∀ h ∈ s.handlers, h.slot = k → h.side = .input → h.phase.cleared = true
  closing : ∀ h ∈ s.handlers, h.side = .input → ∀ l fd, h.phase = .exit (.closingFd l fd) →
    s.inputLocal h.slot = some fd
  erasing : ∀ h ∈ s.handlers, h.side = .input → ∀ l, h.phase = .exit (.erasing l) →
    ∀ fd ∈ s.inputLocal h.slot, s.files fd = none
  present : ∀ k < count, ∀ fd u, ToUser s k fd → s.files fd = some (.connection .input u) →
    s.inputLocal k = some fd
  device : ∀ k < count, ∀ fd side n, ToDevice s k fd → s.files fd = some (.connection side n) →
    side = .output
  arriving : ∀ fd side n, (s.acceptors .output).fd = some fd →
    s.files fd = some (.connection side n) → side = .output
  held : ∀ h ∈ s.handlers, ∀ j ∈ h.phase.held,
    Kept s h.slot ((s.localSockets h.slot).outputBuf j)
  delivered : ReadForUser s

variable {count : ℕ} {m : Modes} {s t u : Runtime} {a : Action} {c : Choice} {i k : ℕ} {h : Handler}
  {side : Side} {p : Phase} {v : Slot} {log : List (Runtime × Action)}

theorem Kept.mono {cell : Option Reading} (kept : Kept s k cell)
    (fewer : ∀ u, Reaches t k u → Reaches s k u) : Kept t k cell := by
  obtain ⟨r, mem, device, own⟩ := kept
  exact ⟨r, mem, device, fun u reach => own u (fewer u reach)⟩

theorem cleared_of_unconnected (unconnected : p.connected = false) (later : p ≠ .start .created) :
    p.cleared = true := by
  cases p with
  | start q => cases q <;> simp_all [Phase.connected]
  | input q => cases unconnected
  | output q => cases unconnected
  | exit q => cases q <;> simp_all [Phase.connected, Phase.cleared]
  | returned => rfl

theorem unconnected_of_cleared (cleared : p.cleared = true) : p.connected = false := by
  unfold Phase.cleared at cleared
  split at cleared
  · rfl
  · rfl
  · rfl
  · cases cleared

theorem Carries.later (carries : Carries s h p) : p ≠ .start .created := by
  rintro rfl
  rcases carries.next with plain | ⟨l, fd, closing, _⟩
  · cases plain
  · cases closing

theorem Effect.cleared (effect : Effect s i h p t) (before : h.phase.cleared = true) :
    p.cleared = true := by
  have unconnected := unconnected_of_cleared before
  cases effect with
  | goto connected carries => exact cleared_of_unconnected (connected.trans unconnected) carries.later
  | slot connected carries =>
    exact cleared_of_unconnected (connected.trans unconnected) carries.later
  | flag uncleared =>
    rw [uncleared] at before
    cases before
  | close _ at_ =>
    rw [at_] at before
    cases before
  | read inside =>
    rw [inside] at unconnected
    cases unconnected
  | write connected carries =>
    exact cleared_of_unconnected (connected.trans unconnected) carries.later

theorem pairedWith_of {fd n : ℕ} (there : s.inputLocal k = some fd)
    (names : s.files fd = some (.connection .input n)) : s.pairedWith k = some n := by
  unfold Runtime.inputLocal at there
  simp [Runtime.pairedWith, there, names]

/-- The slots and the handlers stay, and there are no more descriptors. -/
theorem Private.keep (inv : Private count s) (localSockets : t.localSockets = s.localSockets)
    (handlers : t.handlers = s.handlers)
    (files : ∀ fd f, t.files fd = some f → s.files fd = some f)
    (delivered : t.delivered = s.delivered)
    (acceptors : ∀ side k, (t.acceptors side).slot = some k → k < count)
    (pending : ∀ fd k, t.acceptors .input = .stored fd k →
      ∀ h ∈ s.handlers, h.slot = k → h.side = .input → h.phase.cleared = true)
    (arriving : ∀ fd side n, (t.acceptors .output).fd = some fd →
      t.files fd = some (.connection side n) → side = .output) : Private count t := by
  have user (k fd : ℕ) (to_ : ToUser t k fd) : ToUser s k fd := by
    rwa [ToUser, localSockets, handlers] at to_
  have toDevice (k fd : ℕ) (to_ : ToDevice t k fd) : ToDevice s k fd := by
    rwa [ToDevice, localSockets, handlers] at to_
  have input (k : ℕ) : t.inputLocal k = s.inputLocal k := by
    rw [Runtime.inputLocal, localSockets]
    rfl
  have reaches (k u : ℕ) (reach : Reaches t k u) : Reaches s k u := by
    obtain ⟨fd, to_, names⟩ := reach
    exact ⟨fd, user k fd to_, files _ _ names⟩
  refine ⟨?_, acceptors, ?_, ?_, ?_, ?_, ?_, ?_, arriving, ?_, ?_⟩
  · rw [handlers]
    exact inv.slots
  · rw [handlers]
    exact inv.alone
  · rw [handlers]
    exact pending
  · intro h mem own l fd at_
    rw [handlers] at mem
    rw [input]
    exact inv.closing h mem own l fd at_
  · intro h mem own l at_ fd there
    rw [handlers] at mem
    rw [input] at there
    have gone := inv.erasing h mem own l at_ fd there
    refine Option.eq_none_iff_forall_ne_some.2 fun f names => ?_
    rw [files fd f names] at gone
    cases gone
  · intro k inside fd u to_ names
    rw [input]
    exact inv.present k inside fd u (user k fd to_) (files _ _ names)
  · exact fun k inside fd side n to_ names =>
      inv.device k inside fd side n (toDevice k fd to_) (files _ _ names)
  · intro h mem j held
    rw [handlers] at mem
    rw [localSockets]
    exact (inv.held h mem j held).mono fun u => reaches h.slot u
  · rw [ReadForUser, delivered]
    exact inv.delivered

def Fresh (s : Runtime) (k : ℕ) (cell : Option Reading) : Prop :=
  ∃ fd side d, ToDevice s k fd ∧ s.files fd = some (.connection side d) ∧
    cell = some ⟨.connection side d, s.pairedWith k⟩

/-- One step of the handler `h`, which stands at `i`. -/
structure Transfers (s : Runtime) (i : ℕ) (h : Handler) (p : Phase) (t : Runtime) : Prop where
  handlers : t.handlers = s.handlers.set i { h with phase := p }
  acceptors : t.acceptors = s.acceptors
  elsewhere : ∀ k, k ≠ h.slot → t.localSockets k = s.localSockets k
  files : ∀ fd f, t.files fd = some f → s.files fd = some f
  input : ∀ fd, (t.localSockets h.slot).input.Names fd → (s.localSockets h.slot).input.Names fd
  output : ∀ fd, (t.localSockets h.slot).output.Names fd → (s.localSockets h.slot).output.Names fd
  writes : ∀ fd, p.writes = some fd → ToUser s h.slot fd
  receives : ∀ fd, p.receives = some fd → ToDevice s h.slot fd
  buffer : ∀ j, (t.localSockets h.slot).outputBuf j = (s.localSockets h.slot).outputBuf j ∨
    Fresh s h.slot ((t.localSockets h.slot).outputBuf j)
  held : ∀ j ∈ p.held, j ∈ h.phase.held ∨ Fresh s h.slot ((t.localSockets h.slot).outputBuf j)
  delivered : ∀ e ∈ t.delivered, e ∈ s.delivered ∨ Reaches s h.slot e.2 ∧
    ∃ j ∈ h.phase.held, e.1 = (s.localSockets h.slot).outputBuf j
  next : p.plain = true ∨ (∃ l fd, p = .exit (.closingFd l fd) ∧ (s.own h).socket = some fd) ∨
    ∃ l fd, p = .exit (.erasing l) ∧ h.phase = .exit (.closingFd l fd) ∧ t.files fd = none
  socket : t.inputLocal h.slot = s.inputLocal h.slot ∨
    h.side = .input ∧ (∃ l, h.phase = .exit (.erasing l)) ∧ p.plain = true

theorem Transfers.mem (moves : Transfers s i h p t) {h' : Handler} (mem : h' ∈ t.handlers) :
    h' ∈ s.handlers ∨ h' = { h with phase := p } := by
  rw [moves.handlers] at mem
  exact List.mem_or_eq_of_mem_set mem

theorem Transfers.place (moves : Transfers s i h p t) (found : s.handlers[i]? = some h) {j : ℕ}
    {h' : Handler} (at_ : t.handlers[j]? = some h') :
    j = i ∧ h' = { h with phase := p } ∨ j ≠ i ∧ s.handlers[j]? = some h' :=
  handler_set found (moves.handlers ▸ at_)

/-- A handler that closes its descriptor does not erase the number. -/
theorem Transfers.stays (moves : Transfers s i h p t) (closes : p.plain = false) :
    t.inputLocal h.slot = s.inputLocal h.slot := by
  rcases moves.socket with same | ⟨-, -, plain⟩
  · exact same
  · rw [plain] at closes
    cases closes

theorem Transfers.toUser (moves : Transfers s i h p t) {fd : ℕ}
    (to_ : ToUser t k fd) : ToUser s k fd := by
  rcases to_ with names | ⟨h', mem, slot, writes⟩
  · by_cases own : k = h.slot
    · subst own
      exact .inl (moves.input fd names)
    · rw [moves.elsewhere k own] at names
      exact .inl names
  · rcases moves.mem mem with old | rfl
    · exact .inr ⟨h', old, slot, writes⟩
    · exact slot ▸ moves.writes fd writes

theorem Transfers.toDevice (moves : Transfers s i h p t) {fd : ℕ}
    (to_ : ToDevice t k fd) : ToDevice s k fd := by
  rcases to_ with names | ⟨h', mem, slot, receives⟩
  · by_cases own : k = h.slot
    · subst own
      exact .inl (moves.output fd names)
    · rw [moves.elsewhere k own] at names
      exact .inl names
  · rcases moves.mem mem with old | rfl
    · exact .inr ⟨h', old, slot, receives⟩
    · exact slot ▸ moves.receives fd receives

theorem Transfers.reaches (moves : Transfers s i h p t) {j : ℕ}
    (reach : Reaches t k j) : Reaches s k j := by
  obtain ⟨fd, to_, names⟩ := reach
  exact ⟨fd, moves.toUser to_, moves.files _ _ names⟩

/-- A byte is for the user whose connection is in the slot when it is read. -/
theorem Private.fresh (inv : Private count s) (inside : k < count) {cell : Option Reading}
    (fresh : Fresh s k cell) : Kept s k cell := by
  obtain ⟨fd, side, d, to_, names, rfl⟩ := fresh
  have device := inv.device k inside fd side d to_ names
  refine ⟨_, rfl, by rw [device]; rfl, ?_⟩
  rintro u ⟨fd', user, names'⟩
  exact pairedWith_of (inv.present k inside fd' u user names') names'

/-- The socket of a slot is erased by the only handler that is there for a user. -/
theorem Transfers.inputLocal (moves : Transfers s i h p t) (inv : Private count s)
    (found : s.handlers[i]? = some h) {j : ℕ} {h' : Handler} (other : j ≠ i)
    (at_ : s.handlers[j]? = some h') (own : h'.side = .input) (uncleared : h'.phase.cleared = false) :
    t.inputLocal h'.slot = s.inputLocal h'.slot := by
  by_cases here : h'.slot = h.slot
  · rcases moves.socket with same | ⟨input, ⟨l, erasing⟩, _⟩
    · rw [here]
      exact same
    · have uncleared' : h.phase.cleared = false := by
        rw [erasing]
        rfl
      exact absurd (inv.alone j i h' h at_ found here own input uncleared uncleared') other
  · rw [Runtime.inputLocal, moves.elsewhere _ here]
    rfl

theorem Transfers.alone (moves : Transfers s i h p t) (inv : Private count s)
    (found : s.handlers[i]? = some h) (cleared : h.phase.cleared = true → p.cleared = true)
    {j j' : ℕ} {a b : Handler} (at_ : t.handlers[j]? = some a) (at_' : t.handlers[j']? = some b)
    (slot : a.slot = b.slot) (own : a.side = .input) (own' : b.side = .input)
    (not : a.phase.cleared = false) (not' : b.phase.cleared = false) : j = j' := by
  have uncleared (not : p.cleared = false) : h.phase.cleared = false := by
    by_contra before
    rw [cleared (Bool.of_not_eq_false before)] at not
    cases not
  rcases moves.place found at_ with ⟨rfl, rfl⟩ | ⟨_, at_⟩ <;>
    rcases moves.place found at_' with ⟨rfl, rfl⟩ | ⟨_, at_'⟩
  · rfl
  · exact inv.alone _ _ h b found at_' slot own own' (uncleared not) not'
  · exact inv.alone _ _ a h at_ found slot own own' not (uncleared not')
  · exact inv.alone _ _ a b at_ at_' slot own own' not not'

theorem Transfers.closing (moves : Transfers s i h p t) (inv : Private count s)
    (found : s.handlers[i]? = some h) {h' : Handler} (mem : h' ∈ t.handlers)
    (own : h'.side = .input) {l : Leave} {fd : ℕ} (closing : h'.phase = .exit (.closingFd l fd)) :
    t.inputLocal h'.slot = some fd := by
  obtain ⟨j, at_⟩ := List.mem_iff_getElem?.1 mem
  rcases moves.place found at_ with ⟨rfl, rfl⟩ | ⟨other, at_⟩
  · rcases moves.next with plain | ⟨l', fd', now, socket⟩ | ⟨l', fd', now, -⟩
    · rw [show p = _ from closing] at plain
      cases plain
    · obtain ⟨rfl, rfl⟩ : l' = l ∧ fd' = fd := by simpa using now.symm.trans closing
      rw [Runtime.own, show h.side = .input from own] at socket
      exact (moves.stays (by rw [now]; rfl)).trans socket
    · cases now.symm.trans closing
  · rw [moves.inputLocal inv found other at_ own (by rw [closing]; rfl)]
    exact inv.closing h' (List.mem_of_getElem? at_) own l fd closing

theorem Transfers.erasing (moves : Transfers s i h p t) (inv : Private count s)
    (found : s.handlers[i]? = some h) {h' : Handler} (mem : h' ∈ t.handlers)
    (own : h'.side = .input) {l : Leave} (erasing : h'.phase = .exit (.erasing l)) {fd : ℕ}
    (there : fd ∈ t.inputLocal h'.slot) : t.files fd = none := by
  obtain ⟨j, at_⟩ := List.mem_iff_getElem?.1 mem
  rcases moves.place found at_ with ⟨rfl, rfl⟩ | ⟨other, at_⟩
  · rcases moves.next with plain | ⟨l', fd', now, -⟩ | ⟨l', fd', now, before, gone⟩
    · rw [show p = _ from erasing] at plain
      cases plain
    · cases now.symm.trans erasing
    · have socket := inv.closing h (List.mem_of_getElem? found) own l' fd' before
      rw [moves.stays (by rw [now]; rfl), socket] at there
      cases there
      exact gone
  · rw [moves.inputLocal inv found other at_ own (by rw [erasing]; rfl)] at there
    have gone := inv.erasing h' (List.mem_of_getElem? at_) own l erasing fd there
    refine Option.eq_none_iff_forall_ne_some.2 fun f names => ?_
    rw [moves.files fd f names] at gone
    cases gone

theorem Transfers.present (moves : Transfers s i h p t) (inv : Private count s)
    (found : s.handlers[i]? = some h) (inside : k < count) {fd user : ℕ} (to_ : ToUser t k fd)
    (names : t.files fd = some (.connection .input user)) : t.inputLocal k = some fd := by
  have live := moves.files _ _ names
  have socket := inv.present k inside fd user (moves.toUser to_) live
  by_cases here : k = h.slot
  · subst here
    rcases moves.socket with same | ⟨own, ⟨l, erasing⟩, -⟩
    · exact same.trans socket
    · rw [inv.erasing h (List.mem_of_getElem? found) own l erasing fd socket] at live
      cases live
  · rw [Runtime.inputLocal, moves.elsewhere k here]
    exact socket

/-- What a handler holds was held before or has just been read. -/
theorem Transfers.kept (moves : Transfers s i h p t) (inv : Private count s) (mem : h ∈ s.handlers)
    {h' : Handler} (mem' : h' ∈ t.handlers) {j : ℕ} (held : j ∈ h'.phase.held) :
    Kept s h'.slot ((t.localSockets h'.slot).outputBuf j) := by
  have inside := inv.slots h mem
  rcases moves.mem mem' with mem' | rfl
  · have before := inv.held h' mem' j held
    by_cases own : h'.slot = h.slot
    · rw [own] at before ⊢
      rcases moves.buffer j with same | fresh
      · rw [same]
        exact before
      · exact inv.fresh inside fresh
    · rw [moves.elsewhere _ own]
      exact before
  · rcases moves.held j held with before | fresh
    · rcases moves.buffer j with same | fresh
      · change Kept s h.slot ((t.localSockets h.slot).outputBuf j)
        rw [same]
        exact inv.held h mem j before
      · exact inv.fresh inside fresh
    · exact inv.fresh inside fresh

theorem Transfers.keep (moves : Transfers s i h p t) (inv : Private count s)
    (found : s.handlers[i]? = some h) (cleared : h.phase.cleared = true → p.cleared = true) :
    Private count t := by
  have mem := List.mem_of_getElem? found
  refine ⟨?_, ?_, ?_, ?_, ?_, ?_, ?_, ?_, ?_, ?_, ?_⟩
  · intro h' mem'
    rcases moves.mem mem' with mem' | rfl
    · exact inv.slots h' mem'
    · exact inv.slots h mem
  · rw [moves.acceptors]
    exact inv.acceptors
  · exact fun _ _ _ _ => moves.alone inv found cleared
  · rw [moves.acceptors]
    intro fd k stored h' mem' slot own
    rcases moves.mem mem' with mem' | rfl
    · exact inv.pending fd k stored h' mem' slot own
    · exact cleared (inv.pending fd k stored h mem slot own)
  · exact fun _ mem' own _ _ => moves.closing inv found mem' own
  · exact fun _ mem' own _ erasing _ => moves.erasing inv found mem' own erasing
  · exact fun _ inside _ _ => moves.present inv found inside
  · exact fun k inside fd side n to_ names =>
      inv.device k inside fd side n (moves.toDevice to_) (moves.files _ _ names)
  · rw [moves.acceptors]
    exact fun fd side n there names => inv.arriving fd side n there (moves.files _ _ names)
  · exact fun _ mem' _ held => (moves.kept inv mem mem' held).mono fun _ => moves.reaches
  · intro e there
    rcases moves.delivered e there with old | ⟨reach, j, held, cell⟩
    · exact inv.delivered e old
    · obtain ⟨r, there, device, own⟩ := inv.held h mem j held
      exact ⟨r, cell ▸ there, device, own _ reach⟩

theorem Carries.transfers (carries : Carries s h p) :
    p.plain = true ∨ (∃ l fd, p = .exit (.closingFd l fd) ∧ (s.own h).socket = some fd) ∨
      ∃ l fd, p = .exit (.erasing l) ∧ h.phase = .exit (.closingFd l fd) ∧ t.files fd = none :=
  carries.next.imp_right .inl

theorem Transfers.slot (input : ∀ fd, v.input.Names fd → (s.slot h).input.Names fd)
    (output : ∀ fd, v.output.Names fd → (s.slot h).output.Names fd)
    (buffer : v.outputBuf = (s.slot h).outputBuf)
    (socket : v.input.socket = (s.slot h).input.socket ∨
      h.side = .input ∧ (∃ l, h.phase = .exit (.erasing l)) ∧ p.plain = true)
    (carries : Carries s h p) :
    Transfers s i h p ((s.setSlot h.slot v).goto i h p) := by
  have here : ((s.setSlot h.slot v).goto i h p).localSockets h.slot = v :=
    Function.update_self _ _ _
  refine ⟨rfl, rfl, fun k other => Function.update_of_ne other _ _, fun _ _ there => there, ?_, ?_,
    carries.writes, carries.receives, ?_, fun j held => .inl (carries.held j held),
    fun e old => .inl old, carries.transfers, ?_⟩
  · rw [here]
    exact input
  · rw [here]
    exact output
  · rw [here]
    exact fun j => .inl (congrFun buffer j)
  · rw [Runtime.inputLocal, here]
    exact socket

theorem Transfers.goto (carries : Carries s h p) : Transfers s i h p (s.goto i h p) where
  handlers := rfl
  acceptors := rfl
  elsewhere _ _ := rfl
  files _ _ there := there
  input _ names := names
  output _ names := names
  writes := carries.writes
  receives := carries.receives
  buffer _ := .inl rfl
  held j there := .inl (carries.held j there)
  delivered _ old := .inl old
  next := carries.transfers
  socket := .inl rfl

theorem Transfers.flag (carries : Carries s h p) (flag : Bool) :
    Transfers s i h p ((s.setOwn h { s.own h with connected := flag }).goto i h p) := by
  unfold Runtime.setOwn Runtime.own
  cases h.side with
  | input => exact .slot (fun _ names => names) (fun _ names => names) rfl (.inl rfl) carries
  | output => exact .slot (fun _ names => names) (fun _ names => names) rfl (.inl rfl) carries

theorem Transfers.close {l : Leave} {q : Exit} {fd : ℕ}
    (at_ : h.phase = .exit (.closingFd l fd)) (next : q = .leaving l ∨ q = .erasing l) :
    Transfers s i h (.exit q) ((s.close fd).goto i h (.exit q)) where
  handlers := rfl
  acceptors := rfl
  elsewhere _ _ := rfl
  files n f there := by
    by_cases same : n = fd
    · simp [Runtime.goto, Runtime.close, same] at there
    · simpa [Runtime.goto, Runtime.close, same] using there
  input _ names := names
  output _ names := names
  writes := nofun
  receives := nofun
  buffer _ := .inl rfl
  held := nofun
  delivered _ old := .inl old
  next := by
    rcases next with rfl | rfl
    · exact .inl rfl
    · exact .inr (.inr ⟨l, fd, rfl, at_, Function.update_self _ _ _⟩)
  socket := .inl rfl

theorem Transfers.read {fd d n : ℕ} (device : ToDevice s h.slot fd)
    (names : s.files fd = some (.connection side d)) :
    Transfers s i h (.output (.waiting n))
      ((s.receive h.slot (.connection side d) n).goto i h (.output (.waiting n))) := by
  have cell (j : ℕ) (there : j < n) : Fresh s h.slot
      (((s.receive h.slot (.connection side d) n).localSockets h.slot).outputBuf j) := by
    refine ⟨fd, side, d, device, names, ?_⟩
    simp [Runtime.receive, Runtime.setSlot, there]
  refine ⟨rfl, rfl, fun k other => Function.update_of_ne other _ _, fun _ _ there => there, ?_, ?_,
    ?_, ?_, ?_, ?_, fun e old => .inl old, .inl rfl, ?_⟩
  · intro fd there
    simpa [Runtime.goto, Runtime.receive, Runtime.setSlot] using there
  · intro fd there
    simpa [Runtime.goto, Runtime.receive, Runtime.setSlot] using there
  · intro fd writes
    cases writes
  · intro fd receives
    cases receives
  · intro j
    by_cases there : j < n
    · exact .inr (cell j there)
    · left
      simp [Runtime.goto, Runtime.receive, Runtime.setSlot, there]
  · intro j held
    exact .inr (cell j (List.mem_range.1 held))
  · left
    simp [Runtime.inputLocal, Runtime.goto, Runtime.receive, Runtime.setSlot]

theorem mem_deliver {fd sent n : ℕ} {e : Option Reading × ℕ}
    (there : e ∈ (s.deliver k fd sent n).delivered) : e ∈ s.delivered ∨
      s.files fd = some (.connection .input e.2) ∧
        ∃ j < n, e.1 = (s.localSockets k).outputBuf (sent + j) := by
  unfold Runtime.deliver at there
  split at there
  · rename_i user names
    rcases List.mem_append.1 there with old | new
    · exact .inl old
    · obtain ⟨j, inside, rfl⟩ := List.mem_map.1 new
      exact .inr ⟨names, j, List.mem_range.1 inside, rfl⟩
  · exact .inl there

theorem Transfers.deliver {fd n : ℕ} {b : Batch} (user : ToUser s h.slot fd)
    (batch : h.phase.held = b.rest) (room : b.sent + n ≤ b.len) (carries : Carries s h p) :
    Transfers s i h p ((s.deliver h.slot fd b.sent n).goto i h p) := by
  obtain ⟨handlers, acceptors, slots⟩ := deliver_kept s h.slot fd b.sent n
  have files : (s.deliver h.slot fd b.sent n).files = s.files := by
    unfold Runtime.deliver
    split <;> rfl
  refine ⟨congrArg (fun l : List Handler => l.set i { h with phase := p }) handlers, acceptors,
    fun k _ => congrFun slots k, ?_, ?_, ?_, carries.writes, carries.receives, ?_,
    fun j held => .inl (carries.held j held), ?_, carries.transfers, ?_⟩
  · intro fd f there
    exact files ▸ there
  · intro fd names
    exact slots ▸ names
  · intro fd names
    exact slots ▸ names
  · intro j
    exact .inl (congrArg (fun slots => (slots h.slot).outputBuf j) slots)
  · intro e there
    rcases mem_deliver there with old | ⟨names, j, inside, cell⟩
    · exact .inl old
    · refine .inr ⟨⟨fd, user, names⟩, b.sent + j, ?_, cell⟩
      rw [batch]
      exact List.mem_range'_1.2 ⟨Nat.le_add_right _ _, by omega⟩
  · exact .inl (congrArg (fun slots => (slots h.slot).input.socket) slots)

theorem Effect.transfers (effect : Effect s i h p t) : Transfers s i h p t := by
  cases effect with
  | goto _ carries => exact .goto carries
  | slot _ carries _ input output buffer socket => exact .slot input output buffer socket carries
  | flag _ carries => exact .flag carries _
  | close _ at_ next => exact .close at_ next
  | read _ device names => exact .read device names
  | write _ carries user batch room => exact .deliver user batch room carries

theorem Private.arrive {fd : ℕ} {kind : Option Side} (inv : Private count s)
    (unrecorded : ¬ Recorded count s fd) : Private count (s.arrive fd kind) := by
  have files (fd' : ℕ) (other : fd' ≠ fd) : (s.arrive fd kind).files fd' = s.files fd' :=
    Function.update_of_ne other _ _
  have user (k fd' : ℕ) (inside : k < count) (to_ : ToUser s k fd') : fd' ≠ fd := by
    rintro rfl
    apply unrecorded
    rcases to_ with names | ⟨h, mem, _, writes⟩
    · exact .inl ⟨k, List.mem_range.2 inside, .inl names⟩
    · exact .inr (.inl ⟨h, mem, .inl writes⟩)
  have device (k fd' : ℕ) (inside : k < count) (to_ : ToDevice s k fd') : fd' ≠ fd := by
    rintro rfl
    apply unrecorded
    rcases to_ with names | ⟨h, mem, _, receives⟩
    · exact .inl ⟨k, List.mem_range.2 inside, .inr names⟩
    · exact .inr (.inl ⟨h, mem, .inr receives⟩)
  have reaches (k u : ℕ) (inside : k < count) (reach : Reaches (s.arrive fd kind) k u) :
      Reaches s k u := by
    obtain ⟨fd', to_, names⟩ := reach
    rw [files fd' (user k fd' inside to_)] at names
    exact ⟨fd', to_, names⟩
  refine ⟨inv.slots, inv.acceptors, inv.alone, inv.pending, inv.closing, ?_, ?_, ?_, ?_, ?_,
    inv.delivered⟩
  · intro h mem own l erasing fd' there
    have to_ : ToUser s h.slot fd' := .inl (.inl there)
    rw [files fd' (user h.slot fd' (inv.slots h mem) to_)]
    exact inv.erasing h mem own l erasing fd' there
  · intro k inside fd' u to_ names
    rw [files fd' (user k fd' inside to_)] at names
    exact inv.present k inside fd' u to_ names
  · intro k inside fd' side n to_ names
    rw [files fd' (device k fd' inside to_)] at names
    exact inv.device k inside fd' side n to_ names
  · intro fd' side n there names
    have other : fd' ≠ fd := by
      rintro rfl
      exact unrecorded (.inr (.inr (.inr there)))
    rw [files fd' other] at names
    exact inv.arriving fd' side n there names
  · intro h mem j held
    exact (inv.held h mem j held).mono fun u => reaches h.slot u (inv.slots h mem)

theorem Private.close (inv : Private count s) (fd : ℕ) : Private count (s.close fd) := by
  have files (fd' : ℕ) (f : File) (there : (s.close fd).files fd' = some f) :
      s.files fd' = some f := by
    by_cases same : fd' = fd
    · simp [Runtime.close, same] at there
    · simpa [Runtime.close, same] using there
  refine inv.keep rfl rfl files rfl inv.acceptors inv.pending ?_
  exact fun fd' side n there names => inv.arriving fd' side n there (files fd' _ names)

theorem Private.setAcceptor {next : Acceptor} (inv : Private count s)
    (slot : ∀ k, next.slot = some k → k < count)
    (pending : ∀ fd k, side = .input → next = .stored fd k →
      ∀ h ∈ s.handlers, h.slot = k → h.side = .input → h.phase.cleared = true)
    (arriving : ∀ fd d n, side = .output → next.fd = some fd →
      s.files fd = some (.connection d n) → d = .output) :
    Private count (s.setAcceptor side next) := by
  refine inv.keep rfl rfl (fun _ _ there => there) rfl ?_ ?_ ?_
  · intro b k there
    by_cases same : b = side
    · simp only [Runtime.setAcceptor, same, Function.update_self] at there
      exact slot k there
    · simp only [Runtime.setAcceptor, Function.update_of_ne same] at there
      exact inv.acceptors b k there
  · intro fd k stored
    by_cases same : .input = side
    · simp only [Runtime.setAcceptor, same, Function.update_self] at stored
      exact pending fd k same.symm stored
    · simp only [Runtime.setAcceptor, Function.update_of_ne same] at stored
      exact inv.pending fd k stored
  · intro fd d n there names
    by_cases same : .output = side
    · simp only [Runtime.setAcceptor, same, Function.update_self] at there
      exact arriving fd d n same.symm there names
    · simp only [Runtime.setAcceptor, Function.update_of_ne same] at there
      exact inv.arriving fd d n there names

theorem Private.waits (inv : Private count s) : Private count (s.setAcceptor side .waiting) :=
  inv.setAcceptor nofun nofun nofun

theorem Private.examineNext {fd : ℕ} (inv : Private count s)
    (arriving : ∀ d n, side = .output → s.files fd = some (.connection d n) → d = .output) :
    Private count (examineNext count s side fd k) := by
  unfold TunnelSlots.examineNext
  split
  · rename_i inside
    refine inv.setAcceptor ?_ ?_ ?_
    · intro j there
      cases side <;> cases there <;> exact inside
    · intro fd' j _ stored
      cases side <;> cases stored
    · intro fd' d n output there
      subst output
      cases there
      exact arriving d n rfl
  · exact (inv.close fd).waits

theorem forwards_of_writes {fd : ℕ} (writes : p.writes = some fd) : p.forwards = true := by
  unfold Phase.writes at writes
  split at writes
  · rfl
  · cases writes

theorem forwards_of_held {j : ℕ} (held : j ∈ p.held) : p.forwards = true := by
  unfold Phase.held at held
  split at held
  · rfl
  · rfl
  · rfl
  · rfl
  · rfl
  · rfl
  · rfl
  · cases held

theorem setSlot_elsewhere {j : ℕ} (other : j ≠ k) :
    (s.setSlot k v).localSockets j = s.localSockets j := Function.update_of_ne other _ _

theorem reaches_setSlot {j user : ℕ} (other : j ≠ k) :
    Reaches (s.setSlot k v) j user ↔ Reaches s j user := by
  unfold Reaches ToUser
  rw [setSlot_elsewhere other]
  rfl

/-- A slot changes its connections: what has to be seen is about this slot. -/
theorem Private.setSlot (inv : Private count s)
    (closing : ∀ h ∈ s.handlers, h.slot = k → h.side = .input → h.phase.cleared = false →
      v.input.socket = s.inputLocal k)
    (present : k < count → ∀ fd u, ToUser (s.setSlot k v) k fd →
      s.files fd = some (.connection .input u) → v.input.socket = some fd)
    (device : k < count → ∀ fd side n, ToDevice (s.setSlot k v) k fd →
      s.files fd = some (.connection side n) → side = .output)
    (held : ∀ h ∈ s.handlers, h.slot = k → ∀ j ∈ h.phase.held,
      Kept (s.setSlot k v) k (v.outputBuf j)) : Private count (s.setSlot k v) := by
  have here : (s.setSlot k v).inputLocal k = v.input.socket := by
    simp [Runtime.inputLocal, Runtime.setSlot]
  have input (h : Handler) (mem : h ∈ s.handlers) (own : h.side = .input)
      (uncleared : h.phase.cleared = false) :
      (s.setSlot k v).inputLocal h.slot = s.inputLocal h.slot := by
    by_cases same : h.slot = k
    · rw [same, here]
      exact closing h mem same own uncleared
    · rw [Runtime.inputLocal, setSlot_elsewhere same]
      rfl
  refine ⟨inv.slots, inv.acceptors, inv.alone, inv.pending, ?_, ?_, ?_, ?_, inv.arriving, ?_,
    inv.delivered⟩
  · intro h mem own l fd at_
    rw [input h mem own (by rw [at_]; rfl)]
    exact inv.closing h mem own l fd at_
  · intro h mem own l at_ fd there
    rw [input h mem own (by rw [at_]; rfl)] at there
    exact inv.erasing h mem own l at_ fd there
  · intro j inside fd u to_ names
    by_cases same : j = k
    · subst same
      rw [here]
      exact present inside fd u to_ names
    · rw [ToUser, setSlot_elsewhere same] at to_
      rw [Runtime.inputLocal, setSlot_elsewhere same]
      exact inv.present j inside fd u to_ names
  · intro j inside fd side n to_ names
    by_cases same : j = k
    · subst same
      exact device inside fd side n to_ names
    · rw [ToDevice, setSlot_elsewhere same] at to_
      exact inv.device j inside fd side n to_ names
  · intro h mem j held'
    by_cases same : h.slot = k
    · have there : (s.setSlot k v).localSockets k = v := Function.update_self _ _ _
      rw [same, there]
      exact held h mem same j held'
    · rw [setSlot_elsewhere same]
      exact (inv.held h mem j held').mono fun u => (reaches_setSlot same).1

theorem Private.storeUser (inv : Private count s) (released : Released s k) (fd : ℕ) :
    Private count (s.setSlot k { s.localSockets k with
      input := { (s.localSockets k).input with socket := some fd } }) := by
  obtain ⟨noObject, others⟩ := released
  refine inv.setSlot ?_ ?_ ?_ ?_
  · intro h mem slot own uncleared
    rw [(others h mem slot).2 own] at uncleared
    cases uncleared
  · intro _ fd' u to_ _
    rcases to_ with names | ⟨h, mem, slot, writes⟩
    · simp only [Runtime.setSlot, Function.update_self] at names
      rcases names with socket | object
      · exact socket
      · simp [noObject] at object
    · have idle := (others h mem slot).1
      rw [forwards_of_writes writes] at idle
      cases idle
  · intro inside fd' side n to_ names
    refine inv.device k inside fd' side n ?_ names
    simpa [ToDevice, Runtime.setSlot] using to_
  · intro h mem slot j held
    have idle := (others h mem slot).1
    rw [forwards_of_held held] at idle
    cases idle

theorem Private.storeDevice {fd : ℕ} (inv : Private count s)
    (arriving : ∀ d n, s.files fd = some (.connection d n) → d = .output) :
    Private count (s.setSlot k { s.localSockets k with
      output := { (s.localSockets k).output with socket := some fd } }) := by
  have reaches (user : ℕ) (reach : Reaches (s.setSlot k { s.localSockets k with
      output := { (s.localSockets k).output with socket := some fd } }) k user) :
      Reaches s k user := by
    simpa [Reaches, ToUser, Runtime.setSlot] using reach
  refine inv.setSlot (fun _ _ _ _ _ => rfl) ?_ ?_ ?_
  · intro inside fd' u to_ names
    refine inv.present k inside fd' u ?_ names
    simpa [ToUser, Runtime.setSlot] using to_
  · rintro inside fd' side n (own | handler) names
    · simp only [Runtime.setSlot, Function.update_self] at own
      rcases own with socket | object
      · cases socket
        exact arriving side n names
      · exact inv.device k inside fd' side n (.inl (.inr object)) names
    · exact inv.device k inside fd' side n (.inr handler) names
  · intro h mem same j held
    have before := inv.held h mem j held
    rw [same] at before
    exact before.mono reaches

theorem Private.create (inv : Private count s) (inside : k < count)
    (vacant : side = .input →
      ∀ h ∈ s.handlers, h.slot = k → h.side = .input → h.phase.cleared = true)
    (waits : side = .input → s.acceptors .input = .waiting) : Private count (s.create k side) := by
  have old (h : Handler) (mem : h ∈ (s.create k side).handlers) :
      h ∈ s.handlers ∨ h = ⟨k, side, .start .created⟩ :=
    (List.mem_append.1 mem).imp_right List.mem_singleton.1
  have user (j fd : ℕ) (to_ : ToUser (s.create k side) j fd) : ToUser s j fd := by
    rcases to_ with names | ⟨h, mem, slot, writes⟩
    · exact .inl names
    · rcases old h mem with mem | rfl
      · exact .inr ⟨h, mem, slot, writes⟩
      · cases writes
  refine ⟨?_, inv.acceptors, ?_, ?_, ?_, ?_, ?_, ?_, inv.arriving, ?_, inv.delivered⟩
  · intro h mem
    rcases old h mem with mem | rfl
    · exact inv.slots h mem
    · exact inside
  · intro i j a b at_ at_' slot own own' not not'
    rcases handler_create at_ with at_ | ⟨rfl, rfl⟩ <;>
      rcases handler_create at_' with at_' | ⟨rfl, rfl⟩
    · exact inv.alone _ _ a b at_ at_' slot own own' not not'
    · rw [vacant own' a (List.mem_of_getElem? at_) slot own] at not
      cases not
    · rw [vacant own b (List.mem_of_getElem? at_') slot.symm own'] at not'
      cases not'
    · rfl
  · intro fd j stored h mem slot own
    rcases old h mem with mem | rfl
    · exact inv.pending fd j stored h mem slot own
    · cases (waits own).symm.trans stored
  · intro h mem own l fd at_
    rcases old h mem with mem | rfl
    · exact inv.closing h mem own l fd at_
    · cases at_
  · intro h mem own l at_
    rcases old h mem with mem | rfl
    · exact inv.erasing h mem own l at_
    · cases at_
  · exact fun j inside fd u to_ names => inv.present j inside fd u (user j fd to_) names
  · rintro j inside fd side' n (names | ⟨h, mem, slot, receives⟩) live
    · exact inv.device j inside fd side' n (.inl names) live
    · rcases old h mem with mem | rfl
      · exact inv.device j inside fd side' n (.inr ⟨h, mem, slot, receives⟩) live
      · cases receives
  · intro h mem j held
    rcases old h mem with mem | rfl
    · refine (inv.held h mem j held).mono ?_
      rintro u ⟨fd, to_, names⟩
      exact ⟨fd, user _ fd to_, names⟩
    · cases held

theorem acceptorStep_private (inv : Private count s)
    (careful : Careful count s (.acceptor side c)) (step : acceptorStep count s side c = some t) :
    Private count t := by
  have inside := inv.acceptors side
  have arriving : ∀ fd d n, side = .output → (s.acceptors side).fd = some fd →
      s.files fd = some (.connection d n) → d = .output := by
    rintro fd d n rfl
    exact inv.arriving fd d n
  unfold acceptorStep at step
  split at step
  · cases step
  · rename_i fd k at_
    rw [at_] at inside arriving
    split at step
    · cases step
      exact inv.setAcceptor inside nofun arriving
    · cases step
      exact inv.examineNext fun d n output => arriving fd d n output rfl
  · rename_i fd k at_
    rw [at_] at inside arriving
    split at step
    · cases step
      exact inv.examineNext fun d n output => arriving fd d n output rfl
    · cases step
      exact inv.setAcceptor inside nofun arriving
  · rename_i fd k at_
    rw [at_] at inside arriving
    cases step
    cases side with
    | input =>
      simp only [Careful, at_] at careful
      refine (inv.storeUser careful fd).setAcceptor inside ?_ arriving
      rintro fd' k' - stored h mem slot own
      cases stored
      exact (careful.2 h mem slot).2 own
    | output =>
      exact (inv.storeDevice fun d n => arriving fd d n rfl rfl).setAcceptor inside nofun arriving
  · rename_i fd k at_
    rw [at_] at inside
    split at step
    · cases step
      refine inv.waits.create (inside k rfl) ?_ ?_
      · rintro rfl
        exact inv.pending fd k at_
      · rintro rfl
        simp [Runtime.setAcceptor]
    · cases step
      split
      · exact (inv.close fd).waits
      · exact inv.waits
    · cases step
      exact inv.waits
    · cases step

theorem step_private (inv : Private count s) (careful : Careful count s a)
    (step : step count m s a = some t) : Private count t := by
  cases a with
  | accept side fd nonBlocking =>
    simp only [TunnelSlots.step] at step
    split at step
    · split at step
      · cases step
        refine (inv.arrive careful).examineNext ?_
        rintro d n rfl names
        simp only [Runtime.arrive, Function.update_self] at names
        cases names
        rfl
      · cases step
        exact inv.keep rfl rfl (fun _ _ there => there) rfl inv.acceptors inv.pending inv.arriving
    · cases step
  | acceptor side c => exact acceptorStep_private inv careful step
  | handler i c =>
    obtain ⟨h, found, step⟩ := Option.bind_eq_some_iff.1 step
    obtain ⟨-, p, effect⟩ := handlerStep_effect found step
    exact effect.transfers.keep inv found effect.cleared
  | opened fd kind =>
    simp only [TunnelSlots.step] at step
    split at step
    · cases step
      exact inv.arrive careful
    · cases step
  | closed fd =>
    cases step
    exact inv.close fd

theorem Initial.private (initial : Initial s) : Private count s := by
  have zero (k fd : ℕ) (side : Side) (names : ((s.localSockets k).get side).Names fd) :
      fd = 0 := by
    rw [initial.slots] at names
    cases side <;> rcases names with socket | object
    · exact (Option.some.inj socket).symm
    · cases object
    · exact (Option.some.inj socket).symm
    · cases object
  refine ⟨?_, ?_, ?_, ?_, ?_, ?_, ?_, ?_, ?_, ?_, ?_⟩
  · simp [initial.handlers]
  · intro side k there
    rw [initial.acceptors] at there
    cases there
  · simp [initial.handlers]
  · simp [initial.handlers]
  · simp [initial.handlers]
  · simp [initial.handlers]
  · rintro k _ fd u (own | ⟨h, mem, _⟩) names
    · rw [zero k fd .input own, initial.standardInput] at names
      cases names
    · rw [initial.handlers] at mem
      cases mem
  · intro k _ fd side n to_ names
    rcases to_ with own | ⟨h, mem, _⟩
    · rw [zero k fd .output own, initial.standardInput] at names
      cases names
    · rw [initial.handlers] at mem
      cases mem
  · intro fd side n there
    rw [initial.acceptors] at there
    cases there
  · simp [initial.handlers]
  · intro e there
    rw [initial.delivered] at there
    cases there

/-- In a run whose steps are careful every byte that a user is given was read from a device while
the user's connection was in the slot. -/
theorem delivered_confidential (run : (tunnel count m).Run log s)
    (careful : ∀ e ∈ log, Careful count e.1 e.2) : ReadForUser s ∧ NotAnothers s := by
  have inv : Private count s :=
    run.invariant (fun _ => Initial.private)
      (fun s a inv enabled careful => step_private inv careful (step_of_enabled enabled)) careful
  refine ⟨inv.delivered, fun e there r cell a paired => ?_⟩
  obtain ⟨r', cell', _, own⟩ := inv.delivered e there
  have same : r = r' := Option.some.inj (cell.symm.trans cell')
  rw [same] at paired
  exact Option.some.inj (paired.symm.trans own)

namespace Sample

def deviceSends : List Action :=
  List.replicate 4 (Action.handler 0 .ok) ++ [Action.handler 0 (.bytes 1)]

def userReceives : List Action := [.handler 0 .ok, .handler 0 .ok, .handler 0 (.bytes 1)]

def served : List Action := attached ++ deviceSends ++ userReceives

def greeted : List Action :=
  arrives .output 5 ++ [Action.handler 0 .ok] ++ deviceSends ++ arrives .input 6 ++
    [Action.handler 1 .ok] ++ userReceives

def handedOver : List Action :=
  attached ++ deviceSends ++ userLeaves ++ List.replicate 2 (Action.handler 0 .ok) ++
    arrives .input 7 ++ [Action.handler 0 .ok, .handler 0 (.bytes 1)]

end Sample

theorem served_confidential : ∃ log t, (tunnel 25 Sample.plain).Run log t ∧
    t.delivered.length = 1 ∧ ReadForUser t ∧ NotAnothers t := by
  have run := System.Run.start (m := tunnel 25 Sample.plain) Sample.initial
  obtain ⟨log, t, run, found⟩ := run.follow_any Sample.served
    (fun r => decide (r.2.delivered.length = 1) && decide (∀ e ∈ r.1, Careful 25 e.1 e.2))
    (by decide +kernel)
  simp only [Bool.and_eq_true, decide_eq_true_eq] at found
  exact ⟨log, t, run, found.1, delivered_confidential run found.2⟩

/-- What a device sends first waits for a user, and what it sent to one user may reach the next. -/
theorem bytes_outlive_users :
    (¬ ∀ (count : ℕ) (m : Modes) (log : List (Runtime × Action)) (s : Runtime),
      (tunnel count m).Run log s → ReadForUser s) ∧
    ¬ ∀ (count : ℕ) (m : Modes) (log : List (Runtime × Action)) (s : Runtime),
      (tunnel count m).Run log s → NotAnothers s := by
  have run := System.Run.start (m := tunnel 25 Sample.plain) Sample.initial
  constructor
  · intro always
    obtain ⟨log, t, run, found⟩ := run.follow_any Sample.greeted
      (fun r => !decide (ReadForUser r.2)) (by decide +kernel)
    rw [decide_eq_true (always _ _ log t run)] at found
    cases found
  · intro always
    obtain ⟨log, t, run, found⟩ := run.follow_any Sample.handedOver
      (fun r => !decide (NotAnothers r.2)) (by decide +kernel)
    rw [decide_eq_true (always _ _ log t run)] at found
    cases found

end TunnelSlots
