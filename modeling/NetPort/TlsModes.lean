import NetPort.RuntimeInvariant

/-! The TLS modes of the listeners: a runtime keeps the modes it was started with, so what an
ensure leaves on the ports of a device is what was wanted when the context could be created. -/
namespace TlsModes

open ProxyRuntimes RuntimeInvariant

def fdOf (isTunnel : Bool) (r : ProxyServer) : Option ℕ := if isTunnel then r.output else r.input

def modeOf (isTunnel : Bool) (r : ProxyServer) : Bool :=
  if isTunnel then r.enableOutputSsl else r.enableInputSsl

def Listens (k : Kernel) (r : ProxyServer) (isTunnel : Bool) (port : ℕ) : Prop :=
  ∃ l ∈ k.listening, fdOf isTunnel r = some l.1 ∧ l.2 = port

instance (k : Kernel) (r : ProxyServer) (isTunnel : Bool) (port : ℕ) :
    Decidable (Listens k r isTunnel port) := inferInstanceAs (Decidable (∃ _ ∈ _, _))

structure Wanted where
  deviceId : String
  inputPort : ℕ
  tunnelPort : ℕ
  inputTls : Bool
  tunnelTls : Bool
  deriving DecidableEq, Repr

def Wanted.port (w : Wanted) (isTunnel : Bool) : ℕ := if isTunnel then w.tunnelPort else w.inputPort

def Wanted.tls (w : Wanted) (isTunnel : Bool) : Bool := if isTunnel then w.tunnelTls else w.inputTls

/-- Whatever listens on the pair, a runtime of the device or a reused one, runs in these modes. -/
def Served (w : Wanted) (p : Proxy) : Prop :=
  ∀ r ∈ p.runtimes, ∀ isTunnel, Listens p.kernel r isTunnel (w.port isTunnel) →
    modeOf isTunnel r = w.tls isTunnel

instance (w : Wanted) (p : Proxy) : Decidable (Served w p) :=
  inferInstanceAs (Decidable (∀ _ ∈ _, _))

variable {p q : Proxy} {k k' : Kernel} {r r' server : ProxyServer} {isTunnel : Bool} {port i : ℕ}

section Quiet

structure Keeps (r r' : ProxyServer) : Prop where
  device : r'.deviceId = r.deviceId
  mode : ∀ isTunnel, modeOf isTunnel r' = modeOf isTunnel r
  fd : ∀ isTunnel, fdOf isTunnel r' = fdOf isTunnel r ∨ fdOf isTunnel r' = none

theorem Keeps.refl (r : ProxyServer) : Keeps r r := ⟨rfl, fun _ => rfl, fun _ => .inl rfl⟩

theorem Keeps.trans {a b c : ProxyServer} (h : Keeps a b) (h' : Keeps b c) : Keeps a c := by
  refine ⟨h'.device.trans h.device, fun side => (h'.mode side).trans (h.mode side), fun side => ?_⟩
  rcases h'.fd side with same | gone
  · rw [same]
    exact h.fd side
  · exact .inr gone

theorem Keeps.listens (h : Keeps r r') (less : k'.listening ⊆ k.listening)
    (listens : Listens k' r' isTunnel port) : Listens k r isTunnel port := by
  obtain ⟨l, mem, fd, bound⟩ := listens
  rcases h.fd isTunnel with same | gone
  · exact ⟨l, less mem, same.symm.trans fd, bound⟩
  · rw [gone] at fd
    cases fd

theorem keeps_stopped (r : ProxyServer) : Keeps r r.stopped := by
  refine ⟨rfl, fun side => ?_, fun side => .inr ?_⟩ <;> cases side <;> rfl

theorem keeps_exited (isTunnel : Bool) (r : ProxyServer) : Keeps r (exited isTunnel r) := by
  refine ⟨?_, fun side => ?_, fun side => .inl ?_⟩ <;> cases isTunnel
  · rfl
  · rfl
  all_goals cases side <;> rfl

theorem stopped_silent : ¬ Listens k r.stopped isTunnel port := by
  rintro ⟨l, _, fd, _⟩
  cases isTunnel <;> cases fd

structure Quiet (p q : Proxy) : Prop where
  less : q.kernel.listening ⊆ p.kernel.listening
  runtimes : ∀ r' ∈ q.runtimes, ∃ r ∈ p.runtimes, Keeps r r'

theorem Quiet.refl (p : Proxy) : Quiet p p := ⟨fun _ h => h, fun r hr => ⟨r, hr, Keeps.refl r⟩⟩

theorem Quiet.trans {a b c : Proxy} (h : Quiet a b) (h' : Quiet b c) : Quiet a c := by
  refine ⟨fun _ m => h.less (h'.less m), fun r hr => ?_⟩
  obtain ⟨s, hs, keeps⟩ := h'.runtimes r hr
  obtain ⟨t, ht, keeps'⟩ := h.runtimes s hs
  exact ⟨t, ht, keeps'.trans keeps⟩

theorem Quiet.served {w : Wanted} (h : Quiet p q) (served : Served w p) : Served w q := by
  intro r' hr' side listens
  obtain ⟨r, hr, keeps⟩ := h.runtimes r' hr'
  rw [keeps.mode]
  exact served r hr side (keeps.listens h.less listens)

theorem close_less (k : Kernel) (fd : Option ℕ) : (k.close fd).listening ⊆ k.listening :=
  (shrinks_close k fd).1

theorem quiet_set (hr : p.runtimes[i]? = some r) (keeps : Keeps r r')
    (less : k'.listening ⊆ p.kernel.listening) :
    Quiet p { p with runtimes := p.runtimes.set i r', kernel := k' } := by
  refine ⟨less, fun s hs => ?_⟩
  rcases List.mem_or_eq_of_mem_set hs with old | rfl
  · exact ⟨s, old, Keeps.refl s⟩
  · exact ⟨r, List.mem_of_getElem? hr, keeps⟩

theorem quiet_acceptorExit (i : ℕ) (isTunnel : Bool) (p : Proxy) :
    Quiet p (acceptorExit i isTunnel p) := by
  cases hr : p.runtimes[i]? with
  | none =>
    have same : acceptorExit i isTunnel p = p := by simp [acceptorExit, hr]
    rw [same]
    exact Quiet.refl p
  | some r =>
    rw [acceptorExit_eq hr]
    exact quiet_set hr (keeps_exited isTunnel r) (close_less _ _)

theorem quiet_stop (i : ℕ) (deviceId : String) (p : Proxy) :
    Quiet p (stopDynamicServerRuntime i deviceId p) := by
  unfold stopDynamicServerRuntime
  split
  · exact Quiet.refl p
  · rename_i r hr
    split
    · exact Quiet.refl p
    · exact quiet_set hr (keeps_stopped r) fun _ m => close_less _ _ (close_less _ _ m)

theorem quiet_stopEntries (hit : DynamicServerRuntime → Bool) (es : List DynamicServerRuntime)
    (p : Proxy) : Quiet p (stopEntries hit es p).2 := by
  induction es generalizing p with
  | nil => exact Quiet.refl p
  | cons e es ih =>
    unfold stopEntries
    split
    · exact ih p
    · rename_i i _
      split
      · exact (quiet_stop i e.deviceId p).trans (ih _)
      · exact ih p

theorem quiet_stopDynamicServer (deviceId : String) (ip tp : ℕ) (p : Proxy) :
    Quiet p (stopDynamicServerForDevice deviceId ip tp p) := by
  obtain ⟨less, runtimes⟩ := quiet_stopEntries (fun e => stopMatches deviceId ip tp e &&
    !slotMismatch p.servers e) p.registry p
  exact ⟨less, runtimes⟩

end Quiet

section Healthy

variable {w : Wanted} {ip tp : ℕ} {wi wt : Bool} {e : DynamicServerRuntime}

theorem listens_unique (h : SocketInvariant p.runtimes p.kernel) {s : ProxyServer} {a b : ℕ}
    (hr : p.runtimes[a]? = some r) (hs : p.runtimes[b]? = some s)
    (first : Listens p.kernel r isTunnel port) (second : Listens p.kernel s isTunnel port) :
    r = s := by
  obtain ⟨l, mem, fd, bound⟩ := first
  obtain ⟨l', mem', fd', bound'⟩ := second
  have same := h.kernel.onePort l mem l' mem' (bound.trans bound'.symm)
  subst same
  have index : a = b := by
    cases isTunnel with
    | false => exact h.inputs.distinct a b r s l.1 hr hs fd fd'
    | true => exact h.outputs.distinct a b r s l.1 hr hs fd fd'
  subst index
  rw [hr] at hs
  exact Option.some.inj hs

theorem listens_of_active (h : SocketInvariant p.runtimes p.kernel) (hr : r ∈ p.runtimes)
    (active : isRuntimeListenerActive p.kernel r port isTunnel = true) :
    Listens p.kernel r isTunnel port := by
  simp only [isRuntimeListenerActive, Bool.and_eq_true, beq_iff_eq] at active
  obtain ⟨⟨_, samePort⟩, accepts⟩ := active
  obtain ⟨fd, hfd, there⟩ := (Option.any_eq_true _ _).1 accepts
  obtain ⟨l, mem, same⟩ := List.any_eq_true.1 there
  have named : l.1 = fd := by simpa using same
  subst named
  refine ⟨l, mem, hfd, ?_⟩
  rw [← samePort]
  cases isTunnel with
  | false => exact h.inputs.bound r hr l.1 l.2 hfd mem
  | true => exact h.outputs.bound r hr l.1 l.2 hfd mem

/-- A healthy runtime has the modes that are wanted on the ports. -/
theorem served_of_healthy (h : SocketInvariant p.runtimes p.kernel)
    (healthy : findHealthyDynamicServer ip tp wi wt p = some e) (deviceId : String) :
    Served ⟨deviceId, ip, tp, wi, wt⟩ p := by
  have test := List.find?_some healthy
  simp only [isHealthy, Bool.and_eq_true] at test
  obtain ⟨r, found, up⟩ := (Option.any_eq_true _ _).1 test.2
  obtain ⟨i, _, hr⟩ := Option.bind_eq_some_iff.1 found
  simp only [Bool.and_eq_true, dynamicRuntimeSslMatches, beq_iff_eq] at up
  obtain ⟨⟨⟨_, inputMode, tunnelMode⟩, input⟩, tunnel⟩ := up
  have mem := List.mem_of_getElem? hr
  intro s hs side listens
  obtain ⟨j, hj⟩ := List.getElem?_of_mem hs
  cases side with
  | false =>
    rw [listens_unique h hj hr listens (listens_of_active h mem input)]
    exact inputMode
  | true =>
    rw [listens_unique h hj hr listens (listens_of_active h mem tunnel)]
    exact tunnelMode

def Reached (w : Wanted) (p : Proxy) (i : ℕ) : Prop :=
  w.inputPort ≠ 0 ∧ w.tunnelPort ≠ 0 ∧ ∃ e ∈ p.registry, e.connectionsData = some i ∧
    (stopMatches w.deviceId w.inputPort w.tunnelPort e && !slotMismatch p.servers e) = true

/-- Every runtime that listens on the pair in another mode is reached. -/
def StopsOthers (w : Wanted) (p : Proxy) : Prop :=
  ∀ x ∈ p.runtimes.zipIdx, ∀ isTunnel, Listens p.kernel x.1 isTunnel (w.port isTunnel) →
    modeOf isTunnel x.1 ≠ w.tls isTunnel → Reached w p x.2

instance (w : Wanted) (p : Proxy) (i : ℕ) : Decidable (Reached w p i) :=
  inferInstanceAs (Decidable (_ ∧ _ ∧ ∃ _ ∈ _, _))

instance (w : Wanted) (p : Proxy) : Decidable (StopsOthers w p) :=
  inferInstanceAs (Decidable (∀ _ ∈ _, _))

theorem served_of_zero (ports : w.inputPort = 0 ∨ w.tunnelPort = 0) (others : StopsOthers w p) :
    Served w p := by
  intro r hr side listens
  obtain ⟨i, hi⟩ := List.getElem?_of_mem hr
  by_contra wrong
  have reached := others (r, i) (List.mem_zipIdx_iff_getElem?.2 hi) side listens wrong
  exact ports.elim reached.1 reached.2.1

theorem served_of_stop (h : ProxyInvariant p) (others : StopsOthers w p) :
    Served w (stopDynamicRuntimesForDevice w.deviceId w.inputPort w.tunnelPort p) := by
  intro r' hr' side listens
  obtain ⟨i, hi⟩ := List.getElem?_of_mem hr'
  obtain ⟨_, spec⟩ := stopWhere_spec h fun e =>
    stopMatches w.deviceId w.inputPort w.tunnelPort e && !slotMismatch p.servers e
  obtain ⟨less, _⟩ := quiet_stopDynamicServer w.deviceId w.inputPort w.tunnelPort p
  by_cases held : Held (fun e => stopMatches w.deviceId w.inputPort w.tunnelPort e &&
      !slotMismatch p.servers e) p.registry i
  · have stopped := spec.held i held
    change (stopDynamicRuntimesForDevice _ _ _ p).runtimes[i]? = _ at stopped
    rw [hi] at stopped
    obtain ⟨r, _, rfl⟩ := Option.map_eq_some_iff.1 stopped.symm
    exact absurd listens stopped_silent
  · have same := spec.others i held
    change (stopDynamicRuntimesForDevice _ _ _ p).runtimes[i]? = _ at same
    rw [hi] at same
    by_contra wrong
    have before := (Keeps.refl r').listens less listens
    have reached := others (r', i) (List.mem_zipIdx_iff_getElem?.2 same.symm) side before wrong
    exact held reached.2.2

end Healthy

section Start

variable {w : Wanted} {base ss : List ProxyServer} {deviceId : String} {ip tp index : ℕ}
  {o : Option ℕ} {cfg : Config} {wi wt : Bool}

structure Exits (base : List ProxyServer) (accepting isTunnel : Bool) (r : ProxyServer)
    (p q : Proxy) (r' : ProxyServer) : Prop where
  less : q.kernel.listening ⊆ p.kernel.listening
  outcome : q.outcome = p.outcome
  runtimes : q.runtimes = base ++ [r']
  keeps : Keeps r r'
  stopped : accepting = false →
    (if isTunnel then r'.isOutputRunning else r'.isInputRunning) = false
  input : r.isInputRunning = false → r'.isInputRunning = false

theorem exits (hp : p.runtimes = base ++ [r]) (accepting isTunnel : Bool) :
    ∃ r', Exits base accepting isTunnel r p
      (if accepting then p else acceptorExit base.length isTunnel p) r' := by
  cases accepting with
  | true => exact ⟨r, fun _ h => h, rfl, hp, Keeps.refl r, by simp, fun h => h⟩
  | false =>
    have hr : p.runtimes[base.length]? = some r := by simp [hp]
    refine ⟨exited isTunnel r, ?_⟩
    simp only [Bool.false_eq_true, if_false, acceptorExit_eq hr]
    refine ⟨close_less _ _, rfl, by simp [hp], keeps_exited isTunnel r, fun _ => ?_, fun h => ?_⟩
    · cases isTunnel <;> rfl
    · cases isTunnel
      · rfl
      · exact h

theorem active_running (active : isRuntimeListenerActive k r port isTunnel = true) :
    (if isTunnel then r.isOutputRunning else r.isInputRunning) = true := by
  simp only [isRuntimeListenerActive, Bool.and_eq_true] at active
  exact active.1.1.2

/-- A start that fails at the last check leaves no listener behind. -/
theorem confirmStarted_modes (hp : p.runtimes = base ++ [r]) (device : r.deviceId = deviceId)
    (e : confirmStarted deviceId ip tp index base.length p = (q, o)) :
    q.kernel.listening ⊆ p.kernel.listening ∧
      (o.isSome = true → p.outcome.inputAccepting = true ∧ p.outcome.outputAccepting = true) ∧
      ∃ r', q.runtimes = base ++ [r'] ∧ Keeps r r' ∧
        (o = none → ∀ isTunnel port, ¬ Listens q.kernel r' isTunnel port) := by
  obtain ⟨x, first⟩ := exits hp p.outcome.inputAccepting false
  unfold confirmStarted at e
  dsimp only at e
  generalize (if p.outcome.inputAccepting = true then p else acceptorExit base.length false p) = p₁
    at first e
  obtain ⟨y, second⟩ := exits first.runtimes p₁.outcome.outputAccepting true
  generalize (if p₁.outcome.outputAccepting = true then p₁ else
    acceptorExit base.length true p₁) = p₂ at second e
  have hy : p₂.runtimes[base.length]? = some y := by simp [second.runtimes]
  have less : p₂.kernel.listening ⊆ p.kernel.listening := fun _ m => first.less (second.less m)
  have keeps := first.keeps.trans second.keeps
  split at e
  · rename_i up
    simp only [hy, Option.any_some, Bool.and_eq_true] at up
    obtain ⟨rfl, rfl⟩ := Prod.mk.inj e
    refine ⟨less, fun _ => ⟨?_, ?_⟩, y, second.runtimes, keeps, by simp⟩
    · by_contra refused
      have gone := second.input (first.stopped (by simpa using refused))
      have running := active_running up.1
      simp [gone] at running
    · by_contra refused
      rw [← first.outcome] at refused
      have gone := second.stopped (by simpa using refused)
      exact absurd (gone.symm.trans (active_running up.2)) (by decide)
  · rw [stopDynamicServerRuntime_eq hy (keeps.device.trans device)] at e
    obtain ⟨rfl, rfl⟩ := Prod.mk.inj e
    refine ⟨?_, by simp, y.stopped, by simp [second.runtimes], keeps.trans (keeps_stopped y),
      fun _ _ _ => stopped_silent⟩
    exact fun _ m => less (close_less _ _ (close_less _ _ m))

def Granted (outcome : StartOutcome) : Prop :=
  outcome.inputSocket = true ∧ outcome.inputListens = true ∧ outcome.outputSocket = true ∧
    outcome.outputListens = true ∧ outcome.allocated = true ∧ outcome.inputStarted = true ∧
    outcome.outputStarted = true ∧ outcome.inputAccepting = true ∧ outcome.outputAccepting = true

instance (outcome : StartOutcome) : Decidable (Granted outcome) :=
  inferInstanceAs (Decidable (_ ∧ _))

/-- A start adds a runtime in the modes of the server, or no listener. -/
structure Grew (server : ProxyServer) (p q : Proxy) (o : Option ℕ) : Prop where
  kernel : ∀ l ∈ q.kernel.listening, l ∈ p.kernel.listening ∨ p.kernel.nextFd ≤ l.1
  runtimes : ∀ r ∈ q.runtimes, r ∈ p.runtimes ∨
    (∀ isTunnel port, ¬ Listens q.kernel r isTunnel port) ∨
    (o.isSome = true ∧ ∀ isTunnel, modeOf isTunnel r = modeOf isTunnel server)
  granted : o.isSome = true → Granted p.outcome

theorem Grew.served (h : Grew server p q o) (sockets : SocketInvariant p.runtimes p.kernel)
    (before : Served w p) (modes : o.isSome = true → ∀ isTunnel, modeOf isTunnel server =
      w.tls isTunnel) : Served w q := by
  intro r hr side listens
  rcases h.runtimes r hr with old | silent | ⟨started, same⟩
  · obtain ⟨l, mem, fd, bound⟩ := listens
    have lt : l.1 < p.kernel.nextFd := by
      cases side with
      | false => exact sockets.inputs.old r old l.1 fd
      | true => exact sockets.outputs.old r old l.1 fd
    rcases h.kernel l mem with there | fresh
    · exact before r old side ⟨l, there, fd, bound⟩
    · omega
  · exact absurd listens (silent side _)
  · rw [same]
    exact modes started side

theorem initSocket_granted {socket listens : Bool} {fd : Option ℕ}
    (h : k.initSocket socket listens port = (fd, true, k')) : socket = true ∧ listens = true := by
  unfold Kernel.initSocket at h
  split at h
  · simp at h
  · rename_i created
    split at h
    · rename_i free
      simp only [Bool.and_eq_true] at free
      exact ⟨by simpa using created, free.1⟩
    · simp at h

/-- Listeners beside those of `k` have descriptors that `k` has not handed out. -/
def Later (k k' : Kernel) : Prop := ∀ l ∈ k'.listening, l ∈ k.listening ∨ k.nextFd ≤ l.1

theorem Later.less {a b c : Kernel} (h : Later a b) (less : c.listening ⊆ b.listening) :
    Later a c := fun l m => h l (less m)

theorem later_of_less (less : k'.listening ⊆ k.listening) : Later k k' := fun _ m => .inl (less m)

theorem Later.opened {a b : Kernel} (h : Later a b) (le : a.nextFd ≤ b.nextFd) (port : ℕ) :
    Later a (opened b port) := by
  intro l m
  rcases List.mem_cons.1 m with rfl | m
  · exact .inr le
  · exact h l m

theorem silent_of_closed {f : ℕ} (hfd : fdOf isTunnel r = some f)
    (closed : ∀ l ∈ k.listening, l.1 ≠ f) : ¬ Listens k r isTunnel port := by
  rintro ⟨l, mem, same, _⟩
  exact closed l mem (Option.some.inj (same.symm.trans hfd))

theorem closed_close (k : Kernel) (fd : ℕ) : ∀ l ∈ (k.close (some fd)).listening, l.1 ≠ fd := by
  intro l m
  simpa using (List.mem_filter.1 m).2

theorem grew_of_confirm {p₁ : Proxy}
    (e : confirmStarted deviceId ip tp ss.length p.runtimes.length
      (registerDynamicServerRuntime deviceId ip tp ss.length p.runtimes.length p₁) = (q, o))
    (runtimes : p₁.runtimes = p.runtimes ++ [r]) (device : r.deviceId = deviceId)
    (modes : ∀ isTunnel, modeOf isTunnel r = modeOf isTunnel server)
    (later : Later p.kernel p₁.kernel) (granted : p₁.outcome.inputAccepting = true →
      p₁.outcome.outputAccepting = true → Granted p.outcome) : Grew server p q o := by
  have only := registerDynamicServerRuntime_registry_only deviceId ip tp ss.length
    p.runtimes.length p₁
  generalize registerDynamicServerRuntime deviceId ip tp ss.length p.runtimes.length p₁ = p₂
    at e only
  have runtimes₂ : p₂.runtimes = p.runtimes ++ [r] := by rw [only, runtimes]
  obtain ⟨less, accepting, r', all, keeps, silent⟩ := confirmStarted_modes runtimes₂ device e
  rw [only] at less accepting
  refine ⟨later.less less, fun s hs => ?_, fun some => ?_⟩
  · rw [all] at hs
    rcases List.mem_append.1 hs with old | new
    · exact .inl old
    · rw [List.mem_singleton.1 new]
      cases o with
      | none => exact .inr (.inl (silent rfl))
      | some _ => exact .inr (.inr ⟨rfl, fun side => (keeps.mode side).trans (modes side)⟩)
  · exact granted (accepting some).1 (accepting some).2

theorem start_grew (e : startDynamicServerAtIndex cfg ss.length deviceId ip tp wi wt p = (q, o))
    (servers : p.servers = ss ++ [ProxyServer.zero]) :
    Grew (newServer cfg p.outcome deviceId ip tp wi wt) p q o := by
  have device := (newServer_fields cfg p.outcome deviceId ip tp wi wt).1
  have attempt := attempt_of_start e servers
  generalize newServer cfg p.outcome deviceId ip tp wi wt = server at attempt device ⊢
  have still {q' : Proxy} (same : q'.runtimes = p.runtimes) (later : Later p.kernel q'.kernel) :
      Grew server p q' none := ⟨later, fun r hr => .inl (same ▸ hr), by simp⟩
  have later₁ : Later p.kernel (opened p.kernel ip) :=
    (later_of_less fun _ m => m).opened (Nat.le_refl _) ip
  have later₂ : Later p.kernel (opened (opened p.kernel ip) tp) :=
    later₁.opened (Nat.le_succ _) tp
  cases attempt with
  | full => exact still rfl (later_of_less fun _ m => m)
  | noInput _ _ _ shrinks => exact still rfl (later_of_less shrinks.1)
  | noOutput _ _ _ _ _ shrinks =>
    exact still rfl (later₁.less fun _ m => shrinks.1 (close_less _ _ m))
  | noThread _ _ _ _ shrinks => exact still rfl (later₂.less shrinks.1)
  | orphan =>
    refine ⟨later₂.less fun _ m => close_less _ _ (close_less _ _ (close_less _ _ m)),
      fun r hr => ?_, by simp⟩
    rcases List.mem_append.1 hr with old | new
    · exact .inl old
    · -- the orphan of a failed output side
      refine .inr (.inl fun side port => ?_)
      rw [List.mem_singleton.1 new]
      cases side with
      | false =>
        refine silent_of_closed (f := p.kernel.nextFd) rfl fun l m => ?_
        exact closed_close _ _ l (close_less _ _ m)
      | true => exact silent_of_closed (f := p.kernel.nextFd + 1) rfl (closed_close _ _)
  | up _ sockets allocated inputStarted outputStarted confirmed =>
    have granted₁ := initSocket_granted sockets.input
    have granted₂ := initSocket_granted sockets.output
    refine grew_of_confirm confirmed rfl device (fun side => ?_) later₂ fun inputs outputs => ?_
    · cases side <;> rfl
    · exact ⟨granted₁.1, granted₁.2, granted₂.1, granted₂.2, allocated, inputStarted,
        outputStarted, inputs, outputs⟩

end Start

section Ensure

variable {cfg : Config} {info : DeviceInfo} {deviceId : String} {ip tp : ℕ} {o : Option ℕ}

def wantedFor (cfg : Config) (deviceId : String) (ip tp : ℕ) (info : DeviceInfo) : Wanted :=
  ⟨deviceId, ip, tp, wantsSsl cfg info.enableInputSsl, wantsSsl cfg info.enableTunnelSsl⟩

/-- OpenSSL gives a context to the runtime that is started with TLS. -/
def ContextCreated (w : Wanted) (outcome : StartOutcome) : Prop :=
  (w.inputTls || w.tunnelTls) = true → outcome.reallocated = true → Granted outcome →
    outcome.sslContextCreated = true

/-- What an ensure is to find when it cannot use a healthy runtime. -/
def Careful (w : Wanted) (p : Proxy) : Prop :=
  findHealthyDynamicServer w.inputPort w.tunnelPort w.inputTls w.tunnelTls p = none →
    ContextCreated w p.outcome ∧ StopsOthers w p

instance (w : Wanted) (outcome : StartOutcome) : Decidable (ContextCreated w outcome) :=
  inferInstanceAs (Decidable (_ → _))

instance (w : Wanted) (p : Proxy) : Decidable (Careful w p) :=
  inferInstanceAs (Decidable (_ → _ ∧ _))

theorem wantsSsl_configured {flag : Bool} (h : wantsSsl cfg flag = true) :
    cfg.sslCertsConfigured = true := by
  simp only [wantsSsl, Bool.and_eq_true] at h
  exact h.2

theorem newServer_modes (outcome : StartOutcome)
    (created : (wantsSsl cfg info.enableInputSsl || wantsSsl cfg info.enableTunnelSsl) = true →
      outcome.sslContextCreated = true) (isTunnel : Bool) :
    modeOf isTunnel (newServer cfg outcome deviceId ip tp (wantsSsl cfg info.enableInputSsl)
      (wantsSsl cfg info.enableTunnelSsl)) =
        (wantedFor cfg deviceId ip tp info).tls isTunnel := by
  have wanted : (wantedFor cfg deviceId ip tp info).tls isTunnel =
      if isTunnel then wantsSsl cfg info.enableTunnelSsl
      else wantsSsl cfg info.enableInputSsl := rfl
  rw [wanted]
  unfold newServer applyDynamicServerSslConfig
  by_cases none : (!wantsSsl cfg info.enableInputSsl && !wantsSsl cfg info.enableTunnelSsl) = true
  · rw [if_pos none]
    simp only [Bool.and_eq_true, Bool.not_eq_true'] at none
    cases isTunnel <;> simp [modeOf, ProxyServer.zero, none.1, none.2]
  · have some : (wantsSsl cfg info.enableInputSsl || wantsSsl cfg info.enableTunnelSsl) = true := by
      by_contra neither
      exact none (by simpa [Bool.not_or] using neither)
    have configured : cfg.sslCertsConfigured = true := by
      rcases Bool.or_eq_true_iff.1 some with one | other
      · exact wantsSsl_configured one
      · exact wantsSsl_configured other
    have files : cfg.sslCertFile ≠ "" ∧ cfg.sslKeyFile ≠ "" := by
      simpa [Config.sslCertsConfigured] using configured
    rw [if_neg none, if_neg (by simp [configured]), created some]
    have asked :
        (wantsSsl cfg info.enableTunnelSsl || wantsSsl cfg info.enableInputSsl) = true := by
      rw [Bool.or_comm]
      exact some
    cases isTunnel <;>
      simp [initSslContext, modeOf, ProxyServer.zero, asked, files.1, files.2]

theorem createDynamicServer_modes (sockets : SocketInvariant p.runtimes p.kernel)
    (before : Served (wantedFor cfg deviceId ip tp info) p)
    (created : ContextCreated (wantedFor cfg deviceId ip tp info) p.outcome)
    (e : createDynamicServerForDevice cfg deviceId ip tp info p = (q, o)) :
    Served (wantedFor cfg deviceId ip tp info) q := by
  unfold createDynamicServerForDevice at e
  split at e
  · obtain ⟨rfl, rfl⟩ := Prod.mk.inj e
    exact before
  · rename_i start
    have reallocated : p.outcome.reallocated = true := by
      simp only [Bool.or_eq_true, Bool.not_eq_true', not_or] at start
      simpa using start.2
    dsimp only at e
    generalize hs : startDynamicServerAtIndex cfg p.servers.length deviceId ip tp
      (wantsSsl cfg info.enableInputSsl) (wantsSsl cfg info.enableTunnelSsl)
      { p with servers := p.servers ++ [ProxyServer.zero] } = result at e
    obtain ⟨q', started⟩ := result
    have grew := start_grew hs rfl
    have served : Served (wantedFor cfg deviceId ip tp info) q' :=
      grew.served sockets before fun some side =>
        newServer_modes p.outcome (fun wants => created wants reallocated (grew.granted some)) side
    cases started with
    | none =>
      obtain ⟨rfl, rfl⟩ := Prod.mk.inj e
      exact served
    | some _ =>
      obtain ⟨rfl, rfl⟩ := Prod.mk.inj e
      exact served

/-- After an ensure, started or not, no listener on the pair has another mode. -/
theorem ensure_served (h : ProxyInvariant p)
    (careful : Careful (wantedFor cfg deviceId ip tp info) p)
    (e : ensureDynamicServerForDevice cfg deviceId ip tp info p = (q, o)) :
    Served (wantedFor cfg deviceId ip tp info) q := by
  unfold ensureDynamicServerForDevice at e
  cases healthy : findHealthyDynamicServer ip tp (wantsSsl cfg info.enableInputSsl)
      (wantsSsl cfg info.enableTunnelSsl) p with
  | some entry =>
    have same : q = p := by
      simp only [healthy] at e
      split at e <;> exact (Prod.mk.inj e).1.symm
    rw [same]
    exact served_of_healthy h.sockets healthy deviceId
  | none =>
    obtain ⟨created, others⟩ := careful healthy
    split at e
    · rename_i zero
      obtain ⟨rfl, rfl⟩ := Prod.mk.inj e
      have ports : ip = 0 ∨ tp = 0 := by simpa using zero
      exact served_of_zero ports others
    · simp only [healthy] at e
      have stopped : ProxyInvariant (stopDynamicRuntimesForDevice deviceId ip tp p) :=
        h.stopWhere _
      have outcome : (stopDynamicRuntimesForDevice deviceId ip tp p).outcome = p.outcome :=
        (stopWhere_spec h _).2.outcome
      rw [findStoppedDynamicServer_none stopped] at e
      refine createDynamicServer_modes stopped.sockets (served_of_stop h others) ?_ e
      rw [outcome]
      exact created

end Ensure

end TlsModes
