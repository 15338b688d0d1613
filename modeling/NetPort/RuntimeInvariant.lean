import NetPort.ProxyRuntimes

/-! What holds of the registry, the runtimes and the listening sockets in every state: a
descriptor belongs to one runtime and listens on that runtime's port, and an entry names
the device, the ports and the slot of the runtime it points to. -/
namespace RuntimeInvariant

open ProxyRuntimes

def told (r : ProxyServer) : Bool := r.stopInputRunning && r.stopOutputRunning

structure KernelInvariant (k : Kernel) : Prop where
  onePort : ∀ a ∈ k.listening, ∀ b ∈ k.listening, a.2 = b.2 → a = b
  old : ∀ a ∈ k.listening, a.1 < k.nextFd

/-- One side of the runtimes: `fd` is the listening descriptor, `port` the port. -/
structure SideInvariant (fd : ProxyServer → Option ℕ) (port : ProxyServer → ℕ)
    (runtimes : List ProxyServer) (k : Kernel) : Prop where
  old : ∀ r ∈ runtimes, ∀ f, fd r = some f → f < k.nextFd
  bound : ∀ r ∈ runtimes, ∀ f q, fd r = some f → (f, q) ∈ k.listening → q = port r
  distinct : ∀ (i j : ℕ) (r s : ProxyServer) (f : ℕ), runtimes[i]? = some r → runtimes[j]? = some s →
    fd r = some f → fd s = some f → i = j

structure SocketInvariant (runtimes : List ProxyServer) (k : Kernel) : Prop where
  kernel : KernelInvariant k
  inputs : SideInvariant ProxyServer.input ProxyServer.inputPort runtimes k
  outputs : SideInvariant ProxyServer.output ProxyServer.outputPort runtimes k

structure RegistryInvariant (servers : List ProxyServer) (registry : List DynamicServerRuntime)
    (runtimes : List ProxyServer) : Prop where
  active : ∀ e ∈ registry, e.active = e.connectionsData.isSome
  points : ∀ e ∈ registry, ∀ i, e.connectionsData = some i → ∃ r, runtimes[i]? = some r ∧
    r.deviceId = e.deviceId ∧ r.inputPort = e.inputPort ∧ r.outputPort = e.tunnelPort ∧
    (told r = false → ∃ s, servers[e.serverIndex]? = some s ∧ s.deviceId = e.deviceId)

structure ProxyInvariant (p : Proxy) : Prop where
  enabled : ∀ s ∈ p.servers, s.isDynamicPort = true → s.enable = true
  registry : RegistryInvariant p.servers p.registry p.runtimes
  sockets : SocketInvariant p.runtimes p.kernel

def Shrinks (k k' : Kernel) : Prop := k'.listening ⊆ k.listening ∧ k.nextFd ≤ k'.nextFd

theorem Shrinks.refl (k : Kernel) : Shrinks k k := ⟨fun _ h => h, Nat.le_refl _⟩

theorem Shrinks.trans {a b c : Kernel} (h : Shrinks a b) (h' : Shrinks b c) : Shrinks a c :=
  ⟨fun _ m => h.1 (h'.1 m), Nat.le_trans h.2 h'.2⟩

theorem shrinks_close (k : Kernel) (fd : Option ℕ) : Shrinks k (k.close fd) := by
  cases fd with
  | none => exact Shrinks.refl k
  | some f => exact ⟨List.filter_sublist.subset, Nat.le_refl _⟩

variable {k k' : Kernel} {runtimes : List ProxyServer} {servers : List ProxyServer}
  {registry : List DynamicServerRuntime} {p : Proxy} {i : ℕ} {r r' : ProxyServer}
  {fd : ProxyServer → Option ℕ} {port : ProxyServer → ℕ}

theorem KernelInvariant.shrink (h : KernelInvariant k) (s : Shrinks k k') : KernelInvariant k' :=
  ⟨fun a ha b hb e => h.onePort a (s.1 ha) b (s.1 hb) e,
    fun a ha => Nat.lt_of_lt_of_le (h.old a (s.1 ha)) s.2⟩

theorem SideInvariant.shrink (h : SideInvariant fd port runtimes k) (s : Shrinks k k') :
    SideInvariant fd port runtimes k' :=
  ⟨fun r hr f e => Nat.lt_of_lt_of_le (h.old r hr f e) s.2,
    fun r hr f q e l => h.bound r hr f q e (s.1 l), h.distinct⟩

theorem SocketInvariant.shrink (h : SocketInvariant runtimes k) (s : Shrinks k k') :
    SocketInvariant runtimes k' :=
  ⟨h.kernel.shrink s, h.inputs.shrink s, h.outputs.shrink s⟩

/-- The runtime keeps its port and at most loses its descriptor. -/
theorem SideInvariant.set (h : SideInvariant fd port runtimes k) (hr : runtimes[i]? = some r)
    (hport : port r' = port r) (hfd : fd r' = fd r ∨ fd r' = none) :
    SideInvariant fd port (runtimes.set i r') k := by
  have lt := (List.getElem?_eq_some_iff.1 hr).1
  have mem := List.mem_of_getElem? hr
  have held {f} (e : fd r' = some f) : fd r = some f := by
    rcases hfd with same | none
    · rw [← same]; exact e
    · rw [none] at e; exact absurd e (by simp)
  have origin {j : ℕ} {s : ProxyServer} {f : ℕ} (hs : (runtimes.set i r')[j]? = some s)
      (e : fd s = some f) :
      ∃ s', runtimes[j]? = some s' ∧ fd s' = some f ∧ port s = port s' := by
    rw [List.getElem?_set] at hs
    split at hs
    · rename_i same
      subst same
      simp only [Option.some.injEq] at hs
      subst hs
      exact ⟨r, hr, held e, hport⟩
    · exact ⟨s, hs, e, rfl⟩
  refine ⟨?_, ?_, ?_⟩
  · intro s hs f e
    obtain ⟨j, hj⟩ := List.getElem?_of_mem hs
    obtain ⟨s', hs', e', _⟩ := origin hj e
    exact h.old s' (List.mem_of_getElem? hs') f e'
  · intro s hs f q e l
    obtain ⟨j, hj⟩ := List.getElem?_of_mem hs
    obtain ⟨s', hs', e', samePort⟩ := origin hj e
    rw [samePort]
    exact h.bound s' (List.mem_of_getElem? hs') f q e' l
  · intro a b s t f hs ht es et
    obtain ⟨s', hs', es', _⟩ := origin hs es
    obtain ⟨t', ht', et', _⟩ := origin ht et
    exact h.distinct a b s' t' f hs' ht' es' et'

theorem SocketInvariant.set (h : SocketInvariant runtimes k) (hr : runtimes[i]? = some r)
    (inputPort : r'.inputPort = r.inputPort) (outputPort : r'.outputPort = r.outputPort)
    (input : r'.input = r.input ∨ r'.input = none)
    (output : r'.output = r.output ∨ r'.output = none) :
    SocketInvariant (runtimes.set i r') k :=
  ⟨h.kernel, h.inputs.set hr inputPort input, h.outputs.set hr outputPort output⟩

/-- A new runtime whose descriptor was handed out after all others. -/
theorem SideInvariant.append (h : SideInvariant fd port runtimes k) {f : ℕ} (e : fd r = some f)
    (fresh : k.nextFd ≤ f) (next : f < k'.nextFd)
    (only : ∀ l ∈ k'.listening, l ∈ k.listening ∨ k.nextFd ≤ l.1)
    (bound : ∀ q, (f, q) ∈ k'.listening → q = port r) :
    SideInvariant fd port (runtimes ++ [r]) k' := by
  refine ⟨?_, ?_, ?_⟩
  · intro s hs g eg
    rcases List.mem_append.1 hs with hs | hs
    · have := h.old s hs g eg
      omega
    · rw [List.mem_singleton.1 hs, e] at eg
      rw [← Option.some.inj eg]
      exact next
  · intro s hs g q eg l
    rcases List.mem_append.1 hs with hs | hs
    · have lt := h.old s hs g eg
      rcases only _ l with l | l
      · exact h.bound s hs g q eg l
      · exact absurd lt (by simpa using l)
    · rw [List.mem_singleton.1 hs] at eg ⊢
      rw [e] at eg
      rw [← Option.some.inj eg] at l
      exact bound q l
  · have side {j : ℕ} {s : ProxyServer} {g : ℕ} (hs : (runtimes ++ [r])[j]? = some s)
        (eg : fd s = some g) :
        (runtimes[j]? = some s ∧ g < k.nextFd) ∨ (j = runtimes.length ∧ g = f) := by
      rcases Nat.lt_or_ge j runtimes.length with lt | ge
      · rw [List.getElem?_append_left lt] at hs
        exact .inl ⟨hs, h.old s (List.mem_of_getElem? hs) g eg⟩
      · rw [List.getElem?_append_right ge] at hs
        obtain ⟨lt, last⟩ := List.getElem?_eq_some_iff.1 hs
        simp only [List.length_singleton] at lt
        simp only [List.getElem_singleton] at last
        rw [← last, e] at eg
        exact .inr ⟨by omega, (Option.some.inj eg).symm⟩
    intro a b s t g hs ht es et
    rcases side hs es with ⟨hs', ls⟩ | ⟨rfl, gs⟩ <;> rcases side ht et with ⟨ht', lt⟩ | ⟨rfl, gt⟩
    · exact h.distinct a b s t g hs' ht' es et
    · omega
    · omega
    · rfl

/-- Runtimes are never removed or given to another device or port, nor started again. -/
def Evolves (runtimes runtimes' : List ProxyServer) : Prop :=
  ∀ (j : ℕ) (r : ProxyServer), runtimes[j]? = some r → ∃ r', runtimes'[j]? = some r' ∧
    r'.deviceId = r.deviceId ∧ r'.inputPort = r.inputPort ∧ r'.outputPort = r.outputPort ∧
    (told r' = false → told r = false)

theorem Evolves.refl (runtimes : List ProxyServer) : Evolves runtimes runtimes :=
  fun _ r hr => ⟨r, hr, rfl, rfl, rfl, fun h => h⟩

theorem evolves_append (runtimes more : List ProxyServer) : Evolves runtimes (runtimes ++ more) := by
  intro j r hr
  have lt := (List.getElem?_eq_some_iff.1 hr).1
  exact ⟨r, by rw [List.getElem?_append_left lt, hr], rfl, rfl, rfl, fun h => h⟩

theorem evolves_set (hr : runtimes[i]? = some r) (device : r'.deviceId = r.deviceId)
    (input : r'.inputPort = r.inputPort) (output : r'.outputPort = r.outputPort)
    (up : told r' = false → told r = false) : Evolves runtimes (runtimes.set i r') := by
  intro j s hs
  have lt := (List.getElem?_eq_some_iff.1 hr).1
  by_cases same : i = j
  · subst same
    rw [hr] at hs
    cases hs
    exact ⟨r', List.getElem?_set_self lt, device, input, output, up⟩
  · exact ⟨s, by rw [List.getElem?_set_ne same, hs], rfl, rfl, rfl, fun h => h⟩

theorem RegistryInvariant.evolve (h : RegistryInvariant servers registry runtimes)
    {runtimes' : List ProxyServer} (ev : Evolves runtimes runtimes') :
    RegistryInvariant servers registry runtimes' := by
  refine ⟨h.active, ?_⟩
  intro e he i hi
  obtain ⟨r, hr, device, input, output, slot⟩ := h.points e he i hi
  obtain ⟨r', hr', device', input', output', up⟩ := ev i r hr
  exact ⟨r', hr', device'.trans device, input'.trans input, output'.trans output,
    fun live => slot (up live)⟩

theorem RegistryInvariant.servers_append (h : RegistryInvariant servers registry runtimes)
    (more : List ProxyServer) : RegistryInvariant (servers ++ more) registry runtimes := by
  refine ⟨h.active, ?_⟩
  intro e he i hi
  obtain ⟨r, hr, device, input, output, slot⟩ := h.points e he i hi
  refine ⟨r, hr, device, input, output, fun live => ?_⟩
  obtain ⟨s, hs, named⟩ := slot live
  have lt := (List.getElem?_eq_some_iff.1 hs).1
  exact ⟨s, by rw [List.getElem?_append_left lt, hs], named⟩

theorem RegistryInvariant.cleared (h : RegistryInvariant servers registry runtimes)
    {registry' : List DynamicServerRuntime}
    (origin : ∀ e ∈ registry', e ∈ registry ∨ (e.active = false ∧ e.connectionsData = none)) :
    RegistryInvariant servers registry' runtimes := by
  constructor
  · intro e he
    rcases origin e he with old | ⟨inactive, none⟩
    · exact h.active e old
    · simp [inactive, none]
  · intro e he i hi
    rcases origin e he with old | ⟨_, none⟩
    · exact h.points e old i hi
    · rw [none] at hi
      exact absurd hi (by simp)

section Stop

variable {hit : DynamicServerRuntime → Bool} {es : List DynamicServerRuntime} {deviceId : String}

theorem stopDynamicServerRuntime_eq (hr : p.runtimes[i]? = some r) (h : r.deviceId = deviceId) :
    stopDynamicServerRuntime i deviceId p = { p with
      runtimes := p.runtimes.set i r.stopped
      kernel := (p.kernel.close r.input).close r.output } := by
  simp [stopDynamicServerRuntime, hr, h]

def clearEntry (hit : DynamicServerRuntime → Bool) (e : DynamicServerRuntime) :
    DynamicServerRuntime :=
  if e.connectionsData.isSome && hit e then { e with active := false, connectionsData := none }
  else e

def Held (hit : DynamicServerRuntime → Bool) (es : List DynamicServerRuntime) (i : ℕ) : Prop :=
  ∃ e ∈ es, e.connectionsData = some i ∧ hit e = true

structure StopSpec (hit : DynamicServerRuntime → Bool) (es : List DynamicServerRuntime)
    (p q : Proxy) : Prop where
  servers : q.servers = p.servers
  outcome : q.outcome = p.outcome
  held : ∀ j, Held hit es j → q.runtimes[j]? = (p.runtimes[j]?).map ProxyServer.stopped
  others : ∀ j, ¬ Held hit es j → q.runtimes[j]? = p.runtimes[j]?
  sockets : SocketInvariant q.runtimes q.kernel

theorem told_stopped (r : ProxyServer) : told r.stopped = true := rfl

theorem SocketInvariant.stop (h : SocketInvariant runtimes k) (hr : runtimes[i]? = some r) :
    SocketInvariant (runtimes.set i r.stopped) ((k.close r.input).close r.output) := by
  have stopped : SocketInvariant (runtimes.set i r.stopped) k :=
    h.set hr rfl rfl (.inr rfl) (.inr rfl)
  exact stopped.shrink ((shrinks_close k r.input).trans (shrinks_close _ r.output))

/-- One registry loop stops exactly the runtimes of the entries it hits. -/
theorem stopEntries_spec (es : List DynamicServerRuntime) (p : Proxy)
    (points : ∀ e ∈ es, ∀ i, e.connectionsData = some i →
      ∃ r, p.runtimes[i]? = some r ∧ r.deviceId = e.deviceId)
    (sockets : SocketInvariant p.runtimes p.kernel) :
    (stopEntries hit es p).1 = es.map (clearEntry hit) ∧
      StopSpec hit es p (stopEntries hit es p).2 := by
  induction es generalizing p with
  | nil =>
    refine ⟨rfl, rfl, rfl, ?_, fun _ _ => rfl, sockets⟩
    rintro j ⟨e, he, _⟩
    exact absurd he (by simp)
  | cons e es ih =>
    have rest := fun e' he' => points e' (List.mem_cons_of_mem e he')
    cases hd : e.connectionsData with
    | none =>
      obtain ⟨entries, spec⟩ := ih p rest sockets
      have same (j : ℕ) : Held hit (e :: es) j ↔ Held hit es j := by simp [Held, hd]
      simp only [stopEntries, hd]
      refine ⟨by simp [entries, clearEntry, hd], spec.servers, spec.outcome, ?_, ?_, spec.sockets⟩
      · exact fun j held => spec.held j ((same j).1 held)
      · exact fun j free => spec.others j fun held => free ((same j).2 held)
    | some i =>
      by_cases hh : hit e = true
      · obtain ⟨r, hr, device⟩ := points e (by simp) i hd
        have lt := (List.getElem?_eq_some_iff.1 hr).1
        have stopped := stopDynamicServerRuntime_eq hr device
        have after (j : ℕ) : (p.runtimes.set i r.stopped)[j]? =
            if i = j then (p.runtimes[j]?).map ProxyServer.stopped else p.runtimes[j]? := by
          rw [List.getElem?_set]
          by_cases e : i = j
          · subst e; rw [hr]; simp [lt]
          · simp [e]
        have points' : ∀ e' ∈ es, ∀ j, e'.connectionsData = some j → ∃ r',
            (stopDynamicServerRuntime i e.deviceId p).runtimes[j]? = some r' ∧
              r'.deviceId = e'.deviceId := by
          intro e' he' j hj
          obtain ⟨r', hr', device'⟩ := rest e' he' j hj
          rw [stopped]
          simp only [after, hr', Option.map_some]
          split
          · exact ⟨_, rfl, device'⟩
          · exact ⟨_, rfl, device'⟩
        have sockets' : SocketInvariant (stopDynamicServerRuntime i e.deviceId p).runtimes
            (stopDynamicServerRuntime i e.deviceId p).kernel := by
          rw [stopped]
          exact sockets.stop hr
        obtain ⟨entries, spec⟩ := ih _ points' sockets'
        simp only [stopEntries, hd, hh, if_true]
        refine ⟨by simp [entries, clearEntry, hd, hh], ?_, ?_, ?_, ?_, spec.sockets⟩
        · rw [spec.servers, stopped]
        · rw [spec.outcome, stopped]
        · rintro j ⟨e', he', hj, hit'⟩
          by_cases held : Held hit es j
          · rw [spec.held j held, stopped]
            simp only [after]
            split
            · rw [Option.map_map]; rfl
            · rfl
          · rw [spec.others j held, stopped]
            rcases List.mem_cons.1 he' with rfl | he'
            · rw [hd] at hj
              cases hj
              simp [after]
            · exact absurd ⟨e', he', hj, hit'⟩ held
        · intro j free
          have ne : i ≠ j := by
            rintro rfl
            exact free ⟨e, by simp, hd, hh⟩
          rw [spec.others j fun ⟨e', he', rest⟩ => free ⟨e', by simp [he'], rest⟩, stopped]
          simp [after, ne]
      · obtain ⟨entries, spec⟩ := ih p rest sockets
        have same (j : ℕ) : Held hit (e :: es) j ↔ Held hit es j := by simp [Held, hh]
        simp only [stopEntries, hd, hh, if_false, Bool.false_eq_true]
        refine ⟨by simp [entries, clearEntry, hh], spec.servers, spec.outcome, ?_, ?_,
          spec.sockets⟩
        · exact fun j held => spec.held j ((same j).1 held)
        · exact fun j free => spec.others j fun held => free ((same j).2 held)

theorem StopSpec.evolves {q : Proxy} (h : StopSpec hit es p q) :
    Evolves p.runtimes q.runtimes := by
  intro j r hr
  by_cases held : Held hit es j
  · refine ⟨r.stopped, by rw [h.held j held, hr]; rfl, rfl, rfl, rfl, ?_⟩
    intro live
    rw [told_stopped] at live
    exact Bool.noConfusion live
  · exact ⟨r, by rw [h.others j held, hr], rfl, rfl, rfl, fun live => live⟩

theorem stopWhere_spec (h : ProxyInvariant p) (hit : DynamicServerRuntime → Bool) :
    (stopWhere hit p).registry = p.registry.map (clearEntry hit) ∧
      StopSpec hit p.registry p (stopWhere hit p) := by
  have points : ∀ e ∈ p.registry, ∀ i, e.connectionsData = some i →
      ∃ r, p.runtimes[i]? = some r ∧ r.deviceId = e.deviceId := by
    intro e he i hi
    obtain ⟨r, hr, device, _⟩ := h.registry.points e he i hi
    exact ⟨r, hr, device⟩
  obtain ⟨entries, spec⟩ := @stopEntries_spec hit p.registry p points h.sockets
  exact ⟨entries, spec.servers, spec.outcome, spec.held, spec.others, spec.sockets⟩

theorem ProxyInvariant.stopWhere (h : ProxyInvariant p) (hit : DynamicServerRuntime → Bool) :
    ProxyInvariant (stopWhere hit p) := by
  obtain ⟨entries, spec⟩ := stopWhere_spec h hit
  refine ⟨by rw [spec.servers]; exact h.enabled, ?_, spec.sockets⟩
  rw [spec.servers, entries]
  refine (h.registry.cleared ?_).evolve spec.evolves
  intro e he
  obtain ⟨e', he', rfl⟩ := List.mem_map.1 he
  unfold clearEntry
  split
  · exact .inr ⟨rfl, rfl⟩
  · exact .inl he'

end Stop

section Acceptors

variable {isTunnel : Bool}

def exited (isTunnel : Bool) (r : ProxyServer) : ProxyServer :=
  if isTunnel then { r with isOutputRunning := false } else { r with isInputRunning := false }

theorem acceptorExit_eq (hr : p.runtimes[i]? = some r) :
    acceptorExit i isTunnel p = { p with
      runtimes := p.runtimes.set i (exited isTunnel r)
      kernel := p.kernel.close (if isTunnel then r.output else r.input) } := by
  cases isTunnel <;> simp [acceptorExit, hr, exited]

theorem exited_fields (isTunnel : Bool) (r : ProxyServer) :
    (exited isTunnel r).deviceId = r.deviceId ∧ (exited isTunnel r).inputPort = r.inputPort ∧
      (exited isTunnel r).outputPort = r.outputPort ∧ (exited isTunnel r).input = r.input ∧
      (exited isTunnel r).output = r.output ∧ told (exited isTunnel r) = told r := by
  cases isTunnel <;> exact ⟨rfl, rfl, rfl, rfl, rfl, rfl⟩

theorem SocketInvariant.exit (h : SocketInvariant runtimes k) (hr : runtimes[i]? = some r)
    (fd : Option ℕ) : SocketInvariant (runtimes.set i (exited isTunnel r)) (k.close fd) := by
  obtain ⟨_, inputPort, outputPort, input, output, _⟩ := exited_fields isTunnel r
  have exit : SocketInvariant (runtimes.set i (exited isTunnel r)) k :=
    h.set hr inputPort outputPort (.inl input) (.inl output)
  exact exit.shrink (shrinks_close k fd)

theorem ProxyInvariant.acceptorExit (h : ProxyInvariant p) (i : ℕ) (isTunnel : Bool) :
    ProxyInvariant (acceptorExit i isTunnel p) := by
  cases hr : p.runtimes[i]? with
  | none =>
    have same : ProxyRuntimes.acceptorExit i isTunnel p = p := by
      simp [ProxyRuntimes.acceptorExit, hr]
    rw [same]
    exact h
  | some r =>
    obtain ⟨device, inputPort, outputPort, _, _, up⟩ := exited_fields isTunnel r
    rw [acceptorExit_eq hr]
    refine ⟨h.enabled, ?_, h.sockets.exit hr _⟩
    exact h.registry.evolve (evolves_set hr device inputPort outputPort fun live => up ▸ live)

end Acceptors

section Start

variable {ip tp : ℕ} {deviceId : String} {ss : List ProxyServer} {q : Proxy} {o : Option ℕ}

def opened (k : Kernel) (port : ℕ) : Kernel := ⟨(k.nextFd, port) :: k.listening, k.nextFd + 1⟩

theorem initSocket_cases (k : Kernel) (socket listens : Bool) (port : ℕ) :
    (∃ fd k', k.initSocket socket listens port = (fd, false, k') ∧ Shrinks k k') ∨
      (k.initSocket socket listens port = (some k.nextFd, true, opened k port) ∧
        ∀ l ∈ k.listening, l.2 ≠ port) := by
  unfold Kernel.initSocket
  split
  · exact .inl ⟨_, _, rfl, Shrinks.refl k⟩
  · split
    · rename_i free
      refine .inr ⟨rfl, ?_⟩
      intro l hl e
      simp only [Kernel.portInUse, Bool.and_eq_true, Bool.not_eq_true', List.any_eq_false,
        beq_iff_eq] at free
      exact free.2 l hl e
    · exact .inl ⟨_, _, rfl, fun _ h => h, Nat.le_succ _⟩

theorem KernelInvariant.opened (h : KernelInvariant k) {port : ℕ}
    (free : ∀ l ∈ k.listening, l.2 ≠ port) : KernelInvariant (opened k port) := by
  constructor
  · intro a ha b hb e
    rcases List.mem_cons.1 ha with rfl | ha <;> rcases List.mem_cons.1 hb with rfl | hb
    · rfl
    · exact absurd e.symm (free b hb)
    · exact absurd e (free a ha)
    · exact h.onePort a ha b hb e
  · intro a ha
    rcases List.mem_cons.1 ha with rfl | ha
    · exact Nat.lt_succ_self _
    · exact Nat.lt_succ_of_lt (h.old a ha)

theorem SideInvariant.opened (h : SideInvariant fd port runtimes k) (q : ℕ) :
    SideInvariant fd port runtimes (opened k q) := by
  refine ⟨fun r hr f e => Nat.lt_succ_of_lt (h.old r hr f e), ?_, h.distinct⟩
  intro r hr f q' e l
  rcases List.mem_cons.1 l with new | l
  · have lt := h.old r hr f e
    have same : f = k.nextFd := congrArg Prod.fst new
    omega
  · exact h.bound r hr f q' e l

theorem SocketInvariant.opened (h : SocketInvariant runtimes k) {port : ℕ}
    (free : ∀ l ∈ k.listening, l.2 ≠ port) : SocketInvariant runtimes (opened k port) :=
  ⟨h.kernel.opened free, h.inputs.opened port, h.outputs.opened port⟩

/-- A runtime is added on the two sockets that were just opened. -/
theorem SocketInvariant.append (h : SocketInvariant runtimes k)
    (freeInput : ∀ l ∈ k.listening, l.2 ≠ ip)
    (freeTunnel : ∀ l ∈ (RuntimeInvariant.opened k ip).listening, l.2 ≠ tp)
    (input : r.input = some k.nextFd) (output : r.output = some (k.nextFd + 1))
    (inputPort : r.inputPort = ip) (outputPort : r.outputPort = tp) :
    SocketInvariant (runtimes ++ [r])
      (RuntimeInvariant.opened (RuntimeInvariant.opened k ip) tp) := by
  have only : ∀ l ∈ (RuntimeInvariant.opened (RuntimeInvariant.opened k ip) tp).listening,
      l ∈ k.listening ∨ k.nextFd ≤ l.1 := by
    intro l hl
    rcases List.mem_cons.1 hl with rfl | hl
    · exact .inr (Nat.le_succ _)
    · rcases List.mem_cons.1 hl with rfl | hl
      · exact .inr (Nat.le_refl _)
      · exact .inl hl
  refine ⟨(h.kernel.opened freeInput).opened freeTunnel, ?_, ?_⟩
  · refine h.inputs.append input (Nat.le_refl _) (Nat.lt_succ_of_lt (Nat.lt_succ_self _)) only ?_
    intro q l
    rcases List.mem_cons.1 l with new | l
    · have := congrArg Prod.fst new
      simp [RuntimeInvariant.opened] at this
    · rcases List.mem_cons.1 l with new | l
      · exact (congrArg Prod.snd new).trans inputPort.symm
      · exact absurd (h.kernel.old _ l) (Nat.lt_irrefl _)
  · refine h.outputs.append output (Nat.le_succ _) (by simp [RuntimeInvariant.opened]) only ?_
    intro q l
    rcases List.mem_cons.1 l with new | l
    · exact (congrArg Prod.snd new).trans outputPort.symm
    · rcases List.mem_cons.1 l with new | l
      · have := congrArg Prod.fst new
        simp at this
      · have := h.kernel.old _ l
        dsimp only at this
        omega

def Accepts (k : Kernel) (ip tp : ℕ) (r : ProxyServer) : Prop :=
  isRuntimeListenerActive k r ip false = true ∧ isRuntimeListenerActive k r tp true = true

/-- `q` differs from `p` in the runtime `i`, which is `r'` now, and in closed sockets. -/
structure Touches (i : ℕ) (r : ProxyServer) (p q : Proxy) (r' : ProxyServer) : Prop where
  servers : q.servers = p.servers
  registry : q.registry = p.registry
  outcome : q.outcome = p.outcome
  runtimes : q.runtimes = p.runtimes.set i r'
  device : r'.deviceId = r.deviceId
  inputPort : r'.inputPort = r.inputPort
  outputPort : r'.outputPort = r.outputPort
  sockets : SocketInvariant q.runtimes q.kernel

theorem Touches.trans {a b c : Proxy} {x y z : ProxyServer} (h : Touches i x a b y)
    (h' : Touches i y b c z) : Touches i x a c z := by
  refine ⟨h'.servers.trans h.servers, h'.registry.trans h.registry, h'.outcome.trans h.outcome,
    ?_, h'.device.trans h.device, h'.inputPort.trans h.inputPort,
    h'.outputPort.trans h.outputPort, h'.sockets⟩
  rw [h'.runtimes, h.runtimes, List.set_set]

theorem Touches.read {q : Proxy} (h : Touches i r p q r') (hr : p.runtimes[i]? = some r) :
    q.runtimes[i]? = some r' := by
  rw [h.runtimes]
  exact List.getElem?_set_self (List.getElem?_eq_some_iff.1 hr).1

theorem touches_exit (hr : p.runtimes[i]? = some r) (sockets : SocketInvariant p.runtimes p.kernel)
    (accepting isTunnel : Bool) :
    ∃ r', Touches i r p (if accepting then p else acceptorExit i isTunnel p) r' := by
  cases accepting with
  | true =>
    have same : p.runtimes.set i r = p.runtimes := by
      obtain ⟨lt, rfl⟩ := List.getElem?_eq_some_iff.1 hr
      exact List.set_getElem_self lt
    exact ⟨r, rfl, rfl, rfl, same.symm, rfl, rfl, rfl, sockets⟩
  | false =>
    obtain ⟨device, inputPort, outputPort, _⟩ := exited_fields isTunnel r
    refine ⟨exited isTunnel r, ?_⟩
    simp only [Bool.false_eq_true, if_false, acceptorExit_eq hr]
    exact ⟨rfl, rfl, rfl, rfl, device, inputPort, outputPort, sockets.exit hr _⟩

/-- The last check leaves a listening runtime, or one that has been told to stop. -/
theorem confirmStarted_spec (hr : p.runtimes[i]? = some r) (device : r.deviceId = deviceId)
    (sockets : SocketInvariant p.runtimes p.kernel) (index : ℕ)
    (e : confirmStarted deviceId ip tp index i p = (q, o)) :
    ∃ r', Touches i r p q r' ∧
      ((o = none ∧ told r' = true) ∨ (o = some index ∧ Accepts q.kernel ip tp r')) := by
  -- what the two acceptors may have done by then
  obtain ⟨x, first⟩ := touches_exit hr sockets p.outcome.inputAccepting false
  unfold confirmStarted at e
  dsimp only at e
  generalize (if p.outcome.inputAccepting = true then p else acceptorExit i false p) = p₁
    at first e
  obtain ⟨y, second⟩ := touches_exit (first.read hr) first.sockets p₁.outcome.outputAccepting true
  generalize (if p₁.outcome.outputAccepting = true then p₁ else acceptorExit i true p₁) = p₂
    at second e
  have both := first.trans second
  have hy := both.read hr
  split at e
  · rename_i up
    simp only [hy, Option.any_some, Bool.and_eq_true] at up
    obtain ⟨rfl, rfl⟩ := Prod.mk.inj e
    exact ⟨y, both, .inr ⟨rfl, up⟩⟩
  · rw [stopDynamicServerRuntime_eq hy (both.device.trans device)] at e
    obtain ⟨rfl, rfl⟩ := Prod.mk.inj e
    refine ⟨y.stopped, both.trans ?_, .inl ⟨rfl, rfl⟩⟩
    exact ⟨rfl, rfl, rfl, rfl, rfl, rfl, rfl, second.sockets.stop hy⟩

theorem newServer_fields (cfg : Config) (outcome : StartOutcome) (deviceId : String) (ip tp : ℕ)
    (enableInputSsl enableTunnelSsl : Bool) :
    (newServer cfg outcome deviceId ip tp enableInputSsl enableTunnelSsl).deviceId = deviceId ∧
      (newServer cfg outcome deviceId ip tp enableInputSsl enableTunnelSsl).inputPort = ip ∧
      (newServer cfg outcome deviceId ip tp enableInputSsl enableTunnelSsl).outputPort = tp ∧
      (newServer cfg outcome deviceId ip tp enableInputSsl enableTunnelSsl).enable = true := by
  unfold newServer applyDynamicServerSslConfig initSslContext
  split_ifs <;> exact ⟨rfl, rfl, rfl, rfl⟩

inductive Started (deviceId : String) (ip tp : ℕ) (ss : List ProxyServer) (p q : Proxy) :
    Option ℕ → Prop
  | refused (server : ProxyServer) (servers : q.servers = ss ++ [server])
      (registry : q.registry = p.registry) (runtimes : Evolves p.runtimes q.runtimes)
      (sockets : SocketInvariant q.runtimes q.kernel) : Started deviceId ip tp ss p q none
  | ran (server r : ProxyServer) (o : Option ℕ) (servers : q.servers = ss ++ [server])
      (named : server.deviceId = deviceId) (enabled : server.enable = true)
      (registry : q.registry =
        (registerDynamicServerRuntime deviceId ip tp ss.length p.runtimes.length p).registry)
      (runtimes : q.runtimes = p.runtimes ++ [r]) (device : r.deviceId = deviceId)
      (inputPort : r.inputPort = ip) (outputPort : r.outputPort = tp)
      (sockets : SocketInvariant q.runtimes q.kernel)
      (up : (o = none ∧ told r = true) ∨ (o = some ss.length ∧ Accepts q.kernel ip tp r)) :
      Started deviceId ip tp ss p q o

theorem registerDynamicServerRuntime_registry_only (deviceId : String) (ip tp index n : ℕ)
    (p : Proxy) :
    registerDynamicServerRuntime deviceId ip tp index n p =
      { p with registry := (registerDynamicServerRuntime deviceId ip tp index n p).registry } := by
  unfold registerDynamicServerRuntime
  split <;> rfl

theorem registerDynamicServerRuntime_congr (index n : ℕ) {p p' : Proxy}
    (h : p.registry = p'.registry) :
    (registerDynamicServerRuntime deviceId ip tp index n p).registry =
      (registerDynamicServerRuntime deviceId ip tp index n p').registry := by
  unfold registerDynamicServerRuntime
  rw [h]
  split
  · exact h
  · rfl

theorem started_of_confirm {p₁ : Proxy} {server : ProxyServer}
    (e : confirmStarted deviceId ip tp ss.length p.runtimes.length
      (registerDynamicServerRuntime deviceId ip tp ss.length p.runtimes.length p₁) = (q, o))
    (servers : p₁.servers = ss ++ [server]) (named : server.deviceId = deviceId)
    (enabled : server.enable = true) (registry : p₁.registry = p.registry)
    (runtimes : p₁.runtimes = p.runtimes ++ [r]) (device : r.deviceId = deviceId)
    (inputPort : r.inputPort = ip) (outputPort : r.outputPort = tp)
    (sockets : SocketInvariant p₁.runtimes p₁.kernel) :
    Started deviceId ip tp ss p q o := by
  have only := registerDynamicServerRuntime_registry_only deviceId ip tp ss.length
    p.runtimes.length p₁
  generalize reg : registerDynamicServerRuntime deviceId ip tp ss.length p.runtimes.length p₁ = p₂
    at e only
  have read : p₂.runtimes[p.runtimes.length]? = some r := by rw [only]; simp [runtimes]
  have sockets₂ : SocketInvariant p₂.runtimes p₂.kernel := by rw [only]; exact sockets
  obtain ⟨r', touches, up⟩ := confirmStarted_spec read device sockets₂ ss.length e
  refine .ran server r' o ?_ named enabled ?_ ?_ (touches.device.trans device)
    (touches.inputPort.trans inputPort) (touches.outputPort.trans outputPort) touches.sockets up
  · rw [touches.servers, only]
    exact servers
  · rw [touches.registry, ← reg]
    exact registerDynamicServerRuntime_congr _ _ registry
  · rw [touches.runtimes, only]
    simp [runtimes]

structure SocketsOpened (p : Proxy) (ip tp : ℕ) : Prop where
  input : p.kernel.initSocket p.outcome.inputSocket p.outcome.inputListens ip =
    (some p.kernel.nextFd, true, opened p.kernel ip)
  output : (opened p.kernel ip).initSocket p.outcome.outputSocket p.outcome.outputListens tp =
    (some (opened p.kernel ip).nextFd, true, opened (opened p.kernel ip) tp)
  inputFree : ∀ l ∈ p.kernel.listening, l.2 ≠ ip
  outputFree : ∀ l ∈ (opened p.kernel ip).listening, l.2 ≠ tp

def onSockets (server : ProxyServer) (k : Kernel) : ProxyServer :=
  { server with input := some k.nextFd, output := some (k.nextFd + 1), isInputRunning := true }

inductive Attempt (deviceId : String) (ip tp : ℕ) (server : ProxyServer) (ss : List ProxyServer)
    (p : Proxy) : Proxy → Option ℕ → Prop
  | full (count : serversCount p ≤ ss.length) : Attempt deviceId ip tp server ss p p none
  | noInput (x : ProxyServer) {fd : Option ℕ} {k : Kernel} (few : ss.length < serversCount p)
      (failed : p.kernel.initSocket p.outcome.inputSocket p.outcome.inputListens ip =
        (fd, false, k))
      (shrinks : Shrinks p.kernel k) :
      Attempt deviceId ip tp server ss p { p with servers := ss ++ [x], kernel := k } none
  | noOutput (x : ProxyServer) {fd : Option ℕ} {k : Kernel} (few : ss.length < serversCount p)
      (input : p.kernel.initSocket p.outcome.inputSocket p.outcome.inputListens ip =
        (some p.kernel.nextFd, true, opened p.kernel ip))
      (free : ∀ l ∈ p.kernel.listening, l.2 ≠ ip)
      (failed : (opened p.kernel ip).initSocket p.outcome.outputSocket p.outcome.outputListens tp =
        (fd, false, k)) (shrinks : Shrinks (opened p.kernel ip) k) :
      Attempt deviceId ip tp server ss p
        { p with servers := ss ++ [x], kernel := k.close (some p.kernel.nextFd) } none
  | noThread (x : ProxyServer) {k : Kernel} (few : ss.length < serversCount p)
      (sockets : SocketsOpened p ip tp)
      (refused : p.outcome.allocated = false ∨ p.outcome.inputStarted = false)
      (shrinks : Shrinks (opened (opened p.kernel ip) tp) k)
      (next : k.nextFd = p.kernel.nextFd + 2) :
      Attempt deviceId ip tp server ss p { p with servers := ss ++ [x], kernel := k } none
  | orphan (x : ProxyServer) (few : ss.length < serversCount p) (sockets : SocketsOpened p ip tp)
      (allocated : p.outcome.allocated = true) (inputStarted : p.outcome.inputStarted = true)
      (refused : p.outcome.outputStarted = false) :
      Attempt deviceId ip tp server ss p
        { p with
          servers := ss ++ [x]
          runtimes := p.runtimes ++ [onSockets server p.kernel]
          kernel := (((opened (opened p.kernel ip) tp).close (some (p.kernel.nextFd + 1))).close
            (some p.kernel.nextFd)).close (some (p.kernel.nextFd + 1)) } none
  | up {q : Proxy} {o : Option ℕ} (few : ss.length < serversCount p)
      (sockets : SocketsOpened p ip tp)
      (allocated : p.outcome.allocated = true) (inputStarted : p.outcome.inputStarted = true)
      (outputStarted : p.outcome.outputStarted = true)
      (confirmed : confirmStarted deviceId ip tp ss.length p.runtimes.length
        (registerDynamicServerRuntime deviceId ip tp ss.length p.runtimes.length
          { p with
            servers := ss ++ [{ onSockets server p.kernel with isOutputRunning := true }]
            runtimes := p.runtimes ++ [{ onSockets server p.kernel with isOutputRunning := true }]
            kernel := opened (opened p.kernel ip) tp }) = (q, o)) :
      Attempt deviceId ip tp server ss p q o

theorem attempt_of_start {cfg : Config} {enableInputSsl enableTunnelSsl : Bool}
    (e : startDynamicServerAtIndex cfg ss.length deviceId ip tp enableInputSsl enableTunnelSsl p =
      (q, o)) (servers : p.servers = ss ++ [ProxyServer.zero]) :
    Attempt deviceId ip tp
      (newServer cfg p.outcome deviceId ip tp enableInputSsl enableTunnelSsl) ss p q o := by
  have slot : p.servers[ss.length]? = some ProxyServer.zero := by simp [servers]
  have clean : cleanupDynamicServerSlot ss.length p = p := by
    simp [cleanupDynamicServerSlot, slot, ProxyServer.zero]
  have setSlot (server : ProxyServer) : p.servers.set ss.length server = ss ++ [server] := by
    simp [servers]
  unfold startDynamicServerAtIndex at e
  rw [clean] at e
  dsimp only [setServer] at e
  simp only [setSlot] at e
  generalize newServer cfg p.outcome deviceId ip tp enableInputSsl enableTunnelSsl = server at e ⊢
  split at e
  · obtain ⟨rfl, rfl⟩ := Prod.mk.inj e
    exact .full ‹_›
  · have few : ss.length < serversCount p := by omega
    rcases initSocket_cases p.kernel p.outcome.inputSocket p.outcome.inputListens ip with
      ⟨fd, k₁, failed, shrinks⟩ | ⟨opened₁, free₁⟩
    · simp only [failed, Bool.not_false, if_true] at e
      obtain ⟨rfl, rfl⟩ := Prod.mk.inj e
      exact .noInput _ few failed shrinks
    · simp only [opened₁, Bool.not_true, Bool.false_eq_true, if_false] at e
      rcases initSocket_cases (RuntimeInvariant.opened p.kernel ip) p.outcome.outputSocket
        p.outcome.outputListens tp with ⟨fd, k₂, failed, shrinks⟩ | ⟨opened₂, free₂⟩
      · simp only [failed, Bool.not_false, if_true] at e
        obtain ⟨rfl, rfl⟩ := Prod.mk.inj e
        exact .noOutput _ few opened₁ free₁ failed shrinks
      · simp only [opened₂, Bool.not_true, Bool.false_eq_true, if_false] at e
        have sockets : SocketsOpened p ip tp := ⟨opened₁, opened₂, free₁, free₂⟩
        unfold startServerListeningThreads at e
        dsimp only at e
        cases allocated : p.outcome.allocated with
        | false =>
          simp only [allocated, Bool.not_false, if_true] at e
          obtain ⟨rfl, rfl⟩ := Prod.mk.inj e
          rw [setSlot]
          refine .noThread _ few sockets (.inl allocated) ?_ rfl
          exact (shrinks_close _ _).trans (shrinks_close _ _)
        | true =>
          cases inputStarted : p.outcome.inputStarted with
          | false =>
            simp only [allocated, inputStarted, Bool.not_true, Bool.not_false, Bool.false_eq_true,
              if_false, if_true] at e
            obtain ⟨rfl, rfl⟩ := Prod.mk.inj e
            rw [setSlot]
            refine .noThread _ few sockets (.inr inputStarted) ?_ rfl
            exact ((shrinks_close _ _).trans (shrinks_close _ _)).trans (shrinks_close _ _)
          | true =>
            cases outputStarted : p.outcome.outputStarted with
            | false =>
              simp only [allocated, inputStarted, outputStarted, Bool.not_true, Bool.not_false,
                Bool.false_eq_true, if_false, if_true] at e
              obtain ⟨rfl, rfl⟩ := Prod.mk.inj e
              rw [setSlot]
              exact .orphan _ few sockets allocated inputStarted outputStarted
            | true =>
              simp only [allocated, inputStarted, outputStarted, Bool.not_true, Bool.false_eq_true,
                if_false, setSlot] at e
              exact .up few sockets allocated inputStarted outputStarted e

theorem startDynamicServerAtIndex_fresh {cfg : Config} {enableInputSsl enableTunnelSsl : Bool}
    (e : startDynamicServerAtIndex cfg ss.length deviceId ip tp enableInputSsl enableTunnelSsl p =
      (q, o)) (servers : p.servers = ss ++ [ProxyServer.zero])
    (sockets : SocketInvariant p.runtimes p.kernel) : Started deviceId ip tp ss p q o := by
  obtain ⟨device, inputPort, outputPort, enabled⟩ := newServer_fields cfg p.outcome deviceId ip tp
    enableInputSsl enableTunnelSsl
  have attempt := attempt_of_start e servers
  generalize newServer cfg p.outcome deviceId ip tp enableInputSsl enableTunnelSsl = server
    at attempt device inputPort outputPort enabled
  -- a runtime on the two new sockets, whatever its acceptors do
  have added {r : ProxyServer} (both : SocketsOpened p ip tp)
      (input : r.input = some p.kernel.nextFd) (output : r.output = some (p.kernel.nextFd + 1))
      (ports : r.inputPort = ip) (ports' : r.outputPort = tp) :
      SocketInvariant (p.runtimes ++ [r]) (opened (opened p.kernel ip) tp) :=
    sockets.append both.inputFree both.outputFree input output ports ports'
  cases attempt with
  | full => exact .refused _ servers rfl (Evolves.refl _) sockets
  | noInput x _ _ shrinks => exact .refused x rfl rfl (Evolves.refl _) (sockets.shrink shrinks)
  | noOutput x _ _ free _ shrinks =>
    exact .refused x rfl rfl (Evolves.refl _)
      ((sockets.opened free).shrink (shrinks.trans (shrinks_close _ _)))
  | noThread x _ both _ shrinks =>
    exact .refused x rfl rfl (Evolves.refl _)
      (((sockets.opened both.inputFree).opened both.outputFree).shrink shrinks)
  | orphan x _ both =>
    have orphaned := added (r := onSockets server p.kernel) both rfl rfl inputPort outputPort
    refine .refused x rfl rfl (evolves_append _ _) (orphaned.shrink ?_)
    exact ((shrinks_close _ _).trans (shrinks_close _ _)).trans (shrinks_close _ _)
  | up _ both _ _ _ confirmed =>
    exact started_of_confirm confirmed rfl device enabled rfl rfl device inputPort outputPort
      (added both rfl rfl inputPort outputPort)

/-- The registry after a start: the new entry points to the new runtime, entries of other
devices at the same slot are cleared. -/
theorem RegistryInvariant.register (h : RegistryInvariant servers p.registry runtimes) {n : ℕ}
    (hr : runtimes[n]? = some r) (device : r.deviceId = deviceId) (inputPort : r.inputPort = ip)
    (outputPort : r.outputPort = tp) (index : ℕ)
    (slot : told r = false → ∃ s, servers[index]? = some s ∧ s.deviceId = deviceId) :
    RegistryInvariant servers (registerDynamicServerRuntime deviceId ip tp index n p).registry
      runtimes := by
  unfold registerDynamicServerRuntime
  split
  · exact h
  · have cleared : RegistryInvariant servers (p.registry.map fun e =>
        if e.active && e.serverIndex == index && e.deviceId != deviceId then
          { e with active := false, connectionsData := none }
        else e) runtimes := by
      refine h.cleared ?_
      intro e he
      obtain ⟨e', he', rfl⟩ := List.mem_map.1 he
      split
      · exact .inr ⟨rfl, rfl⟩
      · exact .inl he'
    constructor
    · intro e he
      rcases List.mem_or_eq_of_mem_set he with old | rfl
      · exact cleared.active e old
      · rfl
    · intro e he i hi
      rcases List.mem_or_eq_of_mem_set he with old | rfl
      · exact cleared.points e old i hi
      · obtain rfl := Option.some.inj hi
        exact ⟨r, hr, device, inputPort, outputPort, slot⟩

variable {cfg : Config} {info : DeviceInfo}

theorem createDynamicServerForDevice_spec (h : ProxyInvariant p)
    (e : createDynamicServerForDevice cfg deviceId ip tp info p = (q, o)) :
    ProxyInvariant q ∧ (o.isSome = true → ∃ (i : ℕ) (r : ProxyServer), q.runtimes[i]? = some r ∧
      r.deviceId = deviceId ∧ Accepts q.kernel ip tp r) := by
  unfold createDynamicServerForDevice at e
  split at e
  · obtain ⟨rfl, rfl⟩ := Prod.mk.inj e
    exact ⟨h, fun some => by simp at some⟩
  · dsimp only at e
    generalize hs : startDynamicServerAtIndex cfg p.servers.length deviceId ip tp
      (wantsSsl cfg info.enableInputSsl) (wantsSsl cfg info.enableTunnelSsl)
      { p with servers := p.servers ++ [ProxyServer.zero] } = result at e
    obtain ⟨q', started⟩ := result
    have start := startDynamicServerAtIndex_fresh hs rfl h.sockets
    have appended : (registerDynamicServerRuntime deviceId ip tp p.servers.length p.runtimes.length
        { p with servers := p.servers ++ [ProxyServer.zero] }).registry =
        (registerDynamicServerRuntime deviceId ip tp p.servers.length p.runtimes.length p).registry :=
      registerDynamicServerRuntime_congr _ _ rfl
    cases start with
    | refused server servers registry runtimes sockets =>
      obtain ⟨rfl, rfl⟩ := Prod.mk.inj e
      refine ⟨⟨?_, ?_, sockets⟩, fun some => by simp at some⟩
      · simpa [servers] using h.enabled
      · simp only [servers, List.dropLast_concat, registry]
        exact h.registry.evolve runtimes
    | ran server r _ servers named enabled registry runtimes device inputPort outputPort sockets up =>
      have read : q'.runtimes[p.runtimes.length]? = some r := by simp [runtimes]
      have evolved : RegistryInvariant p.servers p.registry q'.runtimes := by
        rw [runtimes]
        exact h.registry.evolve (evolves_append _ _)
      rcases up with ⟨rfl, stopped⟩ | ⟨rfl, accepts⟩
      · obtain ⟨rfl, rfl⟩ := Prod.mk.inj e
        refine ⟨⟨?_, ?_, sockets⟩, fun some => by simp at some⟩
        · simpa [servers] using h.enabled
        · simp only [servers, List.dropLast_concat, registry, appended]
          refine evolved.register read device inputPort outputPort _ fun live => ?_
          rw [stopped] at live
          exact Bool.noConfusion live
      · obtain ⟨rfl, rfl⟩ := Prod.mk.inj e
        refine ⟨⟨?_, ?_, sockets⟩, fun _ => ⟨_, r, read, device, accepts⟩⟩
        · rw [servers]
          intro s hs dynamic
          rcases List.mem_append.1 hs with old | new
          · exact h.enabled s old dynamic
          · rw [List.mem_singleton.1 new]
            exact enabled
        · simp only [servers, registry, appended]
          refine (evolved.servers_append [server]).register read device inputPort outputPort _ ?_
          exact fun _ => ⟨server, by simp, named⟩

/-- No slot of a dynamic server is ever left disabled, so none is restarted. -/
theorem findStoppedDynamicServer_none (h : ProxyInvariant p) (deviceId : String) (ip tp : ℕ) :
    findStoppedDynamicServer deviceId ip tp p = none := by
  have none (rest : ProxyServer → Bool) :
      p.servers.findIdx? (fun s => s.isDynamicPort && !s.enable && rest s) = none := by
    rw [List.findIdx?_eq_none_iff]
    intro s hs
    by_cases dynamic : s.isDynamicPort = true
    · simp [h.enabled s hs dynamic]
    · simp [dynamic]
  have ports := none fun s => s.inputPort == ip && s.outputPort == tp
  simp only [← Bool.and_assoc] at ports
  simp [findStoppedDynamicServer, none fun s => s.deviceId == deviceId, ports]

theorem ensureDynamicServerForDevice_spec (h : ProxyInvariant p)
    (e : ensureDynamicServerForDevice cfg deviceId ip tp info p = (q, o)) :
    ProxyInvariant q ∧ (o.isSome = true →
      (∃ entry, findHealthyDynamicServer ip tp (wantsSsl cfg info.enableInputSsl)
          (wantsSsl cfg info.enableTunnelSsl) p = some entry ∧ q = p) ∨
      (findHealthyDynamicServer ip tp (wantsSsl cfg info.enableInputSsl)
          (wantsSsl cfg info.enableTunnelSsl) p = none ∧
        ∃ (i : ℕ) (r : ProxyServer), q.runtimes[i]? = some r ∧ r.deviceId = deviceId ∧
          Accepts q.kernel ip tp r)) := by
  unfold ensureDynamicServerForDevice at e
  split at e
  · obtain ⟨rfl, rfl⟩ := Prod.mk.inj e
    exact ⟨h, fun some => by simp at some⟩
  · dsimp only at e
    split at e
    · rename_i entry healthy
      obtain ⟨rfl, rfl⟩ := Prod.mk.inj e
      exact ⟨h, fun _ => .inl ⟨entry, healthy, rfl⟩⟩
    · rename_i unhealthy
      have stopped : ProxyInvariant (stopDynamicRuntimesForDevice deviceId ip tp p) :=
        h.stopWhere _
      rw [findStoppedDynamicServer_none stopped] at e
      obtain ⟨inv, up⟩ := createDynamicServerForDevice_spec stopped e
      exact ⟨inv, fun some => .inr ⟨unhealthy, up some⟩⟩

end Start

/-- The process before any dynamic server: only static servers, which share no port. -/
structure Fresh (p : Proxy) : Prop where
  staticServers : ∀ server ∈ p.servers, server.isDynamicPort = false ∧ server.deviceId = ""
  emptyRegistry : p.registry = List.replicate maxDynamicServerRuntimes emptyEntry
  noRuntimes : p.runtimes = []
  onePort : (p.kernel.listening.map (·.2)).Nodup
  oldFds : ∀ l ∈ p.kernel.listening, l.1 < p.kernel.nextFd

theorem Fresh.empty (h : Fresh p) : ∀ e ∈ p.registry, e = emptyEntry := by
  rw [h.emptyRegistry]
  exact fun e he => List.eq_of_mem_replicate he

theorem Fresh.invariant (h : Fresh p) : ProxyInvariant p := by
  refine ⟨?_, ⟨?_, ?_⟩, ⟨⟨?_, h.oldFds⟩, ?_, ?_⟩⟩
  · intro server hs dynamic
    rw [(h.staticServers server hs).1] at dynamic
    exact Bool.noConfusion dynamic
  · intro e he
    rw [h.empty e he]
    rfl
  · intro e he i hi
    rw [h.empty e he] at hi
    exact absurd hi (by simp [emptyEntry])
  · intro a ha b hb ports
    exact List.inj_on_of_nodup_map h.onePort ha hb ports
  · constructor <;> simp [h.noRuntimes]
  · constructor <;> simp [h.noRuntimes]

end RuntimeInvariant
