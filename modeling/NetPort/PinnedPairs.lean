import NetPort.AllocationRows

/-! A device that prefers a port is to hold the pair: both rows reserved for it, or both
allocated to an active session of it. What the SQL functions do to the pairs so pinned. -/
namespace PinnedPairs

open SqlUpdate DeviceTables PortOwnership AllocationRows

def Pinned (db : Db) (id : Uuid) (p : ℕ) : Prop :=
  ∃ d ∈ db.devices, d.id = id ∧ d.preferredPort = some p

def ReservedFor (id : Uuid) (row : PortAllocation) : Prop :=
  row.status = .reserved ∧ row.deviceId = some id

instance (id : Uuid) (row : PortAllocation) : Decidable (ReservedFor id row) :=
  inferInstanceAs (Decidable (_ ∧ _))

def Reserved (db : Db) (id : Uuid) (p : ℕ) : Prop :=
  ReservedFor id (db.ports p) ∧ ReservedFor id (db.ports (p + 1))

instance (db : Db) (id : Uuid) (p : ℕ) : Decidable (Reserved db id p) :=
  inferInstanceAs (Decidable (_ ∧ _))

def AllocatedTo (db : Db) (id : Uuid) (p : ℕ) (u : Session) : Prop :=
  u.status = .active ∧ u.deviceId = id ∧ (db.ports p).OwnedBy id u.id ∧
    (db.ports (p + 1)).OwnedBy id u.id

instance (db : Db) (id : Uuid) (p : ℕ) (u : Session) : Decidable (AllocatedTo db id p u) :=
  inferInstanceAs (Decidable (_ ∧ _ ∧ _ ∧ _))

def Held (db : Db) (id : Uuid) (p : ℕ) : Prop :=
  Reserved db id p ∨ ∃ u ∈ db.sessions, AllocatedTo db id p u

instance (db : Db) (id : Uuid) (p : ℕ) : Decidable (Held db id p) :=
  inferInstanceAs (Decidable (_ ∨ _))

/-- What the constraints of `devices` say of its preferred ports. -/
structure Constraints (db : Db) : Prop where
  ids : (db.devices.map (·.id)).Nodup
  unique : ∀ i j p, Pinned db i p → Pinned db j p → i = j
  range : ∀ i p, Pinned db i p → 6000 ≤ p ∧ p ≤ 6998 ∧ p % 2 = 0

structure Invariant (db : Db) : Prop where
  constraints : Constraints db
  rows : RowInvariant db
  outside : ∀ q, inPool q = false → (db.ports q).status ≠ .allocated
  held : ∀ id p, Pinned db id p → Held db id p

variable {db db' : Db} {id other : Uuid} {p port q : ℕ} {row : PortAllocation}

/-- A row that freeing the pair and reserving it again gives to the device. -/
def Freeable (id : Uuid) (row : PortAllocation) : Prop :=
  row.status = .allocated ∨ row.status = .free ∨ ReservedFor id row

def SameRows (db db' : Db) (p : ℕ) : Prop :=
  db'.ports p = db.ports p ∧ db'.ports (p + 1) = db.ports (p + 1)

theorem SameRows.trans {c : Db} (h : SameRows db db' p) (h' : SameRows db' c p) :
    SameRows db c p :=
  ⟨h'.1.trans h.1, h'.2.trans h.2⟩

theorem unowned_of_free (free : row.status = .free) : row.deviceId = none := by
  have valid := row.valid
  rw [free] at valid
  simpa [validAllocation] using (Bool.and_eq_true_iff.1 valid).1

theorem reservable_of_free (free : row.status = .free) : row.reservable id = true := by
  simp [PortAllocation.reservable, free, unowned_of_free free]

theorem Held.freeable (h : Held db id p) :
    Freeable id (db.ports p) ∧ Freeable id (db.ports (p + 1)) := by
  rcases h with ⟨first, second⟩ | ⟨u, _, _, _, first, second⟩
  · exact ⟨.inr (.inr first), .inr (.inr second)⟩
  · exact ⟨.inl first.1, .inl second.1⟩

theorem Held.not_free (h : Held db id p) : (db.ports p).status ≠ .free := by
  rcases h with ⟨⟨reserved, _⟩, _⟩ | ⟨u, _, _, _, first, _⟩
  · simp [reserved]
  · simp [first.1]

theorem Held.keep (h : Held db id p) (rows : SameRows db db' p)
    (sessions : ∀ u ∈ db.sessions, AllocatedTo db id p u →
      ∃ v ∈ db'.sessions, v.status = .active ∧ v.deviceId = u.deviceId ∧ v.id = u.id) :
    Held db' id p := by
  rcases h with reserved | ⟨u, hu, allocated⟩
  · left
    unfold Reserved
    rw [rows.1, rows.2]
    exact reserved
  · obtain ⟨v, hv, active, device, same⟩ := sessions u hu allocated
    refine .inr ⟨v, hv, active, device.trans allocated.2.1, ?_⟩
    rw [rows.1, rows.2, same]
    exact allocated.2.2

namespace Constraints

theorem one (h : Constraints db) {p' : ℕ} (hp : Pinned db id p) (hp' : Pinned db id p') :
    p = p' := by
  obtain ⟨d, hd, rfl, e⟩ := hp
  obtain ⟨d', hd', same, e'⟩ := hp'
  rw [eq_of_key h.ids hd' hd same, e] at e'
  exact Option.some.inj e'

theorem fewer (h : Constraints db) (ids : (db'.devices.map (·.id)).Nodup)
    (pins : ∀ i p, Pinned db' i p → Pinned db i p) : Constraints db' :=
  ⟨ids, fun i j p hi hj => h.unique i j p (pins i p hi) (pins j p hj),
    fun i p hi => h.range i p (pins i p hi)⟩

/-- The lookup of `free_device_port_pair`. -/
theorem find (h : Constraints db) (hp : Pinned db id p) :
    ∃ d, db.devices.find? (fun d => d.preferredPort == some p) = some d ∧ d.id = id ∧
      d.preferredPort = some p := by
  cases found : db.devices.find? fun d => d.preferredPort == some p with
  | none =>
    obtain ⟨d, hd, _, e⟩ := hp
    exact absurd (List.find?_eq_none.1 found d hd) (by simp [e])
  | some d =>
    have pinned : d.preferredPort = some p := by simpa using List.find?_some found
    refine ⟨d, rfl, ?_, pinned⟩
    exact h.unique d.id id p ⟨d, List.mem_of_find?_eq_some found, rfl, pinned⟩ hp

end Constraints

section Release

variable {inputPort : Option ℕ}

theorem release_other (h : ¬ ReservedFor id (db.ports q)) :
    (releaseDevicePortReservation id inputPort db).ports q = db.ports q := by
  refine updatePorts_other ?_
  rw [Bool.and_eq_false_iff]
  left
  rw [Bool.and_eq_false_iff, beq_eq_false_iff_ne, beq_eq_false_iff_ne]
  by_cases owner : (db.ports q).deviceId = some id
  · exact .inr fun reserved => h ⟨reserved, owner⟩
  · exact .inl owner

theorem release_free (pool : inPool q = true) (h : Freeable id (db.ports q))
    (unallocated : (db.ports q).status ≠ .allocated) :
    ((releaseDevicePortReservation id none db).ports q).status = .free := by
  rcases h with allocated | free | ⟨reserved, owner⟩
  · exact absurd allocated unallocated
  · rw [release_other (fun h => by simp [ReservedFor, free] at h)]
    exact free
  · rw [releaseDevicePortReservation, updatePorts_hit pool (by simp [reserved, owner])]
    rfl

end Release

/-- The pair is reserved when it is nobody's but the device's and nobody else prefers it. -/
theorem reserve_takes (range : 6000 ≤ p ∧ p ≤ 6998 ∧ p % 2 = 0)
    (untaken : ∀ d ∈ db.devices, d.preferredPort = some p → d.id = id)
    (first : Freeable id (db.ports p)) (second : Freeable id (db.ports (p + 1)))
    (unallocated : (db.ports p).status ≠ .allocated ∧ (db.ports (p + 1)).status ≠ .allocated) :
    Reserved (reserveDevicePortPair id (some p) db).1 id p := by
  have pool : inPool p = true ∧ inPool (p + 1) = true := by
    simp only [inPool, Bool.and_eq_true, decide_eq_true_eq]
    omega
  have inRange : (decide (p < 6000) || decide (p > 6998) || p % 2 != 0) = false := by
    simp only [Bool.or_eq_false_iff, decide_eq_false_iff_not, bne_eq_false_iff_eq]
    omega
  have nobody : (db.devices.any fun d => d.preferredPort == some p && d.id != id) = false := by
    rw [List.any_eq_false]
    intro d hd
    simp only [Bool.and_eq_true, beq_iff_eq, bne_iff_ne, not_and, not_not]
    exact untaken d hd
  have free := release_free pool.1 first unallocated.1
  have free' := release_free pool.2 second unallocated.2
  have count : ¬ [p, p + 1].countP (fun q =>
      ((releaseDevicePortReservation id none db).ports q).reservable id) < 2 := by
    simp [reservable_of_free free, reservable_of_free free']
  simp only [reserveDevicePortPair, inRange, nobody, count, if_false, Bool.false_eq_true]
  constructor
  · rw [updatePorts_hit pool.1 (by simp [reservable_of_free free])]
    exact ⟨rfl, rfl⟩
  · rw [updatePorts_hit pool.2 (by simp [reservable_of_free free'])]
    exact ⟨rfl, rfl⟩

/-- Rows of another pair stay when they are not reserved for the device. -/
theorem reserve_other {inputPort : Option ℕ} (h : ¬ ReservedFor id (db.ports q))
    (apart : ∀ p, inputPort = some p → q ≠ p ∧ q ≠ p + 1) :
    (reserveDevicePortPair id inputPort db).1.ports q = db.ports q := by
  have released : (releaseDevicePortReservation id none db).ports q = db.ports q := release_other h
  unfold reserveDevicePortPair
  split
  · exact released
  · rename_i p
    dsimp only
    split_ifs
    · rfl
    · rfl
    · exact released
    · obtain ⟨first, second⟩ := apart p rfl
      exact (updatePorts_other (by simp [first, second])).trans released

theorem freed_free (pool : inPool q = true) (side : q = port ∨ q = port + 1)
    (h : Freeable id (db.ports q)) :
    ((freeDevicePort (port + 1) (freeDevicePort port db)).ports q).status = .free := by
  have here : (q == port || q == port + 1) = true := by simpa using side
  rw [freeDevicePorts_eq]
  rcases h with allocated | free | ⟨reserved, _⟩
  · rw [updatePorts_hit pool (by simp [here, allocated])]
    rfl
  · rw [updatePorts_other (by simp [free])]
    exact free
  · rw [updatePorts_hit pool (by simp [here, reserved])]
    rfl

theorem free_pair_restores (h : Constraints db) (hp : Pinned db id p)
    (first : Freeable id (db.ports p)) (second : Freeable id (db.ports (p + 1))) :
    Reserved (freeDevicePortPair p db) id p := by
  obtain ⟨low, high, even⟩ := h.range id p hp
  have pool : inPool p = true ∧ inPool (p + 1) = true := by
    simp only [inPool, Bool.and_eq_true, decide_eq_true_eq]
    omega
  have free : ((freeDevicePort (p + 1) (freeDevicePort p db)).ports p).status = .free :=
    freed_free pool.1 (.inl rfl) first
  have free' : ((freeDevicePort (p + 1) (freeDevicePort p db)).ports (p + 1)).status = .free :=
    freed_free pool.2 (.inr rfl) second
  obtain ⟨d, found, owner, preferred⟩ := h.find hp
  simp only [freeDevicePortPair, found, owner, preferred]
  refine reserve_takes ⟨low, high, even⟩ ?_ (.inr (.inl free)) (.inr (.inl free')) ?_
  · intro e he same
    exact h.unique e.id id p ⟨e, he, rfl, same⟩ hp
  · simp [free, free']

theorem free_pair_other (h : Constraints db) (hp : Pinned db id p) (apart : port ≠ p)
    (even : port % 2 = 0) (first : Freeable id (db.ports p))
    (second : Freeable id (db.ports (p + 1))) : SameRows db (freeDevicePortPair port db) p := by
  obtain ⟨low, high, evenP⟩ := h.range id p hp
  have row {q : ℕ} (side : q = p ∨ q = p + 1) (freeable : Freeable id (db.ports q)) :
      (freeDevicePortPair port db).ports q = db.ports q := by
    have freed : (freeDevicePort (port + 1) (freeDevicePort port db)).ports q = db.ports q :=
      (freeDevicePort_other (by omega)).trans (freeDevicePort_other (by omega))
    unfold freeDevicePortPair
    dsimp only
    split
    · exact freed
    · rename_i d found
      have preferred : d.preferredPort = some port := by simpa using List.find?_some found
      have pinned : Pinned db d.id port := ⟨d, List.mem_of_find?_eq_some found, rfl, preferred⟩
      have stranger : d.id ≠ id := by
        rintro rfl
        exact apart (h.one pinned hp)
      refine (reserve_other ?_ ?_).trans freed
      · rw [freed]
        rcases freeable with allocated | free | ⟨_, owner⟩
        · simp [ReservedFor, allocated]
        · simp [ReservedFor, free]
        · simp [ReservedFor, owner, stranger.symm]
      · rintro _ e
        cases preferred.symm.trans e
        omega
  exact ⟨row (.inl rfl) first, row (.inr rfl) second⟩

theorem pinned_free_pair : Pinned (freeDevicePortPair port db) id p ↔ Pinned db id p := by
  obtain ⟨rows, only⟩ := freeDevicePortPair_ports_only port db
  rw [only]
  exact Iff.rfl

theorem Constraints.of_devices (h : Constraints db) (devices : db'.devices = db.devices) :
    Constraints db' := by
  apply h.fewer
  · rw [devices]
    exact h.ids
  · intro i p hp
    unfold Pinned at hp ⊢
    rwa [devices] at hp

/-- A list of pairs with the preferred one in it restores it; one without leaves it alone. -/
theorem free_pairs_restores {ports : List ℕ} (even : ∀ port ∈ ports, port % 2 = 0)
    (h : Constraints db) (hp : Pinned db id p) (first : Freeable id (db.ports p))
    (second : Freeable id (db.ports (p + 1))) :
    Reserved (freeDevicePortPairs ports db) id p ∨
      (p ∉ ports ∧ SameRows db (freeDevicePortPairs ports db) p) := by
  induction ports generalizing db with
  | nil => exact .inr ⟨by simp, rfl, rfl⟩
  | cons port ports ih =>
    obtain ⟨evenPort, evenRest⟩ := List.forall_mem_cons.1 even
    obtain ⟨rows, only⟩ := freeDevicePortPair_ports_only port db
    have after : Constraints (freeDevicePortPair port db) := h.of_devices (by rw [only])
    have pinned : Pinned (freeDevicePortPair port db) id p := pinned_free_pair.2 hp
    change Reserved (freeDevicePortPairs ports (freeDevicePortPair port db)) id p ∨ _ ∧
      SameRows db (freeDevicePortPairs ports (freeDevicePortPair port db)) p
    by_cases here : port = p
    · subst here
      obtain ⟨one, two⟩ := free_pair_restores h hp first second
      rcases ih evenRest after pinned (.inr (.inr one)) (.inr (.inr two)) with
        reserved | ⟨_, same⟩
      · exact .inl reserved
      · left
        unfold Reserved
        rw [same.1, same.2]
        exact ⟨one, two⟩
    · have same := free_pair_other h hp here evenPort first second
      rcases ih evenRest after pinned (by rw [same.1]; exact first)
        (by rw [same.2]; exact second) with reserved | ⟨missing, rest⟩
      · exact .inl reserved
      · refine .inr ⟨?_, same.trans rest⟩
        simp [missing, Ne.symm here]

def Refused (id : Uuid) (port : ℕ) (db : Db) : Prop :=
  port < 6000 ∨ port > 6998 ∨ port % 2 ≠ 0 ∨ ∃ d ∈ db.devices, d.preferredPort = some port ∧ d.id ≠ id

instance (id : Uuid) (port : ℕ) (db : Db) : Decidable (Refused id port db) :=
  inferInstanceAs (Decidable (_ ∨ _ ∨ _ ∨ _))

/-- A reservation of another pair is not to release the preferred one. -/
def KeepsReservation (id : Uuid) (port : ℕ) (db : Db) : Prop :=
  Refused id port db ∨
    ∀ d ∈ db.devices, d.id = id → ∀ p ∈ d.preferredPort, p = port ∨ ¬ Reserved db id p

instance (id : Uuid) (port : ℕ) (db : Db) : Decidable (KeepsReservation id port db) :=
  inferInstanceAs (Decidable (_ ∨ _))

def ReleasesUnpinned (id : Uuid) (inputPort : Option ℕ) (db : Db) : Prop :=
  ∀ d ∈ db.devices, d.id = id → ∀ p ∈ d.preferredPort, Reserved db id p →
    ∃ port ∈ inputPort, p ≠ port ∧ p ≠ port + 1 ∧ p + 1 ≠ port

instance (id : Uuid) (inputPort : Option ℕ) (db : Db) :
    Decidable (ReleasesUnpinned id inputPort db) :=
  inferInstanceAs (Decidable (∀ _ ∈ _, _))

/-- No session that leaves service has the pair that its device prefers. -/
def RetiresUnpinned (hit : Session → Bool) (db : Db) : Prop :=
  ∀ d ∈ db.devices, ∀ p ∈ d.preferredPort, ∀ u ∈ db.sessions, hit u = true →
    ¬ AllocatedTo db d.id p u

instance (hit : Session → Bool) (db : Db) : Decidable (RetiresUnpinned hit db) :=
  inferInstanceAs (Decidable (∀ _ ∈ _, _))

namespace Invariant

theorem retires (h : Invariant db) (r : Retires rowKey db db') (constraints : Constraints db')
    (held : ∀ id p, Pinned db' id p → Held db' id p) : Invariant db' :=
  ⟨constraints, h.rows.retires r, fun q out => r.frees.not_allocated (h.outside q out), held⟩

theorem rows_only (h : Invariant db) (sessions : db'.sessions = db.sessions)
    (devices : db'.devices = db.devices) (frees : Frees db db')
    (rows : ∀ id p, Pinned db id p → Held db id p → Reserved db' id p ∨ SameRows db db' p) :
    Invariant db' := by
  refine h.retires (.of_frees sessions frees) (h.constraints.of_devices devices) ?_
  intro id p hp
  unfold Pinned at hp
  rw [devices] at hp
  have held := h.held id p hp
  rcases rows id p hp held with reserved | same
  · exact .inl reserved
  · refine held.keep same ?_
    rw [sessions]
    exact fun u hu allocated => ⟨u, hu, allocated.1, rfl, rfl⟩

theorem free_pairs (h : Invariant db) {ports : List ℕ} (even : ∀ port ∈ ports, port % 2 = 0) :
    Invariant (freeDevicePortPairs ports db) := by
  refine h.rows_only (freeDevicePortPairs_sessions ports) (freeDevicePortPairs_devices ports)
    (frees_freeDevicePortPairs ports db) ?_
  intro id p hp held
  obtain ⟨first, second⟩ := held.freeable
  exact (free_pairs_restores even h.constraints hp first second).imp_right And.right

theorem free_pair (h : Invariant db) (even : port % 2 = 0) :
    Invariant (freeDevicePortPair port db) := by
  have one : ∀ q ∈ [port], q % 2 = 0 := by simpa using even
  exact h.free_pairs one

theorem strange (apart : other ≠ id) (held : Held db id p) :
    ¬ ReservedFor other (db.ports p) ∧ ¬ ReservedFor other (db.ports (p + 1)) := by
  rcases held with ⟨⟨_, owner⟩, ⟨_, owner'⟩⟩ | ⟨u, _, _, _, first, second⟩
  · simp [ReservedFor, owner, owner', apart.symm]
  · simp [ReservedFor, first.1, second.1]

theorem release (h : Invariant db) {inputPort : Option ℕ}
    (careful : ReleasesUnpinned other inputPort db) :
    Invariant (releaseDevicePortReservation other inputPort db) := by
  refine h.rows_only rfl rfl (frees_release other inputPort db) ?_
  intro id p hp held
  right
  by_cases same : other = id
  · subst same
    rcases held with reserved | ⟨u, _, _, _, first, second⟩
    · obtain ⟨d, hd, rfl, preferred⟩ := hp
      obtain ⟨port, rfl, apart⟩ := careful d hd rfl p preferred reserved
      constructor <;> exact updatePorts_other (by simp; omega)
    · exact ⟨releaseDevicePortReservation_allocated first.1,
        releaseDevicePortReservation_allocated second.1⟩
  · obtain ⟨first, second⟩ := strange same held
    exact ⟨release_other first, release_other second⟩

theorem refused (h : Refused id port db) :
    (reserveDevicePortPair id (some port) db).1 = db := by
  by_cases out : (decide (port < 6000) || decide (port > 6998) || port % 2 != 0) = true
  · simp only [reserveDevicePortPair, out, if_true]
  · have taken : (db.devices.any fun d => d.preferredPort == some port && d.id != id) = true := by
      simp only [Bool.or_eq_true, decide_eq_true_eq, bne_iff_ne, not_or] at out
      obtain ⟨⟨low, high⟩, even⟩ := out
      rcases h with below | above | odd | ⟨d, hd, preferred, apart⟩
      · exact absurd below low
      · exact absurd above high
      · exact absurd odd even
      · exact List.any_eq_true.2 ⟨d, hd, by simp [preferred, apart]⟩
    simp only [reserveDevicePortPair, out, taken, if_true, if_false, Bool.false_eq_true]

theorem reserve (h : Invariant db) (careful : KeepsReservation other port db) :
    Invariant (reserveDevicePortPair other (some port) db).1 := by
  by_cases early : Refused other port db
  · rw [refused early]
    exact h
  obtain ⟨ports, only⟩ := reserveDevicePortPair_ports_only other (some port) db
  refine h.rows_only (by rw [only]) (by rw [only]) (frees_reserve other (some port) db) ?_
  intro id p hp held
  have range := h.constraints.range id p hp
  by_cases same : other = id
  · subst same
    rcases held with reserved | ⟨u, _, _, _, first, second⟩
    · obtain ⟨d, hd, owner, preferred⟩ := hp
      rcases careful.resolve_left early d hd owner p preferred with rfl | unreserved
      · refine .inl (reserve_takes range ?_ (.inr (.inr reserved.1)) (.inr (.inr reserved.2)) ?_)
        · intro e he taken
          exact h.constraints.unique e.id other p ⟨e, he, rfl, taken⟩ ⟨d, hd, owner, preferred⟩
        · simp [reserved.1.1, reserved.2.1]
      · exact absurd reserved unreserved
    · exact .inr ⟨reserveDevicePortPair_allocated first.1, reserveDevicePortPair_allocated second.1⟩
  · obtain ⟨first, second⟩ := strange same held
    obtain ⟨d, hd, owner, preferred⟩ := hp
    have apart : p ≠ port := by
      rintro rfl
      exact early (.inr (.inr (.inr ⟨d, hd, preferred, fun e => same (e.symm.trans owner)⟩)))
    have even : port % 2 = 0 := by
      by_contra odd
      exact early (.inr (.inr (.inl odd)))
    right
    constructor
    · refine reserve_other first ?_
      rintro _ ⟨⟩
      omega
    · refine reserve_other second ?_
      rintro _ ⟨⟩
      omega

/-- An update of sessions that keeps their identity and retires none that has a pinned pair. -/
theorem update_sessions (h : Invariant db) {hit : Session → Bool} {set : Session → Session}
    (keys : ∀ u, rowKey (set u) = rowKey u)
    (active : ∀ u, (set u).status = .active → u.status = .active)
    (careful : ∀ id p, Pinned db id p → ∀ u ∈ db.sessions, hit u = true →
      AllocatedTo db id p u → (set u).status = .active) :
    Invariant { db with sessions := updateRows hit set db.sessions } := by
  refine h.retires (.update db keys active) (h.constraints.of_devices rfl) ?_
  intro id p hp
  refine (h.held id p hp).keep ⟨rfl, rfl⟩ ?_
  intro u hu allocated
  by_cases hitU : hit u = true
  · have same := keys u
    simp only [rowKey, Prod.mk.injEq] at same
    exact ⟨set u, mem_updateRows.2 (.inl ⟨u, hu, hitU, rfl⟩), careful id p hp u hu hitU allocated,
      same.2.1, same.1⟩
  · exact ⟨u, mem_updateRows.2 (.inr ⟨hu, by simpa using hitU⟩), allocated.1, rfl, rfl⟩

theorem update_devices (h : Invariant db) {hit : Device → Bool} {set : Device → Device}
    (id : ∀ d, (set d).id = d.id) (preferred : ∀ d, (set d).preferredPort = d.preferredPort) :
    Invariant { db with devices := updateRows hit set db.devices } := by
  have pins : ∀ i p, Pinned { db with devices := updateRows hit set db.devices } i p →
      Pinned db i p := by
    rintro i p ⟨d, hd, rfl, e⟩
    rcases mem_updateRows.1 hd with ⟨d', hd', _, rfl⟩ | ⟨hd, _⟩
    · exact ⟨d', hd', (id d').symm, (preferred d').symm.trans e⟩
    · exact ⟨d, hd, rfl, e⟩
  refine h.retires (.of_eq rfl rfl) (h.constraints.fewer ?_ pins) ?_
  · change ((updateRows hit set db.devices).map (·.id)).Nodup
    rw [map_updateRows id]
    exact h.constraints.ids
  · intro i p hp
    exact h.held i p (pins i p hp)

theorem port_of_allocated (h : Invariant db) (hp : Pinned db id p) {u : Session}
    (hu : u ∈ db.sessions) (allocated : AllocatedTo db id p u) : u.assignedPort = p := by
  obtain ⟨_, rfl, owned, _⟩ := allocated
  have range := h.constraints.range _ p hp
  have even := h.rows.even u hu
  have pair := h.rows.pair_of_owned hu owned
  omega

/-- Sessions leave service and their pairs are freed: what was pinned is reserved again. -/
theorem retire (h : Invariant db) (hit : Session → Bool) (set : Session → Session)
    (keys : ∀ u, rowKey (set u) = rowKey u) (retired : ∀ u, (set u).status ≠ .active) :
    Invariant (freeDevicePortPairs ((db.sessions.filter hit).map (·.assignedPort))
      { db with sessions := updateRows hit set db.sessions }) := by
  have even : ∀ port ∈ (db.sessions.filter hit).map (·.assignedPort), port % 2 = 0 := by
    intro port hport
    obtain ⟨u, hu, rfl⟩ := List.mem_map.1 hport
    exact h.rows.even u (List.mem_filter.1 hu).1
  have updated : Retires rowKey db { db with sessions := updateRows hit set db.sessions } :=
    .update db keys fun u active => absurd active (retired u)
  refine h.retires (updated.trans (.free_pairs _))
    (h.constraints.of_devices (freeDevicePortPairs_devices _)) ?_
  intro id p hp
  have pinned : Pinned db id p := by
    unfold Pinned at hp
    rwa [freeDevicePortPairs_devices] at hp
  have held := h.held id p pinned
  obtain ⟨first, second⟩ := held.freeable
  have constraints : Constraints { db with sessions := updateRows hit set db.sessions } :=
    h.constraints.of_devices rfl
  rcases free_pairs_restores even constraints pinned first second with reserved | ⟨missing, same⟩
  · exact .inl reserved
  · refine held.keep same ?_
    intro u hu allocated
    rw [freeDevicePortPairs_sessions]
    refine ⟨u, mem_updateRows.2 (.inr ⟨hu, ?_⟩), allocated.1, rfl, rfl⟩
    by_contra hitU
    apply missing
    rw [← h.port_of_allocated pinned hu allocated]
    exact List.mem_map_of_mem (List.mem_filter.2 ⟨hu, by simpa using hitU⟩)

theorem cleanup_device (h : Invariant db) (deviceId : String) :
    Invariant (cleanupDeviceSessions deviceId db) := by
  have freed := h.retire (fun u => sessionOf deviceId db u && u.status == .active)
    (fun u => { u with status := .expired, expiresAt := db.now }) (fun _ => rfl) (by simp)
  exact freed.update_devices (fun _ => rfl) fun _ => rfl

theorem cleanup_expired (h : Invariant db) : Invariant (cleanupExpiredSessions db) := by
  let freed := freeDevicePortPairs
    ((db.sessions.filter (·.overdue db.now)).map (·.assignedPort)) db
  let expired := { freed with
    sessions := updateRows (·.overdue freed.now) (fun u => { u with status := .expired })
      freed.sessions }
  let released := updatePorts (fun q row => row.status == .allocated &&
      !expired.sessions.any fun u =>
        u.live expired.now && (q == u.assignedPort || q == u.assignedPort + 1))
    .free expired
  have first : Invariant expired := by
    have retired := h.retire (·.overdue db.now) (fun u => { u with status := .expired })
      (fun _ => rfl) (by simp)
    have same : expired = { freed with
        sessions := updateRows (·.overdue db.now) (fun u => { u with status := .expired })
          db.sessions } := by
      simp only [expired, freed, freeDevicePortPairs_now, freeDevicePortPairs_sessions]
    rw [freeDevicePortPairs_with_sessions] at retired
    rw [same]
    exact retired
  have live : ∀ u ∈ expired.sessions, u.status = .active → u.live expired.now = true := by
    intro u hu active
    rcases mem_updateRows.1 hu with ⟨v, _, _, rfl⟩ | ⟨_, miss⟩
    · exact absurd active (by simp)
    · exact PortInvariant.not_overdue active miss
  have second : Invariant released := by
    refine first.rows_only rfl rfl (frees_updatePorts (by decide)) ?_
    intro id p hp held
    right
    rcases held with ⟨reserved, reserved'⟩ | ⟨u, hu, allocated⟩
    · exact ⟨updatePorts_other (by simp [reserved.1]), updatePorts_other (by simp [reserved'.1])⟩
    · have port := first.port_of_allocated hp hu allocated
      have covers {q : ℕ} (side : q = p ∨ q = p + 1) : (expired.sessions.any fun u =>
          u.live expired.now && (q == u.assignedPort || q == u.assignedPort + 1)) = true := by
        refine List.any_eq_true.2 ⟨u, hu, ?_⟩
        rw [live u hu allocated.1, port]
        simpa using side
      constructor <;> refine updatePorts_other ?_
      · rw [covers (.inl rfl)]
        simp
      · rw [covers (.inr rfl)]
        simp
  exact second.update_devices (fun _ => rfl) fun _ => rfl

theorem findPair_own (h : Invariant db) {dev : Device} (hdev : dev ∈ db.devices)
    (hp : Pinned db id p) (found : findPair dev db = some p) : dev.id = id := by
  have held := h.held id p hp
  have available := List.find?_some found
  simp only [pairAvailable, Bool.and_eq_true] at available
  have joined := available.1.1.1.1.1
  split at joined
  · simp only [Bool.and_eq_true, beq_iff_eq] at joined
    exact absurd joined.1.1.1 held.not_free
  · rename_i preferred pinned
    simp only [Bool.and_eq_true, beq_iff_eq] at joined
    rw [← joined.1.1] at pinned
    exact h.constraints.unique dev.id id p ⟨dev, hdev, rfl, pinned⟩ hp

theorem register (h : Invariant db) {deviceId token : String} {timeout : ℕ} {sid : Uuid}
    {r : Option (ℕ × ℕ)} (e : registerSession deviceId token timeout sid db = some (db', r)) :
    Invariant db' := by
  have rows := h.rows.register e
  rcases PortInvariant.registerSession_spec e with
    ⟨rfl, _⟩ | ⟨dev, port, hdev, _, _, found, _, _, rfl⟩
  · exact h
  · obtain ⟨low, high, even, unallocated, unallocated'⟩ := PortInvariant.findPair_spec found
    refine ⟨h.constraints.of_devices rfl, rows, ?_, ?_⟩
    · intro q out
      simpa [updatePorts, updateKeyed, out] using h.outside q out
    · intro id p hp
      have held := h.held id p hp
      have range := h.constraints.range id p hp
      by_cases here : p = port
      · subst here
        have pool : inPool p = true ∧ inPool (p + 1) = true := by
          simp only [inPool, Bool.and_eq_true, decide_eq_true_eq]
          omega
        have own := h.findPair_own hdev hp found
        refine .inr ⟨_, List.mem_append_right _ (List.mem_singleton_self _), rfl, own, ?_, ?_⟩
        · rw [updatePorts_hit pool.1 (by simp)]
          exact ⟨rfl, congrArg some own, rfl⟩
        · rw [updatePorts_hit pool.2 (by simp)]
          exact ⟨rfl, congrArg some own, rfl⟩
      · refine held.keep ⟨updatePorts_other (by simp; omega), updatePorts_other (by simp; omega)⟩ ?_
        intro u hu allocated
        exact ⟨u, List.mem_append_left _ hu, allocated.1, rfl, rfl⟩

end Invariant

end PinnedPairs
