import NetPort.DeviceIsolation
import NetPort.FixedPorts

/-! Which requests of a user tell databases apart that differ in the devices of others. The pair
of a fixed port goes back to its device after a disconnect whatever ports the others prefer. -/
namespace RequestIsolation

open PairedRuns SqlUpdate DeviceTables BackendDisconnect DeviceRequests DeviceIsolation
open PortOwnership PinnedPairs
open DeviceManager (Json)
open DeviceService (WellKeyed conflict unavailable)

section Rows

variable {db : Db} {row : PortAllocation} {i : Uuid} {port q : ℕ}

def freedRow (port q : ℕ) (row : PortAllocation) : PortAllocation :=
  if inPool q && ((q == port || q == port + 1) &&
    (row.status == .allocated || row.status == .reserved)) then .free else row

def releasedRow (i : Uuid) (q : ℕ) (row : PortAllocation) : PortAllocation :=
  if inPool q && (row.deviceId == some i && row.status == .reserved && true) then .free else row

theorem freed_row : (freeDevicePort (port + 1) (freeDevicePort port db)).ports q =
    freedRow port q (db.ports q) := by
  rw [freeDevicePorts_eq]
  rfl

theorem freedRow_cases : freedRow port q row = .free ∨ freedRow port q row = row := by
  unfold freedRow
  split
  · exact .inl rfl
  · exact .inr rfl

theorem releasedRow_cases : releasedRow i q row = .free ∧ row.status = .reserved ∨
    releasedRow i q row = row := by
  unfold releasedRow
  split
  · rename_i hit
    simp only [Bool.and_eq_true, beq_iff_eq] at hit
    exact .inl ⟨rfl, hit.2.1.2⟩
  · exact .inr rfl

theorem freedRow_blocked : (freedRow port q row).status = .blocked ↔ row.status = .blocked := by
  unfold freedRow
  split
  · rename_i hit
    simp only [Bool.and_eq_true, Bool.or_eq_true, beq_iff_eq] at hit
    rcases hit.2.2 with status | status <;> simp [status, PortAllocation.free]
  · exact Iff.rfl

theorem releasedRow_blocked : (releasedRow i q row).status = .blocked ↔ row.status = .blocked := by
  rcases @releasedRow_cases row i q with ⟨free, reserved⟩ | same
  · simp [free, reserved, PortAllocation.free]
  · rw [same]

theorem freed_reservable (pool : inPool q = true) (side : q = port ∨ q = port + 1) :
    (releasedRow i q (freedRow port q row)).reservable i = (row.status != .blocked) := by
  have here : (q == port || q == port + 1) = true := by simpa using side
  have free (r : PortAllocation) (h : r.status = .free) :
      (releasedRow i q r).reservable i = true := by
    rcases @releasedRow_cases r i q with ⟨_, reserved⟩ | same
    · simp [h] at reserved
    · rw [same]
      exact reservable_of_free h
  cases status : row.status with
  | allocated =>
    rw [free _ (by simp [freedRow, pool, here, status, PortAllocation.free])]
    rfl
  | reserved =>
    rw [free _ (by simp [freedRow, pool, here, status, PortAllocation.free])]
    rfl
  | free =>
    rw [free _ (by simp [freedRow, status])]
    rfl
  | blocked =>
    have same : releasedRow i q (freedRow port q row) = row := by
      simp [releasedRow, freedRow, status]
    simp [same, PortAllocation.reservable, status]

def Usable (port : ℕ) (db : Db) : Prop :=
  (db.ports port).status ≠ .blocked ∧ (db.ports (port + 1)).status ≠ .blocked

instance : Decidable (Usable port db) := inferInstanceAs (Decidable (_ ∧ _))

theorem free_pair_unowned (nobody : ∀ i, ¬ Pinned db i port) :
    (freeDevicePortPair port db).ports q = freedRow port q (db.ports q) := by
  have none : db.devices.find? (fun d => d.preferredPort == some port) = none := by
    rw [List.find?_eq_none]
    intro d mem prefers
    exact nobody d.id ⟨d, mem, rfl, by simpa using prefers⟩
  simp only [freeDevicePortPair, none]
  exact freed_row

/-- The pair goes to the device that prefers it, whatever its rows were. -/
theorem free_pair_owned (h : Constraints db) (hp : Pinned db i port) :
    (freeDevicePortPair port db).ports q =
      if Usable port db ∧ (q = port ∨ q = port + 1) then .reserved i db.now
      else releasedRow i q (freedRow port q (db.ports q)) := by
  obtain ⟨d, found, owner, preferred⟩ := h.find hp
  obtain ⟨low, high, even⟩ := h.range i port hp
  have pool : inPool port = true ∧ inPool (port + 1) = true := by
    simp only [inPool, Bool.and_eq_true, decide_eq_true_eq]
    omega
  have inRange : (decide (port < 6000) || decide (port > 6998) || port % 2 != 0) = false := by
    simp only [Bool.or_eq_false_iff, decide_eq_false_iff_not, bne_eq_false_iff_eq]
    omega
  have nobody : (db.devices.any fun d => d.preferredPort == some port && d.id != i) = false := by
    rw [List.any_eq_false]
    intro e he
    simp only [Bool.and_eq_true, beq_iff_eq, bne_iff_ne, not_and, not_not]
    exact fun same => h.unique e.id i port ⟨e, he, rfl, same⟩ hp
  have released (q : ℕ) : (releaseDevicePortReservation i none
      (freeDevicePort (port + 1) (freeDevicePort port db))).ports q =
        releasedRow i q (freedRow port q (db.ports q)) := by
    rw [← freed_row]
    rfl
  have first := @freed_reservable (db.ports port) i port port pool.1 (.inl rfl)
  have second := @freed_reservable (db.ports (port + 1)) i port (port + 1) pool.2 (.inr rfl)
  simp only [freeDevicePortPair, found, owner, preferred, reserveDevicePortPair, inRange]
  rw [if_neg (by simp)]
  change (if (db.devices.any fun d => d.preferredPort == some port && d.id != i) = true
    then _ else _ : Db × Bool).1.ports q = _
  rw [nobody, if_neg (by simp)]
  by_cases usable : Usable port db
  · have both : ¬ [port, port + 1].countP (fun p => ((releaseDevicePortReservation i none
        (freeDevicePort (port + 1) (freeDevicePort port db))).ports p).reservable i) < 2 := by
      simp [released, first, second, usable.1, usable.2]
    rw [if_neg both]
    by_cases side : q = port ∨ q = port + 1
    · rw [if_pos ⟨usable, side⟩]
      rcases side with rfl | rfl
      · exact updatePorts_hit pool.1 (by simp [released, first, usable.1])
      · exact updatePorts_hit pool.2 (by simp [released, second, usable.2])
    · rw [if_neg fun both => side both.2, ← released]
      exact updatePorts_other (by simpa using fun h => absurd h side)
  · have few : [port, port + 1].countP (fun p => ((releaseDevicePortReservation i none
        (freeDevicePort (port + 1) (freeDevicePort port db))).ports p).reservable i) < 2 := by
      by_cases blocked : (db.ports port).status = .blocked
      · simp [List.countP_cons, released, first, blocked]
        split <;> omega
      · have blocked' : (db.ports (port + 1)).status = .blocked := by
          by_contra fine
          exact usable ⟨blocked, fine⟩
        simp [List.countP_cons, released, second, blocked']
        split <;> omega
    rw [if_pos few, if_neg fun both => usable both.1, ← released]

end Rows

section Pairs

variable {names : Bool} {user : User} {s t : Tables} {id i : Uuid} {p port q : ℕ}
  {aside : DeviceRequests.Failure → Prop}

/-- Rows of the pair that are reserved are so for devices of the user. -/
def Kept (user : User) (p : ℕ) (s : Tables) : Prop :=
  ∀ q, q = p ∨ q = p + 1 → (s.ports q).status = .reserved →
    ∃ i ∈ ownIds user s, (s.ports q).deviceId = some i

structure PairAlike (names : Bool) (user : User) (id : Uuid) (p : ℕ) (s t : Tables) : Prop where
  has : Has names user id s t
  pinned : Pinned s.db id p
  same : ∀ q, q = p ∨ q = p + 1 → t.ports q = s.ports q

structure LoopAlike (names : Bool) (user : User) (id : Uuid) (p : ℕ) (s t : Tables) : Prop
    extends PairAlike names user id p s t where
  kept : Kept user p s
  blocked : ∀ q, (t.ports q).status = .blocked ↔ (s.ports q).status = .blocked

theorem constraints (keyed : WellKeyed (s.devices.map Row.toDevice)) : Constraints s.db :=
  FixedPorts.constraints_of_wellKeyed keyed

theorem pinned_iff : Pinned s.db i port ↔ ∃ row ∈ s.devices, row.id = i ∧
    row.preferredPort = some port := by
  simp [Pinned, Tables.db]

theorem row_of_id (keyed : WellKeyed (s.devices.map Row.toDevice)) {row row' : Row}
    (mem : row ∈ s.devices) (mem' : row' ∈ s.devices) (same : row.id = row'.id) : row = row' := by
  have found := find?_of_mem keyed mem
  rw [same, find?_of_mem keyed mem'] at found
  exact (Option.some.inj found).symm

theorem pinned_own (view : View names user s t) (mine : i ∈ ownIds user s) :
    Pinned s.db i port ↔ Pinned t.db i port := by
  rw [pinned_iff, pinned_iff]
  obtain ⟨own, memOwn, visible, rfl⟩ := mem_ownIds.1 mine
  have there := (view.mem_iff visible).1 memOwn
  constructor
  · rintro ⟨row, mem, same, prefers⟩
    exact ⟨own, there, rfl, row_of_id view.keyed mem memOwn same ▸ prefers⟩
  · rintro ⟨row, mem, same, prefers⟩
    exact ⟨own, memOwn, rfl, row_of_id view.keyed' mem there same ▸ prefers⟩

/-- A pair that another device prefers, or none, is apart from the fixed pair. -/
theorem apart_row (h : Constraints s.db) (pinned : Pinned s.db id p) (side : q = p ∨ q = p + 1)
    (mine : id ∈ ownIds user s) (other : ∀ i ∈ ownIds user s, ¬ Pinned s.db i port)
    (kept : Kept user p s) :
    (freeDevicePortPair port s.db).ports q = freedRow port q (s.ports q) := by
  have apart : port ≠ p := by
    rintro rfl
    exact other id mine pinned
  obtain ⟨_, _, even⟩ := h.range id p pinned
  by_cases owned : ∃ i, Pinned s.db i port
  · obtain ⟨i, owner⟩ := owned
    obtain ⟨_, _, even'⟩ := h.range i port owner
    have outside : q ≠ port ∧ q ≠ port + 1 := by omega
    have still : freedRow port q (s.db.ports q) = s.ports q := by
      simp [freedRow, outside.1, outside.2, Tables.db]
    rw [free_pair_owned h owner, if_neg (by tauto), still]
    rcases @releasedRow_cases (s.ports q) i q with ⟨_, reserved⟩ | same
    · obtain ⟨e, hers, owns⟩ := kept q side reserved
      have stranger : e ≠ i := by
        rintro rfl
        exact other e hers owner
      have stays : releasedRow i q (s.ports q) = s.ports q := by simp [releasedRow, owns, stranger]
      rw [stays]
      exact still.symm
    · rw [same]
      exact still.symm
  · exact free_pair_unowned (not_exists.1 owned)

theorem free_pair_blocked (h : Constraints s.db) :
    ((freeDevicePortPair port s.db).ports q).status = .blocked ↔
      (s.ports q).status = .blocked := by
  by_cases owned : ∃ i, Pinned s.db i port
  · obtain ⟨i, owner⟩ := owned
    rw [free_pair_owned h owner]
    split
    · rename_i hit
      obtain ⟨usable, rfl | rfl⟩ := hit
      · exact iff_of_false (by simp [PortAllocation.reserved]) usable.1
      · exact iff_of_false (by simp [PortAllocation.reserved]) usable.2
    · exact releasedRow_blocked.trans freedRow_blocked
  · rw [free_pair_unowned (not_exists.1 owned)]
    exact freedRow_blocked

theorem ownIds_onPorts (g : Db → Db) : ownIds user (Tables.onPorts g s) = ownIds user s := rfl

theorem kept_free (h : Constraints s.db) (pinned : Pinned s.db id p) (mine : id ∈ ownIds user s)
    (kept : Kept user p s) : Kept user p (Tables.onPorts (freeDevicePortPair port) s) := by
  intro q side reserved
  rw [ownIds_onPorts]
  change ((freeDevicePortPair port s.db).ports q).status = .reserved at reserved
  change ∃ i ∈ ownIds user s, ((freeDevicePortPair port s.db).ports q).deviceId = some i
  have stays {row : PortAllocation} (cases : row = .free ∨ row = s.ports q)
      (reserved : row.status = .reserved) : ∃ i ∈ ownIds user s, row.deviceId = some i := by
    rcases cases with rfl | rfl
    · simp [PortAllocation.free] at reserved
    · exact kept q side reserved
  by_cases owned : ∃ i ∈ ownIds user s, Pinned s.db i port
  · obtain ⟨i, hers, owner⟩ := owned
    rw [free_pair_owned h owner] at reserved ⊢
    split at reserved
    · rename_i hit
      rw [if_pos hit]
      exact ⟨i, hers, rfl⟩
    · rename_i miss
      rw [if_neg miss]
      refine stays ?_ reserved
      rcases @releasedRow_cases (freedRow port q (s.db.ports q)) i q with ⟨free, _⟩ | same
      · exact .inl free
      · rw [same]
        exact freedRow_cases
  · have other : ∀ i ∈ ownIds user s, ¬ Pinned s.db i port :=
      fun i hers owner => owned ⟨i, hers, owner⟩
    rw [apart_row h pinned side mine other kept] at reserved ⊢
    exact stays freedRow_cases reserved

theorem LoopAlike.free (h : LoopAlike names user id p s t) (port : ℕ) :
    LoopAlike names user id p (Tables.onPorts (freeDevicePortPair port) s)
      (Tables.onPorts (freeDevicePortPair port) t) := by
  obtain ⟨⟨⟨view, mine⟩, pinned, same⟩, kept, blocked⟩ := h
  have keyed := constraints view.keyed
  have keyed' := constraints view.keyed'
  refine ⟨⟨⟨view.unseen _ _ _ _, mine⟩, pinned, ?_⟩, kept_free keyed pinned mine kept, ?_⟩
  · intro q side
    change (freeDevicePortPair port t.db).ports q = (freeDevicePortPair port s.db).ports q
    by_cases owned : ∃ i ∈ ownIds user s, Pinned s.db i port
    · obtain ⟨i, hers, owner⟩ := owned
      have usable : Usable port t.db ↔ Usable port s.db :=
        and_congr (not_congr (blocked port)) (not_congr (blocked (port + 1)))
      have rows : t.db.ports q = s.db.ports q := same q side
      have now : t.db.now = s.db.now := view.now
      rw [free_pair_owned keyed owner, free_pair_owned keyed' ((pinned_own view hers).1 owner),
        rows, now]
      simp only [usable]
    · have other : ∀ i ∈ ownIds user s, ¬ Pinned s.db i port :=
        fun i hers owner => owned ⟨i, hers, owner⟩
      have other' : ∀ i ∈ ownIds user t, ¬ Pinned t.db i port := by
        intro i hers owner
        rw [view.ownIds_eq] at hers
        exact other i hers ((pinned_own view hers).2 owner)
      have kept' : Kept user p t := by
        intro q side reserved
        rw [same q side] at reserved ⊢
        rw [view.ownIds_eq]
        exact kept q side reserved
      rw [apart_row keyed pinned side mine other kept, apart_row keyed'
        ((pinned_own view mine).1 pinned) side (view.ownIds_eq ▸ mine) other' kept', same q side]
  · intro q
    exact (free_pair_blocked keyed').trans ((blocked q).trans (free_pair_blocked keyed).symm)

theorem PairAlike.reserved (h : PairAlike names user id p s t) :
    (reserveDevicePortPair id (some p) s.db).2 = (reserveDevicePortPair id (some p) t.db).2 := by
  obtain ⟨⟨view, mine⟩, pinned, same⟩ := h
  have nobody {u : Tables} (keyed : Constraints u.db) (pinned : Pinned u.db id p) :
      (u.db.devices.any fun d => d.preferredPort == some p && d.id != id) = false := by
    rw [List.any_eq_false]
    intro e he
    simp only [Bool.and_eq_true, beq_iff_eq, bne_iff_ne, not_and, not_not]
    exact fun prefers => keyed.unique e.id id p ⟨e, he, rfl, prefers⟩ pinned
  have released (q : ℕ) (side : q = p ∨ q = p + 1) :
      (releaseDevicePortReservation id none t.db).ports q =
        (releaseDevicePortReservation id none s.db).ports q := by
    simp [releaseDevicePortReservation, updatePorts, updateKeyed, Tables.db, same q side]
  have count : ([p, p + 1].countP fun q =>
      ((releaseDevicePortReservation id none t.db).ports q).reservable id) =
        [p, p + 1].countP fun q =>
          ((releaseDevicePortReservation id none s.db).ports q).reservable id :=
    List.countP_congr fun q mem => by rw [released q (by simpa using mem)]
  simp only [reserveDevicePortPair, nobody (constraints view.keyed) pinned,
    nobody (constraints view.keyed') ((pinned_own view mine).1 pinned), count]
  split_ifs <;> rfl

end Pairs

section Disconnect

variable {pf : Platform} {names : Bool} {user : User} {row : Row} {ports : List ℕ}
  {aside : DeviceRequests.Failure → Prop}

/-- The rows of the fixed pair are kept for the user's devices, or there is no pair to free. -/
def Undisturbed (user : User) (row : Row) (s : Tables) : Prop :=
  (activePorts row.id s).filter (· != 0) = [] ∨ ∀ p, row.preferredPort = some p → Kept user p s

structure Ready (names : Bool) (user : User) (row : Row) (ports : List ℕ) (s t : Tables) :
    Prop where
  has : Has names user row.id s t
  same : t.ports = s.ports
  pinned : ∀ p, row.preferredPort = some p → Pinned s.db row.id p
  undisturbed : ports.filter (· != 0) = [] ∨ ∀ p, row.preferredPort = some p → Kept user p s

theorem deactivate_paired : Paired aside (Ready names user row ports)
    (Run.write (deactivate row.id)) (Run.write (deactivate row.id))
      fun _ _ => Ready names user row ports := by
  refine .write fun s t ready => ?_
  have keep (now : ℕ) (d : Row) :
      ({ d with status := .inactive, assignedPort := none, updatedAt := now } : Row).id = d.id ∧
        ({ d with status := .inactive, assignedPort := none, updatedAt := now } : Row).userId =
          d.userId := ⟨rfl, rfl⟩
  have ids : ownIds user (deactivate row.id s) = ownIds user s := ownIds_update (keep s.now)
  refine ⟨?_, ready.same, ?_, ?_⟩
  · exact ready.has.update (f := fun now d => { d with
      status := .inactive, assignedPort := none, updatedAt := now }) fun _ _ => ⟨rfl, rfl, rfl, rfl⟩
  · intro p prefers
    refine pinned_iff.2 ?_
    exact (exists_update (p := fun d => d.id == row.id) (g := fun d => (d.id, d.preferredPort))
      (f := fun d => { d with status := .inactive, assignedPort := none, updatedAt := s.now })
      (fun _ => rfl) (fun x => x.1 = row.id ∧ x.2 = some p) s.devices).2
        (pinned_iff.1 (ready.pinned p prefers))
  · refine ready.undisturbed.imp_right fun all p prefers q side reserved => ?_
    rw [ids]
    exact all p prefers q side reserved

theorem terminateSessions_paired : Paired aside (Ready names user row ports)
    (Run.write (terminateSessions row.id)) (Run.write (terminateSessions row.id))
      fun _ _ => Ready names user row ports :=
  .write fun _ _ ready => ⟨⟨ready.has.1.updateSessions fun _ => rfl, ready.has.2⟩, ready.same,
    ready.pinned, ready.undisturbed⟩

theorem freeListed_paired : Paired aside (Ready names user row ports)
    ((ports.filter (· != 0)).forM fun port => Run.write (Tables.onPorts (freeDevicePortPair port)))
    ((ports.filter (· != 0)).forM fun port => Run.write (Tables.onPorts (freeDevicePortPair port)))
      fun _ _ s t => Has names user row.id s t ∧
        ∀ p, row.preferredPort = some p → PairAlike names user row.id p s t := by
  refine .of_pre fun s t ready => ?_
  have start : ∀ p, row.preferredPort = some p → PairAlike names user row.id p s t :=
    fun p prefers => ⟨ready.has, ready.pinned p prefers, fun q _ => by rw [ready.same]⟩
  cases prefers : row.preferredPort with
  | none =>
    have loop : Paired aside (Has names user row.id)
        ((ports.filter (· != 0)).forM fun port =>
          Run.write (Tables.onPorts (freeDevicePortPair port)))
        ((ports.filter (· != 0)).forM fun port =>
          Run.write (Tables.onPorts (freeDevicePortPair port)))
        fun _ _ => Has names user row.id := .forM _ fun port _ => onPorts_paired _
    refine loop.mono ?_ fun _ _ _ _ has => ⟨has, by simp⟩
    rintro _ _ ⟨rfl, rfl⟩
    exact ready.has
  | some p =>
    rcases ready.undisturbed with empty | kept
    · rw [empty]
      refine .pure ?_
      rintro _ _ ⟨rfl, rfl⟩
      refine ⟨ready.has, ?_⟩
      rintro _ ⟨⟩
      exact start p prefers
    · have loop : Paired aside (LoopAlike names user row.id p)
          ((ports.filter (· != 0)).forM fun port =>
            Run.write (Tables.onPorts (freeDevicePortPair port)))
          ((ports.filter (· != 0)).forM fun port =>
            Run.write (Tables.onPorts (freeDevicePortPair port)))
          fun _ _ => LoopAlike names user row.id p :=
        .forM _ fun port _ => .write fun _ _ alike => alike.free port
      refine loop.mono ?_ fun _ _ s t alike => ⟨alike.has, ?_⟩
      · rintro _ _ ⟨rfl, rfl⟩
        exact ⟨start p prefers, kept p prefers, fun q => by rw [ready.same]⟩
      · rintro _ ⟨⟩
        exact alike.toPairAlike

theorem reserveFixed_paired : Paired aside
    (fun s t => Has names user row.id s t ∧
      ∀ p, row.preferredPort = some p → PairAlike names user row.id p s t)
    (reservePreferredPort row.id row.preferredPort) (reservePreferredPort row.id row.preferredPort)
      fun _ _ => Has names user row.id := by
  cases prefers : row.preferredPort with
  | none => exact .pure fun _ _ both => both.1
  | some p =>
    refine .bind_eq (.read_eq fun s t both => (both.2 p rfl).reserved) fun reserved => ?_
    have write : Paired aside
        (fun s t => Has names user row.id s t ∧
          ∀ p', some p = some p' → PairAlike names user row.id p' s t)
        (Run.write (Tables.onPorts fun db => (reserveDevicePortPair row.id (some p) db).1))
        (Run.write (Tables.onPorts fun db => (reserveDevicePortPair row.id (some p) db).1))
        fun _ _ => Has names user row.id := .write fun _ _ both => both.1.unseen _ _ _ _
    refine .bind write fun _ _ => ?_
    split
    · exact .pure fun _ _ has => has
    · exact .fail

theorem disconnect_paired (member : isAdminUser user = false) (text : String) : Paired aside
    (fun s t => Related names user s t ∧ ∀ row ∈ s.devices, own user row = true →
      Names pf (some text) row.id → Undisturbed user row s)
    (DeviceRequests.disconnect pf user text) (DeviceRequests.disconnect pf user text)
      fun a b _ _ => a = b := by
  unfold DeviceRequests.disconnect
  refine withDevice_paired member (fun _ _ both => both.1.1) fun row mine named => ?_
  have listed : Paired aside
      (fun s t => (Related names user s t ∧ ∀ row ∈ s.devices, own user row = true →
        Names pf (some text) row.id → Undisturbed user row s) ∧
          row ∈ s.devices ∧ row.id ∈ ownIds user s)
      (Run.read (activePorts row.id)) (Run.read (activePorts row.id))
      fun a b s t => a = b ∧ Ready names user row a s t := by
    refine .read ?_
    rintro s t ⟨⟨⟨view, same⟩, careful⟩, mem, hers⟩
    refine ⟨(view.activePorts hers).symm, ⟨view, hers⟩, same, ?_, careful row mem mine named⟩
    exact fun p prefers => pinned_iff.2 ⟨row, mem, rfl, prefers⟩
  refine .bind_eq listed fun ports => ?_
  refine .bind deactivate_paired fun _ _ => ?_
  have sent : Paired aside (Ready names user row ports)
      (sendDeviceControlCommand row.deviceId "disconnect")
      (sendDeviceControlCommand row.deviceId "disconnect") fun _ _ => Ready names user row ports :=
    .write fun _ _ ready => ⟨⟨ready.has.1.unseen _ _ _ _, ready.has.2⟩, ready.same, ready.pinned,
      ready.undisturbed⟩
  refine .bind sent fun _ _ => ?_
  refine .bind terminateSessions_paired fun _ _ => ?_
  refine .bind freeListed_paired fun _ _ => ?_
  refine .bind reserveFixed_paired fun _ _ => .bind_eq (.read_eq ?_) fun updated =>
    .pure fun _ _ _ => rfl
  rintro s t ⟨view, hers⟩
  exact (view.broadcast hers).symm

end Disconnect

section Converse

variable {pf : Platform} {names : Bool} {user : User} {s : Database} {row : Row} {key : String}

theorem related_others {p : Row → Bool} {f : Row → Row}
    (hidden : ∀ r ∈ s.tables.devices, p r = true → own user r = false)
    (keep : ∀ d, (f d).id = d.id ∧ (f d).userId = d.userId)
    (named : names = true → ∀ d, (f d).deviceId = d.deviceId)
    (keyed : WellKeyed ((updateRows p f s.tables.devices).map Row.toDevice)) :
    Related names user s.tables
      { s.tables with devices := updateRows p f s.tables.devices } := by
  refine ⟨⟨s.keyed, keyed, rfl, rfl, ?_, ?_, ?_, rfl, rfl, rfl⟩, rfl⟩
  · have visible : (own user ∘ fun r => if p r then f r else r) = own user := by
      funext r
      by_cases hit : p r = true
      · simp [hit, own, (keep r).2]
      · simp [hit]
    have still : (s.tables.devices.filter (own user)).map (fun r => if p r then f r else r) =
        s.tables.devices.filter (own user) := by
      rw [List.map_congr_left (g := id), List.map_id]
      intro r mem
      obtain ⟨there, mine⟩ := List.mem_filter.1 mem
      have miss : p r ≠ true := fun hit => by simp [hidden r there hit] at mine
      simp [miss]
    simp only [Agree, updateRows, List.filter_map, visible, still]
  · intro id owner
    exact (exists_update (p := p) (g := fun d : Row => (d.id, d.userId))
      (fun r => Prod.ext (keep r).1 (keep r).2) (fun x => x.1 = id ∧ x.2 = owner) _).symm
  · intro same id deviceId
    exact (exists_update (p := p) (g := fun d : Row => (d.id, d.deviceId))
      (fun r => Prod.ext (keep r).1 (named same r)) (fun x => x.1 = id ∧ x.2 = deviceId) _).symm

theorem hidden_row (mem : row ∈ s.tables.devices) (others : own user row = false) :
    ∀ r ∈ s.tables.devices, (r.id == row.id) = true → own user r = false := by
  intro r there same
  rw [row_of_id s.keyed there mem (by simpa using same)]
  exact others

def restatus (status : DeviceStatus) (row : Row) : Row := { row with status := status }

def withStatus (s : Database) (id : Uuid) (status : DeviceStatus) : Database :=
  ⟨{ s.tables with
      devices := updateRows (·.id == id) (restatus status) s.tables.devices },
    wellKeyed_update (f := restatus status) (fun _ => ⟨rfl, rfl, rfl⟩) s.keyed⟩

theorem withStatus_related (mem : row ∈ s.tables.devices) (others : own user row = false)
    (status : DeviceStatus) : Related names user s.tables (withStatus s row.id status).tables :=
  related_others (f := restatus status) (hidden_row mem others) (fun _ => ⟨rfl, rfl⟩)
    (fun _ _ => rfl) (withStatus s row.id status).keyed

theorem exists_status (status : DeviceStatus) : ∃ other, other ≠ status := by
  by_cases h : status = .error
  · exact ⟨.active, by simp [h]⟩
  · exact ⟨.error, fun same => h same.symm⟩

/-- A reply of `ping` is the row's. -/
theorem ping_reply {t : Tables} (keyed : WellKeyed (t.devices.map Row.toDevice))
    (mem : row ∈ t.devices) (cast : pf.uuid key = some row.id) : (ping pf key t).1 =
      .ok (.ping row.deviceId (recent t.now row.lastHeartbeat) row.lastHeartbeat row.status) := by
  simp only [ping, deviceById, cast]
  change (Run.bind _ _ t).1 = _
  simp only [Run.bind, Run.read, find?_of_mem keyed mem]
  rfl

theorem ping_own (isolated : Isolated pf names user (.ping key) s) :
    ∀ row ∈ s.tables.devices, Names pf (some key) row.id → own user row = true := by
  intro row mem named
  by_contra strange
  have others : own user row = false := by simpa using strange
  obtain ⟨_, ⟨⟩, cast⟩ := named
  obtain ⟨status, different⟩ := exists_status row.status
  have changed : restatus status row ∈ (withStatus s row.id status).tables.devices :=
    mem_updateRows.2 (.inl ⟨row, mem, by simp, rfl⟩)
  have same := isolated (withStatus s row.id status) (withStatus_related mem others status)
  change SameReply _ (ping pf key s.tables).1
    (ping pf key (withStatus s row.id status).tables).1 at same
  rw [ping_reply s.keyed mem cast,
    ping_reply (withStatus s row.id status).keyed changed cast] at same
  rcases same with same | ⟨e, _, aside⟩
  · simp only [Except.ok.injEq, Reply.ping.injEq] at same
    exact different same.2.2.2.symm
  · cases aside

def rename (name : String) (row : Row) : Row := { row with deviceId := name }

def withName (s : Database) (id : Uuid) (name : String)
    (fresh : ∀ r ∈ s.tables.devices, r.deviceId ≠ name) : Database where
  tables := { s.tables with devices := updateRows (·.id == id) (rename name) s.tables.devices }
  keyed := by
    obtain ⟨ids, names⟩ := wellKeyed_columns s.keyed
    have still : (updateRows (·.id == id) (rename name) s.tables.devices).map (·.id) =
        s.tables.devices.map (·.id) := map_updateRows (fun r => by rfl) _
    have ports : (updateRows (·.id == id) (rename name) s.tables.devices).map (·.preferredPort) =
        s.tables.devices.map (·.preferredPort) := map_updateRows (fun r => by rfl) _
    refine wellKeyed_of s.keyed (still ▸ ids) ?_ ports
    rw [updateRows, List.map_map]
    refine (List.nodup_map_iff_inj_on (List.Nodup.of_map _ ids)).2 fun r hr q hq same => ?_
    by_cases hit : r.id = id <;> by_cases hit' : q.id = id
    · exact eq_of_key ids hr hq (hit.trans hit'.symm)
    · exact absurd (by simpa [hit, hit', rename] using same.symm) (fresh q hq)
    · exact absurd (by simpa [hit, hit', rename] using same) (fresh r hr)
    · exact eq_of_key names hr hq (by simpa [hit, hit'] using same)

theorem withName_related {name : String} (fresh : ∀ r ∈ s.tables.devices, r.deviceId ≠ name)
    (mem : row ∈ s.tables.devices) (others : own user row = false) :
    Related false user s.tables (withName s row.id name fresh).tables :=
  related_others (f := rename name) (hidden_row mem others) (fun _ => ⟨rfl, rfl⟩) (by simp)
    (withName s row.id name fresh).keyed

section Resolved

variable {f : Row → Service Reply} {t : Tables} {id : Uuid}

theorem withResolved_missing (cast : pf.uuid key = some id) (unknown : ∀ r ∈ t.devices, r.id ≠ id)
    (unnamed : ∀ r ∈ t.devices, r.deviceId ≠ key) :
    (withResolved pf user key f t).1 = .error notFound := by
  have first : t.devices.find? (·.id == id) = none := by simpa using unknown
  have second : t.devices.find? (·.deviceId == key) = none := by simpa using unnamed
  change (Run.bind _ _ t).1 = _
  simp only [Run.bind, resolveDevice_eq cast, first, second]
  rfl

theorem withResolved_denied (member : isAdminUser user = false) (cast : pf.uuid key = some id)
    (unknown : ∀ r ∈ t.devices, r.id ≠ id) (keyed : WellKeyed (t.devices.map Row.toDevice))
    (mem : row ∈ t.devices) (named : row.deviceId = key) (others : own user row = false) :
    (withResolved pf user key f t).1 = .error denied := by
  have first : t.devices.find? (·.id == id) = none := by simpa using unknown
  have second := named_of_mem keyed mem
  rw [named] at second
  have refused : (!isAdminUser user && row.userId != some user.id) = true := by
    simp only [own] at others
    simp [member, bne, others]
  change (Run.bind _ _ t).1 = _
  simp only [Run.bind, resolveDevice_eq cast, first, second, Option.none_or, refused]
  rfl

theorem resolved_settled (member : isAdminUser user = false) {request : Request}
    (plain : ∀ e, ¬ Aside request e)
    (isolated : ∀ t : Database, Related false user s.tables t.tables → SameReply request
      (withResolved pf user key f s.tables).1 (withResolved pf user key f t.tables).1) :
    Settled pf false user key s.tables := by
  refine .inr fun id cast => ?_
  by_contra! unsettled
  obtain ⟨unknown, unnamed, row, mem, strange⟩ := unsettled
  have others : own user row = false := by simpa using strange
  have apart : notFound ≠ denied := by simp [notFound, denied, thrown]
  have ids {i : Uuid} {name : String} {fresh} : ∀ r ∈ (withName s i name fresh).tables.devices,
      r.id ≠ id := by
    intro r mem' same
    obtain ⟨d, there, same'⟩ := (exists_update (p := fun d => d.id == i) (f := rename name)
      (g := fun d => d.id) (fun _ => rfl) (· = id) s.tables.devices).1 ⟨r, mem', same⟩
    exact unknown d there same'
  have equal {t : Database} (related : Related false user s.tables t.tables) :
      (withResolved pf user key f s.tables).1 = (withResolved pf user key f t.tables).1 := by
    rcases isolated t related with same | ⟨e, _, aside⟩
    · exact same
    · exact absurd aside (plain e)
  by_cases taken : ∃ r ∈ s.tables.devices, r.deviceId = key
  · -- the device of another has the name: it may have another one
    obtain ⟨twin, there, named⟩ := taken
    have stranger : own user twin = false := by
      by_contra mine
      exact unnamed twin there (by simpa using mine) named
    obtain ⟨name, fresh⟩ := Infinite.exists_notMem_finset
      (insert key (s.tables.devices.map (·.deviceId)).toFinset)
    simp only [Finset.mem_insert, List.mem_toFinset, List.mem_map, not_or, not_exists] at fresh
    have free : ∀ r ∈ s.tables.devices, r.deviceId ≠ name := fun r hr same => fresh.2 r ⟨hr, same⟩
    have related := withName_related free there stranger
    have gone : ∀ r ∈ (withName s twin.id name free).tables.devices, r.deviceId ≠ key := by
      intro r mem' same
      rcases mem_updateRows.1 mem' with ⟨q, _, _, rfl⟩ | ⟨mem', miss⟩
      · exact fresh.1 same
      · have one := eq_of_key (wellKeyed_columns s.keyed).2 mem' there (same.trans named.symm)
        simp [one] at miss
    have here := equal related
    rw [withResolved_denied member cast unknown s.keyed there named stranger,
      withResolved_missing cast ids gone] at here
    exact apart (by simpa using here.symm)
  · have free : ∀ r ∈ s.tables.devices, r.deviceId ≠ key := fun r hr same => taken ⟨r, hr, same⟩
    have related := withName_related free mem others
    have renamed : rename key row ∈ (withName s row.id key free).tables.devices :=
      mem_updateRows.2 (.inl ⟨row, mem, by simp, rfl⟩)
    have here := equal related
    rw [withResolved_missing cast unknown free,
      withResolved_denied member cast ids (withName s row.id key free).keyed renamed rfl others]
      at here
    exact apart (by simpa using here)

end Resolved

theorem mem_summary {t : Tables} {r : SummaryRow} (zero : user.id = 0) :
    r ∈ buildDeviceStatisticsSummaryRows pf (some user.id) t →
      ∃ row ∈ t.devices, r.id = row.id ∧ r.status = row.status := by
  simp only [buildDeviceStatisticsSummaryRows, zero, beq_self_eq_true, Bool.true_or,
    List.filter_true, List.mem_map, List.mem_mergeSort]
  rintro ⟨row, mem, rfl⟩
  exact ⟨row, mem, rfl, rfl⟩

theorem row_in_summary (pf : Platform) {t : Tables} (zero : user.id = 0) (mem : row ∈ t.devices) :
    ∃ r ∈ buildDeviceStatisticsSummaryRows pf (some user.id) t,
      r.id = row.id ∧ r.status = row.status := by
  simp only [buildDeviceStatisticsSummaryRows, zero, beq_self_eq_true, Bool.true_or,
    List.filter_true, List.mem_map, List.mem_mergeSort]
  exact ⟨_, ⟨row, mem, rfl⟩, rfl, rfl⟩

theorem summary_own (member : isAdminUser user = false) {query : Json}
    (isolated : Isolated pf names user (.statisticsSummary query) s) :
    user.id ≠ 0 ∨ ∀ row ∈ s.tables.devices, own user row = true := by
  by_cases zero : user.id = 0
  · right
    intro row mem
    by_contra strange
    have others : own user row = false := by simpa using strange
    obtain ⟨status, different⟩ := exists_status row.status
    have same := isolated (withStatus s row.id status) (withStatus_related mem others status)
    have reply (t : Tables) : (respond pf user (.statisticsSummary query) t).1 =
        .ok (.summary (buildDeviceStatisticsSummaryRows pf (some user.id) t)) := by
      simp only [respond, getStatisticsSummary, member, Bool.not_false, if_true]
      rfl
    rw [reply, reply] at same
    rcases same with same | ⟨e, _, aside⟩
    · simp only [Except.ok.injEq, Reply.summary.injEq] at same
      obtain ⟨r, listed, sameId, sameStatus⟩ := row_in_summary pf zero mem
      rw [same] at listed
      obtain ⟨row', mem', sameId', sameStatus'⟩ := mem_summary zero listed
      rcases mem_updateRows.1 mem' with ⟨q, _, _, rfl⟩ | ⟨_, miss⟩
      · exact different (sameStatus'.symm.trans sameStatus)
      · simp [← sameId', sameId] at miss
    · cases aside
  · exact .inl zero

end Converse

section Requests

variable {pf : Platform} {names : Bool} {user : User}

def Careful (pf : Platform) (names : Bool) (user : User) (s : Tables) : Request → Prop
  | .ping id => ∀ row ∈ s.devices, Names pf (some id) row.id → own user row = true
  | .disconnect id => ∀ row ∈ s.devices, own user row = true → Names pf (some id) row.id →
      Undisturbed user row s
  | .statistics key _ | .statisticsReset key => Settled pf names user key s
  | .statisticsSummary _ => user.id ≠ 0 ∨ ∀ row ∈ s.devices, own user row = true
  | _ => True

theorem sameReply_of_paired {request : Request} {R : Tables → Tables → Prop} {m : Service Reply}
    (paired : Paired (Aside request) R m m fun a b _ _ => a = b) {s t : Tables} (related : R s t) :
    SameReply request (m s).1 (m t).1 := by
  have both := paired s t related
  rcases hs : m s with ⟨e | a, s'⟩ <;> rcases ht : m t with ⟨e' | b, t'⟩ <;> rw [hs, ht] at both
  · rcases both with rfl | aside | aside
    · exact .inl rfl
    · exact .inr ⟨e, .inl rfl, aside⟩
    · exact .inr ⟨e', .inr rfl, aside⟩
  · exact .inr ⟨e, .inl rfl, both⟩
  · exact .inr ⟨e', .inr rfl, both⟩
  · exact .inl (congrArg Except.ok both)

theorem ping_paired {aside : DeviceRequests.Failure → Prop} (text : String) : Paired aside
    (fun s t => View names user s t ∧
      ∀ row ∈ s.devices, Names pf (some text) row.id → own user row = true)
    (ping pf text) (ping pf text) fun a b _ _ => a = b := by
  unfold ping
  have sub : ∀ s t, (View names user s t ∧ ∀ row ∈ s.devices, Names pf (some text) row.id →
      own user row = true) → View names user s t := fun _ _ both => both.1
  refine .bind (deviceById_paired sub) fun a b => ?_
  refine .of_pre fun s t both => ?_
  obtain ⟨met, found, view, careful⟩ := both
  cases met with
  | none => exact .fail
  | own mine =>
    refine .bind_eq (.read_eq ?_) fun online => .pure fun _ _ _ => rfl
    rintro _ _ ⟨rfl, rfl⟩
    rw [view.now]
  | other others _ _ =>
    obtain ⟨mem, named⟩ := found _ rfl
    simp [careful _ mem named] at others

theorem isolated_of_careful (member : isAdminUser user = false) (request : Request) (s : Database)
    (careful : Careful pf names user s.tables request) : Isolated pf names user request s := by
  intro t related
  have view := related.1
  cases request with
  | find query => exact sameReply_of_paired (find_paired member query) view
  | get id => exact sameReply_of_paired (get_paired member id) view
  | create data drawn authToken =>
    exact sameReply_of_paired
      (create_paired data drawn authToken .createTaken .createPort .createKey) view
  | update id data =>
    exact sameReply_of_paired (update_paired member id data .updatePort .updateKey) view
  | patch id data =>
    exact sameReply_of_paired (update_paired member id data .patchPort .patchKey) view
  | remove id => exact sameReply_of_paired (remove_paired member id) related
  | connect id => exact sameReply_of_paired (connect_paired member id) view
  | disconnect id => exact sameReply_of_paired (disconnect_paired member id) ⟨related, careful⟩
  | restart id => exact sameReply_of_paired (restart_paired member id) view
  | ping id => exact sameReply_of_paired (ping_paired id) ⟨view, careful⟩
  | statistics key hours =>
    exact sameReply_of_paired (statistics_paired member hours) ⟨view, careful⟩
  | statisticsSummary query =>
    exact sameReply_of_paired (summary_paired member query) ⟨view, careful⟩
  | statisticsReset key => exact sameReply_of_paired (reset_paired member) ⟨view, careful⟩

/-- A request is answered from what is the user's own exactly when it is careful; a disconnect that
is not may be or may not. -/
theorem request_isolated (member : isAdminUser user = false) (request : Request) (s : Database) :
    (Careful pf names user s.tables request → Isolated pf names user request s) ∧
      ((∀ id, request ≠ .disconnect id) → Isolated pf names user request s →
        Careful pf names user s.tables request) := by
  refine ⟨isolated_of_careful member request s, fun other isolated => ?_⟩
  have settled {key : String} {request : Request} (plain : ∀ e, ¬ Aside request e)
      {f : Row → Service Reply} (same : respond pf user request = withResolved pf user key f)
      (isolated : Isolated pf names user request s) : Settled pf names user key s.tables := by
    cases names with
    | true => exact .inl rfl
    | false =>
      refine resolved_settled member plain (f := f) fun t related => ?_
      rw [← same]
      exact isolated t related
  cases request with
  | ping id => exact ping_own isolated
  | disconnect id => exact absurd rfl (other id)
  | statistics key hours => exact settled (fun _ aside => by cases aside) rfl isolated
  | statisticsSummary query => exact summary_own member isolated
  | statisticsReset key => exact settled (fun _ aside => by cases aside) rfl isolated
  | _ => trivial

def plain : Platform where
  uuid text :=
    if text = "00000000-0000-0000-0000-000000000001" then some 1
    else if text = "00000000-0000-0000-0000-000000000002" then some 2
    else none
  integer
    | .integer n => some n
    | _ => none
  rational
    | .integer n => some n
    | _ => none
  text
    | .string s => s
    | _ => ""
  equals
    | .string s => .ok (· == s)
    | _ => .ok fun _ => false
  ilike text pattern := "%" ++ text ++ "%" == pattern
  limit
    | .integer n => if 0 ≤ n then .ok n.toNat else .error (.badStatement "LIMIT")
    | _ => .error (.badStatement "LIMIT")
  offset
    | .integer n => if 0 ≤ n then .ok n.toNat else .error (.badStatement "OFFSET")
    | _ => .error (.badStatement "OFFSET")
  orderBy
    | some _, _ => .ok id
    | none, _ => .error (.badStatement "ORDER BY")
  collate a b := decide (a ≤ b)
  check row := 0 < row.name.length

def device (id : Uuid) (deviceId : String) (owner : ℕ) : Row :=
  { id := id, deviceId := deviceId, name := deviceId, type := "iot_gateway", userId := some owner
    authTokenHash := "", status := .active, assignedPort := none, preferredPort := none
    internalAddress := some "127.0.0.1", internalPort := none, enableInputSsl := false
    enableTunnelSsl := false, lastHeartbeat := some 90, totalBytesSent := 5, totalBytesReceived := 7
    description := none, protocol := "tcp", capabilities := .array [.string "tcp"]
    metadata := .object [], createdAt := 10, updatedAt := 20 }

def twoOwners : Database where
  tables :=
    { users := [⟨1, "ann", some "user", "", some "ann", none, none, none⟩,
        ⟨2, "bob", some "user", "", some "bob", none, none, none⟩]
      devices := [device 1 "gateway-1" 1, device 2 "gateway-2" 2]
      sessions := [], ports := fun _ => .free, statistics := [], samples := [], now := 100
      commands := [] }
  keyed := by decide

def bob : User := ⟨2, "", "user"⟩

theorem own_statistics_isolated : isAdminUser bob = false ∧ Isolated plain false bob
    (.statistics "00000000-0000-0000-0000-000000000002" none) twoOwners := by
  refine ⟨by decide, (request_isolated (by decide) _ _).1 (.inr fun id cast => .inl ?_)⟩
  have same : id = 2 := (Option.some.inj (cast.symm.trans (by decide)))
  exact ⟨device 2 "gateway-2" 2, by simp [twoOwners], same.symm⟩

/-- A user asks after the device of another. -/
theorem foreign_ping_not_isolated : isAdminUser bob = false ∧ ¬ Isolated plain true bob
    (.ping "00000000-0000-0000-0000-000000000001") twoOwners := by
  refine ⟨by decide, fun isolated => ?_⟩
  have mine := ping_own isolated (device 1 "gateway-1" 1) (by simp [twoOwners])
    ⟨_, rfl, by decide⟩
  exact absurd mine (by decide)

end Requests

end RequestIsolation
