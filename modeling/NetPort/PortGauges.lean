import NetPort.PairCoherence

/-! The gauges of the port pool in `observability.js`, which count the rows of
`port_allocations`, beside the pairs that they are named after. -/
namespace PortGauges

open StatementPrograms SqlUpdate DeviceTables ProxyRuntimes DeviceManager PortOwnership
open PairCoherence

/-- `where('status', …).count` over the table. -/
def rowsWith (status : AllocationStatus) (db : Db) : ℕ :=
  (List.range' 6000 1001).countP fun p => (db.ports p).status == status

/-- The value of `net_port_ports_allocated`. -/
def portsAllocated (db : Db) : ℕ := rowsWith .allocated db

/-- The value of `net_port_ports_reserved`. -/
def portsReserved (db : Db) : ℕ := rowsWith .reserved db

def poolPairs : List ℕ := List.range' 6000 500 2

def held (db : Db) (p : ℕ) : Bool :=
  db.sessions.any fun s => s.status == .active && s.assignedPort == p

def reservedPair (db : Db) (p : ℕ) : Bool :=
  (db.ports p).status == .reserved && (db.ports (p + 1)).status == .reserved

/-- The three gauges count the pairs that active sessions hold, those reserved for devices and the
other ones. -/
structure Partition (db : Db) : Prop where
  allocated : portsAllocated db = poolPairs.countP (held db)
  reserved : portsReserved db = poolPairs.countP (reservedPair db)
  available : portsFree db = poolPairs.countP fun p => !held db p && !reservedPair db p
  total : portsAllocated db + portsReserved db + portsFree db = 500

def AllPairsFree (db : Db) : Prop := ∀ p ∈ poolPairs, held db p = false ∧
  (db.ports p).status = .free ∧ (db.ports (p + 1)).status = .free

instance (db : Db) : Decidable (AllPairsFree db) :=
  inferInstanceAs (Decidable (∀ p ∈ poolPairs, _))

variable {cfg : Config} {db db' : Db} {s t : State} {cond : ℕ → PortAllocation → Bool}
  {row : PortAllocation}

section Counting

variable {f g h : ℕ → Bool} {ps : List ℕ}

theorem countP_pairs (f : ℕ → Bool) (a n : ℕ) : (List.range' a (2 * n)).countP f =
    (List.range' a n 2).countP f + (List.range' a n 2).countP fun p => f (p + 1) := by
  induction n generalizing a with
  | zero => rfl
  | succ n ih =>
    have rest := ih (a + 2)
    rw [Nat.mul_succ, List.range'_succ, List.range'_succ, List.range'_succ]
    simp only [List.countP_cons, Nat.add_assoc] at rest ⊢
    rw [rest]
    omega

theorem countP_partition (kinds : ∀ p ∈ ps, (f p).toNat + (g p).toNat + (h p).toNat = 1) :
    ps.countP f + ps.countP g + ps.countP h = ps.length := by
  induction ps with
  | nil => rfl
  | cons p rest ih =>
    have here := kinds p List.mem_cons_self
    have after := ih fun q mem => kinds q (List.mem_cons_of_mem p mem)
    have counts (b : Bool) : (if b = true then 1 else 0) = b.toNat := by cases b <;> rfl
    simp only [List.countP_cons, List.length_cons, counts]
    omega

theorem mem_poolPairs {p : ℕ} : p ∈ poolPairs ↔ 6000 ≤ p ∧ p ≤ 6998 ∧ p % 2 = 0 := by
  rw [poolPairs, List.mem_range']
  constructor
  · rintro ⟨i, small, rfl⟩
    omega
  · rintro ⟨low, high, even⟩
    exact ⟨(p - 6000) / 2, by omega, by omega⟩

theorem length_poolPairs : poolPairs.length = 500 := List.length_range'

/-- The rows of the pool are those of its pairs and the one of port 7000. -/
theorem countP_pool (f : ℕ → Bool) : (List.range' 6000 1001).countP f =
    poolPairs.countP f + poolPairs.countP (fun p => f (p + 1)) + (f 7000).toNat := by
  have split : List.range' 6000 1001 = List.range' 6000 (2 * 500) ++ [7000] :=
    (@List.range'_append_1 6000 (2 * 500) 1).symm
  rw [split, List.countP_append, countP_pairs]
  cases last : f 7000 <;> simp [poolPairs, last]

end Counting

/-- No row is blocked, and the last one, which belongs to no pair, stays free. -/
structure Unblocked (db : Db) : Prop where
  blocked : ∀ q, (db.ports q).status ≠ .blocked
  last : (db.ports 7000).status = .free

namespace Unblocked

theorem of_eq (h : Unblocked db) (ports : db'.ports = db.ports) : Unblocked db' := by
  obtain ⟨blocked, last⟩ := h
  exact ⟨fun q => ports ▸ blocked q, ports ▸ last⟩

theorem update (h : Unblocked db) (blocked : row.status ≠ .blocked)
    (last : row.status = .free ∨ cond 7000 (db.ports 7000) = false) :
    Unblocked (updatePorts cond row db) := by
  constructor
  · intro q
    simp only [updatePorts, updateKeyed]
    split
    · exact blocked
    · exact h.blocked q
  · simp only [updatePorts, updateKeyed]
    split
    · rename_i hit
      refine last.resolve_right fun miss => ?_
      rw [miss, Bool.and_false] at hit
      cases hit
    · exact h.last

theorem release (h : Unblocked db) (device : Uuid) (inputPort : Option ℕ) :
    Unblocked (releaseDevicePortReservation device inputPort db) :=
  h.update (by decide) (.inl rfl)

theorem reserve (h : Unblocked db) (device : Uuid) (inputPort : Option ℕ) :
    Unblocked (reserveDevicePortPair device inputPort db).1 := by
  unfold reserveDevicePortPair
  split
  · exact h.release device none
  · rename_i port
    have released := h.release device none
    dsimp only
    split_ifs with out taken few
    · exact h
    · exact h
    · exact released
    · refine released.update (by simp [PortAllocation.reserved]) (.inr ?_)
      have apart : port ≠ 7000 ∧ port + 1 ≠ 7000 := by
        simp only [Bool.or_eq_true, decide_eq_true_eq, bne_iff_ne] at out
        omega
      simp [beq_false_of_ne apart.1.symm, beq_false_of_ne apart.2.symm]

theorem free_pair (h : Unblocked db) (port : ℕ) : Unblocked (freeDevicePortPair port db) := by
  have freed : Unblocked (freeDevicePort (port + 1) (freeDevicePort port db)) := by
    have first : Unblocked (freeDevicePort port db) := h.update (by decide) (.inl rfl)
    exact first.update (by decide) (.inl rfl)
  unfold freeDevicePortPair
  dsimp only
  split
  · exact freed
  · exact freed.reserve _ _

theorem free_pairs (h : Unblocked db) (ports : List ℕ) :
    Unblocked (freeDevicePortPairs ports db) := by
  induction ports generalizing db with
  | nil => exact h
  | cons port ports ih => exact ih (h.free_pair port)

theorem cleanup_device (h : Unblocked db) (deviceId : String) :
    Unblocked (cleanupDeviceSessions deviceId db) := by
  let hit := fun u : Session => sessionOf deviceId db u && u.status == .active
  let expired := { db with
    sessions := updateRows hit (fun u => { u with status := .expired, expiresAt := db.now })
      db.sessions }
  have first : Unblocked expired := h.of_eq rfl
  exact (first.free_pairs ((db.sessions.filter hit).map (·.assignedPort))).of_eq rfl

theorem cleanup_expired (h : Unblocked db) : Unblocked (cleanupExpiredSessions db) := by
  let freed := freeDevicePortPairs
    ((db.sessions.filter (·.overdue db.now)).map (·.assignedPort)) db
  let expired := { freed with
    sessions := updateRows (·.overdue freed.now) (fun u => { u with status := .expired })
      freed.sessions }
  have first : Unblocked freed := h.free_pairs _
  have second : Unblocked expired := first.of_eq rfl
  let released := updatePorts (fun p row => row.status == .allocated &&
      !expired.sessions.any fun u =>
        u.live expired.now && (p == u.assignedPort || p == u.assignedPort + 1))
    .free expired
  have third : Unblocked released := second.update (by decide) (.inl rfl)
  exact third.of_eq rfl

theorem register (h : Unblocked db) {deviceId token : String} {timeout : ℕ} {sid : Uuid}
    {r : Option (ℕ × ℕ)} (e : registerSession deviceId token timeout sid db = some (db', r)) :
    Unblocked db' := by
  rcases PortInvariant.registerSession_spec e with
    ⟨rfl, _⟩ | ⟨dev, port, _, _, _, found, _, _, rfl⟩
  · exact h
  · obtain ⟨_, below, even, _, _⟩ := PortInvariant.findPair_spec found
    refine Unblocked.update (h.of_eq rfl) (by simp [PortAllocation.allocated]) (.inr ?_)
    have apart : port ≠ 7000 ∧ port + 1 ≠ 7000 := by omega
    simp [beq_false_of_ne apart.1.symm, beq_false_of_ne apart.2.symm]

end Unblocked

theorem interp_unblocked (h : Unblocked s.db) {c : Cmd} {r : Res c}
    (e : interp cfg c s = some (t, r)) : Unblocked t.db := by
  cases c with
  | registerSession deviceId token =>
    obtain ⟨⟨db', ports⟩, hdb, e⟩ := Option.map_eq_some_iff.1 e
    cases e
    exact h.register hdb
  | cleanupDeviceSessions deviceId => cases e; exact h.cleanup_device deviceId
  | freeDevicePortPair port => cases e; exact h.free_pair port
  | freeSessionPairs deviceId => cases e; exact h.free_pairs _
  | setRegistered | touchDevice | deactivateDevice | deleteOldSamples | touchSession
  | terminateSession | terminateSessions => cases e; exact h.of_eq rfl
  | addSessionTraffic token sent received connections =>
    obtain ⟨db', hdb, e⟩ := Option.map_eq_some_iff.1 e
    cases e
    obtain ⟨_, rfl⟩ := addSessionTraffic_spec hdb
    exact h.of_eq rfl
  | addDeviceTotals token sent received =>
    obtain ⟨db', hdb, e⟩ := Option.map_eq_some_iff.1 e
    cases e
    obtain ⟨_, rfl⟩ := addDeviceTotals_spec hdb
    exact h.of_eq rfl
  | insertSample token sent received connections =>
    obtain ⟨db', hdb, e⟩ := Option.map_eq_some_iff.1 e
    cases e
    obtain ⟨_, rfl⟩ := insertSample_spec hdb
    exact h.of_eq rfl
  | upsertHourly token sent received connections =>
    obtain ⟨db', hdb, e⟩ := Option.map_eq_some_iff.1 e
    cases e
    obtain ⟨_, rfl⟩ := upsertHourly_statistics_only hdb
    exact h.of_eq rfl
  | _ => cases e; exact h

theorem others_unblocked (h : Unblocked s.db) (st : Others cfg s t) : Unblocked t.db := by
  cases st with
  | event e enabled even =>
    cases e with
    | sweep => exact h.cleanup_expired
    | cleanup deviceId => exact h.cleanup_device deviceId
    | reserve device inputPort => exact h.reserve device inputPort
    | release device inputPort => exact h.release device inputPort
    | rescan | editDevices | tick => exact h.of_eq rfl
    | acceptorExit | answer | draw => exact h
  | statement bare e => exact interp_unblocked h e
  | free port even below =>
    cases port with
    | ofNat port => exact h.free_pair port
    | negSucc _ => exact h
  | reserve device port =>
    match port with
    | none => exact h.reserve device none
    | some (.ofNat port) => exact h.reserve device (some port)
    | some (.negSucc _) => exact h
  | release device port even =>
    match port with
    | none => exact h.release device none
    | some (.ofNat port) => exact h.release device (some port)
    | some (.negSucc _) => exact h

theorem unblocked_of_reachable {k : Control ℤ}
    (h : (pairServer cfg).Reachable (fun _ _ => True) AllFree (k, s)) : Unblocked s.db := by
  have stable : (pairServer cfg).Stable fun s => Unblocked s.db :=
    fun _ _ h st => others_unblocked h st
  refine Server.reachable_inv stable ?_ (fun r => ?_) h
  · intro s free
    constructor <;> simp [free.2, PortAllocation.free]
  · have all : Issues (fun _ => True) ((pairServer cfg).handler r) :=
      issues_of_all (fun _ => trivial) _
    refine Server.keeps_of_issues stable ?_ all
    intro c s t r _ h _ e
    exact interp_unblocked h e

def pairsWith (status : AllocationStatus) (db : Db) : ℕ :=
  poolPairs.countP fun p => (db.ports p).status == status

theorem rowsWith_eq (coherent : Coherent db) (unblocked : Unblocked db)
    {status : AllocationStatus} (taken : status ≠ .free) :
    rowsWith status db = 2 * pairsWith status db := by
  have second : (poolPairs.countP fun p => (db.ports (p + 1)).status == status) =
      pairsWith status db := by
    refine List.countP_congr fun p mem => ?_
    obtain ⟨low, high, even⟩ := mem_poolPairs.1 mem
    rw [(coherent p low high even).1]
  have last : ((db.ports 7000).status == status) = false := by
    rw [unblocked.last]
    exact beq_false_of_ne taken.symm
  rw [rowsWith, countP_pool, second, last, pairsWith, Bool.toNat_false]
  omega

theorem portsFree_eq (db : Db) : portsFree db = pairsWith .free db := by
  have first : (poolPairs.countP fun p =>
      (db.ports p).status == .free && p ≤ 6999 && p % 2 == 0) = pairsWith .free db := by
    refine List.countP_congr fun p mem => ?_
    obtain ⟨low, high, even⟩ := mem_poolPairs.1 mem
    simp [even, show p ≤ 6999 by omega]
  have second : (poolPairs.countP fun p =>
      (db.ports (p + 1)).status == .free && p + 1 ≤ 6999 && (p + 1) % 2 == 0) = 0 := by
    refine List.countP_eq_zero.2 fun p mem => ?_
    obtain ⟨low, high, even⟩ := mem_poolPairs.1 mem
    simp [show (p + 1) % 2 = 1 by omega]
  rw [portsFree, countP_pool, first, second]
  simp

theorem pairsWith_total (unblocked : Unblocked db) :
    pairsWith .allocated db + pairsWith .reserved db + pairsWith .free db = 500 := by
  have kinds : ∀ p ∈ poolPairs, ((db.ports p).status == .allocated).toNat +
      ((db.ports p).status == .reserved).toNat + ((db.ports p).status == .free).toNat = 1 := by
    intro p _
    have := unblocked.blocked p
    cases status : (db.ports p).status with
    | blocked => exact absurd status this
    | allocated | free | reserved => rfl
  rw [pairsWith, pairsWith, pairsWith, countP_partition kinds, length_poolPairs]

theorem reservedPairs_eq (coherent : Coherent db) :
    poolPairs.countP (reservedPair db) = pairsWith .reserved db := by
  refine List.countP_congr fun p mem => ?_
  obtain ⟨low, high, even⟩ := mem_poolPairs.1 mem
  rw [reservedPair, ← (coherent p low high even).1, Bool.and_self]

/-- The sum exceeds the pool by one for every pair that is not free. -/
theorem partition_iff (coherent : Coherent db) (unblocked : Unblocked db) :
    Partition db ↔ AllPairsFree db := by
  have allocated : portsAllocated db = 2 * pairsWith .allocated db :=
    rowsWith_eq coherent unblocked (by decide)
  have reserved : portsReserved db = 2 * pairsWith .reserved db :=
    rowsWith_eq coherent unblocked (by decide)
  have available := portsFree_eq db
  have total := pairsWith_total unblocked
  constructor
  · intro gauges
    have sum := gauges.total
    have none_held : poolPairs.countP (held db) = 0 := by
      rw [← gauges.allocated]
      omega
    have all_free : poolPairs.countP (fun p => (db.ports p).status == .free) =
        poolPairs.length := by
      rw [length_poolPairs, ← pairsWith]
      omega
    intro p mem
    obtain ⟨low, high, even⟩ := mem_poolPairs.1 mem
    have free : (db.ports p).status = .free :=
      eq_of_beq (List.countP_eq_length.1 all_free p mem)
    refine ⟨?_, free, (coherent p low high even).1.symm.trans free⟩
    exact eq_false_of_ne_true (List.countP_eq_zero.1 none_held p mem)
  · intro free
    have statusOf (status : AllocationStatus) (taken : status ≠ .free) :
        pairsWith status db = 0 := by
      refine List.countP_eq_zero.2 fun p mem => ?_
      rw [(free p mem).2.1, beq_false_of_ne taken.symm]
      exact Bool.false_ne_true
    have noneAllocated := statusOf .allocated (by decide)
    have noneReserved := statusOf .reserved (by decide)
    have noneHeld : poolPairs.countP (held db) = 0 :=
      List.countP_eq_zero.2 fun p mem => by simp [(free p mem).1]
    have others : (poolPairs.countP fun p => !held db p && !reservedPair db p) = 500 := by
      rw [← length_poolPairs]
      refine List.countP_eq_length.2 fun p mem => ?_
      simp [(free p mem).1, reservedPair, (free p mem).2.1]
    constructor
    · rw [noneHeld]
      omega
    · rw [reservedPairs_eq coherent]
      omega
    · rw [others]
      omega
    · omega

/-- In every state that the operations on pairs reach, the gauges count pairs and add up to the
pool only as long as all pairs are free. -/
theorem gauges_partition_iff {k : Control ℤ}
    (h : (pairServer cfg).Reachable (fun _ _ => True) AllFree (k, s)) :
    Partition s.db ↔ AllPairsFree s.db :=
  partition_iff (pairs_coherent h).1 (unblocked_of_reachable h)

def pairsReturned : State :=
  (next twoPairsTaken (.cleanup "A")).mapDb (releasePair 2 (some 6010))

theorem returned_pairs_partitioned : AllPairsFree pairsReturned.db ∧
    ¬AllPairsFree twoPairsTaken.db ∧ Partition pairsReturned.db ∧ ¬Partition twoPairsTaken.db := by
  obtain ⟨k, reachable⟩ := twoPairsTaken_reachable
  have returned : (pairServer Sample.cfg).Reachable (fun _ _ => True) AllFree
      (k, pairsReturned) := by
    obtain ⟨r, s, start, steps⟩ := reachable
    exact ⟨r, s, start, (steps.tail (.interfere (.event (.cleanup "A") trivial nofun))).tail
      (.interfere (.release 2 (some 6010) (by decide)))⟩
  have free : AllPairsFree pairsReturned.db := by decide +kernel
  have taken : ¬AllPairsFree twoPairsTaken.db := by decide +kernel
  exact ⟨free, taken, (gauges_partition_iff returned).2 free,
    fun gauges => taken ((gauges_partition_iff reachable).1 gauges)⟩

/-- One session and one reservation are counted as two pairs each, and 502 in all. -/
theorem pairs_counted_twice :
    (∃ k, (pairServer Sample.cfg).Reachable (fun _ _ => True) AllFree (k, twoPairsTaken)) ∧
    (portsAllocated twoPairsTaken.db = 2 ∧ poolPairs.countP (held twoPairsTaken.db) = 1) ∧
    (portsReserved twoPairsTaken.db = 2 ∧ poolPairs.countP (reservedPair twoPairsTaken.db) = 1) ∧
    portsFree twoPairsTaken.db = 498 ∧ ¬Partition twoPairsTaken.db := by
  have counted : (portsAllocated twoPairsTaken.db = 2 ∧
      poolPairs.countP (held twoPairsTaken.db) = 1) ∧
    (portsReserved twoPairsTaken.db = 2 ∧ poolPairs.countP (reservedPair twoPairsTaken.db) = 1) ∧
    portsFree twoPairsTaken.db = 498 := by decide +kernel
  obtain ⟨allocated, reserved, available⟩ := counted
  refine ⟨twoPairsTaken_reachable, allocated, reserved, available, ?_⟩
  intro partitioned
  have total := partitioned.total
  omega

end PortGauges
