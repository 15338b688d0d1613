import Mathlib.Algebra.Group.Pi.Basic
import Mathlib.Algebra.Group.Prod
import NetPort.DeviceManager

/-! Three stores of the traffic of a device: its totals, its hourly rows and its samples, and
what the statements of the traffic requests add to each of them. -/
namespace TrafficStores

open Relation StatementPrograms SqlUpdate DeviceTables ProxyRuntimes DeviceManager

variable {cfg : Config} {db db' db₀ : Db} {s t s₀ : State} {x : Uuid} {token : String}

/-! Bytes are pairs: sent, received. -/

def deviceTotals (x : Uuid) (db : Db) : ℕ × ℕ :=
  total (·.id) (fun d : Device => (d.totalBytesSent, d.totalBytesReceived)) x db.devices

def hourlyTotals (x : Uuid) (db : Db) : ℕ × ℕ :=
  total (·.deviceId) (fun r : HourlyStatistics => (r.bytesSent, r.bytesReceived)) x db.statistics

def sampleTotals (x : Uuid) (db : Db) : ℕ × ℕ :=
  total (·.deviceId) (fun r : TrafficSample => (r.bytesSentDelta, r.bytesReceivedDelta)) x db.samples

/-- The keys of the schema: primary keys, unique columns and the sessions' foreign key. -/
structure Keys (db : Db) : Prop where
  devices : (db.devices.map (·.id)).Nodup
  tokens : (db.sessions.map (·.sessionToken)).Nodup
  owners : ∀ u ∈ db.sessions, u.deviceId ∈ db.devices.map (·.id)
  hours : (db.statistics.map fun r => (r.deviceId, r.periodStart)).Nodup

def owner (token : String) (db : Db) : Option Uuid := (activeSession token db).map (·.deviceId)

def credit (who : Option Uuid) (bytes : ℕ × ℕ) (x : Uuid) : ℕ × ℕ :=
  if who = some x then bytes else 0

def ident (u : Session) : Uuid × Uuid × String × SessionStatus :=
  (u.id, u.deviceId, u.sessionToken, u.status)

theorem owner_congr (h : db.sessions.map ident = db₀.sessions.map ident) (token : String) :
    owner token db = owner token db₀ := by
  have factor (sessions : List Session) : (sessions.find? (·.named token)).map (·.deviceId) =
      ((sessions.map ident).find? fun c => c.2.2.1 == token && c.2.2.2 == .active).map (·.2.1) := by
    rw [List.find?_map, Option.map_map]
    rfl
  unfold owner activeSession
  rw [factor, factor, h]

/-- The sums grew by these amounts since `db₀`, and the keys are the same. -/
structure Grown (db₀ : Db) (totals hourly samples : Uuid → ℕ × ℕ) (db : Db) : Prop where
  keys : Keys db
  sessions : db.sessions.map ident = db₀.sessions.map ident
  inTotals : ∀ x, deviceTotals x db = deviceTotals x db₀ + totals x
  inHourly : ∀ x, hourlyTotals x db = hourlyTotals x db₀ + hourly x
  inSamples : ∀ x, sampleTotals x db = sampleTotals x db₀ + samples x

theorem Grown.start (h : Keys db) : Grown db 0 0 0 db :=
  ⟨h, rfl, fun _ => (add_zero _).symm, fun _ => (add_zero _).symm, fun _ => (add_zero _).symm⟩

variable {a b c : Uuid → ℕ × ℕ} {sent received connections : ℕ}

theorem Grown.owner (h : Grown db₀ a b c db) (token : String) :
    owner token db = TrafficStores.owner token db₀ := owner_congr h.sessions token

theorem Grown.same (h : Grown db₀ a b c db)
    (sessions : db'.sessions.map ident = db.sessions.map ident)
    (devices : db'.devices.map (·.id) = db.devices.map (·.id))
    (totals : ∀ x, deviceTotals x db' = deviceTotals x db)
    (statistics : db'.statistics = db.statistics)
    (samples : db'.samples = db.samples) : Grown db₀ a b c db' := by
  have tokens (rows : List Session) : rows.map (·.sessionToken) = (rows.map ident).map (·.2.2.1) := by
    simp [Function.comp_def, ident]
  have owners (rows : List Session) : rows.map (·.deviceId) = (rows.map ident).map (·.2.1) := by
    simp [Function.comp_def, ident]
  refine ⟨⟨?_, ?_, ?_, ?_⟩, sessions.trans h.sessions, ?_, ?_, ?_⟩
  · rw [devices]
    exact h.keys.devices
  · rw [tokens, sessions, ← tokens]
    exact h.keys.tokens
  · intro u hu
    have mem : u.deviceId ∈ db.sessions.map (·.deviceId) := by
      rw [owners, ← sessions, ← owners]
      exact List.mem_map_of_mem hu
    obtain ⟨v, hv, e⟩ := List.mem_map.1 mem
    rw [devices, ← e]
    exact h.keys.owners v hv
  · rw [statistics]
    exact h.keys.hours
  · exact fun x => (totals x).trans (h.inTotals x)
  · intro x
    rw [hourlyTotals, statistics]
    exact h.inHourly x
  · intro x
    rw [sampleTotals, samples]
    exact h.inSamples x

/-- Exactly one row has a key that occurs in a column without duplicates. -/
theorem countP_key {α κ : Type} [DecidableEq κ] {key : α → κ} {rows : List α} {k : κ}
    (nodup : (rows.map key).Nodup) (mem : k ∈ rows.map key) :
    rows.countP (fun r => decide (key r = k)) = 1 := by
  have once := List.count_eq_one_of_mem nodup mem
  rw [List.count, List.countP_map] at once
  rw [← once]
  exact List.countP_congr fun r _ => by simp

/-- An update of the row of one key adds to the sum of that key alone. -/
theorem total_update_owner {α : Type} {key : α → Uuid} {column : α → ℕ × ℕ} {set : α → α}
    {cond : α → Bool} {bytes : ℕ × ℕ} {rows : List α} {who : Option Uuid}
    (sameKey : ∀ r, key (set r) = key r) (adds : ∀ r, column (set r) = column r + bytes)
    (hits : ∀ r ∈ rows, cond r = true → who = some (key r))
    (once : ∀ x, who = some x → rows.countP (fun r => decide (key r = x) && cond r) = 1) (x : Uuid) :
    total key column x (updateRows cond set rows) = total key column x rows + credit who bytes x := by
  rw [total_updateRows_add sameKey adds]
  by_cases own : who = some x
  · rw [once x own, credit, if_pos own, one_nsmul]
  · have none : rows.countP (fun r => decide (key r = x) && cond r) = 0 := by
      rw [List.countP_eq_zero]
      intro r hr both
      obtain ⟨same, hit⟩ := Bool.and_eq_true_iff.1 both
      rw [decide_eq_true_eq] at same
      exact own (same ▸ hits r hr hit)
    rw [none, credit, if_neg own, zero_nsmul]

theorem mem_of_activeSession {u : Session} (h : activeSession token db = some u) :
    u ∈ db.sessions ∧ u.sessionToken = token ∧ u.status = .active := by
  have named := List.find?_some h
  simp only [Session.named, Bool.and_eq_true, beq_iff_eq] at named
  exact ⟨List.mem_of_find?_eq_some h, named⟩

theorem owner_mem (h : Keys db) (own : owner token db = some x) : x ∈ db.devices.map (·.id) := by
  obtain ⟨u, hu, rfl⟩ := Option.map_eq_some_iff.1 own
  exact h.owners u (mem_of_activeSession hu).1

theorem ownsToken_iff (d : Device) : ownsToken token db d = true ↔ owner token db = some d.id := by
  simp [ownsToken, owner, Option.any_eq_true]

theorem Grown.addDeviceTotals (h : Grown db₀ a b c db)
    (e : addDeviceTotals token sent received db = some db') :
    Grown db₀ (a + credit (TrafficStores.owner token db₀) (sent, received)) b c db' := by
  obtain ⟨_, rfl⟩ := addDeviceTotals_spec e
  let add := fun d : Device => { d with
    totalBytesSent := d.totalBytesSent + sent
    totalBytesReceived := d.totalBytesReceived + received }
  have ids : (updateRows (ownsToken token db) add db.devices).map (·.id) =
      db.devices.map (·.id) := by
    apply map_updateRows
    exact fun _ => rfl
  have grown (x : Uuid) : deviceTotals x { db with
      devices := updateRows (ownsToken token db) add db.devices } =
      deviceTotals x db + credit (TrafficStores.owner token db) (sent, received) x := by
    apply total_update_owner
    · exact fun _ => rfl
    · exact fun _ => rfl
    · exact fun d _ hit => (ownsToken_iff d).1 hit
    · intro x own
      rw [← countP_key h.keys.devices (owner_mem h.keys own)]
      apply List.countP_congr
      intro d _
      by_cases same : d.id = x
      · simp [same, (ownsToken_iff d).2 (same ▸ own)]
      · simp [same]
  refine ⟨⟨?_, h.keys.tokens, ?_, h.keys.hours⟩, h.sessions, ?_, h.inHourly, h.inSamples⟩
  · change ((updateRows (ownsToken token db) add db.devices).map (·.id)).Nodup
    rw [ids]
    exact h.keys.devices
  · intro u hu
    change u.deviceId ∈ (updateRows (ownsToken token db) add db.devices).map (·.id)
    rw [ids]
    exact h.keys.owners u hu
  · intro x
    rw [Pi.add_apply, ← add_assoc, ← h.inTotals x, ← h.owner token]
    exact grown x

theorem hour_once (h : Keys db) {hour : ℕ}
    (mem : ∃ r ∈ db.statistics, r.deviceId = x ∧ r.periodStart = hour) :
    db.statistics.countP (fun r => decide (r.deviceId = x) &&
      (r.deviceId == x && r.periodStart == hour)) = 1 := by
  obtain ⟨r, hr, device, start⟩ := mem
  have listed : (x, hour) ∈ db.statistics.map fun r => (r.deviceId, r.periodStart) :=
    List.mem_map.2 ⟨r, hr, by rw [device, start]⟩
  rw [← countP_key h.hours listed]
  apply List.countP_congr
  intro r _
  simp

theorem Grown.upsertHourly (h : Grown db₀ a b c db)
    (e : upsertHourly token sent received connections db = some db') :
    Grown db₀ a (b + credit (TrafficStores.owner token db₀) (sent, received)) c db' := by
  simp only [DeviceTables.upsertHourly, Option.bind_eq_bind, Option.bind_eq_some_iff,
    bigint_eq_some, integer_eq_some] at e
  obtain ⟨_, ⟨_, rfl⟩, _, ⟨_, rfl⟩, _, _, e⟩ := e
  have own : TrafficStores.owner token db = TrafficStores.owner token db₀ := h.owner token
  split at e
  · rename_i none
    cases e
    have nobody : TrafficStores.owner token db₀ = Option.none := by
      rw [← own, TrafficStores.owner, none]
      rfl
    refine ⟨h.keys, h.sessions, h.inTotals, ?_, h.inSamples⟩
    intro x
    rw [h.inHourly x, Pi.add_apply, nobody]
    simp [credit]
  · rename_i u active
    have owned : TrafficStores.owner token db = some u.deviceId := by
      rw [TrafficStores.owner, active]
      rfl
    split at e
    · rename_i exists_
      split at e
      · cases e
        have mem : ∃ r ∈ db.statistics, r.deviceId = u.deviceId ∧
            r.periodStart = hourStart db.now := by simpa using exists_
        refine ⟨⟨h.keys.devices, h.keys.tokens, h.keys.owners, ?_⟩, h.sessions, h.inTotals, ?_,
          h.inSamples⟩
        · change (List.map _ (updateRows _ _ db.statistics)).Nodup
          rw [map_updateRows]
          · exact h.keys.hours
          · exact fun _ => rfl
        · intro x
          rw [Pi.add_apply, ← add_assoc, ← h.inHourly x, ← own]
          apply total_update_owner
          · exact fun _ => rfl
          · exact fun _ => rfl
          · intro r _ hit
            rw [owned, beq_iff_eq.1 (Bool.and_eq_true_iff.1 hit).1]
          · intro y isOwner
            obtain rfl : u.deviceId = y := Option.some.inj (owned.symm.trans isOwner)
            exact hour_once h.keys mem
      · exact absurd e (by simp)
    · rename_i absent
      cases e
      refine ⟨⟨h.keys.devices, h.keys.tokens, h.keys.owners, ?_⟩, h.sessions, h.inTotals, ?_,
        h.inSamples⟩
      · rw [List.map_append]
        apply List.Nodup.append h.keys.hours (by simp)
        simp only [List.map_cons, List.map_nil, List.disjoint_singleton, List.mem_map]
        rintro ⟨r, hr, same⟩
        obtain ⟨device, start⟩ := Prod.mk.inj same
        exact absent (List.any_eq_true.2 ⟨r, hr, by simp [device, start]⟩)
      · intro x
        rw [Pi.add_apply, ← add_assoc, ← h.inHourly x, ← own, owned]
        change total _ _ x (db.statistics ++ [_]) = _
        rw [total_append]
        congr 1
        by_cases same : u.deviceId = x <;> simp [total, credit, same]

theorem Grown.insertSample (h : Grown db₀ a b c db)
    (e : insertSample token sent received connections db = some db') :
    Grown db₀ a b (c + credit (TrafficStores.owner token db₀) (sent, received)) db' := by
  obtain ⟨_, rfl⟩ := insertSample_spec e
  refine ⟨⟨h.keys.devices, h.keys.tokens, h.keys.owners, h.keys.hours⟩, h.sessions, h.inTotals,
    h.inHourly, ?_⟩
  intro x
  rw [Pi.add_apply, ← add_assoc, ← h.inSamples x, ← h.owner token]
  change total _ _ x (db.samples ++ _) = _
  rw [total_append]
  congr 1
  -- the token is unique, so at most one session is sampled
  have named : ∀ u : Session, u.named token = true → u.sessionToken = token := by
    intro u hu
    simpa using (Bool.and_eq_true_iff.1 hu).1
  rw [filter_unique named h.keys.tokens]
  change total _ _ x ((activeSession token db).toList.map _) = _
  cases active : activeSession token db with
  | none => simp [TrafficStores.owner, active, total, credit]
  | some u =>
    by_cases same : u.deviceId = x <;> simp [TrafficStores.owner, active, total, credit, same]

/-- The statements of a heartbeat or a `statistics` request that add to none of the stores. -/
def Quiet : Cmd → Prop
  | .addSessionTraffic _ _ _ _ => True
  | .deleteOldSamples => True
  | c => Beat c

theorem quiet_of_beat (c : Cmd) (h : Beat c) : Quiet c := by
  cases c <;> trivial

def NothingOld : Cmd → State → Prop
  | .deleteOldSamples, s => ∀ r ∈ s.db.samples, s.db.now ≤ r.recordedAt + 8 * 86400
  | _, _ => True

instance decidableNothingOld (cmd : Cmd) (s : State) : Decidable (NothingOld cmd s) := by
  rcases cmd <;> dsimp only [NothingOld] <;> infer_instance

theorem Grown.quiet (h : Grown db₀ a b c s.db) (cmd : Cmd) {r : Res cmd} (quiet : Quiet cmd)
    (recent : NothingOld cmd s) (e : interp cfg cmd s = some (t, r)) : Grown db₀ a b c t.db := by
  cases cmd with
  | touchSession token =>
    cases e
    apply h.same
    · apply map_updateRows
      exact fun _ => rfl
    · rfl
    · exact fun _ => rfl
    · rfl
    · rfl
  | touchDevice token =>
    cases e
    apply h.same
    · rfl
    · apply map_updateRows
      exact fun _ => rfl
    · intro x
      apply total_updateRows
      · exact fun _ => rfl
      · exact fun _ => rfl
    · rfl
    · rfl
  | addSessionTraffic token sent received connections =>
    obtain ⟨db', hdb, e⟩ := Option.map_eq_some_iff.1 e
    cases e
    obtain ⟨_, rfl⟩ := addSessionTraffic_spec hdb
    apply h.same
    · apply map_updateRows
      exact fun _ => rfl
    · rfl
    · exact fun _ => rfl
    · rfl
    · rfl
  | deleteOldSamples =>
    cases e
    have none : deleteOldSamples s.db = s.db := by
      have all : s.db.samples.filter (fun r => !(r.recordedAt + 8 * 86400 < s.db.now : Bool)) =
          s.db.samples := by
        rw [List.filter_eq_self]
        intro r hr
        have := recent r hr
        simpa using this
      rw [deleteOldSamples, all]
    change Grown db₀ a b c (deleteOldSamples s.db)
    rw [none]
    exact h
  | getDbConnection => cases e; exact h
  | time => cases e; exact h
  | validateSessionTokenSecurity token clientIp => cases e; exact h
  | sessionByToken token => cases e; exact h
  | loadDevice deviceId => cases e; exact h
  | ensureDynamicServer deviceId inputPort tunnelPort info => cases e; exact h
  | consumeTlsReloadPending deviceId => cases e; exact h
  | _ => exact absurd quiet id

end TrafficStores
