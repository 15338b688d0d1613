import Mathlib.Data.List.Dedup
import Mathlib.Data.List.Perm.Subperm
import NetPort.RateLimits
import NetPort.StepRuns

/-! The entries of the rate-limit table over any sequence of calls of `check_rate_limit`: which
entry a call uses, and what of the earlier calls that entry knows. -/
namespace RateLimits

open StepRuns

/-- The arguments of one call; the address is only logged. -/
structure Check where
  key : CString
  moment : Moment
  deriving DecidableEq

def checks (cfg : Config) : System Table Check where
  initial t := t = .initial
  enabled _ _ := True
  next t c := (checkRateLimit cfg c.moment c.key t).2

instance (cfg : Config) (t : Table) (c : Check) : Decidable ((checks cfg).enabled t c) :=
  inferInstanceAs (Decidable True)

/-- The steps of a run: the table that a call finds, and the call. -/
abbrev Log := List (Table × Check)

def consulted (key : CString) (now : ℤ) (found : Option Entry) : Entry :=
  found.getD (.new key now)

/-- The call lets a request through for want of memory and leaves no entry. -/
def Unrecorded (t : Table) (c : Check) : Prop :=
  lookup t.entries c.key = none ∧ t.capacity ≤ t.entries.length ∧ c.moment.memory = false

instance (t : Table) (c : Check) : Decidable (Unrecorded t c) :=
  inferInstanceAs (Decidable (_ ∧ _ ∧ _))

/-- The index of the entry that the call works on; a new one comes behind the others. -/
def usedEntry (e : Table × Check) : Option ℕ :=
  if Unrecorded e.1 e.2 then none else some (e.1.entries.findIdx (·.key = e.2.key))

def account (cfg : Config) (key : CString) (log : Log) : Option Entry :=
  (log.filter (·.2.key = key)).foldl (fun found e =>
    some (limit cfg e.2.moment.now (consulted key e.2.moment.now found)).2) none

/-- The table has no more entries than there are keys, calls with one key use one entry and calls
with two keys never do, and a call is judged as if only the calls with its key had been made. -/
structure Keyed (cfg : Config) (log : Log) (t : Table) : Prop where
  entries : t.entries.length ≤ (log.map (·.2.key)).dedup.length
  one : ∀ e ∈ log, ∀ e' ∈ log, e.2.key = e'.2.key → usedEntry e = usedEntry e'
  unshared : ∀ e ∈ log, ∀ e' ∈ log, ∀ i, usedEntry e = some i → usedEntry e' = some i →
    e.2.key = e'.2.key
  judged : ∀ earlier later e, log = earlier ++ e :: later →
    (checkRateLimit cfg e.2.moment e.2.key e.1).1 =
      (limit cfg e.2.moment.now
        (consulted e.2.key e.2.moment.now (account cfg e.2.key earlier))).1

def Growing (log : Log) : Prop := ∀ e ∈ log, e.2.moment.memory = true

instance (log : Log) : Decidable (Growing log) := inferInstanceAs (Decidable (∀ _ ∈ log, _))

/-- The key fits into an entry, and the call finds or makes one. -/
def Fits (t : Table) (c : Check) : Prop := c.key.length ≤ 63 ∧ ¬ Unrecorded t c

instance (t : Table) (c : Check) : Decidable (Fits t c) := inferInstanceAs (Decidable (_ ∧ _))

/-- As `Fits`, for the calls that may make an entry with this key. -/
def Keeps (key : CString) (t : Table) (c : Check) : Prop :=
  if c.key = key then ¬ Unrecorded t c else c.key.take 63 = key → lookup t.entries key ≠ none

variable {cfg : Config} {key k : CString} {now : ℤ} {es : List Entry} {t : Table} {c : Check}
  {log earlier later : Log} {e : Table × Check}

theorem touch_keys {answer : Bool × List Entry} (touched : touch cfg now key es = some answer) :
    answer.2.map Entry.key = es.map Entry.key := by
  induction es generalizing answer with
  | nil => cases touched
  | cons e es ih =>
    simp only [touch] at touched
    split at touched
    · cases touched
      simp
    · obtain ⟨rest, touched', rfl⟩ := Option.map_eq_some_iff.1 touched
      simp [ih touched']

theorem check_found {entry : Entry} (cfg : Config) (found : lookup t.entries c.key = some entry) :
    (checkRateLimit cfg c.moment c.key t).1 = (limit cfg c.moment.now entry).1 ∧
      (checkRateLimit cfg c.moment c.key t).2.entries.map Entry.key = t.entries.map Entry.key ∧
      ∀ k, lookup (checkRateLimit cfg c.moment c.key t).2.entries k =
        if c.key = k then some (limit cfg c.moment.now entry).2 else lookup t.entries k := by
  obtain ⟨es, touched, changed⟩ := touch_some cfg c.moment.now found
  unfold checkRateLimit
  simp only [touched, true_and]
  exact ⟨touch_keys touched, changed⟩

theorem check_new (cfg : Config) (absent : lookup t.entries c.key = none)
    (recorded : ¬ Unrecorded t c) :
    (checkRateLimit cfg c.moment c.key t).1 =
        (limit cfg c.moment.now (.new c.key c.moment.now)).1 ∧
      (checkRateLimit cfg c.moment c.key t).2.entries =
        t.entries ++ [(limit cfg c.moment.now (.new c.key c.moment.now)).2] := by
  have room : ¬ (t.capacity ≤ t.entries.length ∧ c.moment.memory = false) :=
    fun full => recorded ⟨absent, full⟩
  unfold checkRateLimit
  simp only [touch_none cfg c.moment.now absent, if_neg room, true_and]

theorem check_unrecorded (cfg : Config) (unrecorded : Unrecorded t c) :
    checkRateLimit cfg c.moment c.key t = (true, t) := by
  unfold checkRateLimit
  simp only [touch_none cfg c.moment.now unrecorded.1, if_pos unrecorded.2]

theorem check_verdict (cfg : Config) (recorded : ¬ Unrecorded t c) :
    (checkRateLimit cfg c.moment c.key t).1 =
      (limit cfg c.moment.now (consulted c.key c.moment.now (lookup t.entries c.key))).1 := by
  cases found : lookup t.entries c.key with
  | some entry => exact (check_found cfg found).1
  | none => exact (check_new cfg found recorded).1

theorem lookup_next (cfg : Config) (keeps : Keeps key t c) (short : key.length ≤ 63) :
    lookup ((checks cfg).next t c).entries key =
      if c.key = key then
        some (limit cfg c.moment.now (consulted key c.moment.now (lookup t.entries key))).2
      else lookup t.entries key := by
  unfold Keeps at keeps
  simp only [checks]
  by_cases same : c.key = key
  · rw [if_pos same] at keeps ⊢
    subst same
    cases found : lookup t.entries c.key with
    | some entry => rw [(check_found cfg found).2.2, if_pos rfl, consulted, Option.getD_some]
    | none =>
      have stored : (limit cfg c.moment.now (.new c.key c.moment.now)).2.key = c.key := by
        rw [limit_key]
        exact List.take_of_length_le short
      rw [(check_new cfg found keeps).2, lookup_append, found, if_pos stored]
      rfl
  · rw [if_neg same] at keeps ⊢
    cases found : lookup t.entries c.key with
    | some entry => rw [(check_found cfg found).2.2, if_neg same]
    | none =>
      by_cases unrecorded : Unrecorded t c
      · rw [check_unrecorded cfg unrecorded]
      · rw [(check_new cfg found unrecorded).2, lookup_append, limit_key]
        by_cases stray : c.key.take 63 = key
        · obtain ⟨entry, present⟩ := Option.ne_none_iff_exists'.1 (keeps stray)
          rw [present, Option.some_or]
        · rw [if_neg (by exact stray), Option.or_none]

theorem account_snoc (cfg : Config) (key : CString) (log : Log) (e : Table × Check) :
    account cfg key (log ++ [e]) =
      if e.2.key = key then
        some (limit cfg e.2.moment.now (consulted key e.2.moment.now (account cfg key log))).2
      else account cfg key log := by
  unfold account
  rw [List.filter_append, List.foldl_append]
  by_cases same : e.2.key = key
  · simp [same]
  · simp [same]

/-- The entry of a key is the account of the calls with this key. -/
theorem lookup_account (run : (checks cfg).Run log t) (short : key.length ≤ 63)
    (keeps : ∀ e ∈ log, Keeps key e.1 e.2) : lookup t.entries key = account cfg key log := by
  induction run with
  | start initial =>
    rw [show _ = Table.initial from initial]
    rfl
  | @step log t c run _ ih =>
    have before := ih fun e mem => keeps e (List.mem_append_left _ mem)
    have here : Keeps key t c := keeps (t, c) (by simp)
    rw [lookup_next cfg here short, account_snoc, before]

theorem Fits.keeps (fits : Fits t c) (key : CString) : Keeps key t c := by
  unfold Keeps
  split
  · exact fits.2
  · rename_i other
    intro stored
    rw [List.take_of_length_le fits.1] at stored
    exact absurd stored other

theorem lookup_none_iff : lookup es k = none ↔ k ∉ es.map Entry.key := by
  simp [lookup]

theorem keys_next (cfg : Config) (fits : Fits t c) :
    ((checks cfg).next t c).entries.map Entry.key =
      t.entries.map Entry.key ++
        if c.key ∈ t.entries.map Entry.key then [] else [c.key] := by
  simp only [checks]
  cases found : lookup t.entries c.key with
  | some entry =>
    have mem : c.key ∈ t.entries.map Entry.key := by
      by_contra absent
      rw [lookup_none_iff.2 absent] at found
      cases found
    rw [if_pos mem, List.append_nil]
    exact (check_found cfg found).2.1
  | none =>
    rw [if_neg (lookup_none_iff.1 found), (check_new cfg found fits.2).2, List.map_append,
      List.map_singleton, limit_key]
    simp [Entry.new, List.take_of_length_le fits.1]

/-- The entry that a call works on is one with its key, and stays where it is. -/
structure Placed (log : Log) (t : Table) : Prop where
  nodup : (t.entries.map Entry.key).Nodup
  presented : ∀ key ∈ t.entries.map Entry.key, ∃ e ∈ log, e.2.key = key
  used : ∀ e ∈ log, ∃ i, usedEntry e = some i ∧ (t.entries.map Entry.key)[i]? = some e.2.key

theorem usedEntry_found (fits : Fits t c) (cfg : Config) :
    ∃ i, usedEntry (t, c) = some i ∧
      (((checks cfg).next t c).entries.map Entry.key)[i]? = some c.key := by
  refine ⟨_, if_neg fits.2, ?_⟩
  rw [keys_next cfg fits]
  by_cases mem : c.key ∈ t.entries.map Entry.key
  · have inside : t.entries.findIdx (·.key = c.key) < t.entries.length := by
      rw [List.findIdx_lt_length]
      simpa using mem
    rw [if_pos mem, List.append_nil, List.getElem?_map, List.getElem?_eq_getElem inside]
    have here := List.findIdx_getElem (w := inside)
    simpa using here
  · have outside : t.entries.findIdx (·.key = c.key) = (t.entries.map Entry.key).length := by
      rw [List.length_map, List.findIdx_eq_length]
      simpa using mem
    rw [if_neg mem, outside]
    simp

theorem placed (run : (checks cfg).Run log t) (fits : ∀ e ∈ log, Fits e.1 e.2) : Placed log t := by
  induction run with
  | start initial =>
    rw [show _ = Table.initial from initial]
    constructor <;> simp [Table.initial]
  | @step log t c run _ ih =>
    obtain ⟨nodup, presented, used⟩ := ih fun e mem => fits e (List.mem_append_left _ mem)
    have here : Fits t c := fits (t, c) (by simp)
    have keys := keys_next cfg here
    constructor
    · rw [keys]
      by_cases mem : c.key ∈ t.entries.map Entry.key
      · rwa [if_pos mem, List.append_nil]
      · rw [if_neg mem]
        refine List.nodup_append.2 ⟨nodup, by simp, fun key inTable key' new => ?_⟩
        rw [List.mem_singleton.1 new]
        exact fun same => mem (same ▸ inTable)
    · intro key mem
      rw [keys, List.mem_append] at mem
      rcases mem with old | new
      · obtain ⟨e, inLog, same⟩ := presented key old
        exact ⟨e, List.mem_append_left _ inLog, same⟩
      · refine ⟨(t, c), by simp, ?_⟩
        split at new
        · cases new
        · exact (List.mem_singleton.1 new).symm
    · intro e mem
      rcases List.mem_append.1 mem with old | new
      · obtain ⟨i, index, there⟩ := used e old
        refine ⟨i, index, ?_⟩
        rw [keys, List.getElem?_append_left (List.getElem?_eq_some_iff.1 there).1, there]
      · rw [List.mem_singleton.1 new]
        exact usedEntry_found here cfg

/-- In a run whose keys all fit, and all of whose calls find or make an entry, every key has its own
entry and is judged by its own calls. -/
theorem entries_keyed (cfg : Config) (run : (checks cfg).Run log t)
    (fits : ∀ e ∈ log, Fits e.1 e.2) : Keyed cfg log t := by
  have place := placed run fits
  constructor
  · have presented : t.entries.map Entry.key ⊆ (log.map (·.2.key)).dedup := by
      intro key mem
      obtain ⟨e, inLog, same⟩ := place.presented key mem
      exact List.mem_dedup.2 (List.mem_map.2 ⟨e, inLog, same⟩)
    have few := (place.nodup.subperm presented).length_le
    rwa [List.length_map] at few
  · intro e mem e' mem' same
    obtain ⟨i, index, there⟩ := place.used e mem
    obtain ⟨i', index', there'⟩ := place.used e' mem'
    obtain ⟨inside, value⟩ := List.getElem?_eq_some_iff.1 there
    obtain ⟨inside', value'⟩ := List.getElem?_eq_some_iff.1 there'
    rw [← same] at value'
    rw [index, index', place.nodup.getElem_inj_iff.1 (value.trans value'.symm)]
  · intro e mem e' mem' i index index'
    obtain ⟨j, used, there⟩ := place.used e mem
    obtain ⟨j', used', there'⟩ := place.used e' mem'
    cases used.symm.trans index
    cases used'.symm.trans index'
    exact Option.some_inj.1 (there.symm.trans there')
  · intro earlier later e steps
    subst steps
    have fit := fits e (by simp)
    have before := lookup_account run.split.1 fit.1
      fun e' mem => (fits e' (List.mem_append_left _ mem)).keeps _
    rw [check_verdict cfg fit.2, before]

/-- A key that does not fit is not found again, whatever was called. -/
theorem lookup_long (long : 63 < key.length) : lookup es key = none := by
  by_contra found
  obtain ⟨entry, found⟩ := Option.ne_none_iff_exists'.1 found
  have cut := congrArg List.length (short_of_lookup found)
  rw [List.length_take] at cut
  omega

theorem long_allowed (long : 63 < c.key.length) (some_ : 0 < cfg.maxRequests)
    (epoch : 0 ≤ c.moment.now) (t : Table) :
    (checkRateLimit cfg c.moment c.key t).1 = true := by
  have absent : lookup t.entries c.key = none := lookup_long long
  by_cases unrecorded : Unrecorded t c
  · rw [check_unrecorded cfg unrecorded]
  · rw [(check_new cfg absent unrecorded).1]
    have free : ¬ c.moment.now < 0 := by omega
    have room : ¬ cfg.maxRequests ≤ 0 := by omega
    simp [limit, Entry.new, free, room]

namespace Sample

/-- The id of a device with 63 characters; one with an `a` more has as many as an id may have. -/
def deviceId : CString := List.replicate 63 'a'

def calls (keys : List CString) : List Check := keys.map fun key => ⟨key, 1000, true⟩

end Sample

theorem two_devices_keyed : ∃ log t, (checks .initial).Run log t ∧
    log.length = 3 ∧ Keyed .initial log t := by
  obtain ⟨log, t, run, test⟩ := (System.Run.start (m := checks .initial) rfl).follow_any
    (Sample.calls [Sample.deviceId, ['d'], Sample.deviceId])
    (fun r => decide (r.1.length = 3) && decide (∀ e ∈ r.1, Fits e.1 e.2)) (by decide +kernel)
  simp only [Bool.and_eq_true, decide_eq_true_eq] at test
  exact ⟨log, t, run, test.1, entries_keyed .initial run test.2⟩

/-- Two calls for a device with an id of 64 characters. -/
theorem long_id_twice : ¬ ∀ (cfg : Config) (log : Log) (t : Table),
    (checks cfg).Run log t → Growing log → Keyed cfg log t := by
  intro always
  obtain ⟨log, t, run, test⟩ := (System.Run.start (m := checks .initial) rfl).follow_any
    (Sample.calls (List.replicate 2 (Sample.deviceId ++ ['a'])))
    (fun r => decide (Growing r.1) &&
      decide ((r.1.map (·.2.key)).dedup.length < r.2.entries.length)) (by decide +kernel)
  simp only [Bool.and_eq_true, decide_eq_true_eq] at test
  have few := (always .initial log t run test.1).entries
  omega

end RateLimits
