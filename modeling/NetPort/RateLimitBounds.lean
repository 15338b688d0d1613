import NetPort.RateLimitKeys
import NetPort.WindowLimits

/-! How many calls of `check_rate_limit` with one key are allowed, and which are refused, among
calls with any other keys. -/
namespace RateLimits

open StepRuns WindowLimits

def Config.limits (cfg : Config) : Limits where
  window := cfg.windowSeconds
  max := cfg.maxRequests
  penalty := cfg.penaltySeconds

def Entry.counter (e : Entry) : Counter where
  start := e.windowStart
  count := e.requestCount
  blockedUntil := e.penaltyUntil

/-- The three ways out of a call: it is allowed, it is logged as `rate_limit_penalty`, or it is
logged as `rate_limit_exceeded`. -/
def verdict (cfg : Config) (e : Table × Check) : Verdict :=
  let now := e.2.moment.now
  if (checkRateLimit cfg e.2.moment e.2.key e.1).1 then .allowed
  else if now < (consulted e.2.key now (lookup e.1.entries e.2.key)).penaltyUntil then .blocked
  else .exceeded

def history (cfg : Config) (key : CString) (log : Log) : History :=
  (log.filter (·.2.key = key)).map fun e => (e.2.moment.now, verdict cfg e)

structure Limited (cfg : Config) (key : CString) (log : Log) : Prop where
  window : ∀ a, within a cfg.windowSeconds (timesOf .allowed (history cfg key log)) ≤
    2 * cfg.maxRequests
  penalty : ∀ earlier later e, log = earlier ++ e :: later → e.2.key = key →
    verdict cfg e = .allowed → ∀ s ∈ timesOf .exceeded (history cfg key earlier),
      s + cfg.penaltySeconds ≤ e.2.moment.now

/-- A call with the key is refused for as many calls with the key as are allowed, or in the penalty
for such a refusal. -/
structure Justified (cfg : Config) (key : CString) (log : Log) : Prop where
  exceeded : ∀ earlier later e, log = earlier ++ e :: later → e.2.key = key →
    verdict cfg e = .exceeded → cfg.maxRequests ≤
      recent e.2.moment.now cfg.windowSeconds (timesOf .allowed (history cfg key earlier))
  blocked : ∀ earlier later e, log = earlier ++ e :: later → e.2.key = key →
    verdict cfg e = .blocked → 0 ≤ e.2.moment.now →
      ∃ s ∈ timesOf .exceeded (history cfg key earlier), e.2.moment.now < s + cfg.penaltySeconds

def Nondecreasing (log : Log) : Prop := log.Pairwise fun e e' => e.2.moment.now ≤ e'.2.moment.now

instance (log : Log) : Decidable (Nondecreasing log) :=
  inferInstanceAs (Decidable (List.Pairwise _ log))

/-- A call with another key that an entry cuts down to this key finds an entry of this key. -/
def Stored (key : CString) (t : Table) (c : Check) : Prop :=
  c.key ≠ key → c.key.take 63 = key → lookup t.entries key ≠ none

instance (key : CString) (t : Table) (c : Check) : Decidable (Stored key t c) :=
  inferInstanceAs (Decidable (_ → _ → _))

variable {cfg : Config} {key : CString} {now : ℤ} {t : Table} {c : Check} {log earlier later : Log}
  {e : Table × Check}

theorem limit_judge (cfg : Config) (now : ℤ) (e : Entry) :
    (limit cfg now e).1 = decide ((e.counter.judge cfg.limits now).1 = .allowed) ∧
      (limit cfg now e).2.counter = (e.counter.judge cfg.limits now).2 := by
  unfold limit Counter.judge Counter.reset
  simp only [Entry.counter, Config.limits]
  by_cases blocked : now < e.penaltyUntil
  · simp [blocked]
  · by_cases lapsed : (cfg.windowSeconds : ℤ) ≤ now - e.windowStart
    · by_cases none : cfg.maxRequests ≤ 0
      · simp [blocked, lapsed, none]
      · simp [blocked, lapsed, none]
    · by_cases many : cfg.maxRequests ≤ e.requestCount
      · simp [blocked, lapsed, many]
      · simp [blocked, lapsed, many]

theorem judge_blocked (l : Limits) (now : ℤ) (c : Counter) :
    (c.judge l now).1 = .blocked ↔ now < c.blockedUntil := by
  unfold Counter.judge
  split
  · rename_i blocked
    simp [blocked]
  · rename_i free
    dsimp only
    split <;> simp [free]

theorem verdict_judge (cfg : Config) (recorded : ¬ Unrecorded t c) :
    verdict cfg (t, c) =
      ((consulted c.key c.moment.now (lookup t.entries c.key)).counter.judge cfg.limits
        c.moment.now).1 := by
  unfold verdict
  dsimp only
  rw [check_verdict cfg recorded, (limit_judge _ _ _).1]
  generalize consulted c.key c.moment.now (lookup t.entries c.key) = entry
  cases judged : (entry.counter.judge cfg.limits c.moment.now).1 with
  | allowed => simp
  | blocked =>
    have inside : c.moment.now < entry.penaltyUntil := (judge_blocked _ _ _).1 judged
    simp [inside]
  | exceeded =>
    have outside : ¬ c.moment.now < entry.penaltyUntil := fun inside => by
      rw [(judge_blocked _ _ entry.counter).2 inside] at judged
      cases judged
    simp [outside]

theorem history_snoc (cfg : Config) (key : CString) (log : Log) (e : Table × Check) :
    history cfg key (log ++ [e]) =
      history cfg key log ++ if e.2.key = key then [(e.2.moment.now, verdict cfg e)] else [] := by
  unfold history
  rw [List.filter_append, List.map_append]
  by_cases same : e.2.key = key
  · simp [same]
  · simp [same]

/-- The entry of a key, if there is one, keeps the bounds and started at the time of a call; with
none there were no calls. -/
structure Ledger (cfg : Config) (key : CString) (log : Log) (t : Table) : Prop where
  absent : lookup t.entries key = none → history cfg key log = []
  bounded : ∀ entry, lookup t.entries key = some entry →
    Bounded cfg.limits (history cfg key log) entry.counter
  started : ∀ entry, lookup t.entries key = some entry →
    ∃ e ∈ log, entry.windowStart = e.2.moment.now

def Unmixed (cfg : Config) (key : CString) (log : Log) (t : Table) : Prop :=
  ∀ entry, lookup t.entries key = some entry → Exact cfg.limits (history cfg key log) entry.counter

theorem Ledger.consulted (ledger : Ledger cfg key log t) (clock : ∀ e ∈ log, e.2.moment.now ≤ now) :
    Bounded cfg.limits (history cfg key log)
        (consulted key now (lookup t.entries key)).counter ∧
      (RateLimits.consulted key now (lookup t.entries key)).windowStart ≤ now := by
  cases found : lookup t.entries key with
  | some entry =>
    obtain ⟨e, mem, start⟩ := ledger.started entry found
    refine ⟨ledger.bounded entry found, ?_⟩
    rw [RateLimits.consulted, Option.getD_some, start]
    exact clock e mem
  | none =>
    rw [ledger.absent found]
    exact ⟨.start (Nat.zero_le _), le_refl _⟩

theorem Ledger.unmixed_consulted (ledger : Ledger cfg key log t) (unmixed : Unmixed cfg key log t)
    (now : ℤ) :
    Exact cfg.limits (history cfg key log)
      (RateLimits.consulted key now (lookup t.entries key)).counter := by
  cases found : lookup t.entries key with
  | some entry => exact unmixed entry found
  | none =>
    rw [ledger.absent found]
    exact ⟨Nat.zero_le _, .inl rfl⟩

theorem history_clock (clock : ∀ e ∈ log, e.2.moment.now ≤ now) :
    ∀ r ∈ history cfg key log, r.1 ≤ now := by
  intro r mem
  obtain ⟨e, inLog, rfl⟩ := List.mem_map.1 mem
  exact clock e (List.mem_filter.1 inLog).1

theorem Nondecreasing.split (clock : Nondecreasing (earlier ++ e :: later)) :
    Nondecreasing earlier ∧ ∀ e' ∈ earlier, e'.2.moment.now ≤ e.2.moment.now :=
  pairwise_split clock

theorem recorded_of_memory (memory : c.moment.memory = true) : ¬ Unrecorded t c := by
  rintro ⟨_, _, none⟩
  rw [memory] at none
  cases none

theorem limit_windowStart (cfg : Config) (now : ℤ) (e : Entry) :
    (limit cfg now e).2.windowStart = e.windowStart ∨ (limit cfg now e).2.windowStart = now := by
  unfold limit
  split
  · exact .inl rfl
  · dsimp only
    split
    · exact .inr (by split <;> rfl)
    · split
      · exact .inr rfl
      · exact .inl rfl

theorem history_own (cfg : Config) (log : Log) (recorded : ¬ Unrecorded t c) :
    history cfg c.key (log ++ [(t, c)]) = history cfg c.key log ++
      [(c.moment.now, ((consulted c.key c.moment.now (lookup t.entries c.key)).counter.judge
        cfg.limits c.moment.now).1)] := by
  rw [history_snoc, if_pos rfl, verdict_judge cfg recorded]

theorem history_other (cfg : Config) (log : Log) (other : c.key ≠ key) :
    history cfg key (log ++ [(t, c)]) = history cfg key log := by
  rw [history_snoc, if_neg other, List.append_nil]

theorem lookup_own (cfg : Config) (recorded : ¬ Unrecorded t c) (short : c.key.length ≤ 63) :
    lookup ((checks cfg).next t c).entries c.key =
      some (limit cfg c.moment.now
        (consulted c.key c.moment.now (lookup t.entries c.key))).2 := by
  have keeps : Keeps c.key t c := by
    unfold Keeps
    rwa [if_pos rfl]
  rw [lookup_next cfg keeps short, if_pos rfl]

/-- The first call with a longer key that is stored under this one. -/
theorem lookup_stray (cfg : Config) (memory : c.moment.memory = true) (other : c.key ≠ key)
    (stray : c.key.take 63 = key) (absent : lookup t.entries key = none) :
    lookup ((checks cfg).next t c).entries key =
      some (limit cfg c.moment.now (.new c.key c.moment.now)).2 := by
  have own : lookup t.entries c.key = none := by
    by_contra found
    obtain ⟨entry, found⟩ := Option.ne_none_iff_exists'.1 found
    exact other ((short_of_lookup found).symm.trans stray)
  simp only [checks]
  rw [(check_new cfg own (recorded_of_memory memory)).2, lookup_append, absent, limit_key,
    Option.none_or]
  exact if_pos stray

theorem lookup_other (cfg : Config) (other : c.key ≠ key) (stored : Stored key t c)
    (short : key.length ≤ 63) :
    lookup ((checks cfg).next t c).entries key = lookup t.entries key := by
  have keeps : Keeps key t c := by
    unfold Keeps
    rw [if_neg other]
    exact stored other
  rw [lookup_next cfg keeps short, if_neg other]

theorem Ledger.step (ledger : Ledger cfg key log t) (sound : cfg.limits.Sound)
    (short : key.length ≤ 63) (memory : c.moment.memory = true)
    (clock : ∀ e ∈ log, e.2.moment.now ≤ c.moment.now) :
    Ledger cfg key (log ++ [(t, c)]) ((checks cfg).next t c) := by
  have recorded : ¬ Unrecorded t c := recorded_of_memory memory
  have earlier {s : ℤ} (there : ∃ e ∈ log, s = e.2.moment.now) :
      ∃ e ∈ log ++ [(t, c)], s = e.2.moment.now := by
    obtain ⟨e, mem, start⟩ := there
    exact ⟨e, List.mem_append_left _ mem, start⟩
  have now : ∃ e ∈ log ++ [(t, c)], c.moment.now = e.2.moment.now := ⟨(t, c), by simp, rfl⟩
  by_cases same : c.key = key
  · subst same
    obtain ⟨bounded, past⟩ := ledger.consulted clock
    have after := lookup_own cfg recorded short
    refine ⟨fun absent => by simp [after] at absent, fun entry found => ?_, fun entry found => ?_⟩
    · cases Option.some_inj.1 (after.symm.trans found)
      rw [history_own cfg log recorded, (limit_judge _ _ _).2]
      exact bounded.judge sound (history_clock clock) past
    · cases Option.some_inj.1 (after.symm.trans found)
      rcases limit_windowStart cfg c.moment.now (RateLimits.consulted c.key c.moment.now
        (lookup t.entries c.key)) with kept | reset
      · rw [kept]
        cases present : lookup t.entries c.key with
        | some entry => exact earlier (ledger.started entry present)
        | none => exact now
      · rw [reset]
        exact now
  · have history := history_other (t := t) cfg log same
    by_cases stray : c.key.take 63 = key ∧ lookup t.entries key = none
    · have after := lookup_stray cfg memory same stray.1 stray.2
      refine ⟨fun absent => by simp [after] at absent, fun entry found => ?_, fun entry found => ?_⟩
      · cases Option.some_inj.1 (after.symm.trans found)
        have first : Bounded cfg.limits [] (Entry.new c.key c.moment.now).counter :=
          .start (Nat.zero_le _)
        rw [history, ledger.absent stray.2, (limit_judge _ _ _).2]
        exact .start (first.judge sound (by simp) (le_refl _)).full
      · cases Option.some_inj.1 (after.symm.trans found)
        rcases limit_windowStart cfg c.moment.now (.new c.key c.moment.now) with kept | reset
        · rw [kept]
          exact now
        · rw [reset]
          exact now
    · have after := lookup_other cfg same (fun _ cut absent => stray ⟨cut, absent⟩) short
      refine ⟨fun absent => ?_, fun entry found => ?_, fun entry found => ?_⟩
      · rw [history, ledger.absent (after.symm.trans absent)]
      · rw [history]
        exact ledger.bounded entry (after.symm.trans found)
      · exact earlier (ledger.started entry (after.symm.trans found))

theorem Unmixed.step (unmixed : Unmixed cfg key log t) (ledger : Ledger cfg key log t)
    (sound : cfg.limits.Sound) (short : key.length ≤ 63) (memory : c.moment.memory = true)
    (clock : ∀ e ∈ log, e.2.moment.now ≤ c.moment.now) (stored : Stored key t c) :
    Unmixed cfg key (log ++ [(t, c)]) ((checks cfg).next t c) := by
  intro entry found
  by_cases same : c.key = key
  · subst same
    have recorded : ¬ Unrecorded t c := recorded_of_memory memory
    cases Option.some_inj.1 ((lookup_own cfg recorded short).symm.trans found)
    rw [history_own cfg log recorded, (limit_judge _ _ _).2]
    exact (ledger.unmixed_consulted unmixed _).judge (ledger.consulted clock).2 sound
  · rw [history_other cfg log same]
    exact unmixed entry ((lookup_other cfg same stored short).symm.trans found)

theorem ledger (run : (checks cfg).Run log t) (sound : cfg.limits.Sound) (short : key.length ≤ 63)
    (growing : Growing log) (clock : Nondecreasing log) : Ledger cfg key log t := by
  induction run with
  | start initial =>
    rw [show _ = Table.initial from initial]
    constructor
    · intro _
      rfl
    · intro _ found
      cases found
    · intro _ found
      cases found
  | @step log t c _ _ ih =>
    have before := ih (fun e mem => growing e (List.mem_append_left _ mem)) clock.split.1
    exact before.step sound short (growing (t, c) (by simp)) clock.split.2

theorem unmixed (run : (checks cfg).Run log t) (sound : cfg.limits.Sound) (short : key.length ≤ 63)
    (growing : Growing log) (clock : Nondecreasing log)
    (stored : ∀ e ∈ log, Stored key e.1 e.2) : Unmixed cfg key log t := by
  induction run with
  | start initial =>
    rw [show _ = Table.initial from initial]
    intro _ found
    cases found
  | @step log t c run _ ih =>
    have growing' : Growing log := fun e mem => growing e (List.mem_append_left _ mem)
    have before := ih growing' clock.split.1 fun e mem => stored e (List.mem_append_left _ mem)
    have entries := ledger run sound short growing' clock.split.1
    exact before.step entries sound short (growing (t, c) (by simp)) clock.split.2
      (stored (t, c) (by simp))

theorem Config.limits_sound (window : 1 ≤ cfg.windowSeconds)
    (penalty : cfg.windowSeconds ≤ cfg.penaltySeconds) : cfg.limits.Sound := by
  constructor
  · simp only [Config.limits]
    omega
  · simp only [Config.limits]
    omega

/-- The calls with a key are limited as configured, and where the calls with longer keys make no
entry for this key they are refused only for that. -/
theorem calls_limited (cfg : Config) (key : CString) (run : (checks cfg).Run log t)
    (window : 1 ≤ cfg.windowSeconds) (penalty : cfg.windowSeconds ≤ cfg.penaltySeconds)
    (short : key.length ≤ 63) (growing : Growing log) (clock : Nondecreasing log) :
    Limited cfg key log ∧ ((∀ e ∈ log, Stored key e.1 e.2) → Justified cfg key log) := by
  have sound := Config.limits_sound window penalty
  -- what the table says about the key when a call with it is made
  have found {earlier later : Log} {e : Table × Check} (steps : log = earlier ++ e :: later)
      (own : e.2.key = key) : Ledger cfg key earlier e.1 ∧
        (∀ e' ∈ earlier, e'.2.moment.now ≤ e.2.moment.now) ∧
        verdict cfg e = ((consulted key e.2.moment.now (lookup e.1.entries key)).counter.judge
          cfg.limits e.2.moment.now).1 := by
    subst steps own
    have growing' : Growing earlier := fun e' mem => growing e' (List.mem_append_left _ mem)
    have entries := ledger run.split.1 sound short growing' clock.split.1
    exact ⟨entries, clock.split.2, verdict_judge cfg (recorded_of_memory (growing e (by simp)))⟩
  refine ⟨⟨fun a => ?_, fun earlier later e steps own allowed s mem => ?_⟩, fun stored => ?_⟩
  · have entries := ledger run sound short growing clock
    cases present : lookup t.entries key with
    | some entry => exact (entries.bounded entry present).total a
    | none =>
      rw [entries.absent present]
      exact Nat.zero_le _
  · obtain ⟨entries, past, verdict⟩ := found steps own
    have free := judge_allowed (verdict.symm.trans allowed)
    exact ((entries.consulted past).1.penalised s mem).trans free
  · have unmixed {earlier later : Log} {e : Table × Check} (steps : log = earlier ++ e :: later) :
        Unmixed cfg key earlier e.1 := by
      subst steps
      have growing' : Growing earlier := fun e' mem => growing e' (List.mem_append_left _ mem)
      exact unmixed run.split.1 sound short growing' clock.split.1
        fun e' mem => stored e' (List.mem_append_left _ mem)
    constructor
    · intro earlier later e steps own exceeded
      obtain ⟨entries, past, verdict⟩ := found steps own
      have exact_ := entries.unmixed_consulted (unmixed steps) e.2.moment.now
      exact exact_.exceeded (entries.consulted past).2 sound (verdict.symm.trans exceeded)
    · intro earlier later e steps own blocked after
      obtain ⟨entries, past, verdict⟩ := found steps own
      have exact_ := entries.unmixed_consulted (unmixed steps) e.2.moment.now
      exact exact_.blocked after (verdict.symm.trans blocked)

namespace Sample

def unjustified (cfg : Config) (key : CString) (log : Log) : Bool :=
  match log.reverse with
  | [] => false
  | e :: earlier => e.2.key = key && verdict cfg e = .exceeded &&
    decide (recent e.2.moment.now cfg.windowSeconds
      (timesOf .allowed (history cfg key earlier.reverse)) < cfg.maxRequests)

end Sample

theorem Sample.not_justified (found : Sample.unjustified cfg key log = true) :
    ¬ Justified cfg key log := by
  intro justified
  unfold Sample.unjustified at found
  split at found
  · cases found
  · rename_i e earlier reversed
    have steps : log = earlier.reverse ++ e :: [] := by
      rw [← log.reverse_reverse, reversed, List.reverse_cons]
    simp only [Bool.and_eq_true, decide_eq_true_eq] at found
    have enough := justified.exceeded _ _ e steps found.1.1 found.1.2
    omega

/-- Two devices, one of them refused. -/
theorem two_devices_limited :
    ∃ log t, (checks .initial).Run log t ∧ log.length = 102 ∧
      Limited .initial ['d'] log ∧ Justified .initial ['d'] log := by
  obtain ⟨log, t, run, test⟩ := (System.Run.start (m := checks .initial) rfl).follow_any
    (Sample.calls (['e'] :: List.replicate 101 ['d']))
    (fun r => decide (r.1.length = 102) && decide (Growing r.1) && decide (Nondecreasing r.1) &&
      decide (∀ e ∈ r.1, Stored ['d'] e.1 e.2)) (by decide +kernel)
  simp only [Bool.and_eq_true, decide_eq_true_eq] at test
  obtain ⟨⟨⟨length, growing⟩, clock⟩, stored⟩ := test
  have limited := calls_limited .initial ['d'] run (by decide) (by decide) (by decide) growing clock
  exact ⟨log, t, run, length, limited.1, limited.2 stored⟩

/-- After a call for a device with an id of 64 characters. -/
theorem refused_early : ¬ ∀ (cfg : Config) (key : CString) (log : Log) (t : Table),
    (checks cfg).Run log t → 1 ≤ cfg.windowSeconds → cfg.windowSeconds ≤ cfg.penaltySeconds →
      key.length ≤ 63 → Growing log → Nondecreasing log →
        Limited cfg key log ∧ Justified cfg key log := by
  intro always
  obtain ⟨log, t, run, test⟩ := (System.Run.start (m := checks .initial) rfl).follow_any
    (Sample.calls ((Sample.deviceId ++ ['a']) :: List.replicate 100 Sample.deviceId))
    (fun r => decide (Growing r.1) && decide (Nondecreasing r.1) &&
      Sample.unjustified .initial Sample.deviceId r.1) (by decide +kernel)
  simp only [Bool.and_eq_true, decide_eq_true_eq] at test
  obtain ⟨⟨growing, clock⟩, found⟩ := test
  exact Sample.not_justified found
    (always .initial Sample.deviceId log t run (by decide) (by decide) (by decide) growing clock).2

end RateLimits
