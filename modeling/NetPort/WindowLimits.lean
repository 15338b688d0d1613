import Mathlib.Algebra.Order.Group.Int
import Mathlib.Data.List.Basic

/-! Two limiters of a sequence of requests at nondecreasing times: a counter of fixed windows with
penalties, and a log of the times of the accepted requests that slides along. -/
namespace WindowLimits

section Order

variable {α : Type} {R : α → α → Prop} {earlier later : List α} {e : α}

theorem pairwise_split (h : (earlier ++ e :: later).Pairwise R) :
    earlier.Pairwise R ∧ ∀ e' ∈ earlier, R e' e := by
  obtain ⟨before, -, last⟩ := List.pairwise_append.1 h
  exact ⟨before, fun e' mem => last e' mem e List.mem_cons_self⟩

end Order

/-- How many of the times are in the half-open window that starts at `a`. -/
def within (a len : ℤ) (times : List ℤ) : ℕ := times.countP fun s => a ≤ s ∧ s < a + len

/-- How many of the times are less than `len` before `now`. -/
def recent (now len : ℤ) (times : List ℤ) : ℕ := times.countP fun s => now - s < len

variable {a len now : ℤ} {times : List ℤ}

theorem within_snoc (a len : ℤ) (times : List ℤ) (s : ℤ) :
    within a len (times ++ [s]) =
      within a len times + if a ≤ s ∧ s < a + len then 1 else 0 := by
  unfold within
  rw [List.countP_append, List.countP_singleton]
  simp

theorem within_of_before (before : ∀ s ∈ times, s < a) : within a len times = 0 := by
  refine List.countP_eq_zero.2 fun s mem inside => ?_
  have := before s mem
  simp only [decide_eq_true_eq] at inside
  omega

section FixedWindows

structure Limits where
  window : ℤ
  max : ℕ
  penalty : ℤ

structure Counter where
  start : ℤ
  count : ℕ
  blockedUntil : ℤ

inductive Verdict where
  | allowed
  | blocked
  | exceeded
  deriving DecidableEq

def Counter.reset (l : Limits) (now : ℤ) (c : Counter) : Counter :=
  if l.window ≤ now - c.start then { c with start := now, count := 0 } else c

def Counter.judge (l : Limits) (now : ℤ) (c : Counter) : Verdict × Counter :=
  if now < c.blockedUntil then (.blocked, c)
  else
    let c := c.reset l now
    if l.max ≤ c.count then (.exceeded, ⟨now, 0, now + l.penalty⟩)
    else (.allowed, { c with count := c.count + 1 })

abbrev History := List (ℤ × Verdict)

def timesOf (v : Verdict) (h : History) : List ℤ := (h.filter (·.2 = v)).map (·.1)

/-- A penalty ends with the window that it starts, or later, and a window has some time in it. -/
structure Limits.Sound (l : Limits) : Prop where
  window : 1 ≤ l.window
  penalty : l.window ≤ l.penalty

/-- While requests are counted: the allowed ones since the start of the window are counted, and a
stretch of time that meets this window meets only one window before it. -/
def Counting (l : Limits) (h : History) (c : Counter) : Prop :=
  ∀ a, (c.start ≤ a → within a l.window (timesOf .allowed h) ≤ c.count) ∧
    (a < c.start → c.start < a + l.window →
      within a l.window (timesOf .allowed h) ≤ l.max + c.count)

def Paused (l : Limits) (h : History) (c : Counter) : Prop :=
  c.start + l.window ≤ c.blockedUntil ∧ ∀ s ∈ timesOf .allowed h, s ≤ c.start

structure Bounded (l : Limits) (h : History) (c : Counter) : Prop where
  total : ∀ a, within a l.window (timesOf .allowed h) ≤ 2 * l.max
  full : c.count ≤ l.max
  ended : ∀ s ∈ timesOf .allowed h, s < c.start + l.window
  penalised : ∀ s ∈ timesOf .exceeded h, s + l.penalty ≤ c.blockedUntil
  mode : Counting l h c ∨ Paused l h c

structure Exact (l : Limits) (h : History) (c : Counter) : Prop where
  counted : c.count ≤ (timesOf .allowed h).countP (c.start ≤ ·)
  caused : c.blockedUntil = 0 ∨ ∃ s ∈ timesOf .exceeded h, c.blockedUntil = s + l.penalty

variable {l : Limits} {h : History} {c : Counter}

theorem timesOf_snoc (v : Verdict) (h : History) (e : ℤ × Verdict) :
    timesOf v (h ++ [e]) = timesOf v h ++ if e.2 = v then [e.1] else [] := by
  unfold timesOf
  rw [List.filter_append, List.map_append]
  by_cases same : e.2 = v
  · simp [same]
  · simp [same]

@[simp] theorem timesOf_snoc_self (v : Verdict) (h : History) (s : ℤ) :
    timesOf v (h ++ [(s, v)]) = timesOf v h ++ [s] := by
  rw [timesOf_snoc, if_pos rfl]

theorem timesOf_snoc_other {v w : Verdict} (h : History) (s : ℤ) (other : w ≠ v) :
    timesOf v (h ++ [(s, w)]) = timesOf v h := by
  rw [timesOf_snoc, if_neg other, List.append_nil]

theorem mem_of_mem_timesOf {v : Verdict} {s : ℤ} (mem : s ∈ timesOf v h) : (s, v) ∈ h := by
  obtain ⟨e, found, rfl⟩ := List.mem_map.1 mem
  obtain ⟨there, same⟩ := List.mem_filter.1 found
  rw [← of_decide_eq_true same]
  exact there

theorem Bounded.start (full : c.count ≤ l.max) : Bounded l [] c := by
  constructor
  · intro a
    simp [within, timesOf]
  · exact full
  · simp [timesOf]
  · simp [timesOf]
  · left
    intro a
    simp [within, timesOf]

theorem Bounded.reset (inv : Bounded l h c) (now : ℤ) (sound : l.Sound) :
    Bounded l h (c.reset l now) := by
  unfold Counter.reset
  split
  · rename_i lapsed
    have := sound.window
    have before : ∀ s ∈ timesOf .allowed h, s < now := fun s mem => by
      have := inv.ended s mem
      omega
    refine ⟨inv.total, Nat.zero_le _, fun s mem => ?_, inv.penalised, .inl fun a => ⟨?_, ?_⟩⟩
    · have := before s mem
      simp only
      omega
    · intro later
      rw [within_of_before fun s mem => lt_of_lt_of_le (before s mem) later]
    · intro _ later
      have old : c.start < a := by
        dsimp only at later
        omega
      rcases inv.mode with counting | ⟨_, stopped⟩
      · have := (counting a).1 old.le
        have := inv.full
        dsimp only
        omega
      · rw [within_of_before fun s mem => lt_of_le_of_lt (stopped s mem) old]
        exact Nat.zero_le _
  · exact inv

theorem Counter.reset_start (l : Limits) (c : Counter) (past : c.start ≤ now) (sound : l.Sound) :
    (c.reset l now).start ≤ now ∧ now < (c.reset l now).start + l.window := by
  have := sound.window
  unfold Counter.reset
  split
  · dsimp only
    omega
  · omega

@[simp] theorem Counter.reset_blockedUntil (l : Limits) (now : ℤ) (c : Counter) :
    (c.reset l now).blockedUntil = c.blockedUntil := by
  unfold Counter.reset
  split <;> rfl

theorem Bounded.allow (inv : Bounded l h c) (room : c.count < l.max) (past : c.start ≤ now)
    (inside : now < c.start + l.window) (free : c.blockedUntil ≤ now) :
    Bounded l (h ++ [(now, .allowed)]) { c with count := c.count + 1 } := by
  have counting : Counting l h c := by
    rcases inv.mode with counting | ⟨blocked, _⟩
    · exact counting
    · omega
  refine ⟨fun a => ?_, room, fun s mem => ?_, ?_,
    .inl fun a => ⟨fun later => ?_, fun before meet => ?_⟩⟩
  · rw [timesOf_snoc_self, within_snoc]
    have total := inv.total a
    obtain ⟨this, one⟩ := counting a
    split
    · rcases le_or_gt c.start a with later | before
      · have := this later
        omega
      · have := one before (by omega)
        omega
    · omega
  · rw [timesOf_snoc_self, List.mem_append, List.mem_singleton] at mem
    rcases mem with old | rfl
    · exact inv.ended s old
    · exact inside
  · rw [timesOf_snoc_other h now (by decide)]
    exact inv.penalised
  · rw [timesOf_snoc_self, within_snoc]
    have := (counting a).1 later
    split <;> dsimp only <;> omega
  · rw [timesOf_snoc_self, within_snoc]
    have := (counting a).2 before meet
    split <;> dsimp only <;> omega

theorem Bounded.exceed (inv : Bounded l h c) (sound : l.Sound) (clock : ∀ e ∈ h, e.1 ≤ now) :
    Bounded l (h ++ [(now, .exceeded)]) ⟨now, 0, now + l.penalty⟩ := by
  have past (v : Verdict) : ∀ s ∈ timesOf v h, s ≤ now :=
    fun s mem => clock _ (mem_of_mem_timesOf mem)
  have same : timesOf .allowed (h ++ [(now, .exceeded)]) = timesOf .allowed h :=
    timesOf_snoc_other h now (by decide)
  have := sound.window
  have := sound.penalty
  refine ⟨?_, Nat.zero_le _, fun s mem => ?_, fun s mem => ?_, .inr ⟨?_, ?_⟩⟩
  · rw [same]
    exact inv.total
  · rw [same] at mem
    have := past _ s mem
    dsimp only
    omega
  · rw [timesOf_snoc_self, List.mem_append, List.mem_singleton] at mem
    dsimp only
    rcases mem with old | rfl
    · have := past _ s old
      omega
    · omega
  · dsimp only
    omega
  · rw [same]
    exact past _

theorem Bounded.block (inv : Bounded l h c) (now : ℤ) : Bounded l (h ++ [(now, .blocked)]) c := by
  have same (v : Verdict) (other : .blocked ≠ v) :
      timesOf v (h ++ [(now, .blocked)]) = timesOf v h := timesOf_snoc_other h now other
  obtain ⟨total, full, ended, penalised, mode⟩ := inv
  refine ⟨?_, full, ?_, ?_, ?_⟩
  · rwa [same .allowed (by decide)]
  · rwa [same .allowed (by decide)]
  · rwa [same .exceeded (by decide)]
  · unfold Counting Paused at *
    rwa [same .allowed (by decide)]

theorem Bounded.judge (inv : Bounded l h c) (sound : l.Sound) (clock : ∀ e ∈ h, e.1 ≤ now)
    (past : c.start ≤ now) :
    Bounded l (h ++ [(now, (c.judge l now).1)]) (c.judge l now).2 := by
  unfold Counter.judge
  split
  · exact inv.block now
  · rename_i free
    have fresh := inv.reset now sound
    obtain ⟨started, inside⟩ := c.reset_start l past sound
    dsimp only
    split
    · exact fresh.exceed sound clock
    · rename_i room
      refine fresh.allow (by omega) started inside ?_
      rw [Counter.reset_blockedUntil]
      omega

theorem Exact.reset (exact : Exact l h c) (now : ℤ) : Exact l h (c.reset l now) := by
  unfold Counter.reset
  split
  · exact ⟨Nat.zero_le _, exact.caused⟩
  · exact exact

theorem Exact.judge (exact : Exact l h c) (past : c.start ≤ now) (sound : l.Sound) :
    Exact l (h ++ [(now, (c.judge l now).1)]) (c.judge l now).2 := by
  unfold Counter.judge
  split
  · constructor
    · rw [timesOf_snoc_other h now (by nofun)]
      exact exact.counted
    · rw [timesOf_snoc_other h now (by nofun)]
      exact exact.caused
  · obtain ⟨counted, caused⟩ := exact.reset now
    obtain ⟨started, _⟩ := c.reset_start l past sound
    dsimp only
    split
    · refine ⟨Nat.zero_le _, .inr ⟨now, ?_, rfl⟩⟩
      rw [timesOf_snoc_self]
      simp
    · constructor
      · rw [timesOf_snoc_self, List.countP_append, List.countP_singleton]
        simpa [started] using counted
      · rw [timesOf_snoc_other h now (by nofun)]
        exact caused

theorem judge_allowed (allowed : (c.judge l now).1 = .allowed) : c.blockedUntil ≤ now := by
  unfold Counter.judge at allowed
  split at allowed
  · cases allowed
  · omega

/-- Who is refused for too many requests had them allowed in the last window. -/
theorem Exact.exceeded (exact : Exact l h c) (past : c.start ≤ now) (sound : l.Sound)
    (refused : (c.judge l now).1 = .exceeded) :
    l.max ≤ recent now l.window (timesOf .allowed h) := by
  obtain ⟨counted, _⟩ := exact.reset now
  obtain ⟨_, inside⟩ := c.reset_start l past sound
  unfold Counter.judge at refused
  split at refused
  · cases refused
  · dsimp only at refused
    split at refused
    · rename_i many
      refine many.trans (counted.trans (List.countP_mono_left fun s _ later => ?_))
      simp only [decide_eq_true_eq] at later ⊢
      omega
    · cases refused

/-- Who is blocked was refused for too many requests less than a penalty ago. -/
theorem Exact.blocked (exact : Exact l h c) (after : 0 ≤ now)
    (refused : (c.judge l now).1 = .blocked) :
    ∃ s ∈ timesOf .exceeded h, now < s + l.penalty := by
  unfold Counter.judge at refused
  split at refused
  · rename_i blocked
    rcases exact.caused with never | ⟨s, mem, until_⟩
    · omega
    · exact ⟨s, mem, by omega⟩
  · dsimp only at refused
    split at refused <;> cases refused

end FixedWindows

section SlidingLog

def slide (len : ℤ) (max : ℕ) (now : ℤ) (hits : List ℤ) : Bool × List ℤ :=
  let hits := hits.filter (now - · < len)
  if max ≤ hits.length then (false, hits) else (true, hits ++ [now])

/-- Of the accepted times those in the window are in the log, at this time and later. -/
def Logged (len : ℤ) (accepted : List ℤ) (last : ℤ) (hits : List ℤ) : Prop :=
  ∀ now, last ≤ now → hits.filter (now - · < len) = accepted.filter (now - · < len)

variable {accepted hits : List ℤ} {last : ℤ} {max : ℕ}

theorem Logged.prune (logged : Logged len accepted last hits) (later : last ≤ now) :
    Logged len accepted now (hits.filter (now - · < len)) := by
  intro then_ after
  rw [logged now later, List.filter_filter]
  refine List.filter_congr fun s _ => ?_
  simp only [← Bool.decide_and, decide_eq_decide]
  omega

theorem Logged.slide (logged : Logged len accepted last hits) (max : ℕ) (later : last ≤ now) :
    Logged len (if (slide len max now hits).1 then accepted ++ [now] else accepted) now
      (slide len max now hits).2 := by
  have pruned := logged.prune later
  unfold WindowLimits.slide
  dsimp only
  split
  · exact pruned
  · intro then_ after
    rw [if_pos rfl, List.filter_append, List.filter_append, pruned then_ after]

theorem slide_accepts (logged : Logged len accepted last hits) (later : last ≤ now) :
    (slide len max now hits).1 = true ↔ recent now len accepted < max := by
  unfold slide recent
  rw [logged now later, List.countP_eq_length_filter]
  dsimp only
  split
  · simp only [Bool.false_eq_true, false_iff]
    omega
  · simp only [true_iff]
    omega

/-- A window keeps to the bound when one more request is accepted. -/
theorem within_accept (bound : within a len accepted ≤ max)
    (room : recent now len accepted < max) : within a len (accepted ++ [now]) ≤ max := by
  rw [within_snoc]
  split
  · rename_i inside
    have fewer : within a len accepted ≤ recent now len accepted := by
      refine List.countP_mono_left fun s mem counted => ?_
      simp only [decide_eq_true_eq] at counted ⊢
      omega
    omega
  · exact bound

end SlidingLog

end WindowLimits
