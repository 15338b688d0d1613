import Mathlib.Data.List.Basic

/-! Systems that take one step after the other, their runs with the state that each step found,
and the rule by which an invariant of the steps is one of the runs. -/
namespace StepRuns

variable {σ α : Type}

structure System (σ α : Type) where
  initial : σ → Prop
  enabled : σ → α → Prop
  next : σ → α → σ

inductive System.Run (m : System σ α) : List (σ × α) → σ → Prop
  | start {s : σ} (h : m.initial s) : m.Run [] s
  | step {log : List (σ × α)} {s : σ} {a : α} (h : m.Run log s) (enabled : m.enabled s a) :
      m.Run (log ++ [(s, a)]) (m.next s a)

variable {m : System σ α} {log log' : List (σ × α)} {s t : σ}

theorem System.Run.enabled_of_mem (run : m.Run log s) : ∀ e ∈ log, m.enabled e.1 e.2 := by
  induction run with
  | start => simp
  | @step log s a _ enabled ih =>
    intro e he
    rcases List.mem_append.1 he with old | new
    · exact ih e old
    · rw [List.mem_singleton.1 new]
      exact enabled

theorem System.Run.split {earlier later : List (σ × α)} {e : σ × α}
    (run : m.Run (earlier ++ e :: later) t) : m.Run earlier e.1 ∧ m.enabled e.1 e.2 := by
  generalize steps : earlier ++ e :: later = log at run
  induction run generalizing later with
  | start => simp at steps
  | @step log s a run enabled ih =>
    rcases List.eq_nil_or_concat later with rfl | ⟨later, last, rfl⟩
    · obtain ⟨rfl, here⟩ := List.append_inj' steps rfl
      cases List.singleton_inj.1 here
      exact ⟨run, enabled⟩
    · rw [List.concat_eq_append, ← List.cons_append, ← List.append_assoc] at steps
      exact ih (List.append_inj' steps rfl).1

/-- An invariant that the steps keep under a condition holds after every run whose steps all
meet the condition. -/
theorem System.Run.invariant {Inv : σ → Prop} {careful : σ → α → Prop}
    (start : ∀ s, m.initial s → Inv s)
    (keep : ∀ s a, Inv s → m.enabled s a → careful s a → Inv (m.next s a))
    (run : m.Run log s) (h : ∀ e ∈ log, careful e.1 e.2) : Inv s := by
  induction run with
  | start initial => exact start _ initial
  | @step log s a _ enabled ih =>
    have before := ih fun e he => h e (List.mem_append_left _ he)
    exact keep s a before enabled (h (s, a) (by simp))

theorem System.Run.found {Inv : σ → Prop} {careful : σ → α → Prop}
    (start : ∀ s, m.initial s → Inv s)
    (keep : ∀ s a, Inv s → m.enabled s a → careful s a → Inv (m.next s a))
    (run : m.Run log s) (h : ∀ e ∈ log, careful e.1 e.2) : ∀ e ∈ log, Inv e.1 := by
  induction run with
  | start => simp
  | @step log s a run _ ih =>
    have before : ∀ e ∈ log, careful e.1 e.2 := fun e he => h e (List.mem_append_left _ he)
    intro e he
    rcases List.mem_append.1 he with old | new
    · exact ih before e old
    · rw [List.mem_singleton.1 new]
      exact run.invariant start keep before

theorem System.Run.always {Inv : σ → Prop} (start : ∀ s, m.initial s → Inv s)
    (keep : ∀ s a, Inv s → m.enabled s a → Inv (m.next s a)) (run : m.Run log s) : Inv s := by
  have any : ∀ s a, Inv s → m.enabled s a → True → Inv (m.next s a) :=
    fun s a inv enabled _ => keep s a inv enabled
  exact run.invariant start any fun _ _ => trivial

/-- A property that a step gives exactly when it holds before and the step meets the condition. -/
theorem System.Run.iff_careful {Inv P : σ → Prop} {careful : σ → α → Prop}
    (start : ∀ s, m.initial s → Inv s ∧ P s)
    (keep : ∀ s a, Inv s → m.enabled s a → Inv (m.next s a))
    (exactly : ∀ s a, Inv s → m.enabled s a → (P (m.next s a) ↔ P s ∧ careful s a))
    (run : m.Run log s) : P s ↔ ∀ e ∈ log, careful e.1 e.2 := by
  induction run with
  | start initial =>
    have initially := (start _ initial).2
    simp [initially]
  | @step log s a run enabled ih =>
    have inv := run.always (fun s initial => (start s initial).1) keep
    rw [exactly s a inv enabled, ih]
    simp [or_imp, forall_and]

/-- A property that a step from a state with it keeps exactly under the condition holds of all
states of a run exactly when every step meets the condition. -/
theorem System.Run.throughout_iff {Inv P : σ → Prop} {careful : σ → α → Prop}
    (start : ∀ s, m.initial s → Inv s ∧ P s)
    (keep : ∀ s a, Inv s → m.enabled s a → Inv (m.next s a))
    (exactly : ∀ s a, Inv s → P s → m.enabled s a → (P (m.next s a) ↔ careful s a))
    (run : m.Run log s) : ((∀ e ∈ log, P e.1) ∧ P s) ↔ ∀ e ∈ log, careful e.1 e.2 := by
  induction run with
  | start initial =>
    have initially := (start _ initial).2
    simp [initially]
  | @step log s a run enabled ih =>
    have inv := run.always (fun s initial => (start s initial).1) keep
    have here := exactly s a inv
    simp only [List.mem_append, List.mem_singleton, or_imp, forall_and, forall_eq, ← ih]
    constructor
    · rintro ⟨⟨before, now⟩, after⟩
      exact ⟨⟨before, now⟩, (here now enabled).1 after⟩
    · rintro ⟨⟨before, now⟩, careful⟩
      exact ⟨⟨before, now⟩, (here now enabled).2 careful⟩

def System.follow (m : System σ α) [∀ s a, Decidable (m.enabled s a)] (log : List (σ × α)) (s : σ) :
    List α → Option (List (σ × α) × σ)
  | [] => some (log, s)
  | a :: actions =>
    if m.enabled s a then m.follow (log ++ [(s, a)]) (m.next s a) actions else none

theorem System.Run.follow [∀ s a, Decidable (m.enabled s a)] {actions : List α} (run : m.Run log s)
    (h : m.follow log s actions = some (log', t)) : m.Run log' t := by
  induction actions generalizing log s with
  | nil =>
    cases h
    exact run
  | cons a actions ih =>
    simp only [System.follow] at h
    split at h
    · rename_i enabled
      exact ih (run.step enabled) h
    · exact absurd h (by simp)

/-- Steps taken in their order end in a state that a test finds. -/
theorem System.Run.follow_any [∀ s a, Decidable (m.enabled s a)] (run : m.Run log s)
    (actions : List α) (test : List (σ × α) × σ → Bool)
    (h : (m.follow log s actions).any test = true) :
    ∃ log' t, m.Run log' t ∧ test (log', t) = true := by
  obtain ⟨⟨log', t⟩, followed, found⟩ := (Option.any_eq_true _ _).1 h
  exact ⟨log', t, run.follow followed, found⟩

end StepRuns
