import Mathlib.Logic.Function.Basic
import NetPort.StatementPrograms
import NetPort.StepRuns

/-! Any number of programs over one store, a command of one of them at a time, with events in
between. A rule reduces an invariant of all interleavings to single commands and to what each
program may issue once its answers are possible ones. -/
namespace ProgramPools

open StatementPrograms StepRuns

variable {Cmd Cmd' : Type} {Res : Cmd → Type} {Res' : Cmd' → Type} {α β σ Event Request : Type}
  {ι : Type} [DecidableEq ι]

def lift (f : Cmd → Cmd') (back : ∀ c, Res' (f c) → Res c) : Prog Cmd Res α → Prog Cmd' Res' α
  | .ret a => .ret a
  | .call c k => .call (f c) fun r => lift f back (k (r.map (back c)))

/-- Every command the program may issue is good, if each answer before it was possible. -/
def IssuesAfter (possible : (c : Cmd) → Res c → Prop) (good : Cmd → Prop) : Prog Cmd Res α → Prop
  | .ret _ => True
  | .call c k => good c ∧ IssuesAfter possible good (k none) ∧
      ∀ r, possible c r → IssuesAfter possible good (k (some r))

section IssuesAfter

variable {possible : (c : Cmd) → Res c → Prop} {good : Cmd → Prop}

theorem IssuesAfter.of_issues {p : Prog Cmd Res α} (h : Issues good p) :
    IssuesAfter possible good p := by
  induction p with
  | ret a => trivial
  | call c k ih => exact ⟨h.1, ih none (h.2 none), fun r _ => ih (some r) (h.2 (some r))⟩

theorem IssuesAfter.bind {p : Prog Cmd Res α} {f : α → Prog Cmd Res β}
    (h : IssuesAfter possible good p) (rest : ∀ a, IssuesAfter possible good (f a)) :
    IssuesAfter possible good (p >>= f) := by
  induction p with
  | ret a => exact rest a
  | call c k ih => exact ⟨h.1, ih none h.2.1, fun r ok => ih (some r) (h.2.2 r ok)⟩

theorem IssuesAfter.lift {f : Cmd → Cmd'} {back : ∀ c, Res' (f c) → Res c}
    {possible' : (c : Cmd') → Res' c → Prop} {good' : Cmd' → Prop} {p : Prog Cmd Res α}
    (good_iff : ∀ c, good c → good' (f c)) (back_possible : ∀ c r, possible' (f c) r →
      possible c (back c r)) (h : IssuesAfter possible good p) :
    IssuesAfter possible' good' (ProgramPools.lift f back p) := by
  induction p with
  | ret a => trivial
  | call c k ih =>
    refine ⟨good_iff c h.1, ih none h.2.1, fun r ok => ?_⟩
    exact ih (some (back c r)) (h.2.2 _ (back_possible c r ok))

end IssuesAfter

structure Pool (ι : Type) (Cmd : Type) (Res : Cmd → Type) (α σ : Type) where
  threads : ι → Prog Cmd Res α
  store : σ

/-- `execute` also stands for a command that cannot be executed and fails. -/
inductive Action (ι Request Event : Type) where
  | start (i : ι) (request : Request)
  | execute (i : ι)
  | fail (i : ι)
  | event (e : Event)

structure Machine (Cmd : Type) (Res : Cmd → Type) (σ Event : Type) where
  interp : (c : Cmd) → σ → Option (σ × Res c)
  fails : Cmd → Prop
  happens : σ → Event → Prop
  after : σ → Event → σ

def Pool.resume (w : Pool ι Cmd Res α σ) (i : ι) (p : Prog Cmd Res α) (s : σ) :
    Pool ι Cmd Res α σ :=
  ⟨Function.update w.threads i p, s⟩

def Enabled (m : Machine Cmd Res σ Event) (w : Pool ι Cmd Res α σ) :
    Action ι Request Event → Prop
  | .start i _ => match w.threads i with
    | .ret _ => True
    | .call _ _ => False
  | .execute i => match w.threads i with
    | .ret _ => False
    | .call _ _ => True
  | .fail i => match w.threads i with
    | .ret _ => False
    | .call c _ => m.fails c
  | .event e => m.happens w.store e

def next (m : Machine Cmd Res σ Event) (handler : ι → Request → Prog Cmd Res α)
    (w : Pool ι Cmd Res α σ) : Action ι Request Event → Pool ι Cmd Res α σ
  | .start i request => w.resume i (handler i request) w.store
  | .execute i => match w.threads i with
    | .ret _ => w
    | .call c k => match m.interp c w.store with
      | some (t, r) => w.resume i (k (some r)) t
      | none => w.resume i (k none) w.store
  | .fail i => match w.threads i with
    | .ret _ => w
    | .call _ k => w.resume i (k none) w.store
  | .event e => ⟨w.threads, m.after w.store e⟩

def Started (init : σ → Prop) (w : Pool ι Cmd Res α σ) : Prop :=
  (∀ i, ∃ a, w.threads i = .ret a) ∧ init w.store

def pool (m : Machine Cmd Res σ Event) (handler : ι → Request → Prog Cmd Res α) (init : σ → Prop) :
    System (Pool ι Cmd Res α σ) (Action ι Request Event) :=
  ⟨Started init, Enabled m, next m handler⟩

/-- The command that a step executes is careful in the store that it finds. -/
def Careful (careful : Cmd → σ → Prop) (w : Pool ι Cmd Res α σ) : Action ι Request Event → Prop
  | .execute i => match w.threads i with
    | .ret _ => True
    | .call c _ => careful c w.store
  | _ => True

variable {m : Machine Cmd Res σ Event} {handler : ι → Request → Prog Cmd Res α} {init : σ → Prop}
  {possible : (c : Cmd) → Res c → Prop} {good : Cmd → Prop} {Inv : σ → Prop}
  {careful : Cmd → σ → Prop}

structure Sound (possible : (c : Cmd) → Res c → Prop) (good : Cmd → Prop) (Inv : σ → Prop)
    (w : Pool ι Cmd Res α σ) : Prop where
  threads : ∀ i, IssuesAfter possible good (w.threads i)
  store : Inv w.store

theorem Sound.resume {w : Pool ι Cmd Res α σ} (h : Sound possible good Inv w) (i : ι)
    {p : Prog Cmd Res α} {s : σ} (thread : IssuesAfter possible good p) (inv : Inv s) :
    Sound possible good Inv (w.resume i p s) := by
  refine ⟨fun j => ?_, inv⟩
  by_cases same : j = i
  · subst same
    simpa [Pool.resume] using thread
  · simpa [Pool.resume, Function.update_of_ne same] using h.threads j

theorem next_sound
    (serve : ∀ i request, IssuesAfter possible good (handler i request))
    (answers : ∀ c s t r, Inv s → m.interp c s = some (t, r) → possible c r)
    (keep : ∀ c s t r, Inv s → good c → careful c s → m.interp c s = some (t, r) → Inv t)
    (events : ∀ s e, Inv s → m.happens s e → Inv (m.after s e))
    {w : Pool ι Cmd Res α σ} {a : Action ι Request Event} (h : Sound possible good Inv w)
    (enabled : Enabled m w a) (careful' : Careful careful w a) :
    Sound possible good Inv (next m handler w a) := by
  cases a with
  | start i request => exact h.resume i (serve i request) h.store
  | execute i =>
    have thread := h.threads i
    simp only [next, Careful] at careful' ⊢
    split
    · exact h
    · rename_i c k at_
      rw [at_] at thread careful'
      split
      · rename_i t r e
        exact h.resume i (thread.2.2 r (answers c _ t r h.store e))
          (keep c _ t r h.store thread.1 careful' e)
      · exact h.resume i thread.2.1 h.store
  | fail i =>
    have thread := h.threads i
    simp only [next]
    split
    · exact h
    · rename_i c k at_
      rw [at_] at thread
      exact h.resume i thread.2.1 h.store
  | event e => exact ⟨h.threads, events _ e h.store enabled⟩

/-- An invariant that the events keep, and that every good command keeps where it is careful,
holds after every run whose steps are all careful. -/
theorem invariant (start : ∀ s, init s → Inv s)
    (serve : ∀ i request, IssuesAfter possible good (handler i request))
    (answers : ∀ c s t r, Inv s → m.interp c s = some (t, r) → possible c r)
    (keep : ∀ c s t r, Inv s → good c → careful c s → m.interp c s = some (t, r) → Inv t)
    (events : ∀ s e, Inv s → m.happens s e → Inv (m.after s e))
    {log : List (Pool ι Cmd Res α σ × Action ι Request Event)} {w : Pool ι Cmd Res α σ}
    (run : (pool m handler init).Run log w) (h : ∀ e ∈ log, Careful careful e.1 e.2) :
    Inv w.store := by
  have sound : Sound possible good Inv w := by
    refine run.invariant ?_ (fun w a sound enabled => next_sound serve answers keep events sound
      enabled) h
    rintro w ⟨idle, initial⟩
    refine ⟨fun i => ?_, start _ initial⟩
    obtain ⟨a, ret⟩ := idle i
    rw [ret]
    trivial
  exact sound.store

section Decidable

variable {w : Pool ι Cmd Res α σ}

instance (a : Action ι Request Event) [∀ c, Decidable (m.fails c)]
    [∀ s e, Decidable (m.happens s e)] : Decidable (Enabled m w a) := by
  rcases a <;> dsimp only [Enabled] <;> (try split) <;> infer_instance

instance (a : Action ι Request Event) [∀ c s, Decidable (careful c s)] :
    Decidable (Careful careful w a) := by
  rcases a <;> dsimp only [Careful] <;> (try split) <;> infer_instance

end Decidable

end ProgramPools
