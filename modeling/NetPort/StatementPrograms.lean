import Mathlib.Logic.Relation

/-! Programs that issue commands to a store other clients change in between.
A command either fails and leaves the store alone, or answers and updates it.
`Safe` is the weakest precondition of a program under such interference; its
rules reduce an invariant of every interleaving to facts about single commands. -/
namespace StatementPrograms

open Relation

/-- The continuation of a call receives `none` when the command failed. -/
inductive Prog (Cmd : Type) (Res : Cmd → Type) (α : Type) where
  | ret (a : α)
  | call (c : Cmd) (k : Option (Res c) → Prog Cmd Res α)

variable {Cmd : Type} {Res : Cmd → Type} {α β σ Request : Type}

namespace Prog

def bind : Prog Cmd Res α → (α → Prog Cmd Res β) → Prog Cmd Res β
  | .ret a, f => f a
  | .call c k, f => .call c fun r => bind (k r) f

instance : Monad (Prog Cmd Res) where
  pure := .ret
  bind := bind

@[simp] theorem pure_eq (a : α) : (pure a : Prog Cmd Res α) = .ret a := rfl

@[simp] theorem ret_bind (a : α) (f : α → Prog Cmd Res β) : (ret a >>= f) = f a := rfl

@[simp] theorem call_bind (c : Cmd) (k : Option (Res c) → Prog Cmd Res α)
    (f : α → Prog Cmd Res β) : (call c k >>= f) = call c fun r => k r >>= f := rfl

end Prog

def perform (c : Cmd) : Prog Cmd Res (Option (Res c)) := .call c .ret

@[simp] theorem perform_bind (c : Cmd) (f : Option (Res c) → Prog Cmd Res β) :
    (perform c >>= f) = .call c f := rfl

/-- Every command the program may issue, whatever the answers, satisfies `good`. -/
def Issues (good : Cmd → Prop) : Prog Cmd Res α → Prop
  | .ret _ => True
  | .call c k => good c ∧ ∀ r, Issues good (k r)

@[simp] theorem issues_ret (good : Cmd → Prop) (a : α) :
    Issues good (Prog.ret a : Prog Cmd Res α) := trivial

@[simp] theorem issues_call (good : Cmd → Prop) (c : Cmd)
    (k : Option (Res c) → Prog Cmd Res α) :
    Issues good (.call c k) ↔ good c ∧ ∀ r, Issues good (k r) := Iff.rfl

@[simp] theorem issues_perform (good : Cmd → Prop) (c : Cmd) :
    Issues good (perform c : Prog Cmd Res _) ↔ good c := by
  simp [perform]

/-- A command whose failure ends the program, or leads to another one. -/
theorem Issues.attempt {good : Cmd → Prop} {c : Cmd} {k : Option (Res c) → Prog Cmd Res α}
    (h : good c) (failed : Issues good (k none)) (done : ∀ r, Issues good (k (some r))) :
    Issues good (.call c k) := by
  refine ⟨h, fun r => ?_⟩
  cases r with
  | none => exact failed
  | some r => exact done r

theorem Issues.bind {good : Cmd → Prop} {p : Prog Cmd Res α} {f : α → Prog Cmd Res β}
    (hp : Issues good p) (hf : ∀ a, Issues good (f a)) : Issues good (p >>= f) := by
  induction p with
  | ret a => exact hf a
  | call c k ih => exact ⟨hp.1, fun r => ih r (hp.2 r)⟩

theorem Issues.imp {good better : Cmd → Prop} {p : Prog Cmd Res α} (h : Issues good p)
    (imp : ∀ c, good c → better c) : Issues better p := by
  induction p with
  | ret a => trivial
  | call c k ih => exact ⟨imp c h.1, fun r => ih r (h.2 r)⟩

theorem issues_of_all {good : Cmd → Prop} (h : ∀ c, good c) (p : Prog Cmd Res α) :
    Issues good p := by
  induction p with
  | ret a => trivial
  | call c k ih => exact ⟨h c, ih⟩

section Traced

variable {γ : Type} {update : γ → (c : Cmd) → Option (Res c) → γ} {good : γ → Cmd → Prop}

/-- Every command is good for what the answers before it have recorded. -/
def Traced (update : γ → (c : Cmd) → Option (Res c) → γ) (good : γ → Cmd → Prop) :
    γ → Prog Cmd Res α → Prop
  | _, .ret _ => True
  | g, .call c k => good g c ∧ ∀ r, Traced update good (update g c r) (k r)

theorem Traced.bind {g : γ} {p : Prog Cmd Res α} {f : α → Prog Cmd Res β}
    (h : Traced update good g p) (rest : ∀ g a, Traced update good g (f a)) :
    Traced update good g (p >>= f) := by
  induction p generalizing g with
  | ret a => exact rest g a
  | call c k ih => exact ⟨h.1, fun r => ih r (h.2 r)⟩

/-- Besides, what the program returns fits what has been recorded. -/
def TracedTo (update : γ → (c : Cmd) → Option (Res c) → γ) (good : γ → Cmd → Prop)
    (Q : γ → α → Prop) : γ → Prog Cmd Res α → Prop
  | g, .ret a => Q g a
  | g, .call c k => good g c ∧ ∀ r, TracedTo update good Q (update g c r) (k r)

theorem TracedTo.bind {Q : γ → α → Prop} {R : γ → β → Prop} {g : γ} {p : Prog Cmd Res α}
    {f : α → Prog Cmd Res β} (h : TracedTo update good Q g p)
    (rest : ∀ g a, Q g a → TracedTo update good R g (f a)) :
    TracedTo update good R g (p >>= f) := by
  induction p generalizing g with
  | ret a => exact rest g a h
  | call c k ih => exact ⟨h.1, fun r => ih r (h.2 r)⟩

theorem TracedTo.traced {Q : γ → α → Prop} {g : γ} {p : Prog Cmd Res α}
    (h : TracedTo update good Q g p) : Traced update good g p := by
  induction p generalizing g with
  | ret a => trivial
  | call c k ih => exact ⟨h.1, fun r => ih r (h.2 r)⟩

theorem traced_of_issues {p : Prog Cmd Res α} (h : Issues (fun c => ∀ g, good g c) p) (g : γ) :
    Traced update good g p := by
  induction p generalizing g with
  | ret a => trivial
  | call c k ih => exact ⟨h.1 g, fun r => ih r (h.2 r) _⟩

end Traced

def run (interp : (c : Cmd) → σ → Option (σ × Res c)) : Prog Cmd Res α → σ → α × σ
  | .ret a, s => (a, s)
  | .call c k, s =>
    match interp c s with
    | some (t, r) => run interp (k (some r)) t
    | none => run interp (k none) s

def firstCalls : Nat → Prog Cmd Res α → Prog Cmd Res (Prog Cmd Res α)
  | 0, p => .ret p
  | _ + 1, .ret a => .ret (.ret a)
  | n + 1, .call c k => .call c fun r => firstCalls n (k r)

/-- The program alone issues every command in a state where it is permitted. -/
def Permitted (interp : (c : Cmd) → σ → Option (σ × Res c)) (permit : Cmd → σ → Prop) :
    Prog Cmd Res α → σ → Prop
  | .ret _, _ => True
  | .call c k, s =>
    match interp c s with
    | some (t, r) => permit c s ∧ Permitted interp permit (k (some r)) t
    | none => Permitted interp permit (k none) s

instance decidablePermitted (interp : (c : Cmd) → σ → Option (σ × Res c))
    (permit : Cmd → σ → Prop) [∀ c s, Decidable (permit c s)] :
    (p : Prog Cmd Res α) → (s : σ) → Decidable (Permitted interp permit p s)
  | .ret _, _ => isTrue trivial
  | .call c k, s =>
    match h : interp c s with
    | some (t, r) =>
      have := decidablePermitted interp permit (k (some r)) t
      decidable_of_iff (permit c s ∧ Permitted interp permit (k (some r)) t)
        (by simp only [Permitted, h])
    | none =>
      have := decidablePermitted interp permit (k none) s
      decidable_of_iff (Permitted interp permit (k none) s) (by simp only [Permitted, h])

theorem permitted_true (interp : (c : Cmd) → σ → Option (σ × Res c)) (p : Prog Cmd Res α) (s : σ) :
    Permitted interp (fun _ _ => True) p s := by
  induction p generalizing s with
  | ret a => trivial
  | call c k ih =>
    simp only [Permitted]
    split
    · exact ⟨trivial, ih _ _⟩
    · exact ih _ _

/-- The program alone executes every command, each in a state where it is permitted. -/
def Succeeds (interp : (c : Cmd) → σ → Option (σ × Res c)) (permit : Cmd → σ → Prop) :
    Prog Cmd Res α → σ → Prop
  | .ret _, _ => True
  | .call c k, s =>
    match interp c s with
    | some (t, r) => permit c s ∧ Succeeds interp permit (k (some r)) t
    | none => False

instance decidableSucceeds (interp : (c : Cmd) → σ → Option (σ × Res c))
    (permit : Cmd → σ → Prop) [∀ c s, Decidable (permit c s)] :
    (p : Prog Cmd Res α) → (s : σ) → Decidable (Succeeds interp permit p s)
  | .ret _, _ => isTrue trivial
  | .call c k, s =>
    match h : interp c s with
    | some (t, r) =>
      have := decidableSucceeds interp permit (k (some r)) t
      decidable_of_iff (permit c s ∧ Succeeds interp permit (k (some r)) t)
        (by simp only [Succeeds, h])
    | none => isFalse (by simp only [Succeeds, h, not_false_eq_true])

/-- One server thread over a shared store. `fails` says when a command may fail, `env` is what
other clients may do to the store between two commands, `handler` the program that serves a
request. -/
structure Server (Cmd : Type) (Res : Cmd → Type) (σ Request α : Type) where
  interp : (c : Cmd) → σ → Option (σ × Res c)
  fails : Cmd → σ → Prop
  env : σ → σ → Prop
  handler : Request → Prog Cmd Res α

namespace Server

def Refuses (S : Server Cmd Res σ Request β) : Prop := ∀ c s, S.interp c s = none → S.fails c s

/-- `permit` restricts the states in which a command may be executed. -/
inductive Step (S : Server Cmd Res σ Request α) (permit : Cmd → σ → Prop) :
    Prog Cmd Res α × σ → Prog Cmd Res α × σ → Prop
  | accept (q : Request) (a : α) (s : σ) : Step S permit (.ret a, s) (S.handler q, s)
  | interfere {p : Prog Cmd Res α} {s t : σ} (h : S.env s t) : Step S permit (p, s) (p, t)
  | execute {c : Cmd} {k : Option (Res c) → Prog Cmd Res α} {s t : σ} {r : Res c}
      (ok : permit c s) (h : S.interp c s = some (t, r)) :
      Step S permit (.call c k, s) (k (some r), t)
  | fail {c : Cmd} {k : Option (Res c) → Prog Cmd Res α} {s : σ} (h : S.fails c s) :
      Step S permit (.call c k, s) (k none, s)

inductive Runs (S : Server Cmd Res σ Request β) (permit : Cmd → σ → Prop) :
    Prog Cmd Res α → σ → α → σ → Prop
  | ret (a : α) (s : σ) : Runs S permit (.ret a) s a s
  | interfere {p : Prog Cmd Res α} {s t u : σ} {a : α} (h : S.env s t)
      (rest : Runs S permit p t a u) : Runs S permit p s a u
  | execute {c : Cmd} {k : Option (Res c) → Prog Cmd Res α} {s t u : σ} {r : Res c} {a : α}
      (ok : permit c s) (h : S.interp c s = some (t, r)) (rest : Runs S permit (k (some r)) t a u) :
      Runs S permit (.call c k) s a u
  | fail {c : Cmd} {k : Option (Res c) → Prog Cmd Res α} {s u : σ} {a : α} (h : S.fails c s)
      (rest : Runs S permit (k none) s a u) : Runs S permit (.call c k) s a u

def Steps (S : Server Cmd Res σ Request α) (permit : Cmd → σ → Prop) :
    Prog Cmd Res α × σ → Prog Cmd Res α × σ → Prop := ReflTransGen (S.Step permit)

def Reachable (S : Server Cmd Res σ Request α) (permit : Cmd → σ → Prop) (init : σ → Prop)
    (c : Prog Cmd Res α × σ) : Prop := ∃ a s, init s ∧ S.Steps permit (.ret a, s) c

/-- Weakest precondition: `Inv` holds in every state of every execution of the program
under interference, and `Q` when it returns. -/
def Safe (S : Server Cmd Res σ Request β) (permit : Cmd → σ → Prop) (Inv : σ → Prop) :
    Prog Cmd Res α → (α → σ → Prop) → σ → Prop
  | .ret a, Q, s => ∀ t, ReflTransGen S.env s t → Inv t ∧ Q a t
  | .call c k, Q, s => ∀ t, ReflTransGen S.env s t →
      Inv t ∧ (S.fails c t → Safe S permit Inv (k none) Q t) ∧
        ∀ u r, permit c t → S.interp c t = some (u, r) → Safe S permit Inv (k (some r)) Q u

def Stable (S : Server Cmd Res σ Request β) (P : σ → Prop) : Prop :=
  ∀ s t, P s → S.env s t → P t

variable {S : Server Cmd Res σ Request β} {permit : Cmd → σ → Prop} {Inv P : σ → Prop}

theorem Stable.env_star (hP : S.Stable P) {s t : σ} (h : P s) (st : ReflTransGen S.env s t) :
    P t := by
  induction st with
  | refl => exact h
  | tail _ e ih => exact hP _ _ ih e

theorem Safe.inv {p : Prog Cmd Res α} {Q : α → σ → Prop} {s : σ}
    (h : S.Safe permit Inv p Q s) : Inv s := by
  cases p with
  | ret a => exact (h s .refl).1
  | call c k => exact (h s .refl).1

theorem Safe.env {p : Prog Cmd Res α} {Q : α → σ → Prop} {s t : σ}
    (h : S.Safe permit Inv p Q s) (e : ReflTransGen S.env s t) : S.Safe permit Inv p Q t := by
  cases p with
  | ret a => exact fun u hu => h u (e.trans hu)
  | call c k => exact fun u hu => h u (e.trans hu)

theorem safe_ret {Q : α → σ → Prop} {a : α} {s : σ} (hP : S.Stable P)
    (inv : ∀ t, P t → Inv t) (post : ∀ t, P t → Q a t) (h : P s) :
    S.Safe permit Inv (.ret a) Q s :=
  fun t e => ⟨inv t (hP.env_star h e), post t (hP.env_star h e)⟩

theorem safe_call {Q : α → σ → Prop} {c : Cmd} {k : Option (Res c) → Prog Cmd Res α} {s : σ}
    (hP : S.Stable P) (inv : ∀ t, P t → Inv t) (h : P s)
    (failed : ∀ t, P t → S.fails c t → S.Safe permit Inv (k none) Q t)
    (answered : ∀ t u r, P t → permit c t → S.interp c t = some (u, r) →
      S.Safe permit Inv (k (some r)) Q u) :
    S.Safe permit Inv (.call c k) Q s := by
  intro t e
  have ht := hP.env_star h e
  exact ⟨inv t ht, failed t ht, fun u r ok hu => answered t u r ht ok hu⟩

theorem Safe.mono {p : Prog Cmd Res α} {Q R : α → σ → Prop} {s : σ}
    (h : S.Safe permit Inv p Q s) (hQ : ∀ a t, Q a t → R a t) : S.Safe permit Inv p R s := by
  induction p generalizing s with
  | ret a => exact fun t e => ⟨(h t e).1, hQ a t (h t e).2⟩
  | call c k ih =>
    intro t e
    obtain ⟨inv, failed, answered⟩ := h t e
    exact ⟨inv, fun h => ih none (failed h), fun u r ok hu => ih (some r) (answered u r ok hu)⟩

theorem Safe.bind {γ : Type} {p : Prog Cmd Res α} {f : α → Prog Cmd Res γ}
    {Q : γ → σ → Prop} {s : σ}
    (h : S.Safe permit Inv p (fun a t => S.Safe permit Inv (f a) Q t) s) :
    S.Safe permit Inv (p >>= f) Q s := by
  induction p generalizing s with
  | ret a => exact (h s .refl).2
  | call c k ih =>
    intro t e
    obtain ⟨inv, failed, answered⟩ := h t e
    exact ⟨inv, fun h => ih none (failed h), fun u r ok hu => ih (some r) (answered u r ok hu)⟩

/-- A program all of whose commands keep a stable assertion keeps it. -/
theorem safe_of_issues {good : Cmd → Prop} {p : Prog Cmd Res α} {s : σ} (hP : S.Stable P)
    (inv : ∀ t, P t → Inv t)
    (keep : ∀ c s t r, good c → P s → permit c s → S.interp c s = some (t, r) → P t)
    (hp : Issues good p) (h : P s) : S.Safe permit Inv p (fun _ t => P t) s := by
  induction p generalizing s with
  | ret a => exact safe_ret hP inv (fun t ht => ht) h
  | call c k ih =>
    refine safe_call hP inv h (fun t ht _ => ih none (hp.2 none) ht) ?_
    intro t u r ht ok hu
    exact ih (some r) (hp.2 (some r)) (keep c t u r hp.1 ht ok hu)

theorem Safe.post {p : Prog Cmd Res α} {Q : α → σ → Prop} {s t : σ} {a : α}
    (h : S.Safe permit Inv p Q s) (run : S.Runs permit p s a t) : Q a t := by
  induction run with
  | ret a s => exact (h _ .refl).2
  | interfere e _ ih => exact ih (h.env (.single e))
  | execute ok hu _ ih => exact ih ((h _ .refl).2.2 _ _ ok hu)
  | fail failed _ ih => exact ih ((h _ .refl).2.1 failed)

theorem Runs.ret_inv {a b : α} {s t : σ} (run : S.Runs permit (.ret a : Prog Cmd Res α) s b t) :
    b = a := by
  generalize e : (Prog.ret a : Prog Cmd Res α) = p at run
  induction run with
  | ret b s => exact (Prog.ret.inj e).symm
  | interfere _ _ ih => exact ih e
  | execute _ _ _ => exact absurd e (by simp)
  | fail _ _ => exact absurd e (by simp)

/-- An execution of a call interferes first and then fails or executes the command. -/
theorem Runs.call_inv {c : Cmd} {k : Option (Res c) → Prog Cmd Res α} {s t : σ} {a : α}
    (run : S.Runs permit (.call c k) s a t) : ∃ u, ReflTransGen S.env s u ∧
      ((S.fails c u ∧ S.Runs permit (k none) u a t) ∨
        ∃ v r, permit c u ∧ S.interp c u = some (v, r) ∧ S.Runs permit (k (some r)) v a t) := by
  generalize e : (Prog.call c k : Prog Cmd Res α) = p at run
  induction run with
  | ret b s => exact absurd e (by simp)
  | interfere h _ ih =>
    obtain ⟨u, hu, rest⟩ := ih e
    exact ⟨u, hu.head h, rest⟩
  | execute ok h rest =>
    cases e
    exact ⟨_, .refl, .inr ⟨_, _, ok, h, rest⟩⟩
  | fail h rest =>
    cases e
    exact ⟨_, .refl, .inl ⟨h, rest⟩⟩

/-- What interference and every command keep, an execution keeps. -/
theorem Runs.keep {p : Prog Cmd Res α} {s t : σ} {a : α} (env : ∀ s t, P s → S.env s t → P t)
    (execute : ∀ c s t r, P s → S.interp c s = some (t, r) → P t)
    (run : S.Runs permit p s a t) (h : P s) : P t := by
  induction run with
  | ret a s => exact h
  | interfere e _ ih => exact ih (env _ _ h e)
  | execute _ hu _ ih => exact ih (execute _ _ _ _ h hu)
  | fail _ _ ih => exact ih h

/-- The server with a record of the commands it executed and the states they were executed in. -/
def recorded (S : Server Cmd Res σ Request β) : Server Cmd Res (σ × List (Cmd × σ)) Request β where
  interp c w := (S.interp c w.1).map fun r => ((r.1, w.2 ++ [(c, w.1)]), r.2)
  fails c w := S.fails c w.1
  env w w' := S.env w.1 w'.1 ∧ w'.2 = w.2
  handler := S.handler

theorem recorded_interp {c : Cmd} {w w' : σ × List (Cmd × σ)} {r : Res c}
    (h : S.recorded.interp c w = some (w', r)) :
    S.interp c w.1 = some (w'.1, r) ∧ w'.2 = w.2 ++ [(c, w.1)] := by
  obtain ⟨⟨t, a⟩, ht, e⟩ := Option.map_eq_some_iff.1 h
  cases e
  exact ⟨ht, rfl⟩

def watched {γ : Type} (S : Server Cmd Res σ Request β)
    (update : γ → (c : Cmd) → Option (Res c) → γ) : Server Cmd Res (σ × γ) Request β where
  interp c w := (S.interp c w.1).map fun r => ((r.1, update w.2 c (some r.2)), r.2)
  fails c w := S.fails c w.1
  env w w' := S.env w.1 w'.1 ∧ w'.2 = w.2
  handler := S.handler

theorem watched_interp {γ : Type} {update : γ → (c : Cmd) → Option (Res c) → γ} {c : Cmd}
    {w w' : σ × γ} {r : Res c} (h : (S.watched update).interp c w = some (w', r)) :
    S.interp c w.1 = some (w'.1, r) ∧ w'.2 = update w.2 c (some r) := by
  obtain ⟨⟨t, a⟩, ht, e⟩ := Option.map_eq_some_iff.1 h
  cases e
  exact ⟨ht, rfl⟩

/-- The program restores `P`, which holds in all of its states. -/
def Keeps (S : Server Cmd Res σ Request β) (permit : Cmd → σ → Prop) (P : σ → Prop)
    (p : Prog Cmd Res α) : Prop := ∀ s, P s → S.Safe permit P p (fun _ t => P t) s

theorem keeps_ret (hP : S.Stable P) (a : α) : S.Keeps permit P (.ret a : Prog Cmd Res α) :=
  fun _ h => safe_ret hP (fun _ ht => ht) (fun _ ht => ht) h

theorem keeps_bind {γ : Type} {p : Prog Cmd Res α} {f : α → Prog Cmd Res γ}
    (first : S.Keeps permit P p) (rest : ∀ a, S.Keeps permit P (f a)) :
    S.Keeps permit P (p >>= f) :=
  fun s h => ((first s h).mono fun a t ht => rest a t ht).bind

theorem keeps_of_issues {good : Cmd → Prop} (hP : S.Stable P)
    (keep : ∀ c s t r, good c → P s → permit c s → S.interp c s = some (t, r) → P t)
    {p : Prog Cmd Res α} (hp : Issues good p) : S.Keeps permit P p :=
  fun _ h => safe_of_issues hP (fun _ ht => ht) keep hp h

end Server

namespace Server

/-- Running a program without interference is one of its executions. -/
theorem steps_run {S : Server Cmd Res σ Request α} (refuses : S.Refuses)
    {permit : Cmd → σ → Prop} (p : Prog Cmd Res α) (s : σ) (ok : Permitted S.interp permit p s) :
    S.Steps permit (p, s) (.ret (run S.interp p s).1, (run S.interp p s).2) := by
  induction p generalizing s with
  | ret a => exact .refl
  | call c k ih =>
    simp only [run, Permitted] at ok ⊢
    split at ok
    · rename_i t r h
      exact (ReflTransGen.single (.execute ok.1 h)).trans (ih (some r) t ok.2)
    · rename_i h
      exact (ReflTransGen.single (.fail (refuses c s h))).trans (ih none s ok)

theorem steps_firstCalls {S : Server Cmd Res σ Request α} (refuses : S.Refuses)
    {permit : Cmd → σ → Prop} (n : Nat) (p : Prog Cmd Res α) (s : σ)
    (ok : Permitted S.interp permit (firstCalls n p) s) :
    S.Steps permit (p, s) (run S.interp (firstCalls n p) s) := by
  induction n generalizing p s with
  | zero => exact .refl
  | succ n ih =>
    cases p with
    | ret a => exact .refl
    | call c k =>
      simp only [firstCalls, run, Permitted] at ok ⊢
      split at ok
      · rename_i t r h
        exact (ReflTransGen.single (.execute ok.1 h)).trans (ih (k (some r)) t ok.2)
      · rename_i h
        exact (ReflTransGen.single (.fail (refuses c s h))).trans (ih (k none) s ok)

theorem runs_run {γ : Type} {S : Server Cmd Res σ Request α} (refuses : S.Refuses)
    {permit : Cmd → σ → Prop} (p : Prog Cmd Res γ) (s : σ) (ok : Permitted S.interp permit p s) :
    S.Runs permit p s (run S.interp p s).1 (run S.interp p s).2 := by
  induction p generalizing s with
  | ret a => exact .ret a s
  | call c k ih =>
    simp only [run, Permitted] at ok ⊢
    split at ok
    · rename_i t r h
      exact .execute ok.1 h (ih (some r) t ok.2)
    · rename_i h
      exact .fail (refuses c s h) (ih none s ok)

theorem runs_succeeds {γ : Type} {S : Server Cmd Res σ Request α} {permit : Cmd → σ → Prop}
    (p : Prog Cmd Res γ) (s : σ) (ok : Succeeds S.interp permit p s) :
    S.Runs permit p s (run S.interp p s).1 (run S.interp p s).2 := by
  induction p generalizing s with
  | ret a => exact .ret a s
  | call c k ih =>
    simp only [run, Succeeds] at ok ⊢
    split at ok
    · rename_i t r h
      exact .execute ok.1 h (ih (some r) t ok.2)
    · exact ok.elim

variable {S : Server Cmd Res σ Request α} {permit : Cmd → σ → Prop} {Inv P : σ → Prop}
  {init : σ → Prop}

theorem safe_step {p q : Prog Cmd Res α} {s t : σ} {Q : α → σ → Prop}
    (serve : ∀ r a u, Q a u → S.Safe permit Inv (S.handler r) Q u)
    (h : S.Safe permit Inv p Q s) (st : S.Step permit (p, s) (q, t)) :
    S.Safe permit Inv q Q t := by
  cases st with
  | accept r a => exact serve r a _ (h _ .refl).2
  | interfere e => exact h.env (.single e)
  | execute ok hu => exact (h _ .refl).2.2 _ _ ok hu
  | fail failed => exact (h _ .refl).2.1 failed

theorem safe_steps {c d : Prog Cmd Res α × σ} {Q : α → σ → Prop}
    (serve : ∀ r a u, Q a u → S.Safe permit Inv (S.handler r) Q u)
    (h : S.Safe permit Inv c.1 Q c.2) (st : S.Steps permit c d) :
    S.Safe permit Inv d.1 Q d.2 := by
  induction st with
  | refl => exact h
  | tail _ e ih => exact safe_step serve ih e

theorem steps_env {p : Prog Cmd Res α} {s t : σ} (e : ReflTransGen S.env s t) :
    S.Steps permit (p, s) (p, t) := by
  induction e with
  | refl => exact .refl
  | tail _ e ih => exact ih.tail (.interfere e)

/-- The state stays reachable along an execution of any program. -/
theorem env_reachable {p : Prog Cmd Res α} {s t : σ} (h : S.Reachable permit init (p, s))
    (e : ReflTransGen S.env s t) : S.Reachable permit init (p, t) := by
  obtain ⟨a, s₀, hs, steps⟩ := h
  exact ⟨a, s₀, hs, steps.trans (steps_env e)⟩

/-- `P` holds throughout once every request restores it. -/
theorem reachable_inv (hP : S.Stable P) (start : ∀ s, init s → P s)
    (serve : ∀ r, S.Keeps permit P (S.handler r))
    {c : Prog Cmd Res α × σ} (h : S.Reachable permit init c) : P c.2 := by
  obtain ⟨a, s, hs, st⟩ := h
  have first : S.Safe permit P (.ret a) (fun _ t => P t) s := keeps_ret hP a s (start s hs)
  exact (safe_steps (fun r _ u hu => serve r u hu) first st).inv

end Server

/-! On closed terms the kernel decides them; the elaborator is not to run the program. -/
attribute [irreducible] Permitted Succeeds

end StatementPrograms
