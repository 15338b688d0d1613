import NetPort.StatementPrograms

/-! What becomes of the commands of a program, one after the other: each is answered, refused, or
executed with its answer lost on the way back. -/
namespace CommandFates

open StatementPrograms

inductive Fate where
  | answered
  | refused
  | unanswered
  deriving DecidableEq, Repr

variable {Cmd : Type} {Res : Cmd → Type} {α β σ : Type}

/-- The program learns no difference between a refused and an unanswered command. -/
def suffer (interp : (c : Cmd) → σ → Option (σ × Res c)) (c : Cmd) (s : σ) :
    Fate → σ × Option (Res c)
  | .answered => ((interp c s).elim s (·.1), (interp c s).map (·.2))
  | .refused => (s, none)
  | .unanswered => ((interp c s).elim s (·.1), none)

def runFated (interp : (c : Cmd) → σ → Option (σ × Res c)) :
    Prog Cmd Res α → (Nat → Fate) → σ → α × σ
  | .ret a, _, s => (a, s)
  | .call c k, fates, s =>
    let r := suffer interp c s (fates 0)
    runFated interp (k r.2) (fun n => fates (n + 1)) r.1

section Calls

variable {interp : (c : Cmd) → σ → Option (σ × Res c)} {c : Cmd}
  {k : Option (Res c) → Prog Cmd Res α} {s t : σ} (fates : Nat → Fate)

@[simp] theorem runFated_ret {a : α} :
    runFated interp (.ret a : Prog Cmd Res α) fates s = (a, s) := rfl

theorem runFated_call {r : Res c} (fate : fates 0 = .answered) (h : interp c s = some (t, r)) :
    runFated interp (.call c k) fates s =
      runFated interp (k (some r)) (fun n => fates (n + 1)) t := by
  simp [runFated, suffer, fate, h]

theorem runFated_silent (fate : fates 0 ≠ .answered) :
    ∃ t, runFated interp (.call c k) fates s =
      runFated interp (k none) (fun n => fates (n + 1)) t := by
  cases h : fates 0 with
  | answered => exact absurd h fate
  | refused => exact ⟨s, by simp [runFated, suffer, h]⟩
  | unanswered => exact ⟨(interp c s).elim s (·.1), by simp [runFated, suffer, h]⟩

end Calls

/-- Whatever becomes of the commands, the program returns something with the property. -/
def Returns (Q : α → Prop) : Prog Cmd Res α → Prop
  | .ret a => Q a
  | .call _ k => ∀ r, Returns Q (k r)

variable {Q : α → Prop} {R : β → Prop} {p : Prog Cmd Res α} {f : α → Prog Cmd Res β}

@[simp] theorem returns_ret {a : α} : Returns Q (.ret a : Prog Cmd Res α) ↔ Q a := Iff.rfl

@[simp] theorem returns_call {c : Cmd} {k : Option (Res c) → Prog Cmd Res α} :
    Returns Q (.call c k) ↔ ∀ r, Returns Q (k r) := Iff.rfl

theorem returns_trivial (p : Prog Cmd Res α) : Returns (fun _ => True) p := by
  induction p with
  | ret a => trivial
  | call c k ih => exact ih

theorem Returns.bind (h : Returns Q p) (rest : ∀ a, Q a → Returns R (f a)) :
    Returns R (p >>= f) := by
  induction p with
  | ret a => exact rest a h
  | call c k ih => exact fun r => ih r (h r)

theorem Returns.runFated {interp : (c : Cmd) → σ → Option (σ × Res c)} {fates : Nat → Fate} {s : σ}
    (h : Returns Q p) : Q (CommandFates.runFated interp p fates s).1 := by
  induction p generalizing fates s with
  | ret a => exact h
  | call c k ih => exact ih _ (h _)

end CommandFates
