import Mathlib.Data.List.Basic

/-! What a list of commands does to one named object of a schema, whatever it was before. -/
namespace ObjectEffects

variable {τ ε : Type}

/-- `ensure` is a creation with IF NOT EXISTS: an object that is there keeps its text. -/
inductive Effect (τ : Type) where
  | keep
  | drop
  | set (text : τ)
  | ensure (text : τ)
  deriving DecidableEq, Repr

namespace Effect

def apply : Effect τ → Option τ → Option τ
  | keep, before => before
  | drop, _ => none
  | set text, _ => some text
  | ensure _, some before => some before
  | ensure text, none => some text

def andThen : Effect τ → Effect τ → Effect τ
  | e, keep => e
  | _, drop => drop
  | _, set text => set text
  | keep, ensure text => ensure text
  | drop, ensure text => set text
  | set before, ensure _ => set before
  | ensure before, ensure _ => ensure before

theorem apply_andThen (e e' : Effect τ) (d : Option τ) :
    (e.andThen e').apply d = e'.apply (e.apply d) := by
  cases e <;> cases e' <;> cases d <;> rfl

def text : Effect τ → Option τ
  | set t | ensure t => some t
  | keep | drop => none

/-- An object is there afterwards only with a text that it had or one that the effect brings. -/
theorem apply_eq_some {e : Effect τ} {d : Option τ} {t : τ} (h : e.apply d = some t) :
    d = some t ∨ e.text = some t := by
  cases e <;> cases d <;> simp_all [apply, text]

def settles [DecidableEq τ] (known allowed : List τ) : Effect τ → Bool
  | set t => decide (t ∈ allowed)
  | ensure t => decide (t ∈ allowed ∧ ∀ d ∈ known, d ∈ allowed)
  | keep | drop => false

theorem exists_apply_of_settles [DecidableEq τ] {known allowed : List τ} {e : Effect τ}
    {d : Option τ} (h : e.settles known allowed = true) (before : ∀ x, d = some x → x ∈ known) :
    ∃ t ∈ allowed, e.apply d = some t := by
  cases e with
  | keep | drop => exact absurd h nofun
  | set t => exact ⟨t, of_decide_eq_true h, rfl⟩
  | ensure t =>
    obtain ⟨fresh, old⟩ := of_decide_eq_true h
    cases d with
    | none => exact ⟨t, fresh, rfl⟩
    | some x => exact ⟨x, old x (before x rfl), rfl⟩

end Effect

def total (effect : ε → Effect τ) (commands : List ε) : Effect τ :=
  commands.foldl (fun e c => e.andThen (effect c)) .keep

theorem total_append_singleton (effect : ε → Effect τ) (commands : List ε) (c : ε) :
    total effect (commands ++ [c]) = (total effect commands).andThen (effect c) := by
  simp [total]

end ObjectEffects
