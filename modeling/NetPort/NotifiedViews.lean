import Mathlib.Logic.Function.Basic
import Mathlib.Logic.Relation

/-! Views of a keyed store that are kept up to date by change notifications. A notification only
names its key: somebody reads the value later, and shows what was read later still. Reads of one
key may overlap, so that answers wait to be shown. -/
namespace NotifiedViews

variable {K V S : Type} [DecidableEq K] {Shows : S → V → Prop}

/-- `owed` are the keys with a notification that has not led to a read yet; `answers` are the values
read and not shown yet, the oldest first. -/
structure State (K V S : Type) where
  current : K → V
  owed : K → Prop
  answers : List (K × V)
  view : K → S

def State.latest (s : State K V S) (k : K) : Option V :=
  ((s.answers.filter fun a => a.1 = k).map (·.2)).getLast?

/-- What a key ends up with, when it is given its last answer or stays as it is. -/
def Settles (Shows : S → V → Prop) (view : S) (current : V) : Option V → Prop
  | some answer => answer = current
  | none => Shows view current

/-- The last value read of the key is the current one, or a notification is still to be followed. -/
def Fresh (Shows : S → V → Prop) (s : State K V S) (k : K) : Prop :=
  s.owed k ∨ Settles Shows (s.view k) (s.current k) (s.latest k)

/-- What may happen without harm to the key `k`: no notification of it is lost, and its answers are
shown in the order of their reads. Anything may happen to the other keys. -/
inductive Step (Shows : S → V → Prop) (k : K) (s : State K V S) : State K V S → Prop
  | write (current : K → V) (owed : K → Prop) (keeps : s.owed k → owed k)
      (notified : current k = s.current k ∨ owed k) :
      Step Shows k s { s with current := current, owed := owed }
  | read (j : K) (owed : K → Prop) (keeps : j ≠ k → s.owed k → owed k) :
      Step Shows k s { s with owed := owed, answers := s.answers ++ [(j, s.current j)] }
  | deliver (earlier later : List (K × V)) (j : K) (v : V) (view : K → S)
      (split : s.answers = earlier ++ (j, v) :: later) (ordered : j = k → ∀ a ∈ earlier, a.1 ≠ k)
      (shown : j = k → Shows (view k) v) (others : j ≠ k → view k = s.view k) :
      Step Shows k s { s with answers := earlier ++ later, view := view }
  | reload (owed : K → Prop) (view : K → S)
      (shown : (s.owed k → owed k) ∧ view k = s.view k ∨
        (∀ a ∈ s.answers, a.1 ≠ k) ∧ Shows (view k) (s.current k)) :
      Step Shows k s { s with owed := owed, view := view }

variable {k : K} {s t : State K V S}

theorem latest_eq_none : s.latest k = none ↔ ∀ a ∈ s.answers, a.1 ≠ k := by
  rw [State.latest, List.getLast?_eq_none_iff, List.map_eq_nil_iff, List.filter_eq_nil_iff]
  simp

theorem latest_read (j : K) (v : V) (owed : K → Prop) :
    { s with owed := owed, answers := s.answers ++ [(j, v)] : State K V S }.latest k =
      if j = k then some v else s.latest k := by
  by_cases same : j = k
  · simp [State.latest, same]
  · simp [State.latest, same]

/-- An answer is taken out: the last one of the key stays, unless it was the only one. -/
theorem latest_deliver {earlier later : List (K × V)} {v : V}
    (split : s.answers = earlier ++ (k, v) :: later) (ordered : ∀ a ∈ earlier, a.1 ≠ k)
    (view : K → S) :
    s.latest k = some
      (({ s with answers := earlier ++ later, view := view : State K V S }.latest k).getD v) := by
  have none_ : earlier.filter (fun a => a.1 = k) = [] := by
    rw [List.filter_eq_nil_iff]
    intro a mem
    simpa using ordered a mem
  simp only [State.latest, split, List.filter_append, none_, List.filter_cons, decide_true,
    if_true, List.nil_append, List.map_cons, List.getLast?_cons]

theorem latest_deliver_other {earlier later : List (K × V)} {j : K} {v : V}
    (split : s.answers = earlier ++ (j, v) :: later) (other : j ≠ k) (view : K → S) :
    { s with answers := earlier ++ later, view := view : State K V S }.latest k = s.latest k := by
  simp [State.latest, split, other]

theorem fresh_step (step : Step Shows k s t) (fresh : Fresh Shows s k) : Fresh Shows t k := by
  cases step with
  | write current owed keeps notified =>
    rcases notified with same | now_
    · rcases fresh with owes | settles
      · exact .inl (keeps owes)
      · refine .inr ?_
        simp only [same]
        exact settles
    · exact .inl now_
  | read j owed keeps =>
    by_cases same : j = k
    · refine .inr ?_
      rw [latest_read, if_pos same, same]
      rfl
    · rcases fresh with owes | settles
      · exact .inl (keeps same owes)
      · refine .inr ?_
        rw [latest_read, if_neg same]
        exact settles
  | deliver earlier later j v view split ordered shown others =>
    rcases fresh with owes | settles
    · exact .inl owes
    · refine .inr ?_
      by_cases same : j = k
      · subst same
        rw [latest_deliver split (ordered rfl) view] at settles
        revert settles
        cases State.latest { s with answers := earlier ++ later, view := view } j with
        | none =>
          intro current
          have read : v = s.current j := current
          subst read
          exact shown rfl
        | some w => exact id
      · rw [latest_deliver_other split same view]
        simp only [others same]
        exact settles
  | reload owed view shown =>
    rcases shown with ⟨keeps, same⟩ | ⟨delivered, shown⟩
    · rcases fresh with owes | settles
      · exact .inl (keeps owes)
      · refine .inr ?_
        simp only [same]
        exact settles
    · have nothing := (latest_eq_none (s := { s with owed := owed, view := view })).2 delivered
      refine .inr ?_
      rw [nothing]
      exact shown

theorem fresh_run (run : Relation.ReflTransGen (Step Shows k) s t) (fresh : Fresh Shows s k) :
    Fresh Shows t k := by
  induction run with
  | refl => exact fresh
  | tail _ step ih => exact fresh_step step ih

/-- With nothing left to do for a key, its view is the current value. -/
theorem Fresh.shows (fresh : Fresh Shows s k) (followed : ¬ s.owed k)
    (delivered : ∀ a ∈ s.answers, a.1 ≠ k) : Shows (s.view k) (s.current k) := by
  rcases fresh with owes | settles
  · exact absurd owes followed
  · rw [latest_eq_none.2 delivered] at settles
    exact settles

end NotifiedViews
