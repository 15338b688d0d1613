import Mathlib.Data.List.Basic
import NetPort.SqlUpdate

/-! Programs that read and write one state and may fail, triples over two runs of them, and the
rows of a table that a viewer sees. What two runs answer is compared up to failures that are left
aside. -/
namespace PairedRuns

variable {σ ε α β : Type}

def Run (σ ε α : Type) := σ → Except ε α × σ

namespace Run

protected def pure (a : α) : Run σ ε α := fun s => (.ok a, s)

protected def bind (m : Run σ ε α) (f : α → Run σ ε β) : Run σ ε β := fun s =>
  match m s with
  | (.ok a, s) => f a s
  | (.error e, s) => (.error e, s)

instance : Monad (Run σ ε) where
  pure := Run.pure
  bind := Run.bind

def read (f : σ → α) : Run σ ε α := fun s => (.ok (f s), s)

def write (f : σ → σ) : Run σ ε Unit := fun s => (.ok (), f s)

def fail (e : ε) : Run σ ε α := fun s => (.error e, s)

def lift (r : Except ε α) : Run σ ε α := fun s => (r, s)

end Run

namespace OnError

variable {post : σ → Prop} {m : Run σ ε α} {f : α → Run σ ε β} {s t : σ}

end OnError

def Alike (aside : ε → Prop) (post : α → α → σ → σ → Prop) (r r' : Except ε α × σ) : Prop :=
  match r, r' with
  | (.ok a, s), (.ok b, t) => post a b s t
  | (.error e, _), (.error e', _) => e = e' ∨ aside e ∨ aside e'
  | (.error e, _), (.ok _, _) => aside e
  | (.ok _, _), (.error e, _) => aside e

def Paired (aside : ε → Prop) (pre : σ → σ → Prop) (m m' : Run σ ε α)
    (post : α → α → σ → σ → Prop) : Prop :=
  ∀ s t, pre s t → Alike aside post (m s) (m' t)

namespace Paired

variable {aside : ε → Prop} {pre pre' : σ → σ → Prop} {m m' : Run σ ε α} {f f' : α → Run σ ε β}
  {mid post post' : α → α → σ → σ → Prop} {last : β → β → σ → σ → Prop} {e : ε}

theorem pure {a b : α} (h : ∀ s t, pre s t → post a b s t) :
    Paired aside pre (Pure.pure a) (Pure.pure b) post := h

theorem bind (first : Paired aside pre m m' mid)
    (second : ∀ a b, Paired aside (mid a b) (f a) (f' b) last) :
    Paired aside pre (m >>= f) (m' >>= f') last := by
  intro s t related
  have both := first s t related
  change Alike aside last (Run.bind m f s) (Run.bind m' f' t)
  unfold Run.bind
  rcases hm : m s with ⟨_ | a, s'⟩ <;> rcases hm' : m' t with ⟨_ | b, t'⟩ <;>
    rw [hm, hm'] at both <;> dsimp only
  · exact both
  · change aside _ at both
    rcases f' b t' with ⟨_ | _, _⟩
    · exact .inr (.inl both)
    · exact both
  · change aside _ at both
    rcases f a s' with ⟨_ | _, _⟩
    · exact .inr (.inr both)
    · exact both
  · exact second a b s' t' both

theorem mono (h : Paired aside pre m m' post) (before : ∀ s t, pre' s t → pre s t)
    (after : ∀ a b s t, post a b s t → post' a b s t) : Paired aside pre' m m' post' := by
  intro s t related
  have both := h s t (before s t related)
  rcases hm : m s with ⟨_ | a, s'⟩ <;> rcases hm' : m' t with ⟨_ | b, t'⟩ <;>
    rw [hm, hm'] at both
  · exact both
  · exact both
  · exact both
  · exact after a b s' t' both

theorem read {g g' : σ → α} (h : ∀ s t, pre s t → post (g s) (g' t) s t) :
    Paired aside pre (Run.read g) (Run.read g') post := h

theorem write {g g' : σ → σ} {after : Unit → Unit → σ → σ → Prop}
    (h : ∀ s t, pre s t → after () () (g s) (g' t)) :
    Paired aside pre (Run.write g) (Run.write g') after := h

theorem read_any {g g' : σ → α} :
    Paired aside pre (Run.read g) (Run.read g') fun _ _ => pre := fun _ _ related => related

theorem write_any {g g' : σ → σ} :
    Paired aside pre (Run.write g) (Run.write g') fun _ _ _ _ => True := fun _ _ _ => trivial

theorem fail : Paired aside pre (Run.fail e : Run σ ε α) (Run.fail e) post :=
  fun _ _ _ => .inl rfl

theorem lift {r : Except ε α} (h : ∀ a, r = .ok a → ∀ s t, pre s t → post a a s t) :
    Paired aside pre (Run.lift r) (Run.lift r) post := by
  intro s t related
  cases r with
  | error e => exact .inl rfl
  | ok a => exact h a rfl s t related

theorem fail_left (h : aside e) : Paired aside pre (Run.fail e) m' post := by
  intro s t _
  rcases hm : m' t with ⟨_ | b, t'⟩
  · exact .inr (.inl h)
  · exact h

theorem fail_right (h : aside e) : Paired aside pre m (Run.fail e) post := by
  intro s t _
  rcases hm : m s with ⟨_ | b, s'⟩
  · exact .inr (.inr h)
  · exact h

theorem of_pre (h : ∀ s t, pre s t → Paired aside (fun s' t' => s' = s ∧ t' = t) m m' post) :
    Paired aside pre m m' post := fun s t related => h s t related s t ⟨rfl, rfl⟩

theorem read_eq {g g' : σ → α} (h : ∀ s t, pre s t → g s = g' t) :
    Paired aside pre (Run.read g) (Run.read g') fun a b s t => a = b ∧ pre s t :=
  read fun s t related => ⟨h s t related, related⟩

theorem bind_eq {after : α → σ → σ → Prop}
    (first : Paired aside pre m m' fun a b s t => a = b ∧ after a s t)
    (second : ∀ a, Paired aside (after a) (f a) (f' a) last) :
    Paired aside pre (m >>= f) (m' >>= f') last := by
  refine first.bind fun a b => ?_
  rintro s t ⟨rfl, related⟩
  exact second a s t related

theorem of_still {r : Except ε α} (still : m = Run.lift r) :
    Paired aside pre m m fun a b s t => a = b ∧ pre s t := by
  rw [still]
  exact lift fun a _ s t related => ⟨rfl, related⟩

theorem forM {ι : Type} {inv : σ → σ → Prop} {body : ι → Run σ ε Unit} (xs : List ι)
    (h : ∀ x ∈ xs, Paired aside inv (body x) (body x) fun _ _ => inv) :
    Paired aside inv (xs.forM body) (xs.forM body) fun _ _ => inv := by
  induction xs with
  | nil => exact pure fun _ _ related => related
  | cons x xs ih =>
    refine bind (h x (by simp)) fun _ _ => ?_
    exact ih fun y hy => h y (List.mem_cons_of_mem x hy)

end Paired

section Rows

open SqlUpdate

variable {ρ γ : Type} {visible : ρ → Bool} {rows rows' : List ρ} {p : ρ → Bool}

def Agree (visible : ρ → Bool) (rows rows' : List ρ) : Prop :=
  rows.filter visible = rows'.filter visible

namespace Agree

theorem filter (h : Agree visible rows rows') (within : ∀ r, p r = true → visible r = true) :
    rows.filter p = rows'.filter p := by
  have twice : ∀ L : List ρ, (L.filter visible).filter p = L.filter p := by
    intro L
    rw [List.filter_filter]
    refine List.filter_congr fun r _ => ?_
    cases hp : p r with
    | false => rfl
    | true => simp [within r hp]
  rw [← twice rows, ← twice rows', h]

theorem find? (h : Agree visible rows rows') (within : ∀ r, p r = true → visible r = true) :
    rows.find? p = rows'.find? p := by
  rw [← List.head?_filter, ← List.head?_filter, h.filter within]

theorem any (h : Agree visible rows rows') (within : ∀ r, p r = true → visible r = true) :
    rows.any p = rows'.any p := by
  rw [← List.isSome_find?, ← List.isSome_find?, h.find? within]

theorem countP (h : Agree visible rows rows') (within : ∀ r, p r = true → visible r = true) :
    rows.countP p = rows'.countP p := by
  rw [List.countP_eq_length_filter, List.countP_eq_length_filter, h.filter within]

theorem updateRows {set : ρ → ρ} (h : Agree visible rows rows')
    (keep : ∀ r, p r = true → visible (set r) = visible r) :
    Agree visible (SqlUpdate.updateRows p set rows) (SqlUpdate.updateRows p set rows') := by
  have commutes : ∀ L : List ρ, (SqlUpdate.updateRows p set L).filter visible =
      SqlUpdate.updateRows p set (L.filter visible) := by
    intro L
    have same : (visible ∘ fun r => if p r then set r else r) = visible := by
      funext r
      by_cases hit : p r = true
      · simp [hit, keep r hit]
      · simp [hit]
    simp only [SqlUpdate.updateRows, List.filter_map, same]
  rw [Agree, commutes, commutes, h]

end Agree

end Rows

end PairedRuns
