import Mathlib.Data.List.Nodup

/-! A ledger of resources that are opened, held in places and closed. While only resources that
are open, and no longer held anywhere, are closed, none is closed twice. -/
namespace ResourceLedger

/-- Resources are numbered as they are opened; `ω` is what they are opened for. -/
structure Ledger (ω : Type) where
  opened : List (ℕ × ω)
  closed : List (ℕ × ω)
  next : ℕ

variable {ω ι : Type}

namespace Ledger

def openNew (L : Ledger ω) (owner : ω) : Ledger ω :=
  { L with opened := L.opened ++ [(L.next, owner)], next := L.next + 1 }

def close (L : Ledger ω) (f : ℕ) (owner : ω) : Ledger ω :=
  { L with closed := L.closed ++ [(f, owner)] }

def openIf (L : Ledger ω) (f : Option ℕ) (owner : ω) : Ledger ω :=
  match f with
  | none => L
  | some _ => L.openNew owner

def closeIf (L : Ledger ω) (f : Option ℕ) (owner : ω) : Ledger ω :=
  match f with
  | none => L
  | some f => L.close f owner

def closeAll (L : Ledger ω) (owner : ι → ω) (fields : List (ι × ℕ)) : Ledger ω :=
  { L with closed := L.closed ++ fields.map fun p => (p.2, owner p.1) }

structure Balanced (L : Ledger ω) : Prop where
  once : (L.closed.map Prod.fst).Nodup
  own : ∀ c ∈ L.closed, c ∈ L.opened

def IsClosed (L : Ledger ω) (f : ℕ) : Prop := f ∈ L.closed.map Prod.fst

end Ledger

structure Books (L : Ledger ω) (owner : ι → ω) (holds : ι → ℕ → Prop) : Prop where
  balanced : L.Balanced
  fresh : ∀ c ∈ L.opened, c.1 < L.next
  held : ∀ l f, holds l f → (f, owner l) ∈ L.opened ∧ ¬ L.IsClosed f
  distinct : ∀ l l' f, holds l f → holds l' f → l = l'

structure Loose (L : Ledger ω) (holds : ι → ℕ → Prop) (f : ℕ) (w : ω) : Prop where
  opened : (f, w) ∈ L.opened
  isOpen : ¬ L.IsClosed f
  unheld : ∀ l, ¬ holds l f

namespace Loose

variable {L : Ledger ω} {holds : ι → ℕ → Prop} {f g : ℕ} {w w' : ω}

theorem openNew (h : Loose L holds f w) (w' : ω) : Loose (L.openNew w') holds f w :=
  ⟨List.mem_append_left _ h.opened, h.isOpen, h.unheld⟩

theorem close (h : Loose L holds f w) (ne : f ≠ g) : Loose (L.close g w') holds f w := by
  refine ⟨h.opened, ?_, h.unheld⟩
  intro closed
  simp only [Ledger.IsClosed, Ledger.close, List.map_append, List.mem_append] at closed
  rcases closed with old | new
  · exact h.isOpen old
  · exact ne (by simpa using new)

end Loose

namespace Books

variable {L : Ledger ω} {owner : ι → ω} {holds holds' : ι → ℕ → Prop} {f : ℕ} {w : ω} {l : ι}

theorem lt_of_closed (h : Books L owner holds) (closed : L.IsClosed f) : f < L.next := by
  obtain ⟨c, hc, rfl⟩ := List.mem_map.1 closed
  exact h.fresh c (h.balanced.own c hc)

theorem lt_of_held (h : Books L owner holds) (held : holds l f) : f < L.next :=
  h.fresh _ (h.held l f held).1

theorem mono (h : Books L owner holds) (sub : ∀ l f, holds' l f → holds l f) :
    Books L owner holds' :=
  ⟨h.balanced, h.fresh, fun l f held => h.held l f (sub l f held),
    fun l l' f held held' => h.distinct l l' f (sub l f held) (sub l' f held')⟩

theorem openNew (h : Books L owner holds) (w : ω) : Books (L.openNew w) owner holds := by
  refine ⟨⟨h.balanced.once, ?_⟩, ?_, ?_, h.distinct⟩
  · intro c hc
    exact List.mem_append_left _ (h.balanced.own c hc)
  · intro c hc
    rcases List.mem_append.1 hc with old | new
    · exact Nat.lt_succ_of_lt (h.fresh c old)
    · rw [List.mem_singleton.1 new]
      exact Nat.lt_succ_self _
  · intro l f held
    obtain ⟨opened, isOpen⟩ := h.held l f held
    exact ⟨List.mem_append_left _ opened, isOpen⟩

theorem loose_new (h : Books L owner holds) (w : ω) : Loose (L.openNew w) holds L.next w := by
  refine ⟨List.mem_append_right _ (List.mem_singleton.2 rfl), ?_, ?_⟩
  · intro closed
    exact Nat.lt_irrefl _ (h.lt_of_closed closed)
  · intro l held
    exact Nat.lt_irrefl _ (h.lt_of_held held)

/-- An open resource that nothing holds is put in a place of its owner. -/
theorem take (h : Books L owner holds) (loose : Loose L holds f (owner l))
    (sub : ∀ l' f', holds' l' f' → holds l' f' ∨ (l' = l ∧ f' = f)) : Books L owner holds' := by
  refine ⟨h.balanced, h.fresh, ?_, ?_⟩
  · intro l' f' held
    rcases sub l' f' held with old | ⟨rfl, rfl⟩
    · exact h.held l' f' old
    · exact ⟨loose.opened, loose.isOpen⟩
  · intro a b f' ha hb
    rcases sub a f' ha with oldA | ⟨rfl, rfl⟩ <;> rcases sub b _ hb with oldB | ⟨rfl, same⟩
    · exact h.distinct a b f' oldA oldB
    · rw [same] at oldA
      exact absurd oldA (loose.unheld a)
    · exact absurd oldB (loose.unheld b)
    · rfl

theorem close (h : Books L owner holds) (loose : Loose L holds f w) :
    Books (L.close f w) owner holds := by
  refine ⟨⟨?_, ?_⟩, h.fresh, ?_, h.distinct⟩
  · simp only [Ledger.close, List.map_append, List.map_cons, List.map_nil]
    refine List.nodup_append.2 ⟨h.balanced.once, by simp, ?_⟩
    intro a ha b hb same
    rw [same, List.mem_singleton.1 hb] at ha
    exact loose.isOpen ha
  · intro c hc
    rcases List.mem_append.1 hc with old | new
    · exact h.balanced.own c old
    · rw [List.mem_singleton.1 new]
      exact loose.opened
  · intro l f' held
    obtain ⟨opened, isOpen⟩ := h.held l f' held
    refine ⟨opened, ?_⟩
    intro closed
    simp only [Ledger.IsClosed, Ledger.close, List.map_append, List.mem_append] at closed
    rcases closed with old | new
    · exact isOpen old
    · have same : f' = f := by simpa using new
      exact loose.unheld l (same ▸ held)

theorem closeIf {f : Option ℕ} (h : Books L owner holds) (loose : ∀ x ∈ f, Loose L holds x w) :
    Books (L.closeIf f w) owner holds := by
  cases f with
  | none => exact h
  | some f => exact h.close (loose f rfl)

theorem loose_of_held (h : Books L owner holds) (held : holds l f)
    (sub : ∀ l' f', holds' l' f' → holds l' f' ∧ l' ≠ l) : Loose L holds' f (owner l) := by
  obtain ⟨opened, isOpen⟩ := h.held l f held
  refine ⟨opened, isOpen, ?_⟩
  intro l' held'
  obtain ⟨before, ne⟩ := sub l' f held'
  exact ne (h.distinct l' l f before held)

theorem closeAll {fields : List (ι × ℕ)} (h : Books L owner holds)
    (held : ∀ p ∈ fields, holds p.1 p.2) (places : (fields.map Prod.fst).Nodup)
    (sub : ∀ l f, holds' l f → holds l f ∧ l ∉ fields.map Prod.fst) :
    Books (L.closeAll owner fields) owner holds' := by
  induction fields generalizing L holds with
  | nil =>
    have same : L.closeAll owner [] = L := by simp [Ledger.closeAll]
    rw [same]
    exact h.mono fun l f held' => (sub l f held').1
  | cons p fields ih =>
    obtain ⟨notLater, places⟩ := List.nodup_cons.1 places
    have rest : ∀ l f, (holds l f ∧ l ≠ p.1) → holds l f ∧ l ≠ p.1 := fun _ _ both => both
    have emptied : Books L owner fun l f => holds l f ∧ l ≠ p.1 := h.mono fun _ _ both => both.1
    have closed := emptied.close (h.loose_of_held (held p (by simp)) rest)
    have split : L.closeAll owner (p :: fields) =
        (L.close p.2 (owner p.1)).closeAll owner fields := by
      simp [Ledger.closeAll, Ledger.close]
    rw [split]
    refine ih closed ?_ places ?_
    · intro q hq
      refine ⟨held q (List.mem_cons_of_mem _ hq), ?_⟩
      intro same
      exact notLater (same ▸ List.mem_map_of_mem hq)
    · intro l f held'
      obtain ⟨before, outside⟩ := sub l f held'
      simp only [List.map_cons, List.mem_cons, not_or] at outside
      exact ⟨⟨before, outside.1⟩, outside.2⟩

end Books

end ResourceLedger
