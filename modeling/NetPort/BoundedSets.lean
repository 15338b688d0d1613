import Mathlib.Data.Finset.Card
import Mathlib.Data.List.Perm.Basic

/-! Finite sets that may not outgrow a capacity, and lists that hold such a set: an element is
added at the end and leaves its place to the last one. -/
namespace BoundedSets

variable {α : Type} [DecidableEq α] {capacity : ℕ}

structure BoundedSet (α : Type) (capacity : ℕ) where
  members : Finset α
  bounded : members.card ≤ capacity

inductive Op (α : Type)
  | put (a : α)
  | take (a : α)
  deriving DecidableEq

def Op.map {β : Type} (f : α → β) : Op α → Op β
  | .put a => .put (f a)
  | .take a => .take (f a)

omit [DecidableEq α] in
theorem Op.map_injective {β : Type} {f : α → β} (inj : Function.Injective f) :
    Function.Injective (Op.map f) := by
  intro op op' same
  cases op <;> cases op' <;> simp only [Op.map, Op.put.injEq, Op.take.injEq, reduceCtorEq] at same
  · rw [inj same]
  · rw [inj same]

omit [DecidableEq α] in
/-- Operations none of which is `op` have images none of which is its image. -/
theorem Op.map_ne {β : Type} {f : α → β} (inj : Function.Injective f) {op : Op α}
    {ops : List (Op α)} (h : ∀ o ∈ ops, o ≠ op) : ∀ o ∈ ops.map (Op.map f), o ≠ op.map f := by
  intro o ho
  obtain ⟨o', here, rfl⟩ := List.mem_map.1 ho
  exact fun same => h o' here (map_injective inj same)

def BoundedSet.empty : BoundedSet α capacity := ⟨∅, by simp⟩

def BoundedSet.put (s : BoundedSet α capacity) (a : α) : BoundedSet α capacity :=
  if room : s.members.card < capacity then
    ⟨insert a s.members, (Finset.card_insert_le a s.members).trans (by omega)⟩
  else s

def BoundedSet.take (s : BoundedSet α capacity) (a : α) : BoundedSet α capacity :=
  ⟨s.members.erase a, Finset.card_erase_le.trans s.bounded⟩

def BoundedSet.next (s : BoundedSet α capacity) : Op α → BoundedSet α capacity
  | .put a => s.put a
  | .take a => s.take a

def BoundedSet.run (s : BoundedSet α capacity) (ops : List (Op α)) : BoundedSet α capacity :=
  ops.foldl BoundedSet.next s

variable {s : BoundedSet α capacity} {a b : α} {op : Op α} {ops rest : List (Op α)}

@[simp] theorem BoundedSet.run_nil : s.run [] = s := rfl

@[simp] theorem BoundedSet.run_cons : s.run (op :: ops) = (s.next op).run ops := rfl

@[simp] theorem BoundedSet.run_append : s.run (ops ++ rest) = (s.run ops).run rest :=
  List.foldl_append

@[simp] theorem BoundedSet.mem_take : b ∈ (s.take a).members ↔ b ≠ a ∧ b ∈ s.members :=
  Finset.mem_erase

theorem BoundedSet.mem_put : b ∈ (s.put a).members ↔
    b ∈ s.members ∨ b = a ∧ s.members.card < capacity := by
  by_cases room : s.members.card < capacity
  · simp [put, room, or_comm]
  · simp [put, room]

theorem BoundedSet.put_of_mem (h : a ∈ s.members) : (s.put a).members = s.members := by
  by_cases room : s.members.card < capacity
  · simp [put, room, Finset.insert_eq_of_mem h]
  · simp [put, room]

theorem BoundedSet.mem_next (h : a ∈ s.members) (kept : op ≠ .take a) :
    a ∈ (s.next op).members := by
  cases op with
  | put b => exact mem_put.2 (Or.inl h)
  | take b =>
    have other : a ≠ b := fun same => kept (by rw [same])
    exact mem_take.2 ⟨other, h⟩

theorem BoundedSet.not_mem_next (h : a ∉ s.members) (kept : op ≠ .put a) :
    a ∉ (s.next op).members := by
  cases op with
  | put b =>
    intro found
    rcases mem_put.1 found with old | ⟨same, _⟩
    · exact h old
    · exact kept (by rw [same])
  | take b => exact fun found => h (mem_take.1 found).2

theorem BoundedSet.mem_run (h : a ∈ s.members) (kept : ∀ op ∈ ops, op ≠ .take a) :
    a ∈ (s.run ops).members := by
  induction ops generalizing s with
  | nil => exact h
  | cons op ops ih =>
    have now := mem_next h (kept op List.mem_cons_self)
    exact ih now fun later hl => kept later (List.mem_cons_of_mem _ hl)

theorem BoundedSet.not_mem_run (h : a ∉ s.members) (kept : ∀ op ∈ ops, op ≠ .put a) :
    a ∉ (s.run ops).members := by
  induction ops generalizing s with
  | nil => exact h
  | cons op ops ih =>
    have now := not_mem_next h (kept op List.mem_cons_self)
    exact ih now fun later hl => kept later (List.mem_cons_of_mem _ hl)

/-- After a put with room the element is there until it is taken. -/
theorem BoundedSet.mem_of_put (room : s.members.card < capacity)
    (kept : ∀ op ∈ ops, op ≠ .take a) : a ∈ ((s.put a).run ops).members :=
  mem_run (mem_put.2 (Or.inr ⟨rfl, room⟩)) kept

theorem BoundedSet.not_mem_of_take (kept : ∀ op ∈ ops, op ≠ .put a) :
    a ∉ ((s.take a).run ops).members :=
  not_mem_run (by simp) kept

section Lists

variable {l : List α}

def pushIfNew (capacity : ℕ) (a : α) (l : List α) : List α :=
  if a ∈ l then l else if l.length < capacity then l ++ [a] else l

def swapOut (a : α) (l : List α) : List α × Bool :=
  match l.findIdx? (· == a) with
  | none => (l, false)
  | some i => ((l.set i (l.getLastD a)).dropLast, true)

omit [DecidableEq α] in
theorem dropLast_set_perm {i : ℕ} (h : i < l.length) :
    (l.set i (l.getLastD a)).dropLast.Perm (l.eraseIdx i) := by
  rcases List.eq_nil_or_concat l with rfl | ⟨front, last, rfl⟩
  · simp at h
  · rw [List.concat_eq_append] at h ⊢
    by_cases before : i < front.length
    · rw [List.set_append_left _ _ before, List.eraseIdx_append_of_lt_length before]
      simp only [List.getLastD_concat, List.dropLast_concat]
      exact (List.set_perm_cons_eraseIdx before last).trans
        (List.perm_append_singleton last _).symm
    · have here : i = front.length := by
        simp at h
        omega
      subst here
      simp [List.eraseIdx_append_of_length_le]

theorem swapOut_perm : (swapOut a l).1.Perm (l.erase a) := by
  unfold swapOut
  rw [List.erase_eq_eraseIdx, List.idxOf?]
  split
  · rename_i absent
    rw [absent]
  · rename_i i found
    rw [found]
    obtain ⟨inside, _⟩ := List.findIdx?_eq_some_iff_getElem.1 found
    exact dropLast_set_perm inside

theorem swapOut_answer : (swapOut a l).2 = decide (a ∈ l) := by
  unfold swapOut
  split
  · rename_i absent
    have away : a ∉ l := fun h => by simpa using List.findIdx?_eq_none_iff.1 absent a h
    simp [away]
  · rename_i i found
    obtain ⟨inside, same, _⟩ := List.findIdx?_eq_some_iff_getElem.1 found
    have here : a ∈ l := by
      rw [← LawfulBEq.eq_of_beq same]
      exact List.getElem_mem inside
    simp [here]

/-- Taking one element keeps how often every other one is there. -/
theorem count_swapOut (h : b ≠ a) : (swapOut a l).1.count b = l.count b := by
  rw [swapOut_perm.count_eq, List.count_erase_of_ne h]

theorem pushIfNew_full (h : l.length = capacity) : pushIfNew capacity a l = l := by
  simp [pushIfNew, h]

section Images

variable {β : Type} [DecidableEq β] {f : α → β}

theorem map_pushIfNew (inj : Function.Injective f) :
    (pushIfNew capacity a l).map f = pushIfNew capacity (f a) (l.map f) := by
  simp only [pushIfNew, List.mem_map_of_injective inj, List.length_map]
  split
  · rfl
  · split
    · simp
    · rfl

theorem map_swapOut (inj : Function.Injective f) :
    (swapOut a l).1.map f = (swapOut (f a) (l.map f)).1 := by
  have same : ((· == f a) ∘ f) = (· == a) := by
    funext b
    simp [inj.eq_iff]
  unfold swapOut
  rw [List.findIdx?_map, same]
  split
  · rfl
  · rw [List.map_dropLast, List.map_set, List.getLastD_map]

end Images

structure Represents (l : List α) (s : BoundedSet α capacity) : Prop where
  nodup : l.Nodup
  members : l.toFinset = s.members

theorem Represents.empty : Represents ([] : List α) (BoundedSet.empty : BoundedSet α capacity) :=
  ⟨List.nodup_nil, rfl⟩

theorem Represents.mem_iff (h : Represents l s) : a ∈ l ↔ a ∈ s.members := by
  rw [← h.members, List.mem_toFinset]

theorem Represents.length (h : Represents l s) : l.length = s.members.card := by
  rw [← h.members, List.toFinset_card_of_nodup h.nodup]

theorem Represents.put (h : Represents l s) : Represents (pushIfNew capacity a l) (s.put a) := by
  by_cases here : a ∈ l
  · have same := s.put_of_mem (h.mem_iff.1 here)
    simp only [pushIfNew, here, if_true]
    exact ⟨h.nodup, by rw [same, h.members]⟩
  · by_cases room : l.length < capacity
    · simp only [pushIfNew, here, room, if_false, if_true]
      constructor
      · have apart : ∀ b ∈ l, b ≠ a := fun b hb same => here (same ▸ hb)
        simpa [List.nodup_append, h.nodup] using apart
      · ext b
        have space : s.members.card < capacity := by rwa [← h.length]
        simp [BoundedSet.mem_put, h.mem_iff, space, or_comm]
    · simp only [pushIfNew, here, room, if_false]
      have none : ¬ s.members.card < capacity := by rwa [← h.length]
      exact ⟨h.nodup, by simpa [BoundedSet.put, none] using h.members⟩

theorem Represents.take (h : Represents l s) : Represents (swapOut a l).1 (s.take a) := by
  constructor
  · exact swapOut_perm.nodup_iff.2 (h.nodup.erase a)
  · ext b
    rw [List.mem_toFinset, swapOut_perm.mem_iff, h.nodup.mem_erase_iff, BoundedSet.mem_take,
      h.mem_iff]

end Lists

end BoundedSets
