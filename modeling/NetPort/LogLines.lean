import Mathlib.Data.List.Basic

/-! The lines of a text that grows: those that a separator ends, and the unfinished one. -/
namespace LogLines

variable {α : Type} [BEq α] (sep : α) (counts : List α → Bool)

def unfinished (text : List α) : List α := (text.splitOn sep).getLast (List.splitOn_ne_nil sep text)

def finished (text : List α) : ℕ := (text.splitOn sep).dropLast.countP counts

variable {sep counts} {a b h t text : List α}

theorem countP_splitOn : (text.splitOn sep).countP counts =
    finished sep counts text + if counts (unfinished sep text) then 1 else 0 := by
  conv_lhs => rw [← List.dropLast_append_getLast (List.splitOn_ne_nil sep text)]
  rw [List.countP_append, List.countP_singleton]
  rfl

def head (sep : α) (text : List α) : List α := text.takeWhile (· != sep)

/-- Where a text is cut, the rest of the line counts if and only if the line does. -/
def Harmless (sep : α) (counts : List α → Bool) (a b : List α) : Prop :=
  sep ∈ b → counts (unfinished sep a ++ head sep b) = counts (head sep b)

variable [LawfulBEq α]

/-- Either there is no separator yet, or the text goes on after the last one. -/
theorem unfinished_cases (sep : α) (text : List α) : sep ∉ text ∨
    ∃ before rest, text = before ++ sep :: rest ∧ sep ∉ rest := by
  by_cases mem : sep ∈ text
  · right
    obtain ⟨rest, before, reversed, absent⟩ :=
      List.eq_append_cons_of_mem (List.mem_reverse.2 mem)
    refine ⟨before.reverse, rest.reverse, ?_, fun inside => absent (List.mem_reverse.1 inside)⟩
    have same := congrArg List.reverse reversed
    simpa using same
  · exact .inl mem

theorem unfinished_of_not_mem (absent : sep ∉ text) : unfinished sep text = text := by
  simp [unfinished, List.splitOn_eq_singleton absent]

theorem unfinished_concat (sep : α) (text : List α) : unfinished sep (text ++ [sep]) = [] := by
  simp [unfinished, List.splitOn_append_cons_self]

theorem splitOn_more (absent : sep ∉ h) :
    (a ++ h).splitOn sep = (a.splitOn sep).dropLast ++ [unfinished sep a ++ h] := by
  rcases unfinished_cases sep a with none_ | ⟨before, rest, rfl, none_⟩
  · have both : sep ∉ a ++ h := by simp [none_, absent]
    rw [List.splitOn_eq_singleton both, unfinished_of_not_mem none_,
      List.splitOn_eq_singleton none_]
    rfl
  · have both : sep ∉ rest ++ h := by simp [none_, absent]
    rw [List.append_assoc, List.cons_append, List.splitOn_append_cons_self,
      List.splitOn_eq_singleton both]
    simp [unfinished, List.splitOn_append_cons_self, List.splitOn_eq_singleton none_]

theorem finished_more (absent : sep ∉ h) : finished sep counts (a ++ h) = finished sep counts a := by
  rw [finished, splitOn_more absent, List.dropLast_concat]
  rfl

theorem finished_line (absent : sep ∉ h) : finished sep counts (a ++ (h ++ sep :: t)) =
    finished sep counts a + (if counts (unfinished sep a ++ h) then 1 else 0) +
      finished sep counts t := by
  have lines : (a ++ (h ++ sep :: t)).splitOn sep =
      ((a.splitOn sep).dropLast ++ [unfinished sep a ++ h]) ++ t.splitOn sep := by
    rw [← List.append_assoc, List.splitOn_append_cons_self, splitOn_more absent]
  rw [finished, lines, List.dropLast_append_of_ne_nil (List.splitOn_ne_nil sep t),
    List.countP_append, List.countP_append, List.countP_singleton]
  rfl

theorem head_line (absent : sep ∉ h) : head sep (h ++ sep :: t) = h := by
  have inside : ∀ x ∈ h, (x != sep) = true := by
    intro x hx
    have other : x ≠ sep := fun same => absent (same ▸ hx)
    simpa using other
  rw [head, List.takeWhile_append_of_pos inside]
  simp

theorem finished_append (harmless : Harmless sep counts a b) :
    finished sep counts (a ++ b) = finished sep counts a + finished sep counts b := by
  by_cases mem : sep ∈ b
  · obtain ⟨h, t, rfl, absent⟩ := List.eq_append_cons_of_mem mem
    have alone : finished sep counts ([] ++ (h ++ sep :: t)) = _ := finished_line absent
    rw [List.nil_append] at alone
    have kept := harmless mem
    rw [head_line absent] at kept
    rw [finished_line absent, kept, alone]
    simp [finished, unfinished]
    omega
  · have alone : finished sep counts ([] ++ b) = _ := finished_more mem
    rw [List.nil_append] at alone
    rw [finished_more mem, alone]
    simp [finished]

theorem finished_le_append : finished sep counts a ≤ finished sep counts (a ++ b) := by
  by_cases mem : sep ∈ b
  · obtain ⟨h, t, rfl, absent⟩ := List.eq_append_cons_of_mem mem
    rw [finished_line absent]
    omega
  · exact Nat.le_of_eq (finished_more mem).symm

theorem finished_take_le (n : ℕ) :
    finished sep counts (text.take n) ≤ finished sep counts text := by
  conv_rhs => rw [← List.take_append_drop n text]
  exact finished_le_append

end LogLines
