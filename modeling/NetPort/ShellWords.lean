import Mathlib.Data.List.Basic

/-! The words of a shell command that has no expansions: plain text and text in single quotes. -/
namespace ShellWords

/-- What the characters mean outside quotes; the special ones are operators, expansions and the
other ways to quote. -/
structure Alphabet (α : Type) where
  quote : α
  blank : α → Bool
  special : α → Bool

variable {α : Type} [DecidableEq α] (A : Alphabet α)

/-- The words from a place on that is inside quotes or not, and in the middle of a word, of which
`word` has the characters in reverse, unless it is `none`. No result means that the text is not one
command of such words. -/
def scan : Bool → Option (List α) → List α → Option (List (List α))
  | true, _, [] => none
  | false, word, [] => some (word.map List.reverse).toList
  | true, word, c :: rest =>
    if c = A.quote then scan false (some (word.getD [])) rest
    else scan true (some (c :: word.getD [])) rest
  | false, word, c :: rest =>
    if c = A.quote then scan true (some (word.getD [])) rest
    else if A.blank c then (scan false none rest).map ((word.map List.reverse).toList ++ ·)
    else if A.special c then none
    else scan false (some (c :: word.getD [])) rest

def words (text : List α) : Option (List (List α)) := scan A false none text

inductive Piece (α : Type) where
  | plain (word : List α)
  | quoted (word : List α)

namespace Piece

def word : Piece α → List α
  | plain w => w
  | quoted w => w

def text : Piece α → List α
  | plain w => w
  | quoted w => A.quote :: (w ++ [A.quote])

/-- A plain word has no character that the shell would look at, and quotes enclose no quote. -/
def Legal : Piece α → Prop
  | plain w => w ≠ [] ∧ ∀ c ∈ w, c ≠ A.quote ∧ A.blank c = false ∧ A.special c = false
  | quoted w => A.quote ∉ w

instance (p : Piece α) : Decidable (p.Legal A) := by
  rcases p with w | w <;> dsimp only [Legal] <;> infer_instance

end Piece

def render (blank : α) : List (Piece α) → List α
  | [] => []
  | [p] => p.text A
  | p :: q :: rest => p.text A ++ blank :: render blank (q :: rest)

variable {A} {w word rest : List α} {p : Piece α} {pieces : List (Piece α)} {blank : α}

theorem scan_quoted (inside : A.quote ∉ w) : scan A true (some word) (w ++ A.quote :: rest) =
    scan A false (some (w.reverse ++ word)) rest := by
  induction w generalizing word with
  | nil => simp [scan]
  | cons c w ih =>
    have here : c ≠ A.quote := fun same => inside (same ▸ List.mem_cons_self)
    have later : A.quote ∉ w := fun mem => inside (List.mem_cons_of_mem c mem)
    rw [List.cons_append, scan, if_neg here, Option.getD_some, ih later, List.reverse_cons,
      List.append_assoc]
    rfl

theorem scan_plain (plain : ∀ c ∈ w, c ≠ A.quote ∧ A.blank c = false ∧ A.special c = false) :
    scan A false (some word) (w ++ rest) = scan A false (some (w.reverse ++ word)) rest := by
  induction w generalizing word with
  | nil => simp
  | cons c w ih =>
    obtain ⟨quote, blank, special⟩ := plain c List.mem_cons_self
    have later : ∀ d ∈ w, d ≠ A.quote ∧ A.blank d = false ∧ A.special d = false :=
      fun d hd => plain d (List.mem_cons_of_mem c hd)
    rw [List.cons_append, scan, if_neg quote, if_neg (by simp [blank]), if_neg (by simp [special]),
      Option.getD_some, ih later, List.reverse_cons, List.append_assoc]
    rfl

theorem scan_piece (legal : p.Legal A) :
    scan A false none (p.text A ++ rest) = scan A false (some p.word.reverse) rest := by
  cases p with
  | quoted w =>
    have enclosed : scan A true (some []) (w ++ A.quote :: rest) = _ := scan_quoted legal
    rw [List.append_nil] at enclosed
    simp only [Piece.text, List.cons_append, List.append_assoc, List.nil_append]
    rw [scan, if_pos rfl]
    exact enclosed
  | plain w =>
    obtain ⟨some_, plain⟩ := legal
    cases w with
    | nil => exact absurd rfl some_
    | cons c w =>
      obtain ⟨quote, blank, special⟩ := plain c List.mem_cons_self
      have later : scan A false (some [c]) (w ++ rest) = _ :=
        scan_plain fun d hd => plain d (List.mem_cons_of_mem c hd)
      rw [Piece.text, List.cons_append, scan, if_neg quote, if_neg (by simp [blank]),
        if_neg (by simp [special]), Piece.word, List.reverse_cons]
      exact later

theorem words_render (isBlank : A.blank blank = true) (apart : blank ≠ A.quote)
    (legal : ∀ p ∈ pieces, p.Legal A) :
    words A (render A blank pieces) = some (pieces.map Piece.word) := by
  unfold words
  induction pieces with
  | nil => rfl
  | cons p rest ih =>
    have here := legal p List.mem_cons_self
    have later := ih fun q hq => legal q (List.mem_cons_of_mem p hq)
    cases rest with
    | nil =>
      have single : scan A false none (p.text A ++ []) = _ := scan_piece here
      rw [List.append_nil] at single
      rw [render, single, scan, Option.map_some, List.reverse_reverse]
      rfl
    | cons q rest =>
      rw [render, scan_piece here, scan, if_neg apart, if_pos isBlank, later, Option.map_some,
        Option.map_some, List.reverse_reverse]
      rfl

end ShellWords
