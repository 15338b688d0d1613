import Mathlib.Data.List.Infix

/-! Streams that arrive in pieces: what one read of them returns, and what a reader gets that
waits until a frame is there as a whole. -/
namespace SegmentedStreams

variable {β : Type} {pieces : List (List β)} {stream held r rest : List β} {limit : ℕ}

structure Arrives (pieces : List (List β)) (stream : List β) : Prop where
  whole : pieces.flatten = stream
  filled : ∀ piece ∈ pieces, piece ≠ []

def firstRead (limit : ℕ) : List (List β) → List β
  | [] => []
  | piece :: _ => piece.take limit

theorem Arrives.single {piece : List β} (h : Arrives (piece :: pieces) stream)
    (long : stream.length ≤ piece.length) : piece :: pieces = [stream] := by
  have whole : piece ++ pieces.flatten = stream := by simpa using h.whole
  have nothing : pieces.flatten = [] := by
    have lengths := congrArg List.length whole
    rw [List.length_append] at lengths
    exact List.length_eq_zero_iff.1 (by omega)
  have last : pieces = [] := by
    cases pieces with
    | nil => rfl
    | cons next _ =>
      have empty : next = [] := List.flatten_eq_nil_iff.1 nothing next List.mem_cons_self
      exact absurd empty (h.filled next (by simp))
  rw [last, ← whole, nothing, List.append_nil]

/-- One read returns the stream exactly where the stream fits and arrives in one piece. -/
theorem Arrives.firstRead_iff (h : Arrives pieces stream) (nonempty : stream ≠ []) :
    firstRead limit pieces = stream ↔ stream.length ≤ limit ∧ pieces = [stream] := by
  constructor
  · intro read
    cases pieces with
    | nil => exact absurd read.symm nonempty
    | cons piece later =>
      have lengths := congrArg List.length read
      rw [firstRead, List.length_take] at lengths
      exact ⟨by omega, h.single (by omega)⟩
  · rintro ⟨fits, rfl⟩
    exact List.take_of_length_le fits

/-- Frames of at most `limit` elements; one is opened once it is there as a whole. -/
structure Framing (β : Type) (limit : ℕ) where
  enclose : List β → List β
  opened : List β → Option (List β)
  whole : ∀ r rest, r.length ≤ limit → opened (enclose r ++ rest) = some r
  part : ∀ r p, r.length ≤ limit → p <+: enclose r → p ≠ enclose r → opened p = none

def Framing.gather (f : Framing β limit) (held : List β) : List (List β) → Option (List β)
  | [] => f.opened held
  | piece :: pieces =>
    match f.opened held with
    | some r => some r
    | none => f.gather (held ++ piece) pieces

/-- The first frame is read, whatever the pieces in which it arrives. -/
theorem Framing.gather_eq (f : Framing β limit) (fits : r.length ≤ limit)
    (arrives : held ++ pieces.flatten = f.enclose r ++ rest) : f.gather held pieces = some r := by
  induction pieces generalizing held with
  | nil =>
    rw [List.flatten_nil, List.append_nil] at arrives
    rw [gather, arrives, f.whole r rest fits]
  | cons piece pieces ih =>
    rcases List.append_eq_append_iff.1 arrives with ⟨missing, frame, _⟩ | ⟨more, here, _⟩
    · by_cases complete : held = f.enclose r
      · have opened := f.whole r [] fits
        rw [List.append_nil, ← complete] at opened
        simp only [gather, opened]
      · have waits := f.part r held fits ⟨missing, frame.symm⟩ complete
        simp only [gather, waits]
        exact ih (by simpa using arrives)
    · simp only [gather, here, f.whole r more fits]

end SegmentedStreams
