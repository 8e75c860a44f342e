import Mathlib.Data.List.Basic

/-!
# Frames in a byte stream

A stream is cut into pieces at a separator; the last piece may lack one.  A
reader takes a piece from what has arrived so far, up to a limit, and goes on
later where it stopped.
-/

namespace Framing

variable {α : Type*} [DecidableEq α]

/-- The pieces of a stream whose first piece has already begun, each with
whether its separator is there. -/
def pieces (separator : α) : List α → List α → List (List α × Bool)
  | piece, [] => if piece.isEmpty then [] else [(piece, false)]
  | piece, symbol :: rest =>
    if symbol = separator then (piece, true) :: pieces separator [] rest
    else pieces separator (piece ++ [symbol]) rest

inductive Read (α : Type*) where
  /-- All that has arrived is read. -/
  | pending (piece : List α)
  /-- The piece ended at its separator, or at the limit. -/
  | finished (piece : List α) (separated : Bool) (rest : List α)

/-- Read on in a piece of at most `limit` symbols. -/
def readUntil (separator : α) (limit : ℕ) : List α → List α → Read α
  | piece, [] => .pending piece
  | piece, symbol :: rest =>
    if symbol = separator then .finished piece true rest
    else if limit ≤ piece.length + 1 then
      .finished (piece ++ [symbol]) false rest
    else readUntil separator limit (piece ++ [symbol]) rest

variable {separator : α} {limit : ℕ} {piece arrived piece' rest : List α}

theorem pieces_append {line : List α} (h : separator ∉ line) :
    pieces separator piece (line ++ separator :: rest) =
      (piece ++ line, true) :: pieces separator [] rest := by
  induction line generalizing piece with
  | nil => simp [pieces]
  | cons symbol line ih =>
    obtain ⟨hsymbol, hline⟩ := not_or.mp (List.mem_cons.not.mp h)
    simp [pieces, Ne.symm hsymbol, ih hline]

/-- A reader that waits goes on in the same piece. -/
theorem pieces_of_pending
    (h : readUntil separator limit piece arrived = .pending piece')
    (more : List α) :
    pieces separator piece (arrived ++ more) =
      pieces separator piece' more := by
  induction arrived generalizing piece with
  | nil =>
    cases h
    rfl
  | cons symbol arrived ih =>
    rw [readUntil] at h
    split_ifs at h with hsymbol
    rw [List.cons_append, pieces, if_neg hsymbol]
    exact ih h

/-- A piece that was read up to its separator is the first one. -/
theorem pieces_of_separated (h : readUntil separator limit piece arrived =
      .finished piece' true rest) (more : List α) :
    pieces separator piece (arrived ++ more) =
      (piece', true) :: pieces separator [] (rest ++ more) := by
  induction arrived generalizing piece with
  | nil => cases h
  | cons symbol arrived ih =>
    rw [readUntil] at h
    rw [List.cons_append, pieces]
    split_ifs at h with hsymbol hlimit
    · cases h
      rw [if_pos hsymbol]
    · cases h
    · rw [if_neg hsymbol]
      exact ih h

theorem pieces_cons (hpiece : piece ≠ []) (stream : List α) :
    ∃ first separated later, piece.length ≤ first.length ∧
      pieces separator piece stream = (first, separated) :: later := by
  induction stream generalizing piece with
  | nil =>
    refine ⟨piece, false, [], Nat.le_refl _, ?_⟩
    rw [pieces, if_neg (by simpa using hpiece)]
  | cons symbol stream ih =>
    rw [pieces]
    split
    next => exact ⟨piece, true, _, Nat.le_refl _, rfl⟩
    next =>
      obtain ⟨first, separated, later, hle, heq⟩ :=
        @ih (piece ++ [symbol]) (by simp)
      rw [List.length_append] at hle
      exact ⟨first, separated, later, by omega, heq⟩

/-- A piece that was cut at the limit is at least that long. -/
theorem pieces_of_cut (h : readUntil separator limit piece arrived =
      .finished piece' false rest) (more : List α) :
    limit ≤ piece'.length ∧
    ∃ first separated later, piece'.length ≤ first.length ∧
      pieces separator piece (arrived ++ more) =
        (first, separated) :: later := by
  induction arrived generalizing piece with
  | nil => cases h
  | cons symbol arrived ih =>
    rw [readUntil] at h
    rw [List.cons_append, pieces]
    split_ifs at h with hsymbol hlimit
    · cases h
    · cases h
      rw [if_neg hsymbol]
      exact ⟨by simpa using hlimit, pieces_cons (by simp) _⟩
    · rw [if_neg hsymbol]
      exact ih h

end Framing
