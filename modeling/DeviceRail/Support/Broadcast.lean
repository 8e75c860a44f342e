import Mathlib.Data.Finset.Card

/-!
# Lossy broadcast channels

A multi-receiver channel that keeps its last `capacity` values.  The channel
is described by the list of all values it has stored, of which only the last
`capacity` can still be read; a receiver is a position in that list.  A
receiver that falls behind the readable window is told how many values it
missed instead of being given a later value.  A value sent while nobody is
registered is dropped and does not move the positions.
-/

/-- A broadcast channel of values `α` with receivers named by `ρ`. -/
structure Broadcast (α ρ : Type*) where
  capacity : ℕ
  history : List α
  receivers : Finset ρ

namespace Broadcast

variable {α ρ : Type*} {c : Broadcast α ρ} {pos : ℕ}

/-- Answer of a non-blocking receive. -/
inductive Received (α : Type*) where
  | empty
  | lagged (missed : ℕ)
  | value (v : α)

/-- A new channel; its storage is rounded up to a power of two. -/
def channel (capacity : ℕ) : Broadcast α ρ := ⟨capacity.nextPowerOfTwo, [], ∅⟩

def receiverCount (c : Broadcast α ρ) : ℕ := c.receivers.card

/-- The position at which a receiver registered now starts reading. -/
def position (c : Broadcast α ρ) : ℕ := c.history.length

/-- The values a receiver at `pos` has not read yet, overwritten or not. -/
def unread (c : Broadcast α ρ) (pos : ℕ) : List α := c.history.drop pos

/-- The receiver at `pos` has lost values to the ring. -/
def Lagging (c : Broadcast α ρ) (pos : ℕ) : Prop :=
  pos + c.capacity < c.history.length

instance (c : Broadcast α ρ) (pos : ℕ) : Decidable (c.Lagging pos) :=
  inferInstanceAs (Decidable (_ < _))

/-- Receive without waiting; also the receiver's position afterwards. -/
def tryRecv (c : Broadcast α ρ) (pos : ℕ) : Received α × ℕ :=
  if c.Lagging pos then
    (.lagged (c.history.length - c.capacity - pos),
      c.history.length - c.capacity)
  else
    match c.unread pos with
    | [] => (.empty, pos)
    | v :: _ => (.value v, pos + 1)

theorem unread_position (c : Broadcast α ρ) : c.unread c.position = [] := by
  simp [unread, position]

theorem unread_succ {v : α} {rest : List α} (h : c.unread pos = v :: rest) :
    c.unread (pos + 1) = rest := by
  unfold unread at h ⊢
  rw [← List.drop_drop, h]
  rfl

theorem not_lagging_of_unread_nil (h : c.unread pos = []) : ¬c.Lagging pos := by
  have hle : c.history.length ≤ pos := by simpa [unread] using h
  unfold Lagging
  omega

variable [DecidableEq ρ]

/-- Store a value for the registered receivers. -/
def send (c : Broadcast α ρ) (v : α) : Broadcast α ρ :=
  if c.receivers = ∅ then c else { c with history := c.history ++ [v] }

/-- Register a receiver; it reads from `position` on. -/
def subscribe (c : Broadcast α ρ) (r : ρ) : Broadcast α ρ :=
  { c with receivers := insert r c.receivers }

/-- Drop a receiver. -/
def unsubscribe (c : Broadcast α ρ) (r : ρ) : Broadcast α ρ :=
  { c with receivers := c.receivers.erase r }

@[simp] theorem send_receivers (c : Broadcast α ρ) (v : α) :
    (c.send v).receivers = c.receivers := by
  unfold send
  split <;> rfl

/-- A registered receiver finds every sent value at the end of its unread
values. -/
theorem unread_send {r : ρ} (hr : r ∈ c.receivers) (hpos : pos ≤ c.position)
    (v : α) : (c.send v).unread pos = c.unread pos ++ [v] := by
  have hne : c.receivers ≠ ∅ := Finset.ne_empty_of_mem hr
  simp only [send, hne, if_false, unread]
  exact List.drop_append_of_le_length hpos

/-- A value is only ever added at the end of the history. -/
theorem history_prefix_send (c : Broadcast α ρ) (v : α) :
    c.history <+: (c.send v).history := by
  unfold send
  split
  · exact List.prefix_refl _
  · exact List.prefix_append _ _

end Broadcast
