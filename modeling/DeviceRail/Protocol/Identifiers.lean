import DeviceRail.Support.Fallible
import Mathlib.Data.Nat.Basic

/-!
# Identifiers and sequence numbers

The scalar identifiers of the wire protocol.  Unsigned 64-bit quantities are
natural numbers; the one place where their range matters, the one-based event
sequence, carries its bounds as fields.
-/

namespace DeviceRail

export Fallible (guard_eq_ok require_eq_ok)

/-- The largest integer every supported client language represents exactly
(`MAX_SAFE_INTEGER`). -/
def maxSafeInteger : ℕ := 9007199254740991

/-- A 128-bit universally unique identifier. -/
structure Uuid where
  bits : BitVec 128
deriving DecidableEq, Repr

namespace Uuid

/-- The hyphenated lowercase form used by `Display` and by serialization. -/
def toText (id : Uuid) : String :=
  let digits := id.bits.toHex.toList
  let part (start count : ℕ) := String.ofList ((digits.drop start).take count)
  part 0 8 ++ "-" ++ part 8 4 ++ "-" ++ part 12 4 ++ "-" ++ part 16 4 ++
    "-" ++ part 20 12

end Uuid

structure SessionId where
  uuid : Uuid
deriving DecidableEq, Repr

structure EventId where
  uuid : Uuid
deriving DecidableEq, Repr

structure MediaStreamId where
  uuid : Uuid
deriving DecidableEq, Repr

structure DeviceId where
  text : String
deriving DecidableEq, Repr

/-- A JSON-RPC request identifier. -/
inductive RpcId where
  | string (value : String)
  | number (value : ℕ)
deriving DecidableEq, Repr

/-- A one-based sequence number within one session, at most
`maxSafeInteger`. -/
structure EventSequence where
  get : ℕ
  pos : 0 < get
  safe : get ≤ maxSafeInteger
deriving DecidableEq, Repr

namespace EventSequence

@[ext] theorem ext {a b : EventSequence} (h : a.get = b.get) : a = b := by
  cases b
  cases h
  rfl

def first : EventSequence := ⟨1, by decide, by decide⟩

def second : EventSequence := ⟨2, by decide, by decide⟩

def third : EventSequence := ⟨3, by decide, by decide⟩

def new (value : ℕ) : Option EventSequence :=
  if h : 0 < value ∧ value ≤ maxSafeInteger then some ⟨value, h.1, h.2⟩
  else none

def checkedNext (sequence : EventSequence) : Option EventSequence :=
  new (sequence.get + 1)

@[simp] theorem first_get : first.get = 1 := rfl

variable {sequence : EventSequence}

theorem new_eq_some {value : ℕ} :
    new value = some sequence ↔ sequence.get = value := by
  unfold new
  split
  next h =>
    rw [Option.some.injEq]
    constructor
    · rintro rfl
      rfl
    · intro hget
      exact EventSequence.ext hget.symm
  next h =>
    constructor
    · intro hnone
      cases hnone
    · rintro rfl
      exact absurd ⟨sequence.pos, sequence.safe⟩ h

theorem checkedNext_eq_some {next : EventSequence} :
    sequence.checkedNext = some next ↔ next.get = sequence.get + 1 :=
  new_eq_some

theorem checkedNext_eq_none :
    sequence.checkedNext = none ↔ sequence.get = maxSafeInteger := by
  have hsafe := sequence.safe
  unfold checkedNext new
  split <;> simp <;> omega

end EventSequence

/-- The position a replay cursor stands for: `none` is before the first
event. -/
def cursorPosition (after : Option EventSequence) : ℕ :=
  after.elim 0 EventSequence.get

@[simp] theorem cursorPosition_none : cursorPosition none = 0 := rfl

@[simp] theorem cursorPosition_some (sequence : EventSequence) :
    cursorPosition (some sequence) = sequence.get := rfl

end DeviceRail
