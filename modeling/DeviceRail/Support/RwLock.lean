import Mathlib.Data.Finset.Basic

/-!
# Reader/writer locks

A reader/writer lock as the set of its current holders.  Acquisition is a
partial operation: it is undefined while the lock is held in a conflicting
mode, which is how a waiting task is modelled.
-/

/-- A reader/writer lock over holder identities `η`. -/
structure RwLock (η : Type*) where
  writer : Option η
  readers : Finset η

namespace RwLock

variable {η : Type*}

/-- A lock nobody holds. -/
def free : RwLock η := ⟨none, ∅⟩

/-- Give up an exclusive hold. -/
def releaseWrite (lock : RwLock η) : RwLock η := { lock with writer := none }

variable [DecidableEq η]

/-- Take the lock in shared mode. -/
def tryRead (lock : RwLock η) (holder : η) : Option (RwLock η) :=
  match lock.writer with
  | none => some { lock with readers := insert holder lock.readers }
  | some _ => none

/-- Take the lock in exclusive mode. -/
def tryWrite (lock : RwLock η) (holder : η) : Option (RwLock η) :=
  match lock.writer with
  | none =>
    if lock.readers = ∅ then some { lock with writer := some holder }
    else none
  | some _ => none

/-- Give up a shared hold. -/
def releaseRead (lock : RwLock η) (holder : η) : RwLock η :=
  { lock with readers := lock.readers.erase holder }

end RwLock
