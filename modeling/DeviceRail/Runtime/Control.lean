import Mathlib.Data.List.MinMax

/-!
# Execution control

Cancellation and deadlines of one request.  Clones of a control share the
cancellation state, so a control is its deadline, and what it shows depends on
the moment at which it is asked: the clock reading, in nanoseconds, and the
cancellation reason set by then.
-/

namespace DeviceRail

open List

inductive CancellationReason where
  | requested
  | shutdown
deriving DecidableEq, Repr

def CancellationReason.asStr : CancellationReason → String
  | .requested => "requested"
  | .shutdown => "shutdown"

/-- The name `Debug` prints. -/
def CancellationReason.debugText : CancellationReason → String
  | .requested => "Requested"
  | .shutdown => "Shutdown"

inductive TimeoutScope where
  | request
  | action
  | shutdown
deriving DecidableEq, Repr

def TimeoutScope.asStr : TimeoutScope → String
  | .request => "request"
  | .action => "action"
  | .shutdown => "shutdown"

/-- The name `Debug` prints. -/
def TimeoutScope.debugText : TimeoutScope → String
  | .request => "Request"
  | .action => "Action"
  | .shutdown => "Shutdown"

structure ExecutionDeadline where
  startedAt : ℕ
  duration : ℕ
  timeoutMs : ℕ
  scope : TimeoutScope
deriving DecidableEq, Repr

def ExecutionDeadline.remainingAt (deadline : ExecutionDeadline) (now : ℕ) :
    ℕ :=
  deadline.duration - (now - deadline.startedAt)

structure ExecutionControl where
  deadline : Option ExecutionDeadline
deriving DecidableEq, Repr

/-- What is visible at one reading of a control. -/
structure Moment where
  now : ℕ
  reason : Option CancellationReason
deriving DecidableEq, Repr

namespace ExecutionControl

def unbounded : ExecutionControl := ⟨none⟩

/-- `Duration::from_millis`, in nanoseconds. -/
def fromMillis (timeoutMs : ℕ) : ℕ := timeoutMs * 1000000

/-- `with_timeout`: a derived control can only shorten the deadline. -/
def withTimeout (control : ExecutionControl) (now timeoutMs : ℕ)
    (scope : TimeoutScope) : ExecutionControl :=
  let candidate : ExecutionDeadline :=
    ⟨now, fromMillis timeoutMs, timeoutMs, scope⟩
  match control.deadline with
  | some existing =>
    if candidate.duration < existing.remainingAt now then ⟨some candidate⟩
    else ⟨some existing⟩
  | none => ⟨some candidate⟩

def isExpired (control : ExecutionControl) (moment : Moment) : Bool :=
  control.deadline.any (fun deadline => deadline.remainingAt moment.now == 0)

def timeout (control : ExecutionControl) : Option (TimeoutScope × ℕ) :=
  control.deadline.map (fun deadline => (deadline.scope, deadline.timeoutMs))

end ExecutionControl

/-! ## Shared cancellation -/

/-- The reasons of the cancellation states in the order of their creation. -/
structure Cancellations where
  reasons : List (Option CancellationReason)

structure ExecutionController where
  cancellation : ℕ
deriving DecidableEq

/-- A control with the cancellation state it shares with its clones. -/
structure SharedControl where
  cancellation : ℕ
  control : ExecutionControl

namespace ExecutionController

def new (states : Cancellations) :
    (ExecutionController × SharedControl) × Cancellations :=
  ((⟨states.reasons.length⟩, ⟨states.reasons.length, .unbounded⟩),
    ⟨states.reasons ++ [none]⟩)

def cancel (controller : ExecutionController) (reason : CancellationReason)
    (states : Cancellations) : Bool × Cancellations :=
  match states.reasons[controller.cancellation]? with
  | some none =>
    (true, ⟨states.reasons.set controller.cancellation (some reason)⟩)
  | _ => (false, states)

end ExecutionController

def SharedControl.cancellationReason (control : SharedControl)
    (states : Cancellations) : Option CancellationReason :=
  states.reasons[control.cancellation]?.join

/-- The calls that write a cancellation state.  They hold its lock, so calls
that race happen in some order. -/
inductive ControlCall where
  | new
  | cancel (controller : ExecutionController) (reason : CancellationReason)

namespace ControlCall

def run (states : Cancellations) : ControlCall → Cancellations
  | new => (ExecutionController.new states).2
  | cancel controller reason => (controller.cancel reason states).2

/-- The reason that the call gives for cancelling through a controller. -/
def reasonFor (controller : ExecutionController) :
    ControlCall → Option CancellationReason
  | new => none
  | cancel other reason => if other = controller then some reason else none

variable {states : Cancellations} {controller : ExecutionController}
  {reason : Option CancellationReason}

theorem run_reasons (call : ControlCall)
    (h : states.reasons[controller.cancellation]? = some reason) :
    (call.run states).reasons[controller.cancellation]? =
      some (reason.or (call.reasonFor controller)) := by
  cases call with
  | new =>
    have hlt := (List.getElem?_eq_some_iff.mp h).1
    simp [run, ExecutionController.new, reasonFor,
      List.getElem?_append_left hlt, h]
  | cancel other given =>
    rw [run, ExecutionController.cancel, reasonFor]
    by_cases hother : other = controller
    · have hlt := (List.getElem?_eq_some_iff.mp h).1
      rw [hother, h]
      cases reason with
      | none => simp [hlt]
      | some => exact h
    · have hne : other.cancellation ≠ controller.cancellation := by
        grind [ExecutionController]
      rw [if_neg hother]
      split <;> simp [h, hne]

theorem foldl_reasons {calls : List ControlCall}
    (h : states.reasons[controller.cancellation]? = some reason) :
    (calls.foldl run states).reasons[controller.cancellation]? =
      some (reason.or (calls.findSome? (reasonFor controller))) := by
  induction calls generalizing states reason with
  | nil => simp [h]
  | cons call calls ih =>
    rw [foldl_cons, ih (call.run_reasons h), findSome?_cons, Option.or_assoc]
    cases call.reasonFor controller <;> rfl

end ControlCall

/-! ## Chains of timeouts -/

/-- One call of `with_timeout`, with the instant it reads. -/
structure Timeout where
  now : ℕ
  timeoutMs : ℕ
  scope : TimeoutScope

namespace Timeout

def deadline (link : Timeout) : ExecutionDeadline :=
  ⟨link.now, ExecutionControl.fromMillis link.timeoutMs, link.timeoutMs,
    link.scope⟩

def expiry (link : Timeout) : ℕ :=
  link.now + ExecutionControl.fromMillis link.timeoutMs

theorem remainingAt_deadline {link : Timeout} {now : ℕ} (h : link.now ≤ now) :
    link.deadline.remainingAt now = link.expiry - now := by
  simp only [ExecutionDeadline.remainingAt, deadline, expiry]
  omega

end Timeout

namespace SharedControl

def withTimeout (control : SharedControl) (link : Timeout) : SharedControl :=
  { control with control :=
      control.control.withTimeout link.now link.timeoutMs link.scope }

variable {cancellation : ℕ} {links : List Timeout}

/-- The first of the timeouts that expire earliest gives the deadline. -/
theorem foldl_withTimeout (h : links.Pairwise (·.now ≤ ·.now)) :
    links.foldl withTimeout ⟨cancellation, .unbounded⟩ = ⟨cancellation,
      ⟨(links.argmin Timeout.expiry).map Timeout.deadline⟩⟩ := by
  induction links using List.reverseRecOn with
  | nil => rfl
  | append_singleton links link ih =>
    rw [pairwise_append] at h
    rw [foldl_append, ih h.1, argmin_concat]
    cases hleast : links.argmin Timeout.expiry with
    | none => rfl
    | some least =>
      have hnow : least.now ≤ link.now :=
        h.2.2 least (argmin_mem hleast) link mem_cons_self
      have hlt : ExecutionControl.fromMillis link.timeoutMs <
          least.deadline.remainingAt link.now ↔ link.expiry < least.expiry := by
        simp only [Timeout.remainingAt_deadline hnow, Timeout.expiry]
        omega
      simp only [foldl_cons, foldl_nil, withTimeout,
        ExecutionControl.withTimeout, Option.map_some, hlt]
      split <;> rfl

theorem isExpired_foldl {moment : Moment} (h : links.Pairwise (·.now ≤ ·.now))
    (hmoment : ∀ link ∈ links, link.now ≤ moment.now) :
    (links.foldl withTimeout ⟨cancellation, .unbounded⟩).control.isExpired
        moment = true ↔
      ∃ least ∈ links.argmin Timeout.expiry, least.expiry ≤ moment.now := by
  rw [foldl_withTimeout h, ExecutionControl.isExpired]
  cases hleast : links.argmin Timeout.expiry with
  | none => simp
  | some least =>
    have hnow := hmoment least (argmin_mem hleast)
    rw [Option.map_some, Option.any_some, beq_iff_eq,
      Timeout.remainingAt_deadline hnow, Nat.sub_eq_zero_iff_le]
    simp

end SharedControl

/-- A control derived through a chain of timeouts expires at the earliest end
among them, no later than the control it is derived from, and names the first
timeout that ends then.  Whatever calls follow, it reports the first reason that
its controller was given, and goes on reporting it. -/
theorem derived_control_reports (states : Cancellations)
    (links more : List Timeout)
    (hinstants : (links ++ more).Pairwise (·.now ≤ ·.now)) :
    let issued := ExecutionController.new states
    let parent := links.foldl SharedControl.withTimeout issued.1.2
    let child := more.foldl SharedControl.withTimeout parent
    child.control.timeout = ((links ++ more).argmin Timeout.expiry).map
      (fun least => (least.scope, least.timeoutMs)) ∧
    (∀ moment : Moment, (∀ link ∈ links ++ more, link.now ≤ moment.now) →
      (child.control.isExpired moment = true ↔
        ∃ least ∈ (links ++ more).argmin Timeout.expiry,
          least.expiry ≤ moment.now) ∧
      (parent.control.isExpired moment = true →
        child.control.isExpired moment = true)) ∧
    ∀ calls : List ControlCall,
      child.cancellationReason (calls.foldl ControlCall.run issued.2) =
        calls.findSome? (ControlCall.reasonFor issued.1.1) ∧
      ∀ reason later,
        child.cancellationReason (calls.foldl ControlCall.run issued.2) =
          some reason →
        child.cancellationReason
          ((calls ++ later).foldl ControlCall.run issued.2) = some reason := by
  intro issued parent child
  have hchild : child = (links ++ more).foldl SharedControl.withTimeout
      ⟨states.reasons.length, .unbounded⟩ := foldl_append.symm
  have hreason : ∀ calls : List ControlCall,
      child.cancellationReason (calls.foldl ControlCall.run issued.2) =
        calls.findSome? (ControlCall.reasonFor issued.1.1) := by
    intro calls
    rw [hchild, SharedControl.foldl_withTimeout hinstants]
    exact congrArg Option.join
      (ControlCall.foldl_reasons getElem?_concat_length)
  refine ⟨?_, fun moment hmoment => ?_,
    fun calls => ⟨hreason calls, fun reason later hfirst => ?_⟩⟩
  · rw [hchild, SharedControl.foldl_withTimeout hinstants,
      ExecutionControl.timeout, Option.map_map]
    rfl
  · rw [hchild, SharedControl.isExpired_foldl hinstants hmoment]
    refine ⟨Iff.rfl, fun hparent => ?_⟩
    obtain ⟨first, hfirst, hle⟩ := (SharedControl.isExpired_foldl
      (pairwise_append.mp hinstants).1
      fun link hlink => hmoment link (mem_append_left _ hlink)).mp hparent
    have hmem := mem_append_left more (argmin_mem hfirst)
    cases hleast : (links ++ more).argmin Timeout.expiry with
    | none => simp [argmin_eq_none.mp hleast] at hmem
    | some least => exact ⟨least, rfl, (le_of_mem_argmin hmem hleast).trans hle⟩
  · rw [hreason] at hfirst ⊢
    rw [findSome?_append, hfirst, Option.some_or]

theorem shortened_control_reports :
    let issued := ExecutionController.new ⟨[]⟩
    let child := [⟨0, 5, .request⟩, ⟨1, 3, .action⟩].foldl
      SharedControl.withTimeout issued.1.2
    child.control.timeout = some (.action, 3) ∧
    child.cancellationReason ([.cancel issued.1.1 .shutdown,
      .cancel issued.1.1 .requested].foldl ControlCall.run issued.2) =
        some .shutdown := by
  obtain ⟨htimeout, -, hreason⟩ := derived_control_reports ⟨[]⟩
    [⟨0, 5, .request⟩] [⟨1, 3, .action⟩] (by simp)
  exact ⟨htimeout, (hreason _).1⟩

end DeviceRail
