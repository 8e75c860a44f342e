import DeviceRail.Router.Model
import DeviceRail.Support.Framing
import DeviceRail.Support.Transition

/-!
# A loopback connection

`serve_loopback_connection_until_shutdown` from the point where the connection
is authenticated: a loop that waits at once for the next request line, for the
end of a request task and for the shutdown, and a phase that drains the tasks.
Whichever of the three comes first, the other two waits are dropped, and with
the read the bytes it has consumed.
-/

namespace DeviceRail.Daemon

open Transition List
open Framing (Read pieces readUntil)

def maxFrameBytes : ℕ := 1024 * 1024

abbrev newline : UInt8 := 10

abbrev carriageReturn : UInt8 := 13

abbrev Frame := List UInt8

/-- The line of a piece of the stream. -/
def lineText (line : List UInt8 × Bool) : Option String :=
  let bytes :=
    if line.2 ∧ line.1.getLast? = some carriageReturn then line.1.dropLast
    else line.1
  if maxFrameBytes < bytes.length then none else String.fromUTF8? ⟨⟨bytes⟩⟩

/-- The request lines among the pieces of a stream: the non-blank ones up to
the first that is too long or not UTF-8. -/
def requestLines : List (List UInt8 × Bool) → List String
  | [] => []
  | line :: lines =>
    match lineText line with
    | none => []
    | some text =>
      if Router.isBlank text then requestLines lines
      else text :: requestLines lines

/-- Why the loop was left. -/
inductive Ending where
  | endOfInput
  | invalidLine
  | failed
  | shutdown
deriving DecidableEq

inductive Pc where
  /-- Waits for a line, a task or the shutdown. -/
  | selecting
  /-- Decodes, authorizes and admits a line. -/
  | handling
  /-- Runs a request in place. -/
  | dispatching
  /-- Has written some bytes of a frame, in the loop or while draining. -/
  | writing (frame : Frame) (written : ℕ) (drains : Bool)
  | draining (writes : Bool)
  | returned
deriving DecidableEq

/-- The loop has not been left. -/
def Pc.loops : Pc → Bool
  | .selecting | .handling | .dispatching | .writing _ _ false => true
  | _ => false

/-- A connection: what the socket has delivered and the pending read has
consumed, the request tasks, each with its response once it has one, and as a
record all that has arrived, the lines handled, the frames begun and the bytes
sent. -/
structure Loopback where
  unread : List UInt8
  closed : Bool
  reading : List UInt8
  tasks : List (Option Frame)
  pc : Pc
  ending : Option Ending
  received : List UInt8
  handled : List String
  frames : List Frame
  sent : List UInt8

namespace Loopback

/-- The loop begins, after the frames of the authentication. -/
def accepted (frames : List Frame) : Loopback :=
  ⟨[], false, [], [], .selecting, none, [], [], frames, frames.flatten⟩

variable (s : Loopback)

/-- The read that is going on. -/
def read : Read UInt8 :=
  readUntil newline (maxFrameBytes + 2) s.reading s.unread

/-- The loop is left. -/
def leave (ending : Ending) : Loopback :=
  { s with
    reading := []
    pc := .draining (ending == .shutdown)
    ending := some ending }

/-- A line has been read. -/
def take (line : List UInt8 × Bool) (rest : List UInt8) : Loopback :=
  let s := { s with reading := [], unread := rest }
  match lineText line with
  | none => s.leave .invalidLine
  | some text =>
    if Router.isBlank text then s
    else { s with pc := .handling, handled := s.handled ++ [text] }

/-- The socket takes some bytes of a frame. -/
def write (frame : Frame) (written count : ℕ) (drains : Bool) : Loopback :=
  { s with
    pc := .writing frame (written + count) drains
    frames := if written = 0 then s.frames ++ [frame] else s.frames
    sent := s.sent ++ (frame.drop written).take count }

end Loopback

inductive Label where
  | socket
  | task
  | join
  | loop
  | shutdown

/-- The steps of a connection.  What decoding, authorization and admission make
of a line is left open: a response, a task, a request run in place, or the
return of a failed audit. -/
inductive Step (s : Loopback) : Label → Loopback → Prop
  | arrive (bytes : List UInt8) (hopen : s.closed = false) :
      Step s .socket
        { s with
          unread := s.unread ++ bytes
          received := s.received ++ bytes }
  | close : Step s .socket { s with closed := true }
  | finish {i} (frame : Frame) (hrunning : s.tasks[i]? = some none) :
      Step s .task { s with tasks := s.tasks.set i (some frame) }
  | poll {piece} (hpc : s.pc = .selecting) (hread : s.read = .pending piece) :
      Step s .loop { s with reading := piece, unread := [] }
  | line {piece rest separated} (hpc : s.pc = .selecting)
      (hread : s.read = .finished piece separated rest) :
      Step s .loop (s.take (piece, separated) rest)
  | lastLine {piece} (hpc : s.pc = .selecting) (hclosed : s.closed = true)
      (hread : s.read = .pending piece) (hpiece : piece ≠ []) :
      Step s .loop (s.take (piece, false) [])
  | endOfInput (hpc : s.pc = .selecting) (hclosed : s.closed = true)
      (hread : s.read = .pending []) : Step s .loop (s.leave .endOfInput)
  | unreadable (hpc : s.pc = .selecting) : Step s .socket (s.leave .failed)
  | spawn (hpc : s.pc = .handling) :
      Step s .loop { s with pc := .selecting, tasks := s.tasks ++ [none] }
  | inline (hpc : s.pc = .handling) :
      Step s .loop { s with pc := .dispatching }
  | respond (frame : Frame) (hpc : s.pc = .handling ∨ s.pc = .dispatching) :
      Step s .loop { s with pc := .writing frame 0 false }
  | unaudited (hpc : s.pc = .handling) :
      Step s .loop { s with pc := .returned, ending := some .failed }
  | join {i frame} (hpc : s.pc = .selecting)
      (htask : s.tasks[i]? = some (some frame)) :
      Step s .join
        { s with
          reading := []
          pc := .writing frame 0 false
          tasks := s.tasks.eraseIdx i }
  | crash {i} (hpc : s.pc = .selecting) (htask : s.tasks[i]? = some none) :
      Step s .task ({ s with tasks := s.tasks.eraseIdx i }.leave .failed)
  | write {frame written drains} (count : ℕ)
      (hpc : s.pc = .writing frame written drains) (hcount : 0 < count)
      (hle : written + count ≤ frame.length) :
      Step s .socket (s.write frame written count drains)
  | written {frame drains} (hpc : s.pc = .writing frame frame.length drains) :
      Step s .loop
        { s with pc := if drains then .draining true else .selecting }
  | unwritten {frame written drains}
      (hpc : s.pc = .writing frame written drains) :
      Step s .socket
        (if drains then { s with pc := .draining false } else s.leave .failed)
  | shutdown (hpc : s.pc = .selecting ∨ s.pc = .dispatching ∨
        ∃ frame written, s.pc = .writing frame written false) :
      Step s .shutdown (s.leave .shutdown)
  | drain {i frame writes} (hpc : s.pc = .draining writes)
      (htask : s.tasks[i]? = some (some frame)) :
      Step s .task
        { s with
          pc := if writes then .writing frame 0 true else .draining false
          tasks := s.tasks.eraseIdx i }
  | drainCrash {i writes} (hpc : s.pc = .draining writes)
      (htask : s.tasks[i]? = some none) :
      Step s .task { s with tasks := s.tasks.eraseIdx i }
  | drained {writes} (hpc : s.pc = .draining writes) :
      Step s .loop { s with tasks := [], pc := .returned }

variable {s s' : Loopback} {label : Label} {line : List UInt8 × Bool}
  {frames : List Frame} {labels : List Label} {pc : Pc}
  {tasks : List (Option Frame)}

/-! ## Request lines -/

namespace Loopback

/-- The bytes that may still arrive. -/
def Coming (s : Loopback) (more : List UInt8) : Prop :=
  s.closed = true → more = []

/-- The lines handled are the first request lines of the stream, whatever else
arrives.  While the loop runs, the others are still to be read; none is left
out when the loop ends with the input or at a line that is invalid. -/
structure Handles (s : Loopback) : Prop where
  unended : s.pc.loops = true → s.ending = none
  first : ∀ more, s.Coming more →
    s.handled <+: requestLines (pieces newline [] (s.received ++ more))
  running : s.pc.loops = true → ∀ more, s.Coming more →
    requestLines (pieces newline [] (s.received ++ more)) =
      s.handled ++ requestLines (pieces newline s.reading (s.unread ++ more))
  complete : s.ending = some .endOfInput ∨ s.ending = some .invalidLine →
    ∀ more, s.Coming more →
      s.handled = requestLines (pieces newline [] (s.received ++ more))

end Loopback

/-- No task ends while the read holds the beginning of a line. -/
def Unbroken (s : Loopback) (label : Label) : Prop :=
  label = .join → s.reading = []

theorem lineText_of_long (h : maxFrameBytes + 2 ≤ line.1.length) :
    lineText line = none := by
  unfold lineText
  rw [if_pos]
  split
  next =>
    rw [length_dropLast]
    omega
  next => omega

namespace Loopback

theorem Handles.of_eq {frames : List Frame} {sent : List UInt8}
    (h : s.Handles) (hloops : pc.loops = true → s.pc.loops = true) :
    Handles { s with pc := pc, tasks := tasks, frames := frames, sent := sent } :=
  ⟨fun hpc => h.unended (hloops hpc), h.first, fun hpc => h.running (hloops hpc),
    h.complete⟩

theorem Handles.leave (h : s.Handles) {ending : Ending}
    (hcomplete : ending = .endOfInput ∨ ending = .invalidLine →
      ∀ more, s.Coming more →
        s.handled = requestLines (pieces newline [] (s.received ++ more))) :
    (s.leave ending).Handles :=
  ⟨nofun, h.first, nofun,
    fun hend => hcomplete (by simpa [Loopback.leave] using hend)⟩

theorem Handles.take (h : s.Handles) (hpc : s.pc = .selecting)
    {rest : List UInt8} (hnext : ∀ more, s.Coming more →
      requestLines (pieces newline s.reading (s.unread ++ more)) =
        requestLines (line :: pieces newline [] (rest ++ more))) :
    (s.take line rest).Handles := by
  have hloops : s.pc.loops = true := by
    rw [hpc]
    rfl
  have hopen := h.unended hloops
  have hall : ∀ more, s.Coming more →
      requestLines (pieces newline [] (s.received ++ more)) =
        s.handled ++ requestLines (line :: pieces newline [] (rest ++ more)) :=
    fun more hcoming =>
      (h.running hloops more hcoming).trans (by rw [hnext more hcoming])
  simp only [requestLines] at hall
  cases htext : lineText line with
  | none =>
    simp only [htext, append_nil] at hall
    simp only [Loopback.take, htext]
    exact ⟨nofun, h.first, nofun, fun _ more hcoming => (hall more hcoming).symm⟩
  | some text =>
    simp only [htext] at hall
    simp only [Loopback.take, htext]
    split
    next hblank =>
      simp only [hblank, if_true] at hall
      exact ⟨fun _ => hopen, h.first, fun _ => hall, h.complete⟩
    next hblank =>
      simp only [hblank] at hall
      refine ⟨fun _ => hopen, fun more hcoming => ?_,
        fun _ more hcoming => ?_, by simp [hopen]⟩
      · change s.handled ++ [text] <+: requestLines (pieces newline []
          (s.received ++ more))
        rw [hall more hcoming]
        simp [prefix_append_right_inj]
      · refine (hall more hcoming).trans ?_
        simp

theorem Handles.step (h : s.Handles) (hstep : Step s label s')
    (hunbroken : Unbroken s label) : s'.Handles := by
  cases hstep with
  | arrive bytes hopen =>
    have hcoming : ∀ more, s.Coming (bytes ++ more) := by simp [Coming, hopen]
    refine ⟨h.unended, fun more _ => ?_, fun hloops more _ => ?_,
      fun hend more _ => ?_⟩
    · simpa using h.first _ (hcoming more)
    · simpa using h.running hloops _ (hcoming more)
    · simpa using h.complete hend _ (hcoming more)
  | close =>
    have hcoming : ∀ more, Coming { s with closed := true } more →
        s.Coming more := fun more hcoming _ => hcoming rfl
    exact ⟨h.unended, fun more hmore => h.first more (hcoming more hmore),
      fun hloops more hmore => h.running hloops more (hcoming more hmore),
      fun hend more hmore => h.complete hend more (hcoming more hmore)⟩
  | poll hpc hread =>
    refine ⟨h.unended, h.first, fun hloops more hcoming => ?_, h.complete⟩
    rw [nil_append, ← Framing.pieces_of_pending hread]
    exact h.running hloops more hcoming
  | @line piece rest separated hpc hread =>
    refine h.take hpc fun more _ => ?_
    cases separated with
    | true => rw [Framing.pieces_of_separated hread]
    | false =>
      obtain ⟨hlimit, first, ended, later, hle, heq⟩ :=
        Framing.pieces_of_cut hread more
      have hcut : lineText (piece, false) = none := lineText_of_long hlimit
      have hfirst : lineText (first, ended) = none :=
        lineText_of_long (hlimit.trans hle)
      rw [heq, requestLines, requestLines, hcut, hfirst]
  | lastLine hpc hclosed hread hpiece =>
    refine h.take hpc fun more hcoming => ?_
    rw [hcoming hclosed, Framing.pieces_of_pending hread]
    simp [pieces, hpiece]
  | endOfInput hpc hclosed hread =>
    refine h.leave fun _ more hcoming => ?_
    rw [h.running (by rw [hpc]; rfl) more hcoming, hcoming hclosed,
      Framing.pieces_of_pending hread]
    simp [pieces, requestLines]
  | unreadable _ | shutdown _ => exact h.leave (by simp)
  | unaudited _ => exact ⟨by rintro ⟨⟩, h.first, by rintro ⟨⟩, by simp⟩
  | join hpc _ =>
    have hloops : s.pc.loops = true := by rw [hpc]; rfl
    have hrunning := h.running hloops
    rw [hunbroken rfl] at hrunning
    exact ⟨fun _ => h.unended hloops, h.first, fun _ => hrunning, h.complete⟩
  | crash _ _ => exact (h.of_eq id).leave (by simp)
  | unwritten _ =>
    split
    next => exact h.of_eq (by rintro ⟨⟩)
    next => exact h.leave (by simp)
  | spawn hpc | inline hpc => exact h.of_eq fun _ => by rw [hpc]; rfl
  | respond _ hpc =>
    refine h.of_eq fun _ => ?_
    rcases hpc with hpc | hpc <;> rw [hpc] <;> rfl
  | @write _ _ drains _ hpc _ _ | @written _ drains hpc =>
    refine h.of_eq fun hloops => ?_
    rw [hpc]
    cases drains
    · rfl
    · exact hloops
  | @drain _ _ writes _ _ =>
    refine h.of_eq fun hloops => ?_
    cases writes <;> cases hloops
  | drained _ => exact h.of_eq (by rintro ⟨⟩)
  | _ => exact h.of_eq id

theorem Handles.run (hrun : Run (Guarded Unbroken Step)
      (accepted frames) labels s) : s.Handles := by
  refine hrun.invariant (I := Handles) ?_ ?_
  · rintro s label s' hhandles ⟨hunbroken, hstep⟩
    exact hhandles.step hstep hunbroken
  · exact ⟨fun _ => rfl, fun _ _ => nil_prefix, fun _ _ _ => rfl,
      by simp [accepted]⟩

/-- In every run in which no task ends while a line is half read, the lines a
connection handles are the request lines of its stream. -/
theorem lines_handled (hrun : Run (Guarded Unbroken Step)
      (accepted frames) labels s) : s.Handles :=
  Handles.run hrun

/-- Two requests in three chunks; the task of the first ends before the second
line has been read. -/
theorem run_joined : ∃ labels, Run
    (Guarded Unbroken Step) (accepted []) labels
    { accepted [] with
      closed := true
      pc := .draining false
      ending := some .endOfInput
      received := [97, 10, 98, 99, 10]
      handled := ["a", "bc"]
      tasks := [none]
      frames := [[49, 10]]
      sent := [49, 10] } := by
  have harrived : Run (Guarded Unbroken Step)
      (accepted []) [.socket] _ := .single ⟨by nofun, .arrive [97] rfl⟩
  have hpolled := harrived.snoc ⟨by nofun, .poll rfl rfl⟩
  have hended := hpolled.snoc ⟨by nofun, .arrive [10, 98] rfl⟩
  have hread := hended.snoc ⟨by nofun, .line rfl rfl⟩
  have hspawned := hread.snoc ⟨by nofun, .spawn rfl⟩
  have hfinished := hspawned.snoc ⟨by nofun, .finish [49, 10] (i := 0) rfl⟩
  have hjoined := hfinished.snoc ⟨fun _ => rfl, .join rfl (i := 0) rfl⟩
  have hwritten := (hjoined.snoc
    ⟨by nofun, .write 2 rfl (by decide) (by decide)⟩).snoc
      ⟨by nofun, .written rfl⟩
  have hsecond := (hwritten.snoc ⟨by nofun, .arrive [99, 10] rfl⟩).snoc
    ⟨by nofun, .line rfl rfl⟩
  have hclosed := (hsecond.snoc ⟨by nofun, .spawn rfl⟩).snoc ⟨by nofun, .close⟩
  exact ⟨_, hclosed.snoc ⟨by nofun, .endOfInput rfl rfl rfl⟩⟩

theorem lines_handled_sample : ∃ s labels,
    Run (Guarded Unbroken Step) (accepted []) labels s ∧
      s.handled = ["a", "bc"] ∧ s.Handles := by
  obtain ⟨_, hrun⟩ := run_joined
  exact ⟨_, _, hrun, rfl, lines_handled hrun⟩

theorem run_spawn : ∃ labels, Run Step (accepted []) labels
    { accepted [] with
      received := [97, 10]
      handled := ["a"]
      tasks := [none] } := by
  have harrived : Run Step (accepted []) [.socket] _ :=
    .single (.arrive [97, 10] rfl)
  have hread := harrived.snoc (.line rfl rfl)
  exact ⟨_, hread.snoc (.spawn rfl)⟩

/-- The response of a request is ready when the next line has begun. -/
theorem half_read_line_lost : ∃ s labels,
    Run Step (accepted []) labels s ∧ s.handled = ["a", "c"] ∧
      requestLines (pieces newline [] s.received) = ["a", "bc"] := by
  obtain ⟨_, hspawned⟩ := run_spawn
  have hbegun := hspawned.snoc (.arrive [98] rfl)
  have hpolled := hbegun.snoc (.poll rfl rfl)
  have hfinished := hpolled.snoc (.finish [10] (i := 0) rfl)
  have hjoined := hfinished.snoc (.join rfl (i := 0) rfl)
  have hwritten := (hjoined.snoc (.write 1 rfl (by decide) (by decide))).snoc
    (.written rfl)
  have hended := hwritten.snoc (.arrive [99, 10] rfl)
  exact ⟨_, _, hended.snoc (.line rfl rfl), rfl, rfl⟩

/-! ## Response frames -/

/-- Complete frames, and at most the beginning of one more that is the last. -/
def Framed (frames : List Frame) (sent : List UInt8) : Prop :=
  sent = frames.flatten ∨ ∃ complete frame torn,
    frames = complete ++ [frame] ∧ sent = complete.flatten ++ torn ∧
      torn <+: frame ∧ torn ≠ frame

end Loopback

/-- A write that the shutdown interrupts has sent nothing of its frame or all of
it, or no task is left to be drained. -/
def Untorn (s : Loopback) (label : Label) : Prop :=
  label = .shutdown → ∀ frame written, s.pc = .writing frame written false →
    written = 0 ∨ written = frame.length ∨ s.tasks = []

namespace Loopback

/-- What has been sent of a frame. -/
def Sending (s : Loopback) (frame : Frame) (written : ℕ) : Prop :=
  written ≤ frame.length ∧ (written = 0 → s.sent = s.frames.flatten) ∧
    (0 < written → ∃ complete, s.frames = complete ++ [frame] ∧
      s.sent = complete.flatten ++ frame.take written)

/-- What has been sent, by where the connection stands. -/
def Sends (s : Loopback) : Pc → Prop
  | .writing frame written _ => s.Sending frame written
  | .draining true =>
    s.sent = s.frames.flatten ∨ (Framed s.frames s.sent ∧ s.tasks = [])
  | .draining false | .returned => Framed s.frames s.sent
  | _ => s.sent = s.frames.flatten

variable {frame : Frame} {written : ℕ}

theorem Sending.all (h : s.Sending frame frame.length) :
    s.sent = s.frames.flatten := by
  obtain ⟨-, hzero, hpos⟩ := h
  rcases Nat.eq_zero_or_pos frame.length with heq | hlt
  · exact hzero heq
  · obtain ⟨complete, hframes, hsent⟩ := hpos hlt
    rw [hsent, hframes, take_length, flatten_append]
    simp

theorem Sending.framed (h : s.Sending frame written) :
    Framed s.frames s.sent := by
  obtain ⟨hle, hzero, hpos⟩ := h
  rcases Nat.eq_zero_or_pos written with heq | hlt
  · exact .inl (hzero heq)
  · by_cases hall : written = frame.length
    · subst hall
      exact .inl (Sending.all ⟨hle, hzero, hpos⟩)
    · obtain ⟨complete, hframes, hsent⟩ := hpos hlt
      refine .inr ⟨complete, frame, _, hframes, hsent, take_prefix _ _, ?_⟩
      intro heq
      have hlength := congrArg List.length heq
      rw [length_take] at hlength
      omega

theorem Sending.write {count : ℕ} (h : s.Sending frame written) (drains : Bool)
    (hle : written + count ≤ frame.length) (hcount : 0 < count) :
    (s.write frame written count drains).Sending frame (written + count) := by
  obtain ⟨-, hzero, hpos⟩ := h
  refine ⟨hle, fun hnone => by omega, fun _ => ?_⟩
  have htake : frame.take written ++ (frame.drop written).take count =
      frame.take (written + count) := take_add.symm
  rcases Nat.eq_zero_or_pos written with heq | hlt
  · refine ⟨s.frames, by simp [Loopback.write, heq], ?_⟩
    simp only [Loopback.write, heq, hzero heq, drop_zero, Nat.zero_add]
  · obtain ⟨complete, hframes, hsent⟩ := hpos hlt
    refine ⟨complete, by simp [Loopback.write, hlt.ne', hframes], ?_⟩
    simp only [Loopback.write, hsent, append_assoc, htake]

/-- Only the draining looks at whether tasks are left. -/
theorem Sends.of_tasks (h : s.Sends s.pc) (htasks : s.tasks = [] → tasks = []) :
    Sends { s with tasks := tasks } s.pc := by
  cases hpc : s.pc with
  | draining writes =>
    rw [hpc] at h
    cases writes
    · exact h
    · exact h.imp_right fun ⟨hframed, hnone⟩ => ⟨hframed, htasks hnone⟩
  | _ => rwa [hpc] at h

theorem Sends.framed (h : s.Sends pc) : Framed s.frames s.sent := by
  cases pc with
  | writing _ _ _ => exact Sending.framed h
  | draining writes =>
    cases writes
    · exact h
    · exact h.elim .inl And.left
  | returned => exact h
  | _ => exact .inl h

theorem Sends.take (h : s.sent = s.frames.flatten) (hpc : s.pc = .selecting)
    (line : List UInt8 × Bool) (rest : List UInt8) :
    (s.take line rest).Sends (s.take line rest).pc := by
  unfold Loopback.take
  split
  next => exact .inl h
  next =>
    split
    next =>
      rw [hpc]
      exact h
    next => exact h

theorem Sends.step (h : s.Sends s.pc) (hstep : Step s label s')
    (huntorn : Untorn s label) : s'.Sends s'.pc := by
  cases hstep with
  | arrive _ _ | close | poll _ _ => exact h
  | finish _ htask | drainCrash _ htask =>
    refine h.of_tasks fun hnone => ?_
    rw [hnone] at htask
    cases htask
  | line hpc _ | lastLine hpc _ _ _ =>
    rw [hpc] at h
    exact Sends.take h hpc _ _
  | respond frame hpc =>
    refine ⟨Nat.zero_le _, fun _ => ?_, nofun⟩
    rcases hpc with hpc | hpc <;> rw [hpc] at h <;> exact h
  | join hpc _ =>
    rw [hpc] at h
    exact ⟨Nat.zero_le _, fun _ => h, nofun⟩
  | write count hpc hcount hle =>
    rw [hpc] at h
    exact h.write _ hle hcount
  | @written _ drains hpc =>
    rw [hpc] at h
    cases drains
    · exact h.all
    · exact .inl h.all
  | @unwritten _ _ drains hpc => cases drains <;> exact h.framed
  | shutdown hpc =>
    rcases hpc with hpc | hpc | ⟨frame, written, hpc⟩ <;> rw [hpc] at h
    · exact .inl h
    · exact .inl h
    · rcases huntorn rfl frame written hpc with hnone | hall | htasks
      · exact .inl (h.2.1 hnone)
      · subst hall
        exact .inl h.all
      · exact .inr ⟨h.framed, htasks⟩
  | @drain _ _ writes hpc htask =>
    rw [hpc] at h
    cases writes
    · exact h
    · rcases h with hall | ⟨-, hnone⟩
      · exact ⟨Nat.zero_le _, fun _ => hall, nofun⟩
      · rw [hnone] at htask
        cases htask
  | @drained writes hpc =>
    rw [hpc] at h
    cases writes
    · exact h
    · rcases h with hall | ⟨hframed, -⟩
      · exact .inl hall
      · exact hframed
  | spawn hpc | inline hpc => rwa [hpc] at h
  | endOfInput hpc _ _ | unreadable hpc | unaudited hpc | crash hpc _ =>
    rw [hpc] at h
    exact .inl h

theorem Sends.run (hrun : Run (Guarded Untorn Step)
      (accepted frames) labels s) : s.Sends s.pc := by
  refine hrun.invariant (I := fun s => s.Sends s.pc) ?_ rfl
  rintro s label s' hsends ⟨huntorn, hstep⟩
  exact hsends.step hstep huntorn

/-- In every run in which the shutdown interrupts no response midway while
requests are running, the client is sent complete frames, followed by at most
the beginning of one. -/
theorem frames_sent_whole (hrun : Run (Guarded Untorn Step)
      (accepted frames) labels s) : Framed s.frames s.sent :=
  (Sends.run hrun).framed

theorem frames_sent_whole_sample : ∃ s labels,
    Run (Guarded Untorn Step) (accepted []) labels s ∧
      s.sent = [1] ∧ Framed s.frames s.sent := by
  have harrived : Run (Guarded Untorn Step)
      (accepted []) [.socket] _ := .single ⟨by nofun, .arrive [97, 10] rfl⟩
  have hread := harrived.snoc ⟨by nofun, .line rfl rfl⟩
  have hanswered := hread.snoc ⟨by nofun, .respond [1, 10] (.inl rfl)⟩
  have hwritten := hanswered.snoc
    ⟨by nofun, .write 1 rfl (by decide) (by decide)⟩
  have hstopped := hwritten.snoc
    ⟨fun _ _ _ _ => .inr (.inr rfl), .shutdown (.inr (.inr ⟨_, _, rfl⟩))⟩
  exact ⟨_, _, hstopped, rfl, frames_sent_whole hstopped⟩

/-- A response is half written when the shutdown comes, and another is sent
after it. -/
theorem frame_sent_after_torn : ∃ s labels,
    Run Step (accepted []) labels s ∧
      s.frames = [[1, 10], [2, 10]] ∧ s.sent = [1, 2, 10] ∧
        ¬ Framed s.frames s.sent := by
  obtain ⟨_, hspawned⟩ := run_spawn
  have harrived := hspawned.snoc (.arrive [97, 10] rfl)
  have hread := harrived.snoc (.line rfl rfl)
  have hanswered := hread.snoc (.respond [1, 10] (.inl rfl))
  have hwritten := hanswered.snoc (.write 1 rfl (by decide) (by decide))
  have hstopped := hwritten.snoc (.shutdown (.inr (.inr ⟨_, _, rfl⟩)))
  have hfinished := hstopped.snoc (.finish [2, 10] (i := 0) rfl)
  have hdrained := hfinished.snoc (.drain rfl (i := 0) rfl)
  refine ⟨_, _, hdrained.snoc (.write 2 rfl (by decide) (by decide)),
    rfl, rfl, ?_⟩
  rintro (hall | ⟨complete, frame, torn, hframes, hsent, -, -⟩)
  · cases hall
  · obtain ⟨rfl, -⟩ := append_inj' hframes rfl
    cases hsent

end Loopback

end DeviceRail.Daemon
