import DeviceRail.Client.Ndjson
import DeviceRail.Daemon.Loopback

/-!
# A client and its connection

The requests a client has written are the ones the daemon handles, and the
responses of the daemon are the ones a client reads, however the bytes are cut
on the way.
-/

namespace DeviceRail.Daemon

open Transition List
open Client (lines lines_of_notMem NdjsonDecoder)
open Framing (pieces)

def utf8 (text : String) : List UInt8 := text.toUTF8.data.toList

/-- What a client writes for a request and the daemon for a response, unless it
is too long. -/
def writeFrame (limit : ℕ) (text : String) : Option Frame :=
  if limit < (utf8 text).length then none else some (utf8 text ++ [newline])

/-- The text is not blank and stands on one line, as that of a JSON value. -/
structure SingleLine (text : String) : Prop where
  notMem : newline ∉ utf8 text
  getLast : (utf8 text).getLast? ≠ some carriageReturn
  notBlank : Router.isBlank text = false

/-- The frames are those of the texts. -/
abbrev Written (limit : ℕ) : List String → List Frame → Prop :=
  List.Forall₂ fun text frame =>
    SingleLine text ∧ writeFrame limit text = some frame

variable {limit : ℕ} {text : String} {texts : List String} {frame : Frame}
  {frames : List Frame} {line rest piece stream : List UInt8} {s : Loopback}
  {labels : List Label}

theorem frame_of_written (hline : SingleLine text)
    (h : writeFrame limit text = some frame) :
    frame = utf8 text ++ [newline] ∧ (utf8 text).length ≤ limit ∧
      Client.frame limit (utf8 text) = some text := by
  unfold writeFrame at h
  split at h <;> cases h
  next hfits =>
    have hstripped : Client.stripped (utf8 text) = utf8 text :=
      if_neg hline.getLast
    refine ⟨rfl, not_lt.mp hfits, ?_⟩
    rw [Client.frame, hstripped, if_neg hfits]
    exact dif_pos text.isValidUTF8

theorem requestLines_written (h : Written maxFrameBytes texts frames) :
    requestLines (pieces newline [] frames.flatten) = texts := by
  induction h with
  | nil => rfl
  | @cons text frame texts frames htext _ ih =>
    obtain ⟨rfl, -, hframe⟩ := frame_of_written htext.1 htext.2
    have hline : lineText (utf8 text, true) = some text := by
      simp only [lineText, true_and]
      exact hframe
    rw [flatten_cons, append_assoc, singleton_append,
      Framing.pieces_append htext.1.notMem, nil_append, requestLines, hline, ih]
    simp [htext.1.notBlank]

/-- In every run in which no task ends while a line is half read, the daemon
handles the requests a client has written, in their order; all of them if the
loop ends with the input. -/
theorem requests_reach_daemon {opening : List Frame}
    (hrun : Run (Guarded Unbroken Step) (.accepted opening) labels s)
    (hwritten : Written maxFrameBytes texts frames)
    (hreceived : s.received <+: frames.flatten)
    (hclosed : s.closed = true → s.received = frames.flatten) :
    s.handled <+: texts ∧
      (s.ending = some .endOfInput → s.handled = texts) := by
  have hhandles : s.Handles := .run hrun
  obtain ⟨more, hmore⟩ := hreceived
  have hcoming : s.Coming more := fun h => by simpa [hclosed h] using hmore
  have hfirst := hhandles.first more hcoming
  have hcomplete := fun h => hhandles.complete (.inl h) more hcoming
  rw [hmore, requestLines_written hwritten] at hfirst hcomplete
  exact ⟨hfirst, hcomplete⟩

theorem written_sample :
    Written maxFrameBytes ["a", "bc"] [[97, 10], [98, 99, 10]] := by
  refine .cons ⟨⟨?_, ?_, ?_⟩, ?_⟩ (.cons ⟨⟨?_, ?_, ?_⟩, ?_⟩ .nil) <;>
    decide +kernel

theorem requests_reach_daemon_sample : ∃ s labels,
    Run (Guarded Unbroken Step) (.accepted []) labels s ∧
      s.received = [97, 10, 98, 99, 10] ∧ s.handled = ["a", "bc"] := by
  obtain ⟨_, hrun⟩ := Loopback.run_joined
  exact ⟨_, _, hrun, rfl, (requests_reach_daemon hrun written_sample
    prefix_rfl fun _ => rfl).2 rfl⟩

/-- The lines in the beginning of a stream of frames, and a rest without an
end. -/
theorem lines_written (h : Written limit texts frames)
    (hstream : stream <+: frames.flatten) :
    ∃ n found rest, stream = (frames.take n).flatten ++ rest ∧
      newline ∉ rest ∧ rest.length ≤ limit ∧ lines [] stream = (found, rest) ∧
      found.map (Client.frame limit) = (texts.take n).map some := by
  induction h generalizing stream with
  | nil => exact ⟨0, [], [], by simp_all [lines]⟩
  | @cons text frame texts frames htext _ ih =>
    obtain ⟨rfl, hfits, hframe⟩ := frame_of_written htext.1 htext.2
    have hline := htext.1.notMem
    have hcases : utf8 text ++ [newline] <+: stream ∨ stream <+: utf8 text := by
      rcases prefix_or_prefix_of_prefix (prefix_append _ _) hstream
        with hfull | hle
      · exact .inl hfull
      · rcases prefix_concat_iff.mp hle with rfl | htorn
        · exact .inl prefix_rfl
        · exact .inr htorn
    rcases hcases with ⟨later, rfl⟩ | htorn
    · obtain ⟨n, found, rest, rfl, hrest, hlength, hlines, hfound⟩ :=
        ih ((prefix_append_right_inj _).mp hstream)
      refine ⟨n + 1, utf8 text :: found, rest, by simp, hrest, hlength, ?_, ?_⟩
      · simp [Client.lines_append, lines_of_notMem hline, lines,
          Client.lineFeed, hlines]
      · simp [hframe, hfound]
    · have hrest : newline ∉ stream := fun h => hline (htorn.subset h)
      exact ⟨0, [], stream, rfl, hrest, htorn.length_le.trans hfits,
        lines_of_notMem hrest, rfl⟩

theorem Written.mono {bound : ℕ} (h : Written limit texts frames)
    (hle : limit ≤ bound) : Written bound texts frames := by
  refine h.imp fun text frame ⟨hline, hframe⟩ => ⟨hline, ?_⟩
  obtain ⟨rfl, hfits, -⟩ := frame_of_written hline hframe
  exact if_neg (hfits.trans hle).not_gt

/-- In every run in which the shutdown interrupts no response midway while
requests are running, both clients read the responses that have arrived whole,
and nothing else, if their limit is not below that of the daemon. -/
theorem responses_reach_client (chunks : List (List UInt8))
    {opening : List Frame} (hrun : Run (Guarded Untorn Step)
      (.accepted opening) labels s)
    (hwritten : Written maxFrameBytes texts s.frames)
    (hlimit : maxFrameBytes ≤ limit) (hchunks : chunks.flatten <+: s.sent) :
    ∃ n rest, chunks.flatten = (s.frames.take n).flatten ++ rest ∧
      newline ∉ rest ∧
      (NdjsonDecoder.fed limit chunks).failed = false ∧
      (NdjsonDecoder.fed limit chunks).frames = texts.take n ∧
      (Client.Node.NdjsonDecoder.fed limit chunks).failed = false ∧
      (Client.Node.NdjsonDecoder.fed limit chunks).frames =
        (texts.take n).map Client.Node.withoutMark := by
  have hsent : s.sent <+: s.frames.flatten := by
    rcases (Loopback.Sends.run hrun).framed with
      hall | ⟨complete, frame, torn, hframes, hsent, htorn, -⟩
    · exact hall ▸ prefix_rfl
    · simpa [hframes, hsent, prefix_append_right_inj] using htorn
  obtain ⟨n, found, rest, hstream, hrest, hlength, hlines, hfound⟩ :=
    lines_written (hwritten.mono hlimit) (hchunks.trans hsent)
  have hreads := (@Client.Agree.foldl limit [] _ _ (.reading rfl) chunks).reads
  rw [nil_append, hlines] at hreads
  have hok : (NdjsonDecoder.fed limit chunks).failed = false := by
    refine Bool.not_eq_true _ ▸ hreads.failed.not.mpr ?_
    rintro (⟨line, hline, hnone⟩ | hlong)
    · obtain ⟨_, -, hsome⟩ := mem_map.mp (hfound ▸ mem_map_of_mem hline)
      cases hsome.trans hnone
    · simp [Client.overlong] at hlong
      omega
  have hfed := map_injective_iff.mpr (fun _ _ => Option.some.inj)
    ((hreads.complete hok).1.trans hfound)
  exact ⟨n, rest, hstream, hrest, hok, hfed, hreads.together.trans hok,
    hfed ▸ hreads.frames⟩

/-- The second response has not arrived whole. -/
theorem responses_reach_client_sample : ∃ s labels,
    Run (Guarded Untorn Step) (.accepted []) labels s ∧
      s.frames = [[97, 10], [98, 99, 10]] ∧ s.sent = [97, 10, 98, 99] ∧
      (NdjsonDecoder.fed maxFrameBytes [[97], [10, 98], [99]]).frames =
        ["a"] := by
  have harrived : Run (Guarded Untorn Step) (.accepted []) [.socket] _ :=
    .single ⟨by nofun, .arrive [97, 10, 98, 10] rfl⟩
  have hread := harrived.snoc ⟨by nofun, .line rfl rfl⟩
  have hanswered := hread.snoc ⟨by nofun, .respond [97, 10] (.inl rfl)⟩
  have hfirst := (hanswered.snoc
    ⟨by nofun, .write 2 rfl (by decide) (by decide)⟩).snoc
      ⟨by nofun, .written rfl⟩
  have hsecond := (hfirst.snoc ⟨by nofun, .line rfl rfl⟩).snoc
    ⟨by nofun, .respond [98, 99, 10] (.inl rfl)⟩
  have hwritten := hsecond.snoc ⟨by nofun, .write 2 rfl (by decide) (by decide)⟩
  obtain ⟨n, rest, hstream, hrest, -, hframes, -⟩ := responses_reach_client
    [[97], [10, 98], [99]] hwritten written_sample le_rfl ⟨[], rfl⟩
  refine ⟨_, _, hwritten, rfl, rfl, hframes.trans ?_⟩
  have hcut : [97, 10, 98, 99] =
      (List.take n [[97, 10], [98, 99, 10]]).flatten ++ rest := hstream
  rcases n with _ | _ | n
  · rw [← (show [97, 10, 98, 99] = rest from hcut)] at hrest
    exact absurd (by decide) hrest
  · rfl
  · cases congrArg List.length hcut

end DeviceRail.Daemon
