import Mathlib.Data.List.Infix

/-!
# Lines of JSON

The decoders of the Rust and of the TypeScript client.  Both are fed chunks of
any size and hand out the lines that end in a chunk.
-/

namespace DeviceRail.Client

open List

def lineFeed : UInt8 := 10

def carriageReturn : UInt8 := 13

def fromUtf8 (bytes : List UInt8) : Option String :=
  String.fromUTF8? ⟨bytes.toArray⟩

/-- The line without the first half of a terminator. -/
def stripped (line : List UInt8) : List UInt8 :=
  if line.getLast? = some carriageReturn then line.dropLast else line

/-- Too long for an unfinished line, which may end in the first half of a
terminator. -/
def overlong (limit : ℕ) (line : List UInt8) : Bool :=
  limit < line.length &&
    !(line.length = limit + 1 && line.getLast? = some carriageReturn)

/-! ## The Rust decoder -/

inductive FramingError where
  | frameTooLarge (limit : ℕ)
  | invalidUtf8
  | alreadyEnded

structure NdjsonDecoder where
  buffer : List UInt8
  maxFrameBytes : ℕ
  scanFrom : ℕ
  ended : Bool
  failure : Option FramingError

namespace NdjsonDecoder

/-- The loop over the buffer, with the bytes from `frame_start` to `index` and
those from `index` on. -/
def scan (limit : ℕ) (frames : List String) : List UInt8 → List UInt8 →
    Except FramingError (List String × List UInt8)
  | line, [] => .ok (frames, line)
  | line, byte :: rest =>
    if byte ≠ lineFeed then
      if limit < line.length + 1 ∧ ¬(line.length + 1 = limit + 1 ∧
          byte = carriageReturn ∧ rest.head?.all (· = lineFeed)) then
        .error (.frameTooLarge limit)
      else scan limit frames (line ++ [byte]) rest
    else if limit < (stripped line).length then .error (.frameTooLarge limit)
    else match fromUtf8 (stripped line) with
      | none => .error .invalidUtf8
      | some text => scan limit (frames ++ [text]) [] rest

def push (decoder : NdjsonDecoder) (chunk : List UInt8) :
    Except FramingError (List String) × NdjsonDecoder :=
  match decoder.failure with
  | some error => (.error error, decoder)
  | none =>
    if decoder.ended then (.error .alreadyEnded, decoder)
    else
      let buffer := decoder.buffer ++ chunk
      let fail buffer error := (.error error, { decoder with
        buffer := buffer, failure := some error })
      match scan decoder.maxFrameBytes [] (buffer.take decoder.scanFrom)
        (buffer.drop decoder.scanFrom) with
      | .error error => fail buffer error
      | .ok (frames, buffer) =>
        if overlong decoder.maxFrameBytes buffer then
          fail buffer (.frameTooLarge decoder.maxFrameBytes)
        else (.ok frames, { decoder with
          buffer := buffer, scanFrom := buffer.length })

end NdjsonDecoder

/-! ## The TypeScript decoder -/

namespace Node

def byteOrderMark : Char := Char.ofNat 0xFEFF

/-- What `TextDecoder.decode` makes of a text. -/
def withoutMark (text : String) : String :=
  if text.toList.head? = some byteOrderMark then String.ofList text.toList.tail
  else text

inductive DecoderError where
  | frameTooLarge (limit length : ℕ)
  | invalidUtf8
  | transportClosed

structure NdjsonDecoder where
  maxFrameBytes : ℕ
  buffer : List UInt8
  ended : Bool
  failure : Option DecoderError

namespace NdjsonDecoder

/-- The loop over a chunk, with the bytes from `start` to `index` and those
from `index` on.  A failure comes with what stays in the buffer. -/
def split (limit : ℕ) (frames : List String) (buffer : List UInt8) :
    List UInt8 → List UInt8 →
      Except (DecoderError × List UInt8) (List String × List UInt8)
  | segment, [] =>
    if segment ≠ [] ∧ overlong limit (buffer ++ segment) then
      .error (.frameTooLarge limit (buffer ++ segment).length, buffer)
    else .ok (frames, buffer ++ segment)
  | segment, byte :: rest =>
    if byte ≠ lineFeed then split limit frames buffer (segment ++ [byte]) rest
    else
      let frame := stripped (buffer ++ segment)
      if limit < frame.length then
        .error (.frameTooLarge limit frame.length, buffer)
      else match fromUtf8 frame with
        | none => .error
          (.invalidUtf8, if buffer = [] then [] else buffer ++ segment)
        | some text => split limit (frames ++ [withoutMark text]) [] [] rest

def push (decoder : NdjsonDecoder) (chunk : List UInt8) :
    Except DecoderError (List String) × NdjsonDecoder :=
  match decoder.failure with
  | some error => (.error error, decoder)
  | none =>
    if decoder.ended then (.error .transportClosed, decoder)
    else match split decoder.maxFrameBytes [] decoder.buffer [] chunk with
      | .error (error, buffer) => (.error error, { decoder with
          buffer := buffer, failure := some error })
      | .ok (frames, buffer) => (.ok frames, { decoder with buffer := buffer })

end NdjsonDecoder

end Node

/-! ## Both decoders -/

/-- A decoder after some chunks, with the frames it has handed out and whether
it has failed. -/
structure Feed (σ : Type*) where
  decoder : σ
  frames : List String
  failed : Bool

def Feed.push {σ ε : Type*}
    (push : σ → List UInt8 → Except ε (List String) × σ) (feed : Feed σ)
    (chunk : List UInt8) : Feed σ :=
  match push feed.decoder chunk with
  | (.ok frames, decoder) => ⟨decoder, feed.frames ++ frames, feed.failed⟩
  | (.error _, decoder) => ⟨decoder, feed.frames, true⟩

/-- A new decoder after some chunks. -/
def NdjsonDecoder.fed (limit : ℕ) (chunks : List (List UInt8)) :
    Feed NdjsonDecoder :=
  chunks.foldl (Feed.push push) ⟨⟨[], limit, 0, false, none⟩, [], false⟩

def Node.NdjsonDecoder.fed (limit : ℕ) (chunks : List (List UInt8)) :
    Feed NdjsonDecoder :=
  chunks.foldl (Feed.push push) ⟨⟨limit, [], false, none⟩, [], false⟩

/-- The lines of bytes that follow an unfinished line, and the unfinished one
after them. -/
def lines : List UInt8 → List UInt8 → List (List UInt8) × List UInt8
  | line, [] => ([], line)
  | line, byte :: rest =>
    if byte = lineFeed then (line :: (lines [] rest).1, (lines [] rest).2)
    else lines (line ++ [byte]) rest

/-- The text of a line that is not too long. -/
def frame (limit : ℕ) (line : List UInt8) : Option String :=
  if limit < (stripped line).length then none else fromUtf8 (stripped line)

/-- A line is no frame, or the rest is too long. -/
def refused (limit : ℕ) (cut : List (List UInt8) × List UInt8) : Bool :=
  cut.1.any (fun line => (frame limit line).isNone) || overlong limit cut.2

/-- The frames of the lines after others, and the rest. -/
def decode (limit : ℕ) (frames : List String)
    (cut : List (List UInt8) × List UInt8) :
    Option (List String × List UInt8) :=
  if refused limit cut then none
  else some (frames ++ cut.1.filterMap (frame limit), cut.2)

variable {limit : ℕ} {frames : List String}
  {bytes chunk line rest : List UInt8} {rust : Feed NdjsonDecoder}
  {node : Feed Node.NdjsonDecoder}

theorem frame_of_overlong (h : overlong limit line = true) :
    frame limit line = none := by
  simp [overlong] at h
  rw [frame, stripped]
  grind

theorem lines_append : lines line (bytes ++ chunk) =
    ((lines line bytes).1 ++ (lines (lines line bytes).2 chunk).1,
      (lines (lines line bytes).2 chunk).2) := by
  induction bytes generalizing line with
  | nil => rfl
  | cons byte bytes ih =>
    simp only [cons_append, lines]
    split <;> simp [ih]

theorem lines_of_notMem (h : lineFeed ∉ rest) :
    lines line rest = ([], line ++ rest) := by
  induction rest generalizing line with
  | nil => simp [lines]
  | cons byte rest ih =>
    obtain ⟨hbyte, hrest⟩ := not_or.mp (mem_cons.not.mp h)
    simp [lines, Ne.symm hbyte, ih hrest]

theorem decode_cons (cut : List (List UInt8) × List UInt8) :
    decode limit frames (line :: cut.1, cut.2) =
      (frame limit line).bind fun text =>
        decode limit (frames ++ [text]) cut := by
  cases htext : frame limit line <;> simp [decode, refused, htext]

theorem refused_of_overlong (h : overlong limit line = true) :
    refused limit (lines line rest) = true := by
  induction rest generalizing line with
  | nil => simp [lines, refused, h]
  | cons byte rest ih =>
    rw [lines]
    split
    next => simp [refused, frame_of_overlong h]
    next =>
      refine ih ?_
      simp [overlong] at h ⊢
      omega

theorem scan_eq : ((NdjsonDecoder.scan limit frames line rest).toOption.bind
      fun r => if overlong limit r.2 then none else some r) =
    decode limit frames (lines line rest) := by
  induction rest generalizing frames line with
  | nil => simp [NdjsonDecoder.scan, lines, decode, refused, Except.toOption]
  | cons byte rest ih =>
    rw [NdjsonDecoder.scan, lines]
    by_cases hfeed : byte = lineFeed
    · rw [if_neg (not_not.mpr hfeed), if_pos hfeed, decode_cons, frame]
      split
      next => rfl
      next => cases fromUtf8 (stripped line) with
        | none => rfl
        | some text => exact ih
    · rw [if_pos hfeed, if_neg hfeed]
      split
      next hlong =>
        have hrefused : refused limit (lines (line ++ [byte]) rest) = true := by
          by_cases hover : overlong limit (line ++ [byte]) = true
          · exact refused_of_overlong hover
          · cases rest with
            | nil => grind [overlong]
            | cons other rest =>
              rw [lines, if_neg (by grind [overlong])]
              exact refused_of_overlong (by grind [overlong])
        rw [decode, if_pos hrefused]
        rfl
      next => exact ih

theorem split_eq {buffer segment : List UInt8}
    (hbuffer : overlong limit buffer = false) :
    (Node.NdjsonDecoder.split limit (frames.map Node.withoutMark) buffer segment
        rest).toOption =
      (decode limit frames (lines (buffer ++ segment) rest)).map
        fun r => (r.1.map Node.withoutMark, r.2) := by
  induction rest generalizing frames buffer segment with
  | nil =>
    cases hlong : overlong limit (buffer ++ segment) <;> cases segment <;>
      simp_all [Node.NdjsonDecoder.split, lines, decode, refused,
        Except.toOption]
  | cons byte rest ih =>
    rw [Node.NdjsonDecoder.split, lines]
    by_cases hfeed : byte = lineFeed
    · rw [if_neg (not_not.mpr hfeed), if_pos hfeed, decode_cons, frame]
      dsimp only
      split
      next => rfl
      next => cases fromUtf8 (stripped (buffer ++ segment)) with
        | none => rfl
        | some text => simpa using @ih (frames ++ [text]) [] [] rfl
    · rw [if_pos hfeed, if_neg hfeed, ih hbuffer, append_assoc]

/-- After the same chunks both decoders hold the same unfinished line, or both
have failed. -/
inductive Agree (limit : ℕ) (cut : List (List UInt8) × List UInt8) :
    Feed NdjsonDecoder → Feed Node.NdjsonDecoder → Prop
  | reading (h : refused limit cut = false) :
      Agree limit cut
        ⟨⟨cut.2, limit, cut.2.length, false, none⟩,
          cut.1.filterMap (frame limit), false⟩
        ⟨⟨limit, cut.2, false, none⟩,
          (cut.1.filterMap (frame limit)).map Node.withoutMark, false⟩
  | failed {rust : NdjsonDecoder} {node : Node.NdjsonDecoder}
      {frames : List String} (h : refused limit cut = true)
      (hrust : rust.failure.isSome = true) (hnode : node.failure.isSome = true)
      (hstart : frames.map some <+: cut.1.map (frame limit)) :
      Agree limit cut ⟨rust, frames, true⟩
        ⟨node, frames.map Node.withoutMark, true⟩

theorem map_frame {found : List (List UInt8)}
    (h : found.any (fun line => (frame limit line).isNone) = false) :
    (found.filterMap (frame limit)).map some = found.map (frame limit) := by
  induction found with
  | nil => rfl
  | cons line found ih => cases htext : frame limit line <;> simp_all

theorem Agree.push (h : Agree limit (lines [] bytes) rust node) :
    Agree limit (lines [] (bytes ++ chunk))
      (rust.push NdjsonDecoder.push chunk)
      (node.push Node.NdjsonDecoder.push chunk) := by
  rw [lines_append]
  generalize lines [] bytes = cut at h ⊢
  cases h with
  | reading h =>
    rw [refused, Bool.or_eq_false_iff] at h
    have hrust := @scan_eq limit [] cut.2 chunk
    have hnode := @split_eq limit [] chunk cut.2 [] h.2
    simp only [Feed.push, NdjsonDecoder.push, Node.NdjsonDecoder.push,
      take_left, drop_left]
    rw [map_nil, append_nil] at hnode
    generalize lines cut.2 chunk = more at hrust hnode ⊢
    have hnext : refused limit (cut.1 ++ more.1, more.2) =
        refused limit more := by
      simp [refused, h.1]
    cases hmore : refused limit more with
    | true =>
      rw [hmore] at hnext
      have hstart : (cut.1.filterMap (frame limit)).map some <+:
          (cut.1 ++ more.1).map (frame limit) := by
        rw [map_frame h.1, map_append]
        exact prefix_append _ _
      rw [decode, if_pos hmore] at hrust hnode
      cases hsplit : Node.NdjsonDecoder.split limit [] cut.2 [] chunk with
      | ok r => simp [hsplit, Except.toOption] at hnode
      | error failure =>
        cases hscan : NdjsonDecoder.scan limit [] cut.2 chunk with
        | error error => exact .failed hnext rfl rfl hstart
        | ok r =>
          have hlong : overlong limit r.2 = true := by
            simpa [hscan, Except.toOption] using hrust
          simp only [hlong]
          exact .failed hnext rfl rfl hstart
    | false =>
      rw [hmore] at hnext
      rw [decode, hmore] at hrust hnode
      cases hsplit : Node.NdjsonDecoder.split limit [] cut.2 [] chunk with
      | error failure => simp [hsplit, Except.toOption] at hnode
      | ok r' =>
        cases hscan : NdjsonDecoder.scan limit [] cut.2 chunk with
        | error error => simp [hscan, Except.toOption] at hrust
        | ok r =>
          simp [hscan, hsplit, Except.toOption] at hrust hnode
          obtain ⟨hlong, rfl⟩ := hrust
          simp only [hlong, hnode, Bool.false_eq_true, if_false,
            ← map_append, ← filterMap_append]
          exact .reading hnext
  | failed h hrust hnode hstart =>
    obtain ⟨error, hrust'⟩ := Option.isSome_iff_exists.mp hrust
    obtain ⟨error', hnode'⟩ := Option.isSome_iff_exists.mp hnode
    simp only [Feed.push, NdjsonDecoder.push, Node.NdjsonDecoder.push, hrust',
      hnode']
    refine .failed ?_ hrust hnode ?_
    · have hmore := @refused_of_overlong limit cut.2 chunk
      simp only [refused, any_append, Bool.or_eq_true] at h hmore ⊢
      tauto
    · rw [map_append]
      exact hstart.trans (prefix_append _ _)

theorem Agree.foldl (h : Agree limit (lines [] bytes) rust node)
    (chunks : List (List UInt8)) :
    Agree limit (lines [] (bytes ++ chunks.flatten))
      (chunks.foldl (Feed.push NdjsonDecoder.push) rust)
      (chunks.foldl (Feed.push Node.NdjsonDecoder.push) node) := by
  induction chunks generalizing bytes rust node with
  | nil => simpa
  | cons chunk chunks ih =>
    rw [flatten_cons, ← append_assoc]
    exact ih h.push

/-- What both decoders make of the lines of a stream and of its rest. -/
structure Reading (limit : ℕ) (cut : List (List UInt8) × List UInt8)
    (rust : Feed NdjsonDecoder) (node : Feed Node.NdjsonDecoder) : Prop where
  failed : rust.failed = true ↔
    (∃ line ∈ cut.1, frame limit line = none) ∨ overlong limit cut.2 = true
  together : node.failed = rust.failed
  frames : node.frames = rust.frames.map Node.withoutMark
  initial : rust.frames.map some <+: cut.1.map (frame limit)
  complete : rust.failed = false →
    rust.frames.map some = cut.1.map (frame limit) ∧
      rust.decoder.buffer = cut.2 ∧ node.decoder.buffer = cut.2 ∧
      cut.2.length ≤ limit + 1

theorem Agree.reads {cut : List (List UInt8) × List UInt8}
    (h : Agree limit cut rust node) : Reading limit cut rust node := by
  have hbad : (∃ line ∈ cut.1, frame limit line = none) ∨
      overlong limit cut.2 = true ↔ refused limit cut = true := by
    simp [refused]
  cases h with
  | reading h =>
    have hgood := h
    rw [refused, Bool.or_eq_false_iff] at h
    have hall := map_frame h.1
    refine ⟨.trans (iff_of_false (by simp) (by simp [hgood])) hbad.symm, rfl,
      rfl, hall ▸ prefix_rfl, fun _ => ⟨hall, rfl, rfl, ?_⟩⟩
    by_contra hlong
    simp [overlong] at h
    omega
  | failed h _ _ hstart =>
    exact ⟨.trans (iff_of_true rfl h) hbad.symm, rfl, rfl, hstart, by simp⟩

/-- However a stream is cut, both decoders fail on the same streams, those with
a line that is no frame or with too long a rest.  They hand out the lines in
their order, all of them without a failure; the TypeScript decoder leaves out a
byte order mark at the start of a line. -/
theorem decoders_read_lines (limit : ℕ) (chunks : List (List UInt8)) :
    Reading limit (lines [] chunks.flatten) (NdjsonDecoder.fed limit chunks)
      (Node.NdjsonDecoder.fed limit chunks) :=
  (@Agree.foldl limit [] _ _ (.reading rfl) chunks).reads

theorem decoders_differ_on_mark :
    (NdjsonDecoder.fed 64 [[0xEF, 0xBB, 0xBF, 0x7B, 0x0A]]).frames ≠
      (Node.NdjsonDecoder.fed 64 [[0xEF, 0xBB, 0xBF, 0x7B, 0x0A]]).frames := by
  decide +kernel

end DeviceRail.Client
