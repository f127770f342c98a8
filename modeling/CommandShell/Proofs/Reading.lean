import CommandShell.Input
import Mathlib.Data.List.TakeWhile

/-!
# Reading lines from a stream

What the input will do, without the chunks it does it in: an `InputStream` is a list of bytes,
interrupts, failures and ends, one mark for each. On a stream a line is cut off with `takeWhile` and
`dropWhile`, and its bytes are judged at once, which makes `InputStream.readLine` a plain account of
what reading a line means.

The reader goes about it otherwise. It looks at whole chunks, leaves a part of the last one for the
next call, and keeps the bytes of a line only until it knows that the line is too long; what it has
kept then depends on the chunks. `PartialLine.Holds` is what does not depend on them, and
`Input.stream_readEvents` carries it from event to event up to the end of a line.
`successive_readAfter_splits` is the result for any number of calls.
-/

namespace CommandShell

/-! ## Streams -/

/-- One thing that the input does. -/
inductive Mark
  | byte (b : UInt8)
  | failure (errno : Errno)
  | ending
  | interrupt
  deriving DecidableEq, Repr

/-- The byte that arrives. -/
def Mark.byte? : Mark → Option UInt8
  | .byte b => some b
  | _ => none

/-- A line goes on up to a line feed, a failure or an end of the input. -/
def Mark.endsLine : Mark → Bool
  | .byte b => b == newline
  | .failure _ | .ending => true
  | .interrupt => false

/-- What an event consists of. -/
def InputEvent.marks : InputEvent → List Mark
  | .chunk bytes => bytes.map .byte
  | .failure errno => [.failure errno]
  | .ending => [.ending]
  | .interrupt => [.interrupt]

/-- An input without chunks. After the last mark it has ended for good. -/
structure InputStream where
  marks : List Mark
  interrupted : Bool
  deriving DecidableEq, Repr

/-- What is still to come of an input. -/
def Input.stream (input : Input) : InputStream :=
  ⟨input.buffer.map .byte ++ input.events.flatMap (·.marks), input.interrupted⟩

/-! ## Lines of a stream -/

/-- The outcome of a line that has these bytes. -/
def judge (max : Nat) (line : List UInt8) : ReadOutcome :=
  if max < line.length then .failed (.lineTooLong max)
  else if valid : ByteArray.IsValidUTF8 ⟨line.toArray⟩ then .line (String.fromUTF8 _ valid)
  else .failed .notText

namespace InputStream

/-- The outcome of a line that the end of the input has cut short. -/
def judgeRest (max : Nat) (line : List UInt8) : ReadOutcome :=
  if line = [] then .ended else judge max line

/-- Ends a line of the given bytes at the first of the marks, with all interrupts up to there
noted. -/
def endLine (max : Nat) (line : List UInt8) (noted : Bool) :
    List Mark → ReadOutcome × InputStream
  | [] => (judgeRest max line, ⟨[], noted⟩)
  | .ending :: rest => (judgeRest max line, ⟨rest, noted⟩)
  | .failure errno :: rest =>
    if errno = .EINTR then (.interrupted, ⟨rest, false⟩)
    else (.failed (.failed errno), ⟨rest, noted⟩)
  | _ :: rest => (judge max line, ⟨rest, noted⟩)

/-- Reads one line. -/
def readLine (max : Nat) (s : InputStream) : ReadOutcome × InputStream :=
  let before := s.marks.takeWhile (!·.endsLine)
  endLine max (before.filterMap Mark.byte?) (s.interrupted || before.contains .interrupt)
    (s.marks.dropWhile (!·.endsLine))

end InputStream

/-! ## Calls one after the other -/

/-- Makes one call after the other, each with an interrupt before it or without one. -/
def successive {σ : Type} (read : Bool → σ → (ReadOutcome × Bool) × σ) :
    List Bool → σ → List (ReadOutcome × Bool) × σ
  | [], s => ([], s)
  | arrived :: later, s =>
    let first := read arrived s
    let rest := successive read later first.2
    (first.1 :: rest.1, rest.2)

/-- Reads a line after an interrupt may have arrived. Besides the outcome it tells whether an
interrupt is noted afterwards. -/
def Input.readAfter (max : Nat) (arrived : Bool) (input : Input) : (ReadOutcome × Bool) × Input :=
  let read := { input with interrupted := input.interrupted || arrived }.readLine max
  ((read.1, read.2.interrupted), read.2)

/-- The same on a stream. -/
def InputStream.readAfter (max : Nat) (arrived : Bool) (s : InputStream) :
    (ReadOutcome × Bool) × InputStream :=
  let read := { s with interrupted := s.interrupted || arrived }.readLine max
  ((read.1, read.2.interrupted), read.2)

/-! ## What a partial line tells -/

/-- The partial line knows of `line` all that will matter at its end. -/
structure PartialLine.Holds (max : Nat) (line : List UInt8) (p : PartialLine) : Prop where
  long : p.tooLong = true ↔ max < line.length
  kept : p.tooLong = false → p.bytes = line

namespace PartialLine.Holds

variable {max : Nat} {line : List UInt8} {p : PartialLine}

lemma nil : Holds max [] {} := ⟨by simp, fun _ => rfl⟩

/-- Wherever the next chunk ends, the partial line still tells what matters. -/
lemma absorb (h : Holds max line p) (chunk : List UInt8) :
    Holds max (line ++ chunk) (p.absorb max chunk) := by
  obtain ⟨long, kept⟩ := h
  unfold PartialLine.absorb
  -- once too long, a line stays too long and nothing more of it is kept
  cases ht : p.tooLong with
  | true =>
    have hlong := long.1 ht
    split
    · refine ⟨?_, by simp⟩
      simp only [List.length_append, true_iff]
      omega
    · refine ⟨?_, by simp [ht]⟩
      simp only [if_true, ht, List.length_append, true_iff]
      omega
  | false =>
    rw [kept ht]
    split
    · refine ⟨?_, by simp⟩
      simp only [List.length_append, true_iff]
      omega
    · refine ⟨?_, fun _ => rfl⟩
      simp only [Bool.false_eq_true, if_false, List.length_append, false_iff]
      omega

lemma finish_eq (h : Holds max line p) : p.finish max = judge max line := by
  unfold finish judge
  by_cases ht : p.tooLong = true
  · rw [if_pos ht, if_pos (h.long.1 ht)]
  · rw [if_neg ht, if_neg (ht ∘ h.long.2), h.kept (by simpa using ht), String.fromUTF8?]
    by_cases valid : ByteArray.IsValidUTF8 ⟨line.toArray⟩
    · simp only [dif_pos valid]
    · simp only [dif_neg valid]

lemma judgeRest_eq (h : Holds max line p) :
    (if p.isBlank then .ended else p.finish max) = InputStream.judgeRest max line := by
  unfold isBlank InputStream.judgeRest
  rw [h.finish_eq]
  cases ht : p.tooLong with
  | true =>
    have hlong := h.long.1 ht
    have hne : line ≠ [] := List.ne_nil_of_length_pos (by omega)
    simp [hne]
  | false => simp [h.kept ht]

end PartialLine.Holds

/-! ## The reader and the stream -/

namespace Input

lemma afterNewline?_eq_none_iff {chunk : List UInt8} :
    afterNewline? chunk = none ↔ newline ∉ chunk := by
  have hnone : afterNewline? chunk = none ↔ chunk.dropWhile (· != newline) = [] := by
    unfold afterNewline?
    split <;> simp_all
  rw [hnone, List.dropWhile_eq_nil_iff]
  simp only [bne_iff_ne, ne_eq]
  exact ⟨fun h hmem => h newline hmem rfl, fun h b hb hbn => h (hbn ▸ hb)⟩

/-- A chunk with a line feed is its part of the line, the line feed and what is left. -/
lemma eq_of_afterNewline? {chunk left : List UInt8} (h : afterNewline? chunk = some left) :
    chunk = untilNewline chunk ++ newline :: left := by
  unfold afterNewline? at h
  split at h
  · simp at h
  · rename_i b rest hdrop
    obtain rfl : rest = left := by simpa using h
    have hb := List.head?_dropWhile_not (· != newline) chunk
    rw [hdrop] at hb
    obtain rfl : b = newline := by simpa using hb
    rw [untilNewline, ← hdrop, List.takeWhile_append_dropWhile]

lemma newline_notMem_untilNewline (chunk : List UInt8) : newline ∉ untilNewline chunk := by
  intro hmem
  have := List.mem_takeWhile_imp hmem
  simp at this

end Input

lemma Mark.endsLine_of_mem_map {bytes : List UInt8} (h : newline ∉ bytes) :
    ∀ m ∈ bytes.map Mark.byte, m.endsLine = false := by
  intro m hm
  obtain ⟨b, hb, rfl⟩ := List.mem_map.1 hm
  have hne : b ≠ newline := fun heq => h (heq ▸ hb)
  simpa [Mark.endsLine] using hne

lemma Mark.filterMap_byte? (bytes : List UInt8) :
    (bytes.map Mark.byte).filterMap Mark.byte? = bytes := by
  rw [List.filterMap_map]
  exact List.filterMap_some

/-- The reader has read the marks `before` of a line and goes on. -/
structure InProgress (max : Nat) (before : List Mark) (p : PartialLine) : Prop where
  goesOn : ∀ m ∈ before, m.endsLine = false
  holds : p.Holds max (before.filterMap Mark.byte?)

namespace InProgress

variable {max : Nat} {before rest : List Mark} {p : PartialLine} {noted : Bool}

lemma nil : InProgress max [] {} := ⟨by simp, .nil⟩

lemma append_bytes {bytes : List UInt8} (h : InProgress max before p) (hb : newline ∉ bytes) :
    InProgress max (before ++ bytes.map .byte) (p.absorb max bytes) := by
  refine ⟨?_, ?_⟩
  · intro m hm
    rcases List.mem_append.1 hm with hm | hm
    · exact h.goesOn m hm
    · exact Mark.endsLine_of_mem_map hb m hm
  · rw [List.filterMap_append, Mark.filterMap_byte?]
    exact h.holds.absorb bytes

lemma append_interrupt (h : InProgress max before p) :
    InProgress max (before ++ [.interrupt]) p := by
  refine ⟨?_, ?_⟩
  · intro m hm
    rcases List.mem_append.1 hm with hm | hm
    · exact h.goesOn m hm
    · rw [List.mem_singleton.1 hm]
      rfl
  · rw [List.filterMap_append, show [Mark.interrupt].filterMap Mark.byte? = [] from rfl,
      List.append_nil]
    exact h.holds

/-- Where a line has been read up to its end, the stream ends it. -/
lemma readLine_append (h : InProgress max before p)
    (ends : ∀ m ∈ rest.head?, m.endsLine = true) :
    InputStream.readLine max ⟨before ++ rest, noted⟩ =
      InputStream.endLine max (before.filterMap Mark.byte?)
        (noted || before.contains .interrupt) rest := by
  have hbefore : ∀ m ∈ before, (!m.endsLine) = true := by
    intro m hm
    rw [h.goesOn m hm]
    rfl
  have hrest : rest.takeWhile (!·.endsLine) = [] ∧ rest.dropWhile (!·.endsLine) = rest := by
    cases rest with
    | nil => exact ⟨rfl, rfl⟩
    | cons m rest =>
      have hm := ends m rfl
      simp [hm]
  simp only [InputStream.readLine, List.takeWhile_append_of_pos hbefore,
    List.dropWhile_append_of_pos hbefore, hrest, List.append_nil]

end InProgress

lemma contains_interrupt_append_bytes (before : List Mark) (bytes : List UInt8) :
    (before ++ bytes.map Mark.byte).contains .interrupt = before.contains .interrupt := by
  simp

/-- Reading on, with some marks of a line behind it, the reader comes to what the stream of these
marks and of those to come comes to. -/
theorem Input.stream_readEvents {max : Nat} {before : List Mark} {p : PartialLine} (noted : Bool)
    (events : List InputEvent) (h : InProgress max before p) :
    let read := readEvents max p (noted || before.contains .interrupt) events
    (read.1, read.2.stream) =
      InputStream.readLine max ⟨before ++ events.flatMap (·.marks), noted⟩ := by
  induction events generalizing before p with
  | nil =>
    rw [h.readLine_append (by simp)]
    simp only [readEvents, h.holds.judgeRest_eq]
    rfl
  | cons event rest ih =>
    rw [List.flatMap_cons]
    cases event with
    | ending =>
      rw [h.readLine_append (by simp [InputEvent.marks, Mark.endsLine])]
      simp only [readEvents, h.holds.judgeRest_eq]
      rfl
    | failure errno =>
      rw [h.readLine_append (by simp [InputEvent.marks, Mark.endsLine])]
      by_cases he : errno = .EINTR
      · simp only [readEvents, he, if_true]
        rfl
      · simp only [readEvents, InputEvent.marks, List.singleton_append, InputStream.endLine,
          if_neg he]
        rfl
    | interrupt =>
      have hnext := ih h.append_interrupt
      rw [List.append_assoc] at hnext
      simpa [readEvents, InputEvent.marks] using hnext
    | chunk bytes =>
      cases hleft : afterNewline? bytes with
      | none =>
        have hnext := ih (h.append_bytes (afterNewline?_eq_none_iff.1 hleft))
        rw [contains_interrupt_append_bytes, List.append_assoc] at hnext
        simp only [readEvents, hleft]
        exact hnext
      | some left =>
        -- the line ends inside the chunk, and what is left of it comes first in the stream
        have hlast := h.append_bytes (newline_notMem_untilNewline bytes)
        have hstream : before ++ (InputEvent.marks (.chunk bytes) ++ rest.flatMap (·.marks)) =
            (before ++ (untilNewline bytes).map .byte) ++
              .byte newline :: (left.map .byte ++ rest.flatMap (·.marks)) := by
          have hmarks := congrArg (List.map Mark.byte) (eq_of_afterNewline? hleft)
          rw [InputEvent.marks, hmarks]
          simp
        rw [hstream, hlast.readLine_append (by simp [Mark.endsLine]),
          contains_interrupt_append_bytes]
        simp only [readEvents, hleft, hlast.holds.finish_eq]
        rfl

/-- The events to come make up the stream. -/
theorem Input.flatMap_marks_pending (input : Input) :
    input.pending.flatMap (·.marks) = input.stream.marks := by
  unfold pending stream
  split
  · rename_i hempty
    simp [List.isEmpty_iff.1 hempty]
  · rfl

/-- One line. -/
theorem Input.stream_readLine (max : Nat) (input : Input) :
    ((input.readLine max).1, (input.readLine max).2.stream) = input.stream.readLine max := by
  have hread := stream_readEvents input.interrupted input.pending (.nil : InProgress max [] {})
  rw [flatMap_marks_pending] at hread
  simp only [List.contains_nil, Bool.or_false, List.nil_append] at hread
  exact hread

lemma Input.stream_readAfter (max : Nat) (arrived : Bool) (input : Input) :
    ((input.readAfter max arrived).1, (input.readAfter max arrived).2.stream) =
      input.stream.readAfter max arrived := by
  have hread :=
    stream_readLine max { input with interrupted := input.interrupted || arrived }
  exact congrArg (fun read => ((read.1, read.2.interrupted), read.2)) hread

/-! ## Any number of lines -/

/-- Calls that agree one by one agree when they are made one after the other. -/
lemma successive_agree {σ τ : Type} {read : Bool → σ → (ReadOutcome × Bool) × σ}
    {read' : Bool → τ → (ReadOutcome × Bool) × τ} {view : σ → τ}
    (agree : ∀ arrived s, ((read arrived s).1, view (read arrived s).2) = read' arrived (view s))
    (arrivals : List Bool) (s : σ) :
    ((successive read arrivals s).1, view (successive read arrivals s).2) =
      successive read' arrivals (view s) := by
  induction arrivals generalizing s with
  | nil => rfl
  | cons arrived later ih =>
    simp only [successive, ← agree arrived s, ← ih]

/-- The reader is a splitter of its stream: any number of calls, with interrupts before any of them,
come to the lines that the stream has, note the same interrupts and leave the same stream behind. So
it does not matter in which chunks the input arrives. -/
theorem successive_readAfter_splits (max : Nat) (arrivals : List Bool) (input : Input) :
    (successive (Input.readAfter max) arrivals input).1 =
        (successive (InputStream.readAfter max) arrivals input.stream).1 ∧
      (successive (Input.readAfter max) arrivals input).2.stream =
        (successive (InputStream.readAfter max) arrivals input.stream).2 ∧
      ∀ other : Input, other.stream = input.stream →
        (successive (Input.readAfter max) arrivals other).1 =
          (successive (Input.readAfter max) arrivals input).1 := by
  have splits (input : Input) := successive_agree (Input.stream_readAfter max) arrivals input
  refine ⟨congrArg Prod.fst (splits input), congrArg Prod.snd (splits input), ?_⟩
  intro other hother
  calc (successive (Input.readAfter max) arrivals other).1
      = (successive (InputStream.readAfter max) arrivals other.stream).1 :=
        congrArg Prod.fst (splits other)
    _ = (successive (Input.readAfter max) arrivals input).1 := by
        rw [hother]
        exact (congrArg Prod.fst (splits input)).symm

/-- A line over the limit, an empty line, a line that an interrupt breaks off, bytes that are no
text, and a line that the end of the input cuts short, in chunks that have nothing to do with
lines. -/
def ragged : Input where
  events :=
    [.chunk [97, 97, 97], .chunk [97], .chunk [97, 10, 10, 98], .interrupt, .chunk [98],
      .failure .EINTR, .chunk [255, 10, 99], .ending]

/-- The same input, byte by byte, with two bytes in the buffer. -/
def singly : Input where
  buffer := [97, 97]
  events :=
    [.chunk [97], .chunk [97], .chunk [97], .chunk [10], .chunk [10], .chunk [98], .interrupt,
      .chunk [98], .failure .EINTR, .chunk [255], .chunk [10], .chunk [99], .ending]

theorem successive_readAfter_splits_ragged :
    singly.stream = ragged.stream ∧
      (successive (Input.readAfter 4) [false, true, false, false, true, false] singly).1 =
        (successive (Input.readAfter 4) [false, true, false, false, true, false] ragged).1 := by
  have same : singly.stream = ragged.stream := by decide
  exact ⟨same, (successive_readAfter_splits 4 _ ragged).2.2 singly same⟩

example :
    (successive (Input.readAfter 4) [false, true, false, false, true, false] ragged).1 =
      [(.failed (.lineTooLong 4), false), (.line "", true), (.interrupted, false),
        (.failed .notText, false), (.line "c", true), (.ended, true)] := by
  cbv

end CommandShell
