import CommandShell.System.Errno

/-!
# Reading command lines

Input arrives in pieces: chunks of bytes of any size, interrupts, failures, ends of the input.
`Input` is what is still to come, and `Input.readLine` takes one line from it. A line ends at a
line feed, which is consumed and dropped, or at the end of the input. A line over the limit is
consumed in full before it is refused, so the next call starts on the following line.

The bytes of the line so far are kept in a `PartialLine`, which stops growing as soon as the line
is known to be too long; `PartialLine.absorb` is its only way to grow.
-/

namespace CommandShell

/-- Something the input does while it is being read. -/
inductive InputEvent
  /-- Bytes arrive. -/
  | chunk (bytes : List UInt8)
  /-- One attempt to read fails. An interrupted attempt fails with `EINTR`. -/
  | failure (errno : Errno)
  /-- One attempt to read finds the end of the input. -/
  | ending
  /-- An interrupt from the keyboard arrives and is noted. -/
  | interrupt
  deriving DecidableEq, Repr

/-- What is still to be read: the bytes of the chunk in use that are not consumed yet, and the
events after it. After the last event the input has ended for good. `interrupted` tells whether
an interrupt has been noted and not been answered. -/
structure Input where
  buffer : List UInt8 := []
  events : List InputEvent := []
  interrupted : Bool := false
  deriving DecidableEq, Repr

/-- Why a line could not be read. -/
inductive InputError
  /-- The line has more than `max` bytes. -/
  | lineTooLong (max : Nat)
  /-- The bytes of the line are not UTF-8. -/
  | notText
  /-- The input could not be read. -/
  | failed (errno : Errno)
  deriving DecidableEq, Repr

namespace InputError

/-- The wording of a failed read. -/
def message : InputError → String
  | .lineTooLong max => "line exceeds the maximum length of " ++ toString max ++ " bytes"
  | .notText => "line is not valid UTF-8"
  | .failed errno => "failed to read input: " ++ (IoError.os errno).message

/-- After an error in a line the next line can still be read; after a failure of the input
itself it cannot. -/
def isRecoverable : InputError → Bool
  | .failed _ => false
  | _ => true

end InputError

/-- What one attempt to read a line comes to. -/
inductive ReadOutcome
  | line (text : String)
  /-- An interrupt came while the line was being read, and what had been typed is dropped. -/
  | interrupted
  /-- There are no more lines. -/
  | ended
  | failed (error : InputError)
  deriving DecidableEq, Repr

/-! ## The line so far -/

/-- The bytes of the line that have been kept, and whether the line has outgrown the limit. -/
structure PartialLine where
  bytes : List UInt8 := []
  tooLong : Bool := false
  deriving DecidableEq, Repr

namespace PartialLine

/-- Adds the bytes of a chunk, unless they bring the line over the limit or it is over already. -/
def absorb (max : Nat) (p : PartialLine) (chunk : List UInt8) : PartialLine :=
  if p.bytes.length + chunk.length > max then { p with tooLong := true }
  else if p.tooLong then p
  else { p with bytes := p.bytes ++ chunk }

/-- Nothing has been consumed that would have to be reported. -/
def isBlank (p : PartialLine) : Bool :=
  p.bytes.isEmpty && !p.tooLong

/-- The outcome of a line that is complete. -/
def finish (max : Nat) (p : PartialLine) : ReadOutcome :=
  if p.tooLong then .failed (.lineTooLong max)
  else
    match String.fromUTF8? ⟨p.bytes.toArray⟩ with
    | some text => .line text
    | none => .failed .notText

end PartialLine

/-! ## One line -/

/-- The line feed byte. -/
def newline : UInt8 := 10

namespace Input

/-- What is left of a chunk once the bytes before its first line feed have been taken: `none` if
it holds no line feed, else the bytes after it. -/
def afterNewline? (chunk : List UInt8) : Option (List UInt8) :=
  match chunk.dropWhile (· != newline) with
  | [] => none
  | _ :: rest => some rest

/-- The part of a chunk that belongs to the current line. -/
def untilNewline (chunk : List UInt8) : List UInt8 :=
  chunk.takeWhile (· != newline)

/-- Reads on to the end of a line of which `line` has been read, from fresh events. -/
def readEvents (max : Nat) (line : PartialLine) (interrupted : Bool) :
    List InputEvent → ReadOutcome × Input
  | [] => (if line.isBlank then .ended else line.finish max, ⟨[], [], interrupted⟩)
  | .ending :: rest =>
    (if line.isBlank then .ended else line.finish max, ⟨[], rest, interrupted⟩)
  | .interrupt :: rest => readEvents max line true rest
  | .failure errno :: rest =>
    if errno = .EINTR then (.interrupted, ⟨[], rest, false⟩)
    else (.failed (.failed errno), ⟨[], rest, interrupted⟩)
  | .chunk bytes :: rest =>
    match afterNewline? bytes with
    | some left => ((line.absorb max (untilNewline bytes)).finish max, ⟨left, rest, interrupted⟩)
    | none => readEvents max (line.absorb max bytes) interrupted rest

/-- What is still to come as events alone: what the last call left of its chunk is a chunk. -/
def pending (input : Input) : List InputEvent :=
  if input.buffer.isEmpty then input.events else .chunk input.buffer :: input.events

/-- Reads one line. -/
def readLine (max : Nat) (input : Input) : ReadOutcome × Input :=
  readEvents max {} input.interrupted input.pending

/-- Tells whether an interrupt has been noted, and forgets it. -/
def takeInterrupt (input : Input) : Bool × Input :=
  (input.interrupted, { input with interrupted := false })

/-! ## Input that others use -/

/-- How many bytes are read at once from a file. -/
def blockSize : Nat := 8192

/-- Bytes as they come in blocks, all of them full but the last. -/
def blocks : List UInt8 → List InputEvent
  | [] => []
  | b :: rest => .chunk (b :: rest.take (blockSize - 1)) :: blocks (rest.drop (blockSize - 1))
termination_by bytes => bytes.length
decreasing_by
  simp only [List.length_drop, List.length_cons]
  omega

/-- The bytes of the chunks at the beginning, and the events after them. -/
def leadingBytes : List InputEvent → List UInt8 × List InputEvent
  | .chunk bytes :: rest =>
    let (more, later) := leadingBytes rest
    (bytes ++ more, later)
  | events => ([], events)

/-- The bytes that could be read next, and that have not been taken into the buffer. -/
def unread (input : Input) : List UInt8 :=
  (leadingBytes input.events).1

/-- The input with other bytes in place of those that could be read next. -/
def renew (bytes : List UInt8) (input : Input) : Input :=
  { input with events := blocks bytes ++ (leadingBytes input.events).2 }

/-! ## Reading uses up the input -/

/-- What an event counts for in the size of an input. -/
def weight : InputEvent → Nat
  | .chunk bytes => bytes.length + 1
  | _ => 1

/-- What events count for together. -/
def weights : List InputEvent → Nat
  | [] => 0
  | event :: rest => weight event + weights rest

/-- A bound on the number of lines that can still be read. -/
def size (input : Input) : Nat :=
  weights input.pending

/-- What is left of a chunk is no longer than the chunk. -/
theorem length_of_afterNewline? {chunk rest : List UInt8} (h : afterNewline? chunk = some rest) :
    rest.length < chunk.length := by
  have hs := (List.dropWhile_sublist (· != newline) (l := chunk)).length_le
  unfold afterNewline? at h
  split at h
  · simp at h
  · rename_i heq
    simp only [Option.some.injEq] at h
    subst h
    rw [heq] at hs
    simp only [List.length_cons] at hs
    omega

/-- The size of an input is at most what its parts count for. -/
theorem size_le (buffer : List UInt8) (events : List InputEvent) (interrupted : Bool) :
    size ⟨buffer, events, interrupted⟩ ≤ buffer.length + 1 + weights events := by
  unfold size pending
  cases buffer <;> simp [weights, weight]

/-- Reading a line from events uses up at least one of them, if there are any. -/
theorem size_readEvents (max : Nat) (line : PartialLine) (interrupted : Bool)
    (events : List InputEvent) (h : events ≠ []) :
    (readEvents max line interrupted events).2.size < weights events := by
  induction events generalizing line interrupted with
  | nil => exact absurd rfl h
  | cons event rest ih =>
    have later : ∀ (line : PartialLine) (interrupted : Bool),
        (readEvents max line interrupted rest).2.size ≤ weights rest := by
      intro line interrupted
      by_cases hr : rest = []
      · subst hr
        simp [readEvents, size, pending, weights]
      · exact Nat.le_of_lt (ih line interrupted hr)
    cases event with
    | chunk bytes =>
      simp only [readEvents]
      split
      · rename_i left hl
        have := length_of_afterNewline? hl
        have := size_le left rest interrupted
        simp only [weights, weight]
        omega
      · have := later (line.absorb max bytes) interrupted
        simp only [weights, weight]
        omega
    | failure errno =>
      simp only [readEvents]
      split <;> simp [size, pending, weights, weight]
    | ending => simp [readEvents, size, pending, weights, weight]
    | interrupt =>
      have := later line true
      simp only [readEvents, weights, weight]
      omega

/-- A call that does not find the end of the input leaves less input behind. -/
theorem size_readLine_lt {max : Nat} {input rest : Input} {outcome : ReadOutcome}
    (h : input.readLine max = (outcome, rest)) (ho : outcome ≠ .ended) :
    rest.size < input.size := by
  by_cases he : input.pending = []
  · simp [readLine, he, readEvents, PartialLine.isBlank] at h
    exact absurd h.1.symm ho
  · have := size_readEvents max {} input.interrupted input.pending he
    simp only [readLine] at h
    rw [h] at this
    exact this

end Input

end CommandShell
