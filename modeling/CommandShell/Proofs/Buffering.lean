import CommandShell.Proofs.Reading
import Mathlib.Logic.Relation

/-!
# The bytes that are kept of a line

A call that reads a line goes around a loop. Every time it looks at one thing that the input does,
and takes what belongs to the line. It keeps the bytes, and stops keeping them once there are too
many, but it goes on to the end of the line. `Reading` is such a call on its way, with all the
bytes of the line that it has consumed beside those that it has kept, and `Reading.next?` is one
more look. That `Input.readLine` goes through these very states is `Reading.result_eq_of_next?`.

What the loop decides by is not how long the line is. It compares what it has kept with the chunk
that is there, and what it has kept does not grow any more once the line is too long, so a short
chunk after a long one would fit. `PartialLine.Keeps` is the invariant that makes up for this, and
`kept_bytes_bounded` is what comes of it in every state of the loop.
-/

namespace CommandShell

/-! ## A call on its way -/

/-- A call that reads a line, after it has looked at the input any number of times. -/
structure Reading where
  /-- The bytes of the line that have been consumed. -/
  consumed : List UInt8 := []
  /-- What has been kept of them. -/
  line : PartialLine := {}
  /-- The line feed has been consumed too. -/
  isComplete : Bool := false
  /-- What is still to come. -/
  input : Input
  deriving DecidableEq, Repr

namespace Reading

variable {max : Nat} {r s t : Reading}

/-- A call that has just begun. -/
def start (input : Input) : Reading := { input }

/-- The call once it has consumed some more bytes of the line. -/
def take (max : Nat) (r : Reading) (bytes : List UInt8) (isComplete : Bool) (input : Input) :
    Reading :=
  { consumed := r.consumed ++ bytes, line := r.line.absorb max bytes, isComplete, input }

/-- Looks at the input once more. A call that has come to the end of its line does not, and one that
finds an end of the input or a failure leaves the loop. -/
def next? (max : Nat) (r : Reading) : Option Reading :=
  if r.isComplete then none
  else
    match r.input.pending with
    | .chunk bytes :: events =>
      match Input.afterNewline? bytes with
      | some left =>
        some (r.take max (Input.untilNewline bytes) true ⟨left, events, r.input.interrupted⟩)
      | none => some (r.take max bytes false ⟨[], events, r.input.interrupted⟩)
    | .interrupt :: events => some { r with input := ⟨[], events, true⟩ }
    | _ => none

/-- What the call comes to in the end. -/
def result (max : Nat) (r : Reading) : ReadOutcome × Input :=
  if r.isComplete then (r.line.finish max, r.input)
  else Input.readEvents max r.line r.input.interrupted r.input.pending

/-- A call gets from one state to another in any number of looks. -/
def Reaches (max : Nat) : Reading → Reading → Prop :=
  Relation.ReflTransGen fun r s => r.next? max = some s

/-- The ways in which a call goes on. -/
lemma next?_cases (h : r.next? max = some s) :
    r.isComplete = false ∧
      ((∃ bytes left events, r.input.pending = .chunk bytes :: events ∧
          Input.afterNewline? bytes = some left ∧
          s = r.take max (Input.untilNewline bytes) true ⟨left, events, r.input.interrupted⟩) ∨
        (∃ bytes events, r.input.pending = .chunk bytes :: events ∧
          Input.afterNewline? bytes = none ∧
          s = r.take max bytes false ⟨[], events, r.input.interrupted⟩) ∨
        ∃ events, r.input.pending = .interrupt :: events ∧
          s = { r with input := ⟨[], events, true⟩ }) := by
  unfold next? at h
  cases hc : r.isComplete with
  | true => simp [hc] at h
  | false =>
    simp only [hc, Bool.false_eq_true, if_false] at h
    refine ⟨rfl, ?_⟩
    split at h
    · rename_i bytes events hpending
      split at h
      · rename_i left hleft
        exact .inl ⟨bytes, left, events, hpending, hleft, (Option.some.inj h).symm⟩
      · rename_i hleft
        exact .inr (.inl ⟨bytes, events, hpending, hleft, (Option.some.inj h).symm⟩)
    · rename_i events hpending
      exact .inr (.inr ⟨events, hpending, (Option.some.inj h).symm⟩)
    · simp at h

lemma pending_of_nil (events : List InputEvent) (interrupted : Bool) :
    Input.pending ⟨[], events, interrupted⟩ = events := rfl

/-- One look does not change what the call comes to, so these are the states of the loop. -/
theorem result_eq_of_next? (h : r.next? max = some s) : s.result max = r.result max := by
  obtain ⟨hc, ⟨bytes, left, events, hpending, hleft, rfl⟩ | ⟨bytes, events, hpending, hleft, rfl⟩ |
    ⟨events, hpending, rfl⟩⟩ := next?_cases h
  · simp [result, take, hc, hpending, Input.readEvents, hleft]
  · simp [result, take, hc, hpending, Input.readEvents, hleft, pending_of_nil]
  · simp [result, hc, hpending, Input.readEvents, pending_of_nil]

lemma result_eq_of_reaches (h : Reaches max r s) : s.result max = r.result max := by
  induction h with
  | refl => rfl
  | tail _ step ih => rw [result_eq_of_next? step, ih]

lemma result_start (max : Nat) (input : Input) :
    (start input).result max = input.readLine max := rfl

/-- What makes a call leave the loop. -/
lemma next?_eq_none_iff : r.next? max = none ↔
    r.isComplete = true ∨
      ∀ event ∈ r.input.pending.head?, event = .ending ∨ ∃ errno, event = .failure errno := by
  unfold next?
  cases r.isComplete with
  | true => simp
  | false =>
    cases r.input.pending with
    | nil => simp
    | cons event events =>
      cases event with
      | chunk bytes => cases hleft : Input.afterNewline? bytes <;> simp [hleft]
      | failure errno => simp
      | ending => simp
      | interrupt => simp

lemma exists_last (max : Nat) (r : Reading) :
    ∃ last, Reaches max r last ∧ last.next? max = none := by
  generalize hpending : r.input.pending = events
  induction events generalizing r with
  | nil => exact ⟨r, .refl, next?_eq_none_iff.2 (.inr (by simp [hpending]))⟩
  | cons event rest ih =>
    cases hs : r.next? max with
    | none => exact ⟨r, .refl, hs⟩
    | some s =>
      obtain ⟨-, ⟨chunk, left, events, -, -, hnext⟩ | ⟨chunk, events, hp, -, hnext⟩ |
        ⟨events, hp, hnext⟩⟩ := next?_cases hs
      · exact ⟨s, .single hs, next?_eq_none_iff.2 (.inl (by rw [hnext]; rfl))⟩
      all_goals
        have hrest : events = rest := (List.cons.inj (hp.symm.trans hpending)).2
        have hcome : s.input.pending = rest := by
          rw [hnext]
          exact hrest
        obtain ⟨last, hlast, ended⟩ := ih s hcome
        exact ⟨last, .head hs hlast, ended⟩

end Reading

/-! ## What is kept -/

namespace PartialLine

variable {max : Nat} {line : List UInt8} {p : PartialLine}

/-- Beside telling what matters about the bytes `line`, what has been kept of them is within the
limit. -/
structure Keeps (max : Nat) (line : List UInt8) (p : PartialLine) : Prop
    extends p.Holds max line where
  bounded : p.bytes.length ≤ max

lemma Keeps.nil (max : Nat) : Keeps max [] {} := ⟨.nil, Nat.zero_le max⟩

/-- Whatever the next chunk is, what is kept stays within the limit. -/
lemma length_absorb_le (bounded : p.bytes.length ≤ max) (chunk : List UInt8) :
    (p.absorb max chunk).bytes.length ≤ max := by
  unfold absorb
  split
  · exact bounded
  · rename_i fits
    split
    · exact bounded
    · rw [List.length_append]
      omega

lemma Keeps.absorb (h : p.Keeps max line) (chunk : List UInt8) :
    (p.absorb max chunk).Keeps max (line ++ chunk) :=
  ⟨h.toHolds.absorb chunk, length_absorb_le h.bounded chunk⟩

/-- A line that is too long is left as it is, also by a chunk that would still fit. -/
lemma absorb_of_tooLong (long : p.tooLong = true) (chunk : List UInt8) :
    p.absorb max chunk = p := by
  have same : { p with tooLong := true } = p := by rw [← long]
  unfold absorb
  rw [if_pos long, same, ite_self]

end PartialLine

/-! ## What the loop preserves -/

/-- All bytes that are still to come. -/
def Input.bytes (input : Input) : List UInt8 :=
  input.stream.marks.filterMap Mark.byte?

lemma Input.bytes_mk (buffer : List UInt8) (events : List InputEvent) (interrupted : Bool) :
    Input.bytes ⟨buffer, events, interrupted⟩ =
      buffer ++ (events.flatMap (·.marks)).filterMap Mark.byte? := by
  simp only [bytes, stream, List.filterMap_append, Mark.filterMap_byte?]

lemma Input.bytes_of_pending_chunk {input : Input} {chunk : List UInt8}
    {events : List InputEvent} (h : input.pending = .chunk chunk :: events) :
    input.bytes = chunk ++ (events.flatMap (·.marks)).filterMap Mark.byte? := by
  rw [bytes, ← flatMap_marks_pending, h, List.flatMap_cons, List.filterMap_append]
  simp only [InputEvent.marks, Mark.filterMap_byte?]

lemma Input.bytes_of_pending_interrupt {input : Input} {events : List InputEvent}
    (h : input.pending = .interrupt :: events) :
    input.bytes = (events.flatMap (·.marks)).filterMap Mark.byte? := by
  rw [bytes, ← flatMap_marks_pending, h]
  rfl

namespace Reading

variable {max : Nat} {input : Input} {r s : Reading}

/-- What is true of a call that reads from `input` in every state of the loop. -/
structure Invariant (max : Nat) (input : Input) (r : Reading) : Prop where
  keeps : r.line.Keeps max r.consumed
  withinLine : newline ∉ r.consumed
  /-- What has been consumed is no longer to come, and nothing else. -/
  bytes : input.bytes = r.consumed ++ ((if r.isComplete then [newline] else []) ++ r.input.bytes)

lemma invariant_start (max : Nat) (input : Input) : (start input).Invariant max input :=
  ⟨.nil max, List.not_mem_nil, rfl⟩

lemma Invariant.next (h : r.Invariant max input) (step : r.next? max = some s) :
    s.Invariant max input := by
  obtain ⟨keeps, withinLine, bytes⟩ := h
  obtain ⟨hc, ⟨chunk, left, events, hpending, hleft, rfl⟩ | ⟨chunk, events, hpending, hleft, rfl⟩ |
    ⟨events, hpending, rfl⟩⟩ := next?_cases step
  all_goals
    rw [hc, if_neg Bool.false_ne_true, List.nil_append] at bytes
  · -- the line ends inside the chunk, and what is left of the chunk is still to come
    have hcut : chunk = Input.untilNewline chunk ++ newline :: left :=
      Input.eq_of_afterNewline? hleft
    have hpiece : newline ∉ Input.untilNewline chunk := Input.newline_notMem_untilNewline chunk
    refine ⟨keeps.absorb _, by simp [take, withinLine, hpiece], ?_⟩
    show input.bytes = r.consumed ++ Input.untilNewline chunk ++
      ([newline] ++ Input.bytes ⟨left, events, r.input.interrupted⟩)
    have hall (later : List UInt8) :
        chunk ++ later = Input.untilNewline chunk ++ (newline :: left ++ later) := by
      rw [← List.append_assoc, ← hcut]
    rw [bytes, Input.bytes_of_pending_chunk hpending, hall, Input.bytes_mk]
    simp
  -- the whole chunk belongs to the line, and nothing of it is left
  · have hplain : newline ∉ chunk := Input.afterNewline?_eq_none_iff.1 hleft
    refine ⟨keeps.absorb chunk, by simp [take, withinLine, hplain], ?_⟩
    show input.bytes = r.consumed ++ chunk ++
      ([] ++ Input.bytes ⟨[], events, r.input.interrupted⟩)
    rw [bytes, Input.bytes_of_pending_chunk hpending, Input.bytes_mk]
    simp
  · refine ⟨keeps, withinLine, ?_⟩
    rw [bytes, Input.bytes_of_pending_interrupt hpending, Input.bytes_mk, hc]
    simp

lemma invariant_of_reaches (h : Reaches max (start input) r) : r.Invariant max input := by
  induction h with
  | refl => exact invariant_start max input
  | tail _ step ih => exact ih.next step

/-- Once the line is too long, a look leaves what has been kept as it is. -/
lemma line_eq_of_next? (long : r.line.tooLong = true) (h : r.next? max = some s) :
    s.line = r.line := by
  obtain ⟨-, ⟨chunk, left, events, -, -, rfl⟩ | ⟨chunk, events, -, -, rfl⟩ | ⟨events, -, rfl⟩⟩ :=
    next?_cases h
  · exact PartialLine.absorb_of_tooLong long _
  · exact PartialLine.absorb_of_tooLong long _
  · rfl

lemma line_eq_of_reaches (long : r.line.tooLong = true) (h : Reaches max r s) :
    s.line = r.line := by
  induction h with
  | refl => rfl
  | tail _ step ih =>
    rw [line_eq_of_next? (by rw [ih, long]) step, ih]

end Reading

/-- **What is kept of a line is bounded and exact.** In every state of the loop, no more bytes are
kept than a line may have. They are all the bytes of the line that have been consumed, as long as
the line is not known to be too long, and it is known to be so exactly when more bytes have been
consumed than a line may have. From then on nothing changes about what is kept until the call leaves
the loop, however much of the line is still to come.

What has been consumed of the line is what is no longer to come, and the call comes to what
`Input.readLine` comes to. -/
theorem kept_bytes_bounded {max : Nat} {input : Input} {r : Reading}
    (h : Reading.Reaches max (.start input) r) :
    (r.line.bytes.length ≤ max ∧
      (r.line.tooLong = false → r.line.bytes = r.consumed) ∧
      (r.line.tooLong = true ↔ max < r.consumed.length) ∧
      (r.line.tooLong = true → ∀ later, Reading.Reaches max r later → later.line = r.line)) ∧
    (newline ∉ r.consumed ∧
      input.bytes = r.consumed ++ ((if r.isComplete then [newline] else []) ++ r.input.bytes)) ∧
    r.result max = input.readLine max ∧
    ∃ last, Reading.Reaches max r last ∧ last.next? max = none := by
  have hinv : r.Invariant max input := Reading.invariant_of_reaches h
  have hkeeps := hinv.keeps
  refine ⟨⟨hkeeps.bounded, hkeeps.kept, hkeeps.long, ?_⟩, ⟨hinv.withinLine, hinv.bytes⟩, ?_,
    Reading.exists_last max r⟩
  · intro long later hlater
    exact Reading.line_eq_of_reaches long hlater
  · rw [Reading.result_eq_of_reaches h, Reading.result_start]

/-- Three bytes, two that are too many, one that would still fit, and the end of the line with the
beginning of the next one. -/
def overfull : Input where
  events := [.chunk [97, 97, 97], .chunk [97, 97], .interrupt, .chunk [98], .chunk [98, 10, 99]]

/-- The call once it knows that the line is too long. -/
def overfullKnown : Reading where
  consumed := [97, 97, 97, 97, 97]
  line := ⟨[97, 97, 97], true⟩
  input := { events := [.interrupt, .chunk [98], .chunk [98, 10, 99]] }

/-- The call at the end of the line. -/
def overfullRead : Reading where
  consumed := [97, 97, 97, 97, 97, 98, 98]
  line := ⟨[97, 97, 97], true⟩
  isComplete := true
  input := { buffer := [99], interrupted := true }

theorem kept_bytes_bounded_overfull :
    Reading.Reaches 4 (.start overfull) overfullKnown ∧ overfullKnown.line.bytes.length ≤ 4 ∧
      4 < overfullKnown.consumed.length ∧ Reading.Reaches 4 overfullKnown overfullRead ∧
      overfullRead.line = overfullKnown.line ∧ overfullKnown.result 4 = overfull.readLine 4 := by
  have known : Reading.Reaches 4 (.start overfull) overfullKnown :=
    .tail (.tail .refl rfl) rfl
  have read : Reading.Reaches 4 overfullKnown overfullRead :=
    .tail (.tail (.tail .refl rfl) rfl) rfl
  obtain ⟨⟨bounded, -, long, frozen⟩, -, result, -⟩ := kept_bytes_bounded known
  exact ⟨known, bounded, long.1 rfl, read, frozen rfl overfullRead read, result⟩

end CommandShell
