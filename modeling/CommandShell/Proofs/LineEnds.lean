import CommandShell.Proofs.PlanText
import CommandShell.Proofs.Serving
import Mathlib

/-!
# Lines that end in a carriage return

A text can end its lines with a line feed, or with a carriage return and a line feed. The reader
takes a line feed off and nothing else, so a carriage return stays with its line: it makes the line
longer by a byte, it neither spoils nor mends what is text (`fromUTF8?_append_carriageReturn`), and
it is a separator, which makes no difference to the plan (`planLine_push_carriageReturn`).

So it matters in one case only. A line of exactly as many bytes as the limit allows is over the
limit with a carriage return, and it is refused (`received_append_carriageReturn`). Then
`receptions_of_returned_lines` compares the two ways of writing the same lines: attempt by attempt
they come to the same plans and the same refusals if and only if no line has just that length.
-/

namespace CommandShell

/-! ## What becomes of a line -/

/-- What one attempt to read a line comes to when a line that is read is planned. -/
inductive Reception
  /-- A line was read, and this is its plan, or why it has none. -/
  | planned (plan : Except CommandError (Option Plan))
  | refused (error : InputError)
  | interrupted
  | ended

/-- Goes on from what was read. -/
def ReadOutcome.reception (maxArgs : Nat) : ReadOutcome → Reception
  | .line text => .planned (planLine text maxArgs)
  | .failed error => .refused error
  | .interrupted => .interrupted
  | .ended => .ended

/-- Makes a number of attempts one after the other. -/
def Input.receptions (max maxArgs : Nat) : Nat → Input → List Reception
  | 0, _ => []
  | calls + 1, input =>
    (input.readLine max).1.reception maxArgs ::
      (input.readLine max).2.receptions max maxArgs calls

/-- What a line of these bytes comes to. -/
def received (max maxArgs : Nat) (line : List UInt8) : Reception :=
  (judge max line).reception maxArgs

/-- A number of attempts at lines that come to `receptions`, after which there are no more. -/
def attemptsAt (receptions : List Reception) (calls : Nat) : List Reception :=
  (receptions ++ List.replicate calls Reception.ended).take calls

lemma attemptsAt_cons (first : Reception) (receptions : List Reception) (calls : Nat) :
    attemptsAt (first :: receptions) (calls + 1) = first :: attemptsAt receptions calls := by
  have longer : (receptions ++ List.replicate (calls + 1) Reception.ended).take calls =
      (receptions ++ List.replicate calls Reception.ended).take calls := by
    rw [List.replicate_succ', ← List.append_assoc, List.take_append_of_le_length (by simp)]
  simp only [attemptsAt, List.cons_append, List.take_succ_cons, longer]

lemma attemptsAt_nil (calls : Nat) :
    attemptsAt [] calls = List.replicate calls Reception.ended := by
  rw [attemptsAt, List.nil_append, List.take_replicate, Nat.min_self]

/-- Attempts at the same number of lines agree, however many there are, only if the lines come to
the same. -/
lemma attemptsAt_inj {first second : List Reception} (same : first.length = second.length)
    (agree : ∀ calls, attemptsAt first calls = attemptsAt second calls) : first = second := by
  have whole := agree first.length
  unfold attemptsAt at whole
  rw [List.take_left] at whole
  rw [same, List.take_left] at whole
  exact whole

namespace Input.Carries

variable {input : Input}

lemma readLine_nil (h : input.Carries []) (max : Nat) :
    (input.readLine max).1 = .ended ∧ (input.readLine max).2.Carries [] := by
  obtain ⟨endings, hstream⟩ := h
  have hread := input.stream_readLine max
  rw [hstream] at hread
  have hlast : InputStream.readLine max ⟨List.replicate endings .ending, false⟩ =
      (.ended, ⟨List.replicate (endings - 1) .ending, false⟩) := by
    cases endings <;> rfl
  rw [List.map_nil, List.nil_append, hlast] at hread
  obtain ⟨houtcome, hrest⟩ := Prod.mk.inj hread
  exact ⟨houtcome, endings - 1, hrest⟩

/-- Attempts to read from an input come to its lines, one after the other. -/
lemma receptions_eq {bytes : List UInt8} (h : input.Carries bytes) (max maxArgs calls : Nat) :
    input.receptions max maxArgs calls =
      attemptsAt ((inputLines bytes).map (received max maxArgs)) calls := by
  induction calls generalizing input bytes with
  | zero => rfl
  | succ calls ih =>
    rcases h.readLine max with ⟨noLines, hended⟩ | ⟨line, bytes', hlines, hjudge, hrest⟩
    · -- what is left without a line is nothing at all
      have hempty : bytes = [] := by
        by_contra hne
        by_cases hmem : newline ∈ bytes
        · obtain ⟨line, rest, rfl, hline⟩ := List.eq_append_cons_of_mem hmem
          rw [inputLines_append_newline hline] at noLines
          exact List.cons_ne_nil _ _ noLines
        · rw [inputLines_of_notMem hmem hne] at noLines
          exact List.cons_ne_nil _ _ noLines
      subst hempty
      have later := ih (h.readLine_nil max).2
      rw [inputLines_nil, List.map_nil, attemptsAt_nil] at later ⊢
      rw [Input.receptions, later, hended]
      rfl
    · rw [Input.receptions, ih hrest, hjudge, hlines, List.map_cons, attemptsAt_cons]
      rfl

end Input.Carries

/-! ## A carriage return behind a line -/

/-- The carriage return byte. -/
def carriageReturn : UInt8 := 13

/-- A character whose bytes end in a byte below 128 has no other bytes, and has its number. -/
lemma utf8EncodeChar_eq_singleton_of_getLast? {c : Char} {b : UInt8}
    (last : (String.utf8EncodeChar c).getLast? = some b) (low : b.toNat < 128) :
    String.utf8EncodeChar c = [b] ∧ c.val.toUInt8 = b ∧ c.utf8Size = 1 := by
  have high : 128 ≤ (c.val.toUInt8 &&& 63 ||| 128).toNat := by
    rw [UInt8.toNat_or]
    exact Nat.right_le_or
  have absurdly (hlast : some (c.val.toUInt8 &&& 63 ||| 128) = some b) : False := by
    rw [Option.some.inj hlast] at high
    omega
  rcases Char.utf8Size_eq c with h | h | h | h
  · rw [String.utf8EncodeChar_eq_singleton h] at last ⊢
    have hb : c.val.toUInt8 = b := Option.some.inj last
    exact ⟨by rw [hb], hb, h⟩
  · rw [String.utf8EncodeChar_eq_cons_cons h] at last
    exact (absurdly last).elim
  · rw [String.utf8EncodeChar_eq_cons_cons_cons h] at last
    exact (absurdly last).elim
  · rw [String.utf8EncodeChar_eq_cons_cons_cons_cons h] at last
    exact (absurdly last).elim

lemma eq_carriageReturn_of_getLast? {c : Char}
    (last : (String.utf8EncodeChar c).getLast? = some carriageReturn) : c = '\r' := by
  obtain ⟨-, hval, hsize⟩ := utf8EncodeChar_eq_singleton_of_getLast? last (by decide)
  have small : c.val.toNat ≤ 127 := UInt32.le_iff_toNat_le.1 (Char.utf8Size_eq_one_iff.1 hsize)
  have hnat : c.val.toNat = 13 := by
    have := congrArg UInt8.toNat hval
    simp only [UInt32.toNat_toUInt8, carriageReturn] at this
    have h13 : (13 : UInt8).toNat = 13 := rfl
    omega
  exact Char.ext (UInt32.toNat_inj.1 hnat)

/-- Characters whose bytes end in a carriage return end in one. -/
lemma exists_of_flatMap_eq_append {cs : List Char} {line : List UInt8}
    (h : cs.flatMap String.utf8EncodeChar = line ++ [carriageReturn]) :
    ∃ cs', cs = cs' ++ ['\r'] ∧ cs'.flatMap String.utf8EncodeChar = line := by
  rcases List.eq_nil_or_concat' cs with rfl | ⟨cs', c, rfl⟩
  · simp at h
  · rw [List.flatMap_append, List.flatMap_singleton] at h
    have last : (String.utf8EncodeChar c).getLast? = some carriageReturn := by
      have := congrArg List.getLast? h
      rwa [List.getLast?_append_of_ne_nil _ String.utf8EncodeChar_ne_nil,
        List.getLast?_concat] at this
    obtain rfl := eq_carriageReturn_of_getLast? last
    exact ⟨cs', rfl, List.append_cancel_right h⟩

lemma fromUTF8?_eq_some_iff {line : List UInt8} {text : String} :
    String.fromUTF8? ⟨line.toArray⟩ = some text ↔
      text.toList.flatMap String.utf8EncodeChar = line := by
  have bytes : (⟨line.toArray⟩ : ByteArray) = line.toByteArray :=
    ByteArray.ext List.data_toByteArray.symm
  -- a text is as good as its bytes, which are those of its characters one by one
  have whole : text.toByteArray = (text.toList.flatMap String.utf8EncodeChar).toByteArray :=
    String.utf8Encode_toList.symm
  have inj {a b : List UInt8} (h : a.toByteArray = b.toByteArray) : a = b := by
    have := congrArg ByteArray.data h
    rw [List.data_toByteArray, List.data_toByteArray] at this
    exact congrArg Array.toList this
  rw [bytes]
  constructor
  · intro h
    unfold String.fromUTF8? at h
    split at h
    · obtain rfl := Option.some.inj h
      exact (inj whole).symm
    · cases h
  · rintro rfl
    rw [← whole, String.fromUTF8?, dif_pos text.isValidUTF8]
    exact congrArg some (String.toByteArray_inj.1 rfl)

/-- Behind bytes that are text a carriage return is one more character of it, and behind others it
makes no text of them. -/
theorem fromUTF8?_append_carriageReturn (line : List UInt8) :
    String.fromUTF8? ⟨(line ++ [carriageReturn]).toArray⟩ =
      (String.fromUTF8? ⟨line.toArray⟩).map (·.push '\r') := by
  refine Option.ext fun text => ?_
  rw [fromUTF8?_eq_some_iff, Option.map_eq_some_iff]
  constructor
  · intro h
    obtain ⟨cs, hcs, hline⟩ := exists_of_flatMap_eq_append h
    refine ⟨String.ofList cs, fromUTF8?_eq_some_iff.2 ?_, ?_⟩
    · rw [String.toList_ofList, hline]
    · rw [← String.toList_inj, String.toList_push, String.toList_ofList, hcs]
  · rintro ⟨before, hbefore, rfl⟩
    rw [String.toList_push, List.flatMap_append, fromUTF8?_eq_some_iff.1 hbefore]
    rfl

/-- A carriage return at the end of a line belongs to no word. -/
theorem planLine_push_carriageReturn (text : String) (maxArgs : Nat) :
    planLine (text.push '\r') maxArgs = planLine text maxArgs := by
  have same : lex (text.push '\r') = lex text := by
    rw [lex_eq_tokensOf, tokensOf, String.toList_push, words_append_separator rfl, words_nil,
      List.append_nil, lex_eq_tokensOf, tokensOf]
  rw [planLine, tokenize_eq, same, ← tokenize_eq, planLine]

/-- The outcome of a line depends on its length and its text. -/
lemma received_eq (max maxArgs : Nat) (line : List UInt8) :
    received max maxArgs line =
      if max < line.length then .refused (.lineTooLong max)
      else
        match String.fromUTF8? ⟨line.toArray⟩ with
        | some text => .planned (planLine text maxArgs)
        | none => .refused .notText := by
  unfold received judge String.fromUTF8?
  by_cases hlong : max < line.length
  · rw [if_pos hlong, if_pos hlong]
    rfl
  · rw [if_neg hlong, if_neg hlong]
    by_cases valid : ByteArray.IsValidUTF8 ⟨line.toArray⟩
    · rw [dif_pos valid, dif_pos valid]
      rfl
    · rw [dif_neg valid, dif_neg valid]
      rfl

/-- With a carriage return a line comes to what it comes to without one, unless the byte more brings
it over the limit. -/
theorem received_append_carriageReturn (max maxArgs : Nat) (line : List UInt8) :
    received max maxArgs (line ++ [carriageReturn]) =
      if line.length = max then .refused (.lineTooLong max) else received max maxArgs line := by
  rw [received_eq, received_eq, List.length_append, List.length_singleton]
  by_cases hlimit : line.length = max
  · rw [if_pos (by omega), if_pos hlimit]
  rw [if_neg hlimit]
  by_cases hlong : max < line.length
  · rw [if_pos (by omega), if_pos hlong]
  · rw [if_neg (by omega), if_neg hlong, fromUTF8?_append_carriageReturn]
    cases String.fromUTF8? ⟨line.toArray⟩ with
    | none => rfl
    | some text => exact congrArg Reception.planned (planLine_push_carriageReturn text maxArgs)

/-- A line of the length of the limit is not too long by itself. -/
lemma received_ne_lineTooLong {max : Nat} (maxArgs : Nat) {line : List UInt8}
    (fits : line.length = max) : received max maxArgs line ≠ .refused (.lineTooLong max) := by
  rw [received_eq, if_neg (by omega)]
  intro same
  split at same <;> cases same

/-! ## The two ways to end lines -/

/-- Lines with line feeds behind them. -/
def fed (lines : List (List UInt8)) : List UInt8 :=
  lines.flatMap (· ++ [newline])

/-- Lines with carriage returns and line feeds behind them. -/
def returned (lines : List (List UInt8)) : List UInt8 :=
  lines.flatMap (· ++ [carriageReturn, newline])

/-- The lines that were written are the lines that are read. -/
lemma inputLines_fed {lines : List (List UInt8)} (whole : ∀ line ∈ lines, newline ∉ line) :
    inputLines (fed lines) = lines := by
  induction lines with
  | nil => exact inputLines_nil
  | cons line lines ih =>
    obtain ⟨hline, hlines⟩ := List.forall_mem_cons.1 whole
    have parts : fed (line :: lines) = line ++ newline :: fed lines := by simp [fed]
    rw [parts, inputLines_append_newline hline, ih hlines]

lemma inputLines_returned {lines : List (List UInt8)} (whole : ∀ line ∈ lines, newline ∉ line) :
    inputLines (returned lines) = lines.map (· ++ [carriageReturn]) := by
  have parts : returned lines = fed (lines.map (· ++ [carriageReturn])) := by
    simp [returned, fed, List.flatMap_map]
  rw [parts]
  refine inputLines_fed fun line hmem => ?_
  obtain ⟨before, hbefore, rfl⟩ := List.mem_map.1 hmem
  rw [List.mem_append, List.mem_singleton, not_or]
  exact ⟨whole before hbefore, by decide⟩

/-- **A carriage return in front of the line feed counts towards the limit.** Lines can be written
with a line feed behind each of them or with a carriage return and a line feed. Whatever chunks the
two texts arrive in, and however many attempts are made to read from them: the first text comes to
its lines one after the other, and the second one comes to the same, save that each line of exactly
as many bytes as the limit is refused as too long. So the two come to the same plans, blank lines
and refusals if and only if there is no such line. -/
theorem receptions_of_returned_lines {max maxArgs : Nat} {lines : List (List UInt8)}
    {plain other : Input} (whole : ∀ line ∈ lines, newline ∉ line)
    (hplain : plain.Carries (fed lines)) (hother : other.Carries (returned lines)) :
    (∀ calls, plain.receptions max maxArgs calls =
      attemptsAt (lines.map (received max maxArgs)) calls) ∧
    (∀ calls, other.receptions max maxArgs calls =
      attemptsAt (lines.map fun line =>
        if line.length = max then .refused (.lineTooLong max) else received max maxArgs line)
        calls) ∧
    ((∀ calls, other.receptions max maxArgs calls = plain.receptions max maxArgs calls) ↔
      ∀ line ∈ lines, line.length ≠ max) := by
  have first (calls : Nat) : plain.receptions max maxArgs calls =
      attemptsAt (lines.map (received max maxArgs)) calls := by
    rw [hplain.receptions_eq, inputLines_fed whole]
  have second (calls : Nat) : other.receptions max maxArgs calls =
      attemptsAt (lines.map fun line =>
        if line.length = max then .refused (.lineTooLong max) else received max maxArgs line)
        calls := by
    rw [hother.receptions_eq, inputLines_returned whole, List.map_map]
    exact congrArg (attemptsAt · calls)
      (List.map_congr_left fun line _ => received_append_carriageReturn max maxArgs line)
  refine ⟨first, second, fun agree line hline fits => ?_, fun short calls => ?_⟩
  · have same := attemptsAt_inj (by simp) fun calls =>
      (second calls).symm.trans ((agree calls).trans (first calls))
    have hlast := List.map_inj_left.1 same line hline
    rw [if_pos fits] at hlast
    exact received_ne_lineTooLong maxArgs fits hlast.symm
  -- without a line of that very length the two lists of receptions are the same
  · rw [first, second]
    refine congrArg (attemptsAt · calls) (List.map_congr_left fun line hline => ?_)
    rw [if_neg (short line hline)]

/-- Two commands, a blank line, a line of one byte that is no text, and a line over the limit of
three bytes, with line feeds behind them and in chunks that have nothing to do with lines. -/
def shortLines : Input where
  events := [.chunk [108], .chunk [115, 10, 99, 100], .chunk [10, 10, 255, 10, 97], .chunk [97],
    .chunk [97, 97, 10], .ending]

/-- The same lines with carriage returns, in other chunks. -/
def shortLinesReturned : Input where
  events := [.chunk [108, 115, 13], .chunk [10, 99], .chunk [100, 13, 10, 13, 10, 255], .chunk [13],
    .chunk [10, 97, 97, 97, 97, 13, 10]]

theorem receptions_of_returned_lines_short :
    (∀ line ∈ [[108, 115], [99, 100], [], [255], [97, 97, 97, 97]], newline ∉ line) ∧
      shortLines.Carries (fed [[108, 115], [99, 100], [], [255], [97, 97, 97, 97]]) ∧
      shortLinesReturned.Carries (returned [[108, 115], [99, 100], [], [255], [97, 97, 97, 97]]) ∧
      ∀ calls, shortLinesReturned.receptions 3 64 calls = shortLines.receptions 3 64 calls := by
  have whole : ∀ line ∈ [[108, 115], [99, 100], [], [255], [97, 97, 97, 97]], newline ∉ line := by
    decide
  have plain : shortLines.Carries (fed [[108, 115], [99, 100], [], [255], [97, 97, 97, 97]]) :=
    ⟨1, by decide⟩
  have other : shortLinesReturned.Carries
      (returned [[108, 115], [99, 100], [], [255], [97, 97, 97, 97]]) := ⟨0, by decide⟩
  obtain ⟨-, -, same⟩ := @receptions_of_returned_lines 3 64 _ _ _ whole plain other
  exact ⟨whole, plain, other, same.2 (by decide)⟩

/-- With a limit of two bytes `ls` is a command, and with a carriage return it is refused. -/
theorem receptions_ne_of_exact_line :
    ({ events := [.chunk [108, 115, 10]] } : Input).Carries (fed [[108, 115]]) ∧
      ({ events := [.chunk [108, 115, 13, 10]] } : Input).Carries (returned [[108, 115]]) ∧
      ({ events := [.chunk [108, 115, 10]] } : Input).receptions 2 64 1 =
        [.planned (.ok (some { left := { program := "ls" } }))] ∧
      ({ events := [.chunk [108, 115, 13, 10]] } : Input).receptions 2 64 1 =
        [.refused (.lineTooLong 2)] :=
  ⟨⟨0, by decide⟩, ⟨0, by decide⟩, by cbv, by cbv⟩

end CommandShell
