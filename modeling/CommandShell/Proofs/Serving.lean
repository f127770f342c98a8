import CommandShell.Proofs.Builtins
import CommandShell.Proofs.History
import CommandShell.Proofs.Reading
import CommandShell.Proofs.Stages
import Mathlib

/-!
# What a shell does with its input

The loop of the shell as a fold over the lines of its input. `inputLines` cuts the bytes of an input
at its line feeds, whatever chunks they arrive in, and `Served` tells what is done with one line
after the other: before each of them the background jobs that have ended are told of and a prompt is
shown, and then the line is executed, or refused with one line on the standard error, and the next
one is taken. Only a line that ends the shell keeps the lines behind it from being looked at.

`serve_lines` says that a shell whose own output works, whose input is not interrupted and whose
children leave the input alone does exactly that, and that the only way for it not to come to an end
is a child in the foreground that never ends.
-/

namespace CommandShell

/-! ## The lines of an input -/

/-- What the line feeds cut an input into. What stands behind the last of them is a line only if
there is something. -/
def inputLines (bytes : List UInt8) : List (List UInt8) :=
  let pieces := bytes.splitOn newline
  if pieces.getLast? = some [] then pieces.dropLast else pieces

lemma inputLines_nil : inputLines [] = [] := by decide

/-- The first line feed ends the first line. -/
theorem inputLines_append_newline {line rest : List UInt8} (h : newline ∉ line) :
    inputLines (line ++ newline :: rest) = line :: inputLines rest := by
  have hline : ∀ b ∈ line, (b == newline) = false := by
    intro b hb
    exact beq_false_of_ne fun heq => h (heq ▸ hb)
  have hsplit : (line ++ newline :: rest).splitOn newline = line :: rest.splitOn newline :=
    List.splitOnP_append_cons_of_forall_mem hline newline (by decide) rest
  obtain ⟨piece, pieces, hpieces⟩ := List.exists_cons_of_ne_nil (List.splitOn_ne_nil newline rest)
  simp only [inputLines, hsplit, hpieces, List.getLast?_cons_cons, List.dropLast_cons_cons]
  split <;> rfl

/-- Bytes without a line feed are one line, if there are any. -/
theorem inputLines_of_notMem {line : List UInt8} (h : newline ∉ line) (hne : line ≠ []) :
    inputLines line = [line] := by
  have hline : ∀ b ∈ line, (b == newline) = false := by
    intro b hb
    exact beq_false_of_ne fun heq => h (heq ▸ hb)
  have hsplit : line.splitOn newline = [line] := List.splitOnP_eq_singleton hline
  simp [inputLines, hsplit, hne]

/-- The input is these bytes, in chunks of any size, and then it ends. It is not interrupted, and no
attempt to read it fails. -/
def Input.Carries (input : Input) (bytes : List UInt8) : Prop :=
  ∃ endings, input.stream = ⟨bytes.map .byte ++ List.replicate endings .ending, false⟩

/-- On a stream of bytes without a line feed and something behind them that ends a line. -/
lemma readLine_bytes {max : Nat} {line : List UInt8} {rest : List Mark} (hline : newline ∉ line)
    (ends : ∀ m ∈ rest.head?, m.endsLine = true) :
    InputStream.readLine max ⟨line.map .byte ++ rest, false⟩ =
      InputStream.endLine max line false rest := by
  have progress : InProgress max (line.map .byte) (({} : PartialLine).absorb max line) :=
    InProgress.nil.append_bytes hline
  rw [progress.readLine_append ends, Mark.filterMap_byte?]
  have quiet := contains_interrupt_append_bytes [] line
  rw [List.nil_append] at quiet
  rw [quiet]
  rfl

/-- Reading takes the first line off an input, or finds that there is none. -/
theorem Input.Carries.readLine {input : Input} {bytes : List UInt8} (h : input.Carries bytes)
    (max : Nat) :
    (inputLines bytes = [] ∧ (input.readLine max).1 = .ended) ∨
      ∃ line bytes', inputLines bytes = line :: inputLines bytes' ∧
        (input.readLine max).1 = judge max line ∧ (input.readLine max).2.Carries bytes' := by
  obtain ⟨endings, hstream⟩ := h
  have hread := input.stream_readLine max
  rw [hstream] at hread
  -- either a line feed ends the line or the ending of the input does
  by_cases hmem : newline ∈ bytes
  · obtain ⟨line, rest, rfl, hline⟩ := List.eq_append_cons_of_mem hmem
    rw [List.map_append, List.append_assoc, readLine_bytes hline (by simp [Mark.endsLine])] at hread
    obtain ⟨houtcome, hrest⟩ := Prod.mk.inj hread
    exact .inr ⟨line, rest, inputLines_append_newline hline, houtcome, endings, hrest⟩
  · have ends : ∀ m ∈ (List.replicate endings Mark.ending).head?, m.endsLine = true := by
      cases endings <;> simp [List.replicate_succ, Mark.endsLine]
    rw [readLine_bytes hmem ends] at hread
    have hlast : InputStream.endLine max bytes false (List.replicate endings .ending) =
        (InputStream.judgeRest max bytes, ⟨List.replicate (endings - 1) .ending, false⟩) := by
      cases endings <;> rfl
    rw [hlast] at hread
    obtain ⟨houtcome, hrest⟩ := Prod.mk.inj hread
    by_cases hempty : bytes = []
    -- nothing before the ending is no line, anything else is the last one
    · rw [hempty] at houtcome ⊢
      exact .inl ⟨inputLines_nil, houtcome⟩
    · rw [InputStream.judgeRest, if_neg hempty] at houtcome
      exact .inr ⟨bytes, [], by rw [inputLines_of_notMem hmem hempty, inputLines_nil], houtcome,
        endings - 1, hrest⟩

/-! ## Lines that are accepted -/

/-- The text of a line that is neither too long nor anything but text. -/
def textOf? (max : Nat) (line : List UInt8) : Option String :=
  if line.length ≤ max then String.fromUTF8? ⟨line.toArray⟩ else none

/-- A line is accepted with its text, or refused in a way that the next line can be read after. -/
lemma judge_cases (max : Nat) (line : List UInt8) :
    (∃ text, judge max line = .line text ∧ textOf? max line = some text) ∨
      ∃ e, judge max line = .failed e ∧ textOf? max line = none ∧ e.isRecoverable = true := by
  unfold judge textOf? String.fromUTF8?
  by_cases hlong : max < line.length
  · rw [if_pos hlong, if_neg (by omega)]
    exact .inr ⟨_, rfl, rfl, rfl⟩
  · rw [if_neg hlong, if_pos (by omega)]
    by_cases valid : ByteArray.IsValidUTF8 ⟨line.toArray⟩
    · rw [dif_pos valid, dif_pos valid]
      exact .inl ⟨_, rfl, rfl⟩
    · rw [dif_neg valid, dif_neg valid]
      exact .inr ⟨_, rfl, rfl, rfl⟩

lemma textOf?_of_judge {max : Nat} {line : List UInt8} {text : String}
    (h : judge max line = .line text) : textOf? max line = some text := by
  rcases judge_cases max line with ⟨text', htext, haccepted⟩ | ⟨e, he, -, -⟩
  · rw [htext] at h
    cases h
    exact haccepted
  · rw [he] at h
    exact absurd h nofun

lemma textOf?_of_judge_failed {max : Nat} {line : List UInt8} {e : InputError}
    (h : judge max line = .failed e) : textOf? max line = none ∧ e.isRecoverable = true := by
  rcases judge_cases max line with ⟨text, htext, -⟩ | ⟨e', he, hrefused, hrecoverable⟩
  · rw [htext] at h
    exact absurd h nofun
  · rw [he] at h
    cases h
    exact ⟨hrefused, hrecoverable⟩

lemma judge_ne {max : Nat} {line : List UInt8} :
    judge max line ≠ .ended ∧ judge max line ≠ .interrupted := by
  rcases judge_cases max line with ⟨text, htext, -⟩ | ⟨e, he, -, -⟩
  · rw [htext]
    exact ⟨nofun, nofun⟩
  · rw [he]
    exact ⟨nofun, nofun⟩

namespace Input.Carries

variable {input rest : Input} {bytes : List UInt8} {max : Nat}

lemma of_ne_ended {outcome : ReadOutcome} (h : input.Carries bytes)
    (read : input.readLine max = (outcome, rest)) (goesOn : outcome ≠ .ended) :
    ∃ line bytes', inputLines bytes = line :: inputLines bytes' ∧ judge max line = outcome ∧
      rest.Carries bytes' := by
  have hread := h.readLine max
  rw [read] at hread
  rcases hread with ⟨-, hended⟩ | ⟨line, bytes', hlines, hjudge, hrest⟩
  · exact absurd hended goesOn
  · exact ⟨line, bytes', hlines, hjudge.symm, hrest⟩

lemma of_ended (h : input.Carries bytes) (read : input.readLine max = (.ended, rest)) :
    inputLines bytes = [] := by
  have hread := h.readLine max
  rw [read] at hread
  rcases hread with ⟨hlines, -⟩ | ⟨line, _, -, hjudge, -⟩
  · exact hlines
  · exact absurd hjudge.symm judge_ne.1

lemma not_interrupted (h : input.Carries bytes) :
    input.readLine max ≠ (.interrupted, rest) := by
  intro read
  obtain ⟨line, _, -, hjudge, -⟩ := h.of_ne_ended read (by simp)
  exact absurd hjudge judge_ne.2

end Input.Carries

lemma eq_nil_of_runs_execute {s s' : State} {line : String} {t : List Traffic}
    (h : (s.execute line).Runs t (s', .terminate)) : t = [] := by
  rcases LineRun.of_runs_execute h with went | ⟨_, e, -, hflow, -⟩
  · exact went.terminates.1
  · exact absurd hflow (by decide)

/-! ## Turns of the loop -/

/-- The shell's own output works, and nobody has touched the input that it left to others. -/
def Traffic.isSmooth : Traffic → Bool
  | ⟨.write .output _, .error _⟩ => false
  | ⟨.flush .output, .error _⟩ => false
  | ⟨.renewedInput, some _⟩ => false
  | _ => true

namespace Traffic

lemma eq_ok_of_isSmooth_write {text : String} {answer : Except IoError Unit}
    (h : isSmooth ⟨.write .output text, answer⟩ = true) : answer = .ok () := by
  cases answer with
  | error e => exact absurd h Bool.false_ne_true
  | ok _ => rfl

lemma eq_ok_of_isSmooth_flush {answer : Except IoError Unit}
    (h : isSmooth ⟨.flush .output, answer⟩ = true) : answer = .ok () := by
  cases answer with
  | error e => exact absurd h Bool.false_ne_true
  | ok _ => rfl

lemma eq_none_of_isSmooth_renewedInput {answer : Option (List UInt8)}
    (h : isSmooth ⟨.renewedInput, answer⟩ = true) : answer = none := by
  cases answer with
  | none => rfl
  | some bytes => exact absurd h Bool.false_ne_true

end Traffic

/-- What is done before a line is read: the background jobs that have ended are told of, and one
prompt is shown. -/
def Opens (s : State) (t : List Traffic) (s' : State) : Prop :=
  ∃ reporting showing, t = reporting ++ showing ∧
    s.reportFinished.Runs reporting (s', .ok ()) ∧ s'.render.Runs showing (.ok ())

/-- `Served max s lines t texts flow`: the loop goes over these lines, with a limit of `max` bytes,
from the state `s` on; it makes the exchanges `t` and executes `texts`, and it comes to the end of
the lines or to a line that ends the shell. -/
inductive Served (max : Nat) :
    State → List (List UInt8) → List Traffic → List String → Flow → Prop
  /-- There are no more lines, and that is shown. -/
  | ended {s s' : State} {opening : List Traffic} (opens : Opens s opening s') :
      Served max s [] (opening ++ [⟨.write .output "exit\n", .ok ()⟩]) [] .continue
  /-- A line is refused, and that is all that becomes of it. -/
  | refused {s s' : State} {opening t : List Traffic} {line : List UInt8}
      {lines : List (List UInt8)} {texts : List String} {flow : Flow} {e : InputError}
      (opens : Opens s opening s') (judged : judge max line = .failed e)
      (later : Served max s' lines t texts flow) :
      Served max s (line :: lines)
        (opening ++ ⟨.warn ("orbit: " ++ e.message ++ "\n"), ()⟩ :: t) texts flow
  /-- A line is executed, and the loop goes on with the state that it leaves. -/
  | executed {s s' s'' : State} {opening u t : List Traffic} {line : List UInt8}
      {lines : List (List UInt8)} {text : String} {texts : List String} {flow : Flow}
      {unread : List UInt8} (opens : Opens s opening s') (judged : judge max line = .line text)
      (run : (s'.execute text).Runs u (s'', .continue))
      (later : Served max s'' lines t texts flow) :
      Served max s (line :: lines)
        (opening ++ ⟨.leaveInput unread, ()⟩ :: (u ++ ⟨.renewedInput, none⟩ :: t))
        (text :: texts) flow
  /-- A line ends the shell. -/
  | terminated {s s' s'' : State} {opening u : List Traffic} {line : List UInt8}
      {lines : List (List UInt8)} {text : String} {unread : List UInt8}
      (opens : Opens s opening s') (judged : judge max line = .line text)
      (run : (s'.execute text).Runs u (s'', .terminate)) :
      Served max s (line :: lines) (opening ++ ⟨.leaveInput unread, ()⟩ :: u) [text] .terminate

/-! ## Every run of the loop -/

lemma Shell.runs_call_iff {request : ShellCall} {t : List Traffic} {answer : request.Answer} :
    (Shell.call request).Runs t answer ↔ t = [⟨request, answer⟩] := by
  refine Dialogue.runs_once_iff.trans ⟨?_, ?_⟩
  · rintro ⟨a, rest, rfl, hdone⟩
    obtain ⟨rfl, rfl⟩ := Dialogue.runs_done_iff.1 hdone
    rfl
  · rintro rfl
    exact ⟨answer, [], rfl, .done _⟩

section Smooth

variable {s s' : State} {t : List Traffic} {written : Except IoError Unit}

lemma announce_ok {finished : List (Pid × JobStatus)}
    (h : (State.announce finished).Runs t written) (smooth : ∀ x ∈ t, x.isSmooth = true) :
    written = .ok () := by
  induction finished generalizing t with
  | nil => exact (Dialogue.runs_done_iff.1 h).2
  | cons first finished ih =>
    obtain ⟨answer, rest, rfl, hnext⟩ := Shell.runs_call_bind_iff.1 h
    obtain ⟨smoothFirst, smoothRest⟩ := List.forall_mem_cons.1 smooth
    obtain rfl := Traffic.eq_ok_of_isSmooth_write smoothFirst
    exact ih hnext smoothRest

lemma reportFinished_ok (h : s.reportFinished.Runs t (s', written))
    (smooth : ∀ x ∈ t, x.isSmooth = true) : written = .ok () := by
  unfold State.reportFinished at h
  obtain ⟨asking, telling, found, rfl, -, hnext⟩ := Dialogue.runs_bind_iff.1 h
  dsimp only at hnext
  split at hnext
  · obtain ⟨told, _, told', rfl, hannounce, hdone⟩ := Dialogue.runs_bind_iff.1 hnext
    obtain ⟨-, hr⟩ := Dialogue.runs_done_iff.1 hdone
    cases hr
    exact announce_ok hannounce fun x hx => smooth x (by simp [hx])
  · obtain ⟨-, hr⟩ := Dialogue.runs_done_iff.1 hnext
    cases hr
    rfl

lemma render_ok (h : s.render.Runs t written) (smooth : ∀ x ∈ t, x.isSmooth = true) :
    written = .ok () := by
  unfold State.render at h
  obtain ⟨looking, _, text, rfl, -, hnext⟩ := Dialogue.runs_bind_iff.1 h
  obtain ⟨answer, rest, rfl, hflush⟩ := Shell.runs_call_bind_iff.1 hnext
  obtain rfl := Traffic.eq_ok_of_isSmooth_write (smooth ⟨.write .output text, answer⟩ (by simp))
  obtain rfl := Shell.runs_call_iff.1 hflush
  exact Traffic.eq_ok_of_isSmooth_flush (smooth ⟨.flush .output, written⟩ (by simp))

end Smooth

/-- What the loop does with what it has read. -/
def State.afterReading (s : State) (changes : Nat) : ReadOutcome × Input → Shell Ending
  | (.line text, rest) => do
    Shell.call (.leaveInput rest.unread)
    match ← s.execute text with
    | (_, .terminate) => return .regular
    | (s, .continue) =>
      match changes, ← Shell.call .renewedInput with
      | changes + 1, some bytes => s.loop changes (rest.renew bytes)
      | changes, _ => s.loop changes rest
  | (.interrupted, rest) => do
    let _ ← Shell.call .takeInterrupt
    match ← Shell.call (.write .output "\n") with
    | .error _ => return .failure
    | .ok _ => s.loop changes rest
  | (.ended, _) => do
    match ← Shell.call (.write .output "exit\n") with
    | .error _ => return .failure
    | .ok _ => return .regular
  | (.failed e, rest) =>
    if e.isRecoverable then do
      Shell.call (.warn ("orbit: " ++ e.message ++ "\n"))
      s.loop changes rest
    else return .failure

/-- The loop in turns: it opens a turn, reads, and does something with what it has read. -/
lemma State.loop_eq (s : State) (changes : Nat) (input : Input) :
    s.loop changes input = (do
      match ← s.reportFinished with
      | (_, .error _) => return .failure
      | (s, .ok _) =>
        match ← s.render with
        | .error _ => return .failure
        | .ok _ => s.afterReading changes (input.readLine s.config.maxLineLen)) := by
  rw [State.loop]
  congr 1
  funext reported
  obtain ⟨s, written⟩ := reported
  cases written with
  | error e => rfl
  | ok _ =>
    dsimp only
    congr 1
    funext written
    cases written with
    | error e => rfl
    | ok _ =>
      dsimp only
      split <;> rename_i read <;> rw [read] <;> rfl

/-- A turn that is opened and goes on is a run of the loop. -/
lemma runs_loop_of_opens {s s' : State} {changes : Nat} {input : Input}
    {opening rest : List Traffic} {ending : Ending} (opens : Opens s opening s')
    (h : (s'.afterReading changes (input.readLine s'.config.maxLineLen)).Runs rest ending) :
    (s.loop changes input).Runs (opening ++ rest) ending := by
  obtain ⟨reporting, showing, rfl, hreport, hrender⟩ := opens
  rw [State.loop_eq, List.append_assoc]
  refine Dialogue.runs_bind_iff.2 ⟨reporting, _, _, rfl, hreport, ?_⟩
  exact Dialogue.runs_bind_iff.2 ⟨showing, _, _, rfl, hrender, h⟩

/-- If all goes smoothly, a run of the loop opens a turn and goes on with what is read. -/
lemma runs_loop_iff {s : State} {changes : Nat} {input : Input} {t : List Traffic}
    {ending : Ending} (smooth : ∀ x ∈ t, x.isSmooth = true) :
    (s.loop changes input).Runs t ending ↔
      ∃ opening rest s', t = opening ++ rest ∧ Opens s opening s' ∧
        (s'.afterReading changes (input.readLine s'.config.maxLineLen)).Runs rest ending := by
  constructor
  · intro h
    rw [State.loop_eq] at h
    obtain ⟨reporting, _, ⟨s', written⟩, rfl, hreport, h₁⟩ := Dialogue.runs_bind_iff.1 h
    obtain ⟨smoothReport, smooth₁⟩ := List.forall_mem_append.1 smooth
    obtain rfl := reportFinished_ok hreport smoothReport
    obtain ⟨showing, rest, written, rfl, hrender, h₂⟩ := Dialogue.runs_bind_iff.1 h₁
    obtain ⟨smoothRender, -⟩ := List.forall_mem_append.1 smooth₁
    obtain rfl := render_ok hrender smoothRender
    exact ⟨reporting ++ showing, rest, s', (List.append_assoc ..).symm,
      ⟨reporting, showing, rfl, hreport, hrender⟩, h₂⟩
  · rintro ⟨_, rest, s', rfl, opens, h⟩
    exact runs_loop_of_opens opens h

lemma Opens.config_eq {s s' : State} {t : List Traffic} (h : Opens s t s') :
    s'.config = s.config := by
  obtain ⟨reporting, showing, -, hreport, -⟩ := h
  obtain ⟨_, _, found, -, -, rfl, -⟩ := exists_sweep_of_runs_reportFinished hreport
  rfl

/-- The loop goes over the lines of its input and does nothing else. -/
lemma served_of_runs_loop {s : State} {changes : Nat} {input : Input} {bytes : List UInt8}
    {t : List Traffic} {ending : Ending} (carries : input.Carries bytes)
    (run : (s.loop changes input).Runs t ending) (smooth : ∀ x ∈ t, x.isSmooth = true) :
    ending = .regular ∧
      ∃ texts flow, Served s.config.maxLineLen s (inputLines bytes) t texts flow := by
  -- the recursion of `loop` itself, whose cases are what a reading can bring
  induction s, changes, input using State.loop.induct generalizing bytes t with
  | case1 s changes input afterLine afterInterrupt afterFailure =>
    obtain ⟨opening, t, s₁, rfl, opens, h⟩ := (runs_loop_iff smooth).1 run
    have smooth : ∀ x ∈ t, x.isSmooth = true := fun x hx => smooth x (by simp [hx])
    rw [← opens.config_eq]
    rcases read : input.readLine s₁.config.maxLineLen with ⟨result, rest⟩
    cases result with
    | line text =>
      obtain ⟨line, bytes', hlines, hjudge, hrest⟩ := carries.of_ne_ended read (by simp)
      rw [hlines]
      rw [read] at h
      obtain ⟨_, t, rfl, h₁⟩ := Shell.runs_call_bind_iff.1 h
      obtain ⟨u, t, ⟨s₂, flow⟩, rfl, hexecute, h₂⟩ := Dialogue.runs_bind_iff.1 h₁
      cases flow with
      | terminate =>
        obtain ⟨rfl, rfl⟩ := Dialogue.runs_done_iff.1 h₂
        rw [List.append_nil]
        exact ⟨rfl, [text], .terminate, .terminated opens hjudge hexecute⟩
      | «continue» =>
        obtain ⟨renewed, t, rfl, h₃⟩ := Shell.runs_call_bind_iff.1 h₂
        obtain rfl := Traffic.eq_none_of_isSmooth_renewedInput
          (smooth ⟨.renewedInput, renewed⟩ (by simp))
        have smoothLater : ∀ x ∈ t, x.isSmooth = true := fun x hx => smooth x (by simp [hx])
        have later : ending = .regular ∧ ∃ texts flow,
            Served s₂.config.maxLineLen s₂ (inputLines bytes') t texts flow := by
          have ih := afterLine s₁ text rest read s₂ none
          cases changes <;> exact ih hrest h₃ smoothLater
        obtain ⟨hending, texts, flow, served⟩ := later
        rw [config_eq_of_runs_execute hexecute] at served
        exact ⟨hending, text :: texts, flow, .executed opens hjudge hexecute served⟩
    | interrupted => exact absurd read carries.not_interrupted
    | ended =>
      rw [read] at h
      obtain ⟨answer, t, rfl, h₁⟩ := Shell.runs_call_bind_iff.1 h
      obtain rfl := Traffic.eq_ok_of_isSmooth_write
        (smooth ⟨.write .output "exit\n", answer⟩ (by simp))
      obtain ⟨rfl, rfl⟩ := Dialogue.runs_done_iff.1 h₁
      rw [carries.of_ended read]
      exact ⟨rfl, [], .continue, .ended opens⟩
    | failed e =>
      obtain ⟨line, bytes', hlines, hjudge, hrest⟩ := carries.of_ne_ended read (by simp)
      rw [hlines]
      rw [read, State.afterReading, if_pos (textOf?_of_judge_failed hjudge).2] at h
      obtain ⟨_, t, rfl, h₁⟩ := Shell.runs_call_bind_iff.1 h
      have smoothLater : ∀ x ∈ t, x.isSmooth = true := fun x hx => smooth x (by simp [hx])
      obtain ⟨hending, texts, flow, served⟩ := afterFailure s₁ e rest read hrest h₁ smoothLater
      exact ⟨hending, texts, flow, .refused opens hjudge served⟩

namespace Served

variable {max : Nat} {s : State} {lines : List (List UInt8)} {t : List Traffic}
  {texts : List String} {flow : Flow}

/-- The executed lines are accepted ones from the first on, and if no line has ended the shell they
are all of them. -/
lemma texts_begin (h : Served max s lines t texts flow) :
    texts <+: lines.filterMap (textOf? max) ∧
      (flow = .continue → texts = lines.filterMap (textOf? max)) := by
  induction h with
  | ended _ => exact ⟨List.prefix_rfl, fun _ => rfl⟩
  | refused _ judged _ ih =>
    rwa [List.filterMap_cons_none (textOf?_of_judge_failed judged).1]
  | executed _ judged _ _ ih =>
    rw [List.filterMap_cons_some (textOf?_of_judge judged)]
    exact ⟨(List.prefix_cons_inj _).2 ih.1, fun hflow => by rw [ih.2 hflow]⟩
  | terminated _ judged _ =>
    rw [List.filterMap_cons_some (textOf?_of_judge judged)]
    exact ⟨(List.prefix_cons_inj _).2 (List.nil_prefix ..), nofun⟩

lemma ne_nil (h : Served max s lines t texts flow) : t ≠ [] := by
  cases h <;> simp

/-- What comes last of a turn and of what is done later is what comes last later. -/
lemma getLast?_append_turn {opening : List Traffic} {x : Traffic} (ht : t ≠ []) :
    (opening ++ x :: t).getLast? = t.getLast? := by
  rw [List.getLast?_append, List.getLast?_cons_of_ne_nil ht, List.getLast?_eq_some_getLast ht]
  rfl

/-- The last thing that is done is to show the end of the input, unless a line has ended the
shell. -/
lemma getLast?_iff (h : Served max s lines t texts flow) :
    t.getLast? = some ⟨.write .output "exit\n", .ok ()⟩ ↔ flow = .continue := by
  induction h with
  | ended _ => simp
  | refused _ _ later ih =>
    rwa [getLast?_append_turn later.ne_nil]
  | executed _ _ _ later ih =>
    rwa [getLast?_append_turn (by simp), getLast?_append_turn later.ne_nil]
  | terminated _ _ run =>
    rw [eq_nil_of_runs_execute run, List.getLast?_append]
    constructor
    · intro h
      cases h
    · exact nofun

end Served

/-- If the input is a sequence of bytes in any chunks, the shell's own output works and the children
leave the input alone, the loop executes the accepted lines one after the other, up to the first one
that ends the shell; it tells of each refused line before that and does nothing else about it, and
ends regularly. It does come to an end unless it waits for ever for a child in the foreground. -/
theorem serve_lines {s : State} {input : Input} {bytes : List UInt8}
    (carries : input.Carries bytes) :
    (∀ (t : List Traffic) (ending : Ending),
      (s.serve input).Runs t ending → (∀ x ∈ t, x.isSmooth = true) →
      ending = .regular ∧ ∃ texts flow,
        Served s.config.maxLineLen s (inputLines bytes) t texts flow ∧
        texts <+: (inputLines bytes).filterMap (textOf? s.config.maxLineLen) ∧
        (flow = .continue →
          texts = (inputLines bytes).filterMap (textOf? s.config.maxLineLen)) ∧
        (t.getLast? = some ⟨.write .output "exit\n", .ok ()⟩ ↔ flow = .continue)) ∧
      ∀ f, (s.serve input).Endless f → ∃ m pid, ∀ n, m ≤ n →
        ∃ answer, f n = ⟨.wait pid true, answer⟩ ∧ Job.isUnsettled answer = true := by
  constructor
  · intro t ending run smooth
    obtain ⟨hending, texts, flow, served⟩ := served_of_runs_loop carries run smooth
    obtain ⟨hbegins, hall⟩ := served.texts_begin
    exact ⟨hending, texts, flow, served, hbegins, hall, served.getLast?_iff⟩
  · intro f endless
    exact Shell.RepeatsWaits.waits_of_endless (s.loop_repeatsWaits State.attention input) endless

/-- Bytes that are no text, a line that is no command, a line that is too long, `exit`, and a line
behind it, in chunks that have nothing to do with lines. -/
def mixedInput : Input where
  events :=
    [.chunk [255, 10, 62], .chunk [32, 120, 10, 97, 97, 97, 97, 97], .chunk [97, 97, 10, 101],
      .chunk [120, 105, 116, 10, 108, 115]]

/-- The bytes of that input. -/
def mixedBytes : List UInt8 :=
  [255, 10, 62, 32, 120, 10, 97, 97, 97, 97, 97, 97, 97, 10, 101, 120, 105, 116, 10, 108, 115]

/-- A shell that takes lines of six bytes at most. -/
def narrowShell : State := State.start { maxLineLen := 6 } "/" false

/-- The exchanges of a prompt. -/
def prompting (s : State) : List Traffic :=
  [⟨.isDirectory s.workingDir, .ok true⟩, ⟨.write .output s.fullPrompt, .ok ()⟩,
    ⟨.flush .output, .ok ()⟩]

lemma runs_render_prompting (s : State) : s.render.Runs (prompting s) (.ok ()) := by
  have prompts : s.prompt.Runs [⟨.isDirectory s.workingDir, .ok true⟩] s.fullPrompt :=
    Shell.runs_call_bind_iff.2 ⟨.ok true, [], rfl, .done _⟩
  refine Dialogue.runs_bind_iff.2 ⟨_, _, _, rfl, prompts, ?_⟩
  exact Shell.runs_call_bind_iff.2 ⟨.ok (), _, rfl, Shell.runs_call_iff.2 rfl⟩

/-- What the shell does with the input. -/
def mixedTranscript : List Traffic :=
  prompting narrowShell ++ ⟨.warn ("orbit: " ++ InputError.notText.message ++ "\n"), ()⟩ ::
    (prompting narrowShell ++ ⟨.leaveInput [97, 97, 10, 101, 120, 105, 116, 10, 108, 115], ()⟩ ::
      ([⟨.warn ("orbit: " ++ (CommandError.plan .emptyCommand).message ++ "\n"), ()⟩] ++
        ⟨.renewedInput, none⟩ ::
          (prompting narrowShell ++
            ⟨.warn ("orbit: " ++ (InputError.lineTooLong 6).message ++ "\n"), ()⟩ ::
            (prompting narrowShell ++ ⟨.leaveInput [], ()⟩ :: []))))

lemma runs_mixedTranscript :
    (narrowShell.serve mixedInput).Runs mixedTranscript .regular := by
  have opens : Opens narrowShell (prompting narrowShell) narrowShell :=
    ⟨[], _, rfl, Dialogue.runs_of_replay? rfl, runs_render_prompting narrowShell⟩
  have notCommand : planLine "> x" narrowShell.config.maxArgs = .error (.plan .emptyCommand) := by
    cbv
  have exit : planLine "exit" narrowShell.config.maxArgs =
      .ok (some { left := { program := "exit" } }) := by cbv
  refine runs_loop_of_opens opens ?_
  rw [show mixedInput.readLine narrowShell.config.maxLineLen = (.failed .notText,
    ⟨[62], mixedInput.events.tail, false⟩) by cbv]
  refine Shell.runs_call_bind_iff.2 ⟨(), _, rfl, runs_loop_of_opens opens ?_⟩
  rw [show Input.readLine narrowShell.config.maxLineLen ⟨[62], mixedInput.events.tail, false⟩ =
    (.line "> x", ⟨[97, 97, 97, 97, 97], mixedInput.events.tail.tail, false⟩) by cbv]
  refine Shell.runs_call_bind_iff.2 ⟨(), _, rfl, ?_⟩
  refine Dialogue.runs_bind_iff.2 ⟨_, _, (narrowShell, .continue), rfl, ?_, ?_⟩
  · rw [State.execute, State.run, notCommand]
    exact Dialogue.runs_of_replay? rfl
  refine Shell.runs_call_bind_iff.2 ⟨none, _, rfl, runs_loop_of_opens opens ?_⟩
  rw [show Input.readLine narrowShell.config.maxLineLen
    ⟨[97, 97, 97, 97, 97], mixedInput.events.tail.tail, false⟩ =
      (.failed (.lineTooLong 6), ⟨[101], mixedInput.events.tail.tail.tail, false⟩) by cbv]
  refine Shell.runs_call_bind_iff.2 ⟨(), _, rfl, runs_loop_of_opens opens ?_⟩
  rw [show Input.readLine narrowShell.config.maxLineLen
    ⟨[101], mixedInput.events.tail.tail.tail, false⟩ =
      (.line "exit", ⟨[108, 115], [], false⟩) by cbv]
  refine Shell.runs_call_bind_iff.2 ⟨(), _, rfl, ?_⟩
  refine Dialogue.runs_bind_iff.2 ⟨[], [], (narrowShell, .terminate), rfl, ?_, .done _⟩
  rw [State.execute, State.run, exit]
  exact Dialogue.runs_of_replay? rfl

theorem serve_lines_mixedInput :
    mixedInput.Carries mixedBytes ∧ (narrowShell.serve mixedInput).Runs mixedTranscript .regular ∧
      (∀ x ∈ mixedTranscript, x.isSmooth = true) ∧
      ∃ texts, Served 6 narrowShell (inputLines mixedBytes) mixedTranscript texts .terminate ∧
        texts <+: (inputLines mixedBytes).filterMap (textOf? 6) := by
  have carries : mixedInput.Carries mixedBytes := ⟨0, by decide⟩
  have smooth : ∀ x ∈ mixedTranscript, x.isSmooth = true := by decide
  obtain ⟨-, texts, flow, served, hbegins, -, hlast⟩ :=
    (serve_lines carries).1 _ _ runs_mixedTranscript smooth
  have hflow : flow = .terminate := by
    cases flow with
    | terminate => rfl
    | «continue» => cases hlast.2 rfl
  rw [hflow] at served
  exact ⟨carries, runs_mixedTranscript, smooth, texts, served, hbegins⟩

end CommandShell
