import CommandShell.Proofs.Wait
import CommandShell.Shell.Loop

/-!
# Stages of a run

A run that is not over yet, or that never will be. `d.Reaches t e` says that the dialogue `d` has
made the exchanges `t` and is left with `e`; a run is the case in which nothing is left to be asked
(`Dialogue.reaches_done_iff`), and a run of what is left completes the run
(`Dialogue.Reaches.runs_append`).

The shell repeats no request but a blocking wait for a child (`ShellCall.Repeats`), which is shown
here for each of its parts. Two things follow. There is no stage from which the shell could not
come to an end (`Shell.RepeatsWaits.exists_runs`), so what is true of all finished runs says
something about every stage; and the shell can only go on for ever by waiting for one and the same
child (`Shell.RepeatsWaits.waits_of_endless`).
-/

namespace CommandShell

/-! ## Stages -/

namespace Dialogue

variable {I : Interface} {α β : Type}

/-- `d.Reaches t e`: there is a system with which the dialogue makes the exchanges `t`, and `e` is
what it does after them. -/
inductive Reaches : Dialogue I α → List (Exchange I) → Dialogue I α → Prop
  | refl (d : Dialogue I α) : Reaches d [] d
  | step {r : I.Request} {again : I.Answer r → Bool}
      {next : (answer : I.Answer r) → again answer = false → Dialogue I α}
      {t : List (Exchange I)} {e : Dialogue I α} (answer : I.Answer r)
      (later : Reaches (resume again next answer) t e) :
      Reaches (.ask r again next) (⟨r, answer⟩ :: t) e

lemma Runs.of_resume {r : I.Request} {again : I.Answer r → Bool}
    {next : (answer : I.Answer r) → again answer = false → Dialogue I α}
    {t : List (Exchange I)} {a : α} {answer : I.Answer r}
    (h : (resume again next answer).Runs t a) :
    (Dialogue.ask r again next).Runs (⟨r, answer⟩ :: t) a := by
  unfold resume at h
  split at h
  · rename_i ha
    exact .again answer ha h
  · exact .next answer _ h

/-- A run of what is left completes the run. -/
theorem Reaches.runs_append {d e : Dialogue I α} {t u : List (Exchange I)} {a : α}
    (h : d.Reaches t e) (rest : e.Runs u a) : d.Runs (t ++ u) a := by
  induction h with
  | refl d => exact rest
  | step answer _ ih => exact .of_resume (ih rest)

/-- A run is a way to a result. -/
theorem reaches_done_iff {d : Dialogue I α} {t : List (Exchange I)} {a : α} :
    d.Reaches t (.done a) ↔ d.Runs t a := by
  constructor
  · intro h
    have run := h.runs_append (.done a)
    rwa [List.append_nil] at run
  · intro h
    induction h with
    | done a => exact .refl _
    | again answer ha _ ih => exact .step answer (by rwa [resume, dif_pos ha])
    | next answer ha _ ih => exact .step answer (by rwa [resume, dif_neg (by simp [ha])])

/-! ## What is asked, and how often -/

/-- Every request that a dialogue can make, with the rule by which it is repeated, satisfies `P`. -/
def Asks (P : (r : I.Request) → (I.Answer r → Bool) → Prop) : Dialogue I α → Prop
  | .done _ => True
  | .ask r again next => P r again ∧ ∀ answer settles, (next answer settles).Asks P

variable {P : (r : I.Request) → (I.Answer r → Bool) → Prop}

lemma Asks.bind {d : Dialogue I α} {f : α → Dialogue I β} (hd : d.Asks P)
    (hf : ∀ a, (f a).Asks P) : (d.bind f).Asks P := by
  induction d with
  | done a => exact hf a
  | ask r again next ih => exact ⟨hd.1, fun answer settles => ih answer settles (hd.2 _ _)⟩

lemma Asks.resume {r : I.Request} {again : I.Answer r → Bool}
    {next : (answer : I.Answer r) → again answer = false → Dialogue I α}
    (h : (Dialogue.ask r again next).Asks P) (answer : I.Answer r) :
    (resume again next answer).Asks P := by
  unfold Dialogue.resume
  split
  · exact h
  · exact h.2 answer _

/-- What is left at a later stage asks for nothing else. -/
theorem Asks.of_reaches {d e : Dialogue I α} {t : List (Exchange I)} (h : d.Asks P)
    (reached : d.Reaches t e) : e.Asks P := by
  induction reached with
  | refl d => exact h
  | step answer _ ih => exact ih (h.resume answer)

/-- If there are answers that settle the requests, the dialogue can come to an end. -/
theorem Asks.exists_runs (settles : ∀ r again, P r again → ∃ answer, again answer = false)
    {d : Dialogue I α} (h : d.Asks P) : ∃ t a, d.Runs t a := by
  induction d with
  | done a => exact ⟨[], a, .done a⟩
  | ask r again next ih =>
    obtain ⟨answer, hanswer⟩ := settles r again h.1
    obtain ⟨t, a, run⟩ := ih answer hanswer (h.2 answer hanswer)
    exact ⟨_, a, .next answer hanswer run⟩

/-! ## Endless runs -/

/-- The dialogue can go on for ever, with these exchanges. -/
def Endless (d : Dialogue I α) (f : Nat → Exchange I) : Prop :=
  ∀ n, ∃ e, d.Reaches ((List.range n).map f) e

lemma not_endless_done {a : α} {f : Nat → Exchange I} : ¬ (Dialogue.done a).Endless f := by
  intro h
  obtain ⟨e, reached⟩ := h 1
  cases reached

lemma Endless.resume {r : I.Request} {again : I.Answer r → Bool}
    {next : (answer : I.Answer r) → again answer = false → Dialogue I α} {f : Nat → Exchange I}
    (h : (Dialogue.ask r again next).Endless f) :
    ∃ answer, f 0 = ⟨r, answer⟩ ∧
      (Dialogue.resume again next answer).Endless fun n => f (n + 1) := by
  have first (n : Nat) : ∃ answer e, f 0 = ⟨r, answer⟩ ∧
      (Dialogue.resume again next answer).Reaches ((List.range n).map fun n => f (n + 1)) e := by
    obtain ⟨e, reached⟩ := h (n + 1)
    rw [List.range_succ_eq_map, List.map_cons, List.map_map] at reached
    generalize hx : f 0 = x at reached
    cases reached with
    | step answer later => exact ⟨answer, e, rfl, later⟩
  obtain ⟨answer, -, hanswer, -⟩ := first 0
  refine ⟨answer, hanswer, fun n => ?_⟩
  obtain ⟨answer', e, hanswer', later⟩ := first n
  rw [hanswer] at hanswer'
  cases hanswer'
  exact ⟨e, later⟩

/-- A run can only be endless by asking the same thing again and again in the end. -/
lemma Asks.repeats_of_endless {d : Dialogue I α} (h : d.Asks P) {f : Nat → Exchange I}
    (endless : d.Endless f) :
    ∃ m r again, P r again ∧ ∀ n, m ≤ n → ∃ answer, f n = ⟨r, answer⟩ ∧ again answer = true := by
  induction d generalizing f with
  | done a => exact absurd endless not_endless_done
  | ask r again next ih =>
    by_cases vain : ∀ n, ∃ answer, f n = ⟨r, answer⟩ ∧ again answer = true
    · exact ⟨0, r, again, h.1, fun n _ => vain n⟩
    -- otherwise the request is settled at some point, and the run goes on from there
    · obtain ⟨n, settled⟩ := Classical.not_forall.1 vain
      clear vain
      have shift {f : Nat → Exchange I} : (∃ m r again, P r again ∧
          ∀ n, m ≤ n → ∃ answer, f (n + 1) = ⟨r, answer⟩ ∧ again answer = true) →
          ∃ m r again, P r again ∧
            ∀ n, m ≤ n → ∃ answer, f n = ⟨r, answer⟩ ∧ again answer = true := by
        rintro ⟨m, r, again, hP, later⟩
        refine ⟨m + 1, r, again, hP, fun n hn => ?_⟩
        obtain ⟨n, rfl⟩ : ∃ k, n = k + 1 := ⟨n - 1, by omega⟩
        exact later n (by omega)
      induction n generalizing f with
      | zero =>
        obtain ⟨answer, hanswer, later⟩ := endless.resume
        have hagain : ¬ again answer = true := fun ha => settled ⟨answer, hanswer, ha⟩
        rw [Dialogue.resume, dif_neg hagain] at later
        exact shift (ih answer _ (h.2 answer _) later)
      | succ n ihn =>
        obtain ⟨answer, hanswer, later⟩ := endless.resume
        by_cases hagain : again answer = true
        · rw [Dialogue.resume, dif_pos hagain] at later
          exact shift (ihn later settled)
        · rw [Dialogue.resume, dif_neg hagain] at later
          exact shift (ih answer _ (h.2 answer _) later)

end Dialogue

/-! ## The shell repeats blocking waits only -/

/-- How the shell repeats its requests: a blocking wait as long as it is unsettled what became of
the child, and everything else not at all. -/
inductive ShellCall.Repeats : (r : ShellCall) → (r.Answer → Bool) → Prop
  | never (r : ShellCall) : Repeats r fun _ => false
  | wait (pid : Pid) : Repeats (.wait pid true) Job.isUnsettled

namespace Shell

variable {α β : Type}

/-- A part of the shell that repeats blocking waits only. -/
def RepeatsWaits (part : Shell α) : Prop :=
  part.Asks ShellCall.Repeats

lemma repeatsWaits_call_bind {r : ShellCall} {f : r.Answer → Shell β}
    (hf : ∀ answer, RepeatsWaits (f answer)) : RepeatsWaits ((Shell.call r).bind f) :=
  ⟨.never r, fun answer _ => hf answer⟩

lemma repeatsWaits_call (r : ShellCall) : RepeatsWaits (Shell.call r) :=
  ⟨.never r, fun _ _ => trivial⟩

lemma RepeatsWaits.bind {part : Shell α} {f : α → Shell β} (h : RepeatsWaits part)
    (hf : ∀ a, RepeatsWaits (f a)) : RepeatsWaits (part.bind f) :=
  Dialogue.Asks.bind h hf

/-- A part that repeats blocking waits only can come to an end at every stage, since every request
has an answer that settles it. -/
theorem RepeatsWaits.exists_runs {part : Shell α} (h : RepeatsWaits part) :
    ∃ t a, part.Runs t a := by
  refine Dialogue.Asks.exists_runs ?_ h
  intro r again hr
  cases hr with
  | never r =>
    cases r with
    | write _ _ | flush _ | close _ => exact ⟨Except.ok (), rfl⟩
    | warn _ | ownGroup _ | leaveInput _ => exact ⟨(), rfl⟩
    | isDirectory _ => exact ⟨Except.ok true, rfl⟩
    | canonical path => exact ⟨Except.ok path, rfl⟩
    | openOutput _ _ => exact ⟨Except.ok (0 : Fd), rfl⟩
    | makePipe => exact ⟨Except.error .EMFILE, rfl⟩
    | fork _ => exact ⟨Except.error .EAGAIN, rfl⟩
    | wait _ _ => exact ⟨Except.error .ECHILD, rfl⟩
    | takeInterrupt => exact ⟨false, rfl⟩
    | renewedInput => exact ⟨(none : Option (List UInt8)), rfl⟩
  | wait pid => exact ⟨.error .ECHILD, rfl⟩

/-- The shell can go on for ever only by waiting for one child that never ends. -/
theorem RepeatsWaits.waits_of_endless {part : Shell α} (h : RepeatsWaits part) {f : Nat → Traffic}
    (endless : part.Endless f) :
    ∃ m pid, ∀ n, m ≤ n →
      ∃ answer, f n = ⟨.wait pid true, answer⟩ ∧ Job.isUnsettled answer = true := by
  obtain ⟨m, r, again, hr, later⟩ := Dialogue.Asks.repeats_of_endless h endless
  cases hr with
  | never r =>
    obtain ⟨answer, -, hanswer⟩ := later m (Nat.le_refl m)
    exact absurd hanswer Bool.false_ne_true
  | wait pid => exact ⟨m, pid, later⟩

end Shell

open Shell

namespace Job

lemma waitFor_repeatsWaits (pid : Pid) : RepeatsWaits (waitFor pid) := by
  rw [waitFor_eq]
  exact ⟨.wait pid, fun answer settles => trivial⟩

lemma waitAll_repeatsWaits (result : Except WaitError JobStatus) (pids : List Pid) :
    RepeatsWaits (waitAll result pids) := by
  induction pids generalizing result with
  | nil => exact trivial
  | cons pid pids ih => exact (waitFor_repeatsWaits pid).bind fun ending => ih _

lemma wait_repeatsWaits (job : Job) : RepeatsWaits job.wait :=
  waitAll_repeatsWaits _ _

lemma sweep_repeatsWaits (pids : List Pid) : RepeatsWaits (sweep pids) := by
  induction pids with
  | nil => exact trivial
  | cons pid pids ih => exact repeatsWaits_call_bind fun answer => ih.bind fun found => trivial

end Job

lemma spawn_repeatsWaits (child : Child) : RepeatsWaits (spawn child) := by
  refine repeatsWaits_call_bind fun answer => ?_
  cases answer with
  | error errno => exact trivial
  | ok pid =>
    dsimp only
    split
    · exact repeatsWaits_call_bind fun _ => trivial
    · exact trivial

lemma closePipe_repeatsWaits (read write : Fd) : RepeatsWaits (closePipe read write) :=
  repeatsWaits_call_bind fun _ => repeatsWaits_call_bind fun _ => trivial

lemma launchSides_repeatsWaits (left right : Segment) (workingDir : String) (background : Bool)
    (read write : Fd) :
    RepeatsWaits (launchSides left right workingDir background read write) := by
  refine (spawn_repeatsWaits _).bind fun rightSide => ?_
  cases rightSide with
  | error e => exact (closePipe_repeatsWaits read write).bind fun _ => trivial
  | ok rightPid =>
    refine (spawn_repeatsWaits _).bind fun leftSide => ?_
    refine (closePipe_repeatsWaits read write).bind fun _ => ?_
    cases leftSide with
    | error e => exact (Job.wait_repeatsWaits _).bind fun _ => trivial
    | ok leftPid => exact trivial

lemma launch_repeatsWaits (plan : Plan) (workingDir : String) :
    RepeatsWaits (launch plan workingDir) := by
  unfold launch
  split
  · exact trivial
  split
  · refine (spawn_repeatsWaits _).bind fun only => ?_
    cases only <;> exact trivial
  · refine repeatsWaits_call_bind fun answer => ?_
    cases answer with
    | error errno => exact trivial
    | ok ends => exact launchSides_repeatsWaits _ _ _ _ _ _

namespace State

variable (s : State)

lemma changeDirectory_repeatsWaits (target : String) :
    RepeatsWaits (s.changeDirectory target) := by
  refine repeatsWaits_call_bind fun answer => ?_
  cases answer with
  | error e => exact trivial
  | ok path =>
    refine repeatsWaits_call_bind fun answer => ?_
    dsimp only
    split <;> exact trivial

lemma executeBuiltin_repeatsWaits (builtin : Builtin) (arguments : List String) (sink : Sink) :
    RepeatsWaits (builtin.execute arguments s sink) := by
  cases builtin with
  | exit => exact trivial
  | cd =>
    cases arguments with
    | nil => exact trivial
    | cons target _ => exact s.changeDirectory_repeatsWaits target
  | help =>
    refine RepeatsWaits.bind (repeatsWaits_call_bind fun answer => ?_) fun written => ?_
    · cases answer with
      | error e => exact trivial
      | ok _ => exact repeatsWaits_call _
    · cases written <;> exact trivial

lemma runBuiltin_repeatsWaits (builtin : Builtin) (plan : Plan) :
    RepeatsWaits (s.runBuiltin builtin plan) := by
  have executed (sink : Sink) := s.executeBuiltin_repeatsWaits builtin plan.left.arguments sink
  unfold runBuiltin
  split
  · exact (executed .output).bind fun _ => trivial
  split
  · exact trivial
  split
  · exact (executed .output).bind fun _ => trivial
  · refine repeatsWaits_call_bind fun answer => ?_
    cases answer with
    | error e => exact trivial
    | ok fd => exact (executed (.file fd)).bind fun _ => repeatsWaits_call_bind fun _ => trivial

lemma runForeground_repeatsWaits (job : Job) : RepeatsWaits (s.runForeground job) := by
  refine (Job.wait_repeatsWaits job).bind fun ending => ?_
  cases ending with
  | error e => exact trivial
  | ok status =>
    refine repeatsWaits_call_bind fun _ => ?_
    cases status with
    | exited _ => exact trivial
    | signaled signal =>
      dsimp only
      split
      · refine repeatsWaits_call_bind fun answer => ?_
        cases answer <;> exact trivial
      · exact repeatsWaits_call_bind fun _ => trivial

lemma runBackground_repeatsWaits (job : Job) : RepeatsWaits (s.runBackground job) := by
  refine repeatsWaits_call_bind fun answer => ?_
  cases answer <;> exact trivial

lemma runJob_repeatsWaits (plan : Plan) : RepeatsWaits (s.runJob plan) := by
  refine repeatsWaits_call_bind fun answer => ?_
  cases answer with
  | error e => exact trivial
  | ok _ =>
    refine (launch_repeatsWaits plan s.workingDir).bind fun launched => ?_
    cases launched with
    | error e => exact trivial
    | ok job =>
      dsimp only
      split
      · exact s.runBackground_repeatsWaits job
      · exact s.runForeground_repeatsWaits job

lemma run_repeatsWaits (line : String) : RepeatsWaits (s.run line) := by
  unfold run
  split
  · exact trivial
  · exact trivial
  · rename_i plan _
    unfold runPlan
    split
    · exact s.runBuiltin_repeatsWaits _ plan
    split
    · exact trivial
    · exact s.runJob_repeatsWaits plan

lemma execute_repeatsWaits (line : String) : RepeatsWaits (s.execute line) := by
  refine (s.run_repeatsWaits line).bind fun result => ?_
  obtain ⟨s', result⟩ := result
  cases result with
  | error e => exact repeatsWaits_call_bind fun _ => trivial
  | ok flow => exact trivial

lemma prompt_repeatsWaits : RepeatsWaits s.prompt := by
  refine repeatsWaits_call_bind fun answer => ?_
  match answer with
  | .ok true => exact trivial
  | .ok false => exact repeatsWaits_call_bind fun _ => trivial
  | .error e => exact repeatsWaits_call_bind fun _ => trivial

lemma render_repeatsWaits : RepeatsWaits s.render := by
  refine s.prompt_repeatsWaits.bind fun text => repeatsWaits_call_bind fun answer => ?_
  cases answer with
  | error e => exact trivial
  | ok _ => exact repeatsWaits_call _

lemma announce_repeatsWaits (finished : List (Pid × JobStatus)) :
    RepeatsWaits (announce finished) := by
  induction finished with
  | nil => exact trivial
  | cons first rest ih =>
    refine repeatsWaits_call_bind fun answer => ?_
    cases answer with
    | error e => exact trivial
    | ok _ => exact ih

lemma reportFinished_repeatsWaits : RepeatsWaits s.reportFinished := by
  refine (Job.sweep_repeatsWaits s.jobs).bind fun found => ?_
  dsimp only
  split
  · exact (announce_repeatsWaits found.finished).bind fun _ => trivial
  · exact trivial

/-- So does the loop, which goes over its input and repeats nothing by itself. -/
lemma loop_repeatsWaits (changes : Nat) (input : Input) :
    RepeatsWaits (s.loop changes input) := by
  induction s, changes, input using State.loop.induct with
  | case1 s changes input afterLine afterInterrupt afterFailure =>
    rw [loop]
    refine s.reportFinished_repeatsWaits.bind fun reported => ?_
    obtain ⟨s, written⟩ := reported
    cases written with
    | error e => exact trivial
    | ok _ =>
      refine s.render_repeatsWaits.bind fun written => ?_
      cases written with
      | error e => exact trivial
      | ok _ =>
        dsimp only
        split
        · rename_i text rest read
          refine repeatsWaits_call_bind fun _ => ?_
          refine (s.execute_repeatsWaits text).bind fun executed => ?_
          obtain ⟨s', flow⟩ := executed
          cases flow with
          | terminate => exact trivial
          | «continue» =>
            refine repeatsWaits_call_bind fun renewed => ?_
            have later := afterLine s text rest read s' renewed
            cases changes with
            | zero => exact later
            | succ changes => cases renewed <;> exact later
        · rename_i rest read
          refine repeatsWaits_call_bind fun _ => repeatsWaits_call_bind fun answer => ?_
          cases answer with
          | error e => exact trivial
          | ok _ => exact afterInterrupt s rest read
        · refine repeatsWaits_call_bind fun answer => ?_
          cases answer <;> exact trivial
        · rename_i e rest read
          split
          · exact repeatsWaits_call_bind fun _ => afterFailure s e rest read
          · exact trivial

end State

end CommandShell
