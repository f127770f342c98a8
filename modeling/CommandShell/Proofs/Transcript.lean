import CommandShell.Shell.Launch
import Mathlib.Tactic.Lemma

/-!
# Transcripts

A run of a part of the shell leaves a transcript: the list of its exchanges with the system. This
file holds what is said about transcripts whatever the part was.

First, how the transcript of a dialogue falls apart at its calls. A call that is made once is one
exchange (`Shell.runs_call_bind_iff`); a call that is made again while its answers do not settle
the matter is a list of vain exchanges and a last one (`Dialogue.runs_ask_iff`). With
`Dialogue.runs_bind_iff` these two take any part of the shell to pieces.

Second, how something that the system keeps count of changes along a transcript. Such a count is
moved on by each exchange, so that it is a fold over the transcript, and `Throughout` says that
every exchange was in order with respect to the count at its moment. Both split at `++`, which is
why statements about whole runs can be put together from statements about their parts.

Third, what can be read off a transcript of the shell: the children that were made, the pipes, the
descriptors that were closed, and the first call of a launch that failed.
-/

namespace CommandShell

/-! ## Taking a run to pieces -/

namespace Dialogue

variable {I : Interface} {α β : Type}

lemma runs_done_mk_iff {t : List (Exchange I)} {a a' : α} {b b' : β} :
    (Dialogue.done (a, b) : Dialogue I (α × β)).Runs t (a', b') ↔ t = [] ∧ a' = a ∧ b' = b := by
  rw [runs_done_iff, Prod.mk.injEq]

/-- A dialogue that starts with a call: the call is the first exchange, and the rest of the
transcript is a run of what follows upon the answer. -/
theorem runs_call_bind_iff {request : I.Request} {next : I.Answer request → Dialogue I α}
    {t : List (Exchange I)} {a : α} :
    ((call request).bind next).Runs t a ↔
      ∃ answer rest, t = ⟨request, answer⟩ :: rest ∧ (next answer).Runs rest a :=
  runs_once_iff

/-- A request that is made until an answer settles it is a number of exchanges with answers that
do not, then one with the answer that does. -/
theorem runs_ask_iff {r : I.Request} {again : I.Answer r → Bool}
    {next : (answer : I.Answer r) → again answer = false → Dialogue I α}
    {t : List (Exchange I)} {a : α} :
    (Dialogue.ask r again next).Runs t a ↔
      ∃ (vain : List (I.Answer r)) (answer : I.Answer r) (settles : again answer = false)
        (rest : List (Exchange I)),
        (∀ v ∈ vain, again v = true) ∧ t = vain.map (Exchange.mk r) ++ ⟨r, answer⟩ :: rest ∧
          (next answer settles).Runs rest a := by
  constructor
  -- answers in vain come off the front one by one; the first other one is the last
  · intro h
    generalize hd : Dialogue.ask r again next = d at h
    induction h with
    | done a => cases hd
    | again answer ha _ ih =>
      cases hd
      obtain ⟨vain, last, settles, rest, hv, rfl, hr⟩ := ih rfl
      refine ⟨answer :: vain, last, settles, rest, ?_, rfl, hr⟩
      intro v hmem
      rcases List.mem_cons.1 hmem with rfl | hmem
      · exact ha
      · exact hv v hmem
    | next answer ha rest _ =>
      cases hd
      exact ⟨[], answer, ha, _, by simp, rfl, rest⟩
  · rintro ⟨vain, answer, settles, rest, hv, rfl, hr⟩
    induction vain with
    | nil => exact .next answer settles hr
    | cons v vain ih =>
      have htail := ih fun w hw => hv w (List.mem_cons_of_mem v hw)
      exact .again v (hv v List.mem_cons_self) htail

/-- Once a part of a dialogue has been run, what comes after it is a run of what goes on from its
result. -/
theorem Runs.runs_bind_append_iff {d : Dialogue I α} {f : α → Dialogue I β}
    {t u : List (Exchange I)} {a : α} {b : β} (h : d.Runs t a) :
    (d.bind f).Runs (t ++ u) b ↔ (f a).Runs u b := by
  constructor
  · intro hrun
    induction h with
    | done a => exact hrun
    | again answer ha _ ih =>
      cases hrun with
      | again _ _ rest => exact ih rest
      | next _ settles _ => exact absurd ha (by simp [settles])
    | next answer settles _ ih =>
      cases hrun with
      | again _ ha _ => exact absurd ha (by simp [settles])
      | next _ _ rest => exact ih rest
  · intro hrest
    exact runs_bind_iff.2 ⟨t, u, a, rfl, h, hrest⟩

/-- A dialogue that is given the same answers makes the same exchanges and comes to the same. -/
lemma Runs.append_inj {d : Dialogue I α} {t t' u u' : List (Exchange I)} {a a' : α}
    (h : d.Runs t a) (h' : d.Runs t' a') (same : t ++ u = t' ++ u') :
    t = t' ∧ a = a' ∧ u = u' := by
  induction h generalizing t' with
  | done a =>
    obtain ⟨rfl, rfl⟩ := runs_done_iff.1 h'
    exact ⟨rfl, rfl, same⟩
  | again answer ha _ ih =>
    -- the same first exchange is either in vain in both runs or in neither
    cases h' with
    | again answer' _ later =>
      obtain ⟨hx, behind⟩ := List.cons.inj same
      cases hx
      obtain ⟨rfl, ha, hu⟩ := ih later behind
      exact ⟨rfl, ha, hu⟩
    | next answer' settles _ =>
      obtain ⟨hx, -⟩ := List.cons.inj same
      cases hx
      exact absurd ha (by simp [settles])
  | next answer settles _ ih =>
    cases h' with
    | again answer' ha _ =>
      obtain ⟨hx, -⟩ := List.cons.inj same
      cases hx
      exact absurd ha (by simp [settles])
    | next answer' _ later =>
      obtain ⟨hx, behind⟩ := List.cons.inj same
      cases hx
      obtain ⟨rfl, ha, hu⟩ := ih later behind
      exact ⟨rfl, ha, hu⟩

/-- Every request that a dialogue can make satisfies `P`, and so does `Q` everything that it can
come to, whatever the answers are. -/
def Within (P : I.Request → Prop) (Q : α → Prop) : Dialogue I α → Prop
  | .done a => Q a
  | .ask r _ next => P r ∧ ∀ answer settles, (next answer settles).Within P Q

lemma Within.bind {P : I.Request → Prop} {R : α → Prop} {Q : β → Prop} {d : Dialogue I α}
    {f : α → Dialogue I β} (hd : d.Within P R) (hf : ∀ a, R a → (f a).Within P Q) :
    (d.bind f).Within P Q := by
  induction d with
  | done a => exact hf a hd
  | ask r again next ih => exact ⟨hd.1, fun answer settles => ih answer settles (hd.2 _ _)⟩

lemma Within.mono {P P' : I.Request → Prop} {Q : α → Prop} {d : Dialogue I α}
    (h : d.Within P Q) (weaker : ∀ r, P r → P' r) : d.Within P' Q := by
  induction d with
  | done a => exact h
  | ask r again next ih =>
    exact ⟨weaker r h.1, fun answer settles => ih answer settles (h.2 answer settles)⟩

/-- A run keeps within what the dialogue does. -/
theorem Within.of_runs {P : I.Request → Prop} {Q : α → Prop} {d : Dialogue I α}
    {t : List (Exchange I)} {a : α} (hd : d.Within P Q) (h : d.Runs t a) :
    (∀ x ∈ t, P x.request) ∧ Q a := by
  induction h with
  | done a => exact ⟨by simp, hd⟩
  | again answer _ _ ih =>
    obtain ⟨hrest, hQ⟩ := ih hd
    exact ⟨List.forall_mem_cons.2 ⟨hd.1, hrest⟩, hQ⟩
  | next answer settles _ ih =>
    obtain ⟨hrest, hQ⟩ := ih (hd.2 answer settles)
    exact ⟨List.forall_mem_cons.2 ⟨hd.1, hrest⟩, hQ⟩

/-- What a dialogue comes to with given exchanges, if these are the exchanges it makes. -/
def replay? [DecidableEq I.Request] : Dialogue I α → List (Exchange I) → Option α
  | .done a, [] => some a
  | .done _, _ :: _ => none
  | .ask _ _ _, [] => none
  | .ask r again next, x :: t =>
    if h : x.request = r then
      let answer : I.Answer r := h ▸ x.answer
      if hagain : again answer = true then (Dialogue.ask r again next).replay? t
      else (next answer (by simpa using hagain)).replay? t
    else none

/-- Exchanges that a dialogue can be replayed with are one of its runs. -/
theorem runs_of_replay? [DecidableEq I.Request] {d : Dialogue I α} {t : List (Exchange I)} {a : α}
    (h : d.replay? t = some a) : d.Runs t a := by
  induction t generalizing d with
  | nil =>
    cases d with
    | done b =>
      simp only [replay?, Option.some.injEq] at h
      exact h ▸ .done b
    | ask r again next => simp [replay?] at h
  | cons x t ih =>
    cases d with
    | done b => simp [replay?] at h
    | ask r again next =>
      obtain ⟨request, answer⟩ := x
      by_cases hr : request = r
      · subst hr
        by_cases hagain : again answer = true
        · simp only [replay?, dite_true, hagain] at h
          exact .again answer hagain (ih h)
        · simp only [replay?, dite_true, hagain] at h
          exact .next answer (by simpa using hagain) (ih h)
      · simp [replay?, hr] at h

end Dialogue

/-- A call of the shell, with the answer it got. -/
abbrev Traffic := Exchange ShellCalls

instance : DecidableEq ShellCalls.Request := inferInstanceAs (DecidableEq ShellCall)

namespace Shell

variable {α : Type}

/-- A part of the shell that starts with a call. -/
theorem runs_call_bind_iff {request : ShellCall} {next : request.Answer → Shell α}
    {t : List Traffic} {a : α} :
    ((Shell.call request).bind next).Runs t a ↔
      ∃ (answer : request.Answer) (rest : List Traffic),
        t = ⟨request, answer⟩ :: rest ∧ (next answer).Runs rest a :=
  Dialogue.runs_call_bind_iff

end Shell

/-! ## Counts that go along -/

section Throughout

variable {I : Interface} {σ : Type}

/-- Each exchange is in order with respect to the count at its moment. The count starts at `s` and
is moved on by `next`. -/
def Throughout (next : σ → Exchange I → σ) (P : σ → Exchange I → Prop) :
    σ → List (Exchange I) → Prop
  | _, [] => True
  | s, x :: t => P s x ∧ Throughout next P (next s x) t

variable {next : σ → Exchange I → σ} {P : σ → Exchange I → Prop} {s : σ}

instance Throughout.decidable [∀ s x, Decidable (P s x)] :
    (s : σ) → (t : List (Exchange I)) → Decidable (Throughout next P s t)
  | _, [] => .isTrue trivial
  | s, x :: t =>
    have := Throughout.decidable (next s x) t
    inferInstanceAs (Decidable (P s x ∧ Throughout next P (next s x) t))

@[simp] lemma throughout_nil : Throughout next P s [] := trivial

@[simp] lemma throughout_cons {x : Exchange I} {t : List (Exchange I)} :
    Throughout next P s (x :: t) ↔ P s x ∧ Throughout next P (next s x) t := Iff.rfl

/-- What holds throughout holds throughout the first part, and throughout the second one with the
count that the first part leaves. -/
lemma throughout_append {t u : List (Exchange I)} :
    Throughout next P s (t ++ u) ↔
      Throughout next P s t ∧ Throughout next P (t.foldl next s) u := by
  induction t generalizing s with
  | nil => simp
  | cons x t ih => simp [ih, and_assoc]

/-- Exchanges that do not move the count from where it is have to be in order there. -/
lemma throughout_of_still {t : List (Exchange I)} (still : ∀ x ∈ t, next s x = s)
    (inOrder : ∀ x ∈ t, P s x) : Throughout next P s t := by
  induction t with
  | nil => exact throughout_nil
  | cons x t ih =>
    rw [throughout_cons, still x List.mem_cons_self]
    exact ⟨inOrder x List.mem_cons_self, ih (fun y hy => still y (List.mem_cons_of_mem x hy))
      fun y hy => inOrder y (List.mem_cons_of_mem x hy)⟩

lemma throughout_of_idle {t : List (Exchange I)}
    (idle : ∀ x ∈ t, (∀ s, next s x = s) ∧ ∀ s, P s x) :
    Throughout next P s t ∧ t.foldl next s = s := by
  induction t with
  | nil => simp
  | cons x t ih =>
    obtain ⟨hnext, hP⟩ := idle x List.mem_cons_self
    have htail := ih fun y hy => idle y (List.mem_cons_of_mem x hy)
    rw [throughout_cons, List.foldl_cons, hnext]
    exact ⟨⟨hP s, htail.1⟩, htail.2⟩

end Throughout

/-! ## What a transcript of the shell shows -/

namespace Traffic

/-- The child that an exchange has made. -/
def fork? : Traffic → Option (Child × Pid)
  | ⟨.fork child, .ok pid⟩ => some (child, pid)
  | _ => none

/-- The pipe that an exchange has made: its reading end and its writing end. -/
def pipe? : Traffic → Option (Fd × Fd)
  | ⟨.makePipe, .ok ends⟩ => some ends
  | _ => none

/-- The descriptor that an exchange has closed. It is closed whatever the answer was. -/
def closed? : Traffic → Option Fd
  | ⟨.close fd, _⟩ => some fd
  | _ => none

/-- The child that an exchange has waited for to the end: a blocking call with an answer that
settles what became of the child. -/
def awaited? : Traffic → Option Pid
  | ⟨.wait pid true, answer⟩ => if Job.isUnsettled answer then none else some pid
  | _ => none

/-- The failure of a launch that an exchange is. -/
def launchFailure? : Traffic → Option LaunchError
  | ⟨.makePipe, .error errno⟩ => some (.failed .pipe errno)
  | ⟨.fork _, .error errno⟩ => some (.failed .fork errno)
  | _ => none

/-- The exchange makes a child, tries to, or puts one into a group of its own. -/
def isMaking : Traffic → Bool
  | ⟨.fork _, _⟩ => true
  | ⟨.ownGroup _, _⟩ => true
  | _ => false

/-- The exchange asks about a child. -/
def isWait : Traffic → Bool
  | ⟨.wait _ _, _⟩ => true
  | _ => false

end Traffic

/-- The children that were made, in this order. -/
def forks (t : List Traffic) : List (Child × Pid) := t.filterMap Traffic.fork?

/-- The pipes that were made. -/
def pipes (t : List Traffic) : List (Fd × Fd) := t.filterMap Traffic.pipe?

/-- The descriptors that were closed, one by one. -/
def closedFds (t : List Traffic) : List Fd := t.filterMap Traffic.closed?

/-- The children that were waited for to the end. -/
def awaited (t : List Traffic) : List Pid := t.filterMap Traffic.awaited?

/-- The first call for a pipe or a child that failed. -/
def firstFailure? (t : List Traffic) : Option LaunchError := t.findSome? Traffic.launchFailure?

end CommandShell
