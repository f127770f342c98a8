import CommandShell.Proofs.Effects
import CommandShell.Proofs.Places

/-!
# The descriptors of a child

What becomes of an open file that a child has inherited, from the fork to its program. Each call of
a setup moves the file in a simple way, and `Child.journey` says where it has come to when the child
asks for its program. `Child.setup_brings` is the proof that every setup that gets that far has
brought it there, whatever else happened: calls may be interrupted and repeated, files may be opened
under any number that is free, and the setup may end early.

The other statement, `Child.setup_drops`, is about the pipe end that a child has no use for. The
child holds it only until it has closed it, and nothing brings it back.

What a call does to the descriptors is `Descriptors.after?`. It speaks of the calls that a setup
makes, and `Child.setup_within` says that there are no others.
-/

namespace CommandShell

open Dialogue

/-! ## The parts of a setup -/

namespace Child

/-- A child that runs in the background leaves the group of the shell. -/
def joinGroup (c : Child) (next : Dialogue Syscalls Started) : Dialogue Syscalls Started :=
  if c.wiring.ownGroup then (Dialogue.call (I := Syscalls) .ownGroup).bind fun _ => next else next

/-- A child closes the pipe end that it has no use for. -/
def dropUnused (c : Child) (next : Dialogue Syscalls Started) : Dialogue Syscalls Started :=
  match c.wiring.unused with
  | none => next
  | some fd => (Dialogue.call (I := Syscalls) (.close fd)).bind fun _ => next

/-- What a child does in front of its program once it is in the working directory. -/
def outfit (c : Child) : Dialogue Syscalls Started :=
  attachPipe c.wiring.input Fd.stdin <|
    attachPipe c.wiring.output Fd.stdout <|
      attachInput c.segment <| attachOutput c.segment <| start c.segment

/-- What a child does in front of its program once it has no end that it has no use for. -/
def furnish (c : Child) : Dialogue Syscalls Started :=
  (Dialogue.call (I := Syscalls) (.enter c.workingDir)).bind fun
    | .error e => die c.workingDir e.describe setupFailed
    | .ok _ =>
      attachPipe c.wiring.input Fd.stdin <|
        attachPipe c.wiring.output Fd.stdout <|
          attachInput c.segment <| attachOutput c.segment <| start c.segment

lemma furnish_eq (c : Child) :
    c.furnish = (Dialogue.call (I := Syscalls) (.enter c.workingDir)).bind fun
      | .error e => die c.workingDir e.describe setupFailed
      | .ok _ => c.outfit :=
  rfl

/-- The flags with which a child opens the file of its output. -/
theorem openMode_outputFlags (mode : OutputMode) :
    OpenMode.output (outputFlags mode) = .write mode 0o644 := by
  cases mode <;> rfl

lemma setup_eq (c : Child) :
    c.setup = (Dialogue.call (I := Syscalls) .defaultSignals).bind fun _ =>
      c.joinGroup <| c.dropUnused c.furnish := by
  obtain ⟨segment, workingDir, input, output, unused, ownGroup⟩ := c
  cases ownGroup <;> cases unused <;> rfl

end Child

/-- The calls that a setup makes. -/
def Syscall.isOfSetup : Syscall → Bool
  | .defaultSignals | .ownGroup | .enter _ | .openFile _ _ _ | .close _ | .duplicate _ _
  | .keepOnExec _ | .exec _ _ | .write _ _ => true
  | _ => false

/-- The calls that are left once the child is in its group. -/
def Syscall.isFurnishing : Syscall → Bool
  | .enter _ | .openFile _ _ _ | .close _ | .duplicate _ _ | .keepOnExec _ | .exec _ _
  | .write _ _ => true
  | _ => false

/-- The calls that are left once the child is in the working directory. -/
def Syscall.isOutfitting : Syscall → Bool
  | .openFile _ _ _ | .close _ | .duplicate _ _ | .keepOnExec _ | .exec _ _ | .write _ _ => true
  | _ => false

lemma Syscall.isOfSetup_of_isFurnishing {r : Syscall} (h : r.isFurnishing = true) :
    r.isOfSetup = true := by
  cases r with
  | enter _ | openFile _ _ _ | close _ | duplicate _ _ | keepOnExec _ | exec _ _ | write _ _ => rfl
  | _ => exact absurd h Bool.false_ne_true

lemma Syscall.isFurnishing_of_isOutfitting {r : Syscall} (h : r.isOutfitting = true) :
    r.isFurnishing = true := by
  cases r with
  | openFile _ _ _ | close _ | duplicate _ _ | keepOnExec _ | exec _ _ | write _ _ => rfl
  | _ => exact absurd h Bool.false_ne_true

namespace Child

/-- A part of a setup that makes no other calls. -/
abbrev KeepsToSetup (part : Dialogue Syscalls Started) : Prop :=
  part.Within (fun r => Syscall.isOfSetup r = true) fun _ => True

/-- A part of a setup that comes after the child has moved to its group. -/
abbrev Furnishes (part : Dialogue Syscalls Started) : Prop :=
  part.Within (fun r => Syscall.isFurnishing r = true) fun _ => True

/-- A part of a setup that comes after the child has moved to the working directory. -/
abbrev Outfits (part : Dialogue Syscalls Started) : Prop :=
  part.Within (fun r => Syscall.isOutfitting r = true) fun _ => True

variable {next : Dialogue Syscalls Started}

lemma tell_within (parts : List String) (code : Nat) :
    (tell parts (.done (.ended code))).Within (fun r => ∃ bytes, r = Syscall.write Fd.stderr bytes)
      fun _ => True := by
  induction parts with
  | nil => exact trivial
  | cons part parts ih => exact ⟨⟨_, rfl⟩, fun _ _ => ih⟩

/-- A child that reports a failure does nothing but write to the standard error. -/
theorem die_within (subject reason : String) (code : Nat) :
    (die subject reason code).Within (fun r => ∃ bytes, r = Syscall.write Fd.stderr bytes)
      fun _ => True :=
  tell_within _ _

lemma die_outfits (subject reason : String) (code : Nat) : Outfits (die subject reason code) := by
  refine (die_within subject reason code).mono ?_
  rintro _ ⟨_, rfl⟩
  rfl

lemma attach_outfits (fd target : Fd) (h : Outfits next) : Outfits (attach fd target next) := by
  unfold attach
  split
  · refine ⟨rfl, fun answer _ => ?_⟩
    cases answer with
    | error e => exact die_outfits _ _ _
    | ok _ => exact h
  · refine ⟨rfl, fun answer _ => ?_⟩
    cases answer with
    | error e => exact die_outfits _ _ _
    | ok _ => exact ⟨rfl, fun _ _ => h⟩

lemma attachPipe_outfits (fd : Option Fd) (target : Fd) (h : Outfits next) :
    Outfits (attachPipe fd target next) := by
  cases fd with
  | none => exact h
  | some fd => exact attach_outfits fd target h

lemma attachFile_outfits (path : String) (mode : OpenMode) (target : Fd) (h : Outfits next) :
    Outfits (attachFile path mode target next) := by
  refine ⟨rfl, fun answer _ => ?_⟩
  cases answer with
  | error e => exact die_outfits _ _ _
  | ok fd => exact attach_outfits fd target h

lemma start_outfits (segment : Segment) : Outfits (start segment) := by
  refine ⟨rfl, fun answer _ => ?_⟩
  cases answer with
  | none => exact trivial
  | some e => exact die_outfits _ _ _

lemma outfit_outfits (c : Child) : Outfits c.outfit := by
  refine attachPipe_outfits _ _ (attachPipe_outfits _ _ ?_)
  have output : Outfits (attachOutput c.segment (start c.segment)) := by
    unfold attachOutput
    split
    · exact start_outfits _
    · exact attachFile_outfits _ _ _ (start_outfits _)
  unfold attachInput
  split
  · exact output
  · exact attachFile_outfits _ _ _ output

lemma furnish_furnishes (c : Child) : Furnishes c.furnish := by
  refine ⟨rfl, fun answer _ => ?_⟩
  have outfits {part : Dialogue Syscalls Started} (h : Outfits part) : Furnishes part :=
    h.mono fun _ => Syscall.isFurnishing_of_isOutfitting
  cases answer with
  | error e => exact outfits (die_outfits _ _ _)
  | ok _ => exact outfits c.outfit_outfits

lemma dropUnused_furnishes (c : Child) (h : Furnishes next) :
    Furnishes (c.dropUnused next) := by
  unfold dropUnused
  split
  · exact h
  · exact ⟨rfl, fun _ _ => h⟩

/-- A setup makes no other calls than these, whatever the answers are. -/
theorem setup_within (c : Child) : KeepsToSetup c.setup := by
  rw [setup_eq]
  refine ⟨rfl, fun _ _ => ?_⟩
  have dropped : KeepsToSetup (c.dropUnused c.furnish) :=
    (c.dropUnused_furnishes c.furnish_furnishes).mono
      fun _ => Syscall.isOfSetup_of_isFurnishing
  unfold joinGroup
  split
  · exact ⟨rfl, fun _ _ => dropped⟩
  · exact dropped

end Child

/-! ## What the calls of a setup do -/

lemma toOption_eq_some_iff {ε α : Type} {e : Except ε α} {a : α} :
    e.toOption = some a ↔ e = .ok a := by
  cases e with
  | error _ => simp [Except.toOption]
  | ok _ => simp [Except.toOption]

/-- The call turns a process into another program. -/
def Syscall.isExec : Syscall → Bool
  | .exec _ _ => true
  | _ => false

/-- The descriptors of a process after one of the calls that a setup makes, if the system can answer
so. A file that the call opens gets the number `file`; a descriptor that is to be closed is closed
whatever the answer is. -/
def Descriptors.after? (d : Descriptors) (file : Nat) : Exchange Syscalls → Option Descriptors
  | ⟨.openFile _ _ closeOnExec, .ok fd⟩ =>
    if d.get? fd = none then some (d.put fd (some ⟨file, closeOnExec⟩)) else none
  | ⟨.close fd, _⟩ => some (d.put fd none)
  | ⟨.duplicate source target, .ok _⟩ => (d.duplicate source target).toOption
  | ⟨.keepOnExec fd, .ok _⟩ => (d.keepOnExec fd).toOption
  | ⟨.exec _ _, none⟩ => some d.afterExec
  | _ => some d

/-- How far a child has got: its descriptors, and the calls it has made, the last one first. -/
structure Setup where
  table : Descriptors
  past : List Syscall := []

namespace Setup

/-- A child after one more call, if the system can answer so. -/
def after? (s : Setup) (file : Nat) (x : Exchange Syscalls) : Option Setup :=
  (s.table.after? file x).map fun table => ⟨table, x.request :: s.past⟩

/-- A call takes a child from one point to another. Files that it opens get numbers that are
`fresh`. -/
def Next (fresh : Nat → Prop) (s : Setup) (x : Exchange Syscalls) (s' : Setup) : Prop :=
  ∃ file, fresh file ∧ s.after? file x = some s'

/-- The child has asked for its program, or is about to. -/
def Tries (s : Setup) (pending : Syscall) : Prop :=
  ∃ c ∈ pending :: s.past, c.isExec = true

/-- The child has not asked for its program. -/
def Untried (s : Setup) : Prop :=
  ∀ c ∈ s.past, c.isExec = false

end Setup

section Journey

variable {fresh : Nat → Prop} {file : Nat} {place goal : Place} {s s' : Setup}

/-- When a child asks for its program, and after that, a file stands at its goal. -/
def StandsWhenTried (file : Nat) (goal : Place) (s : Setup) (pending : Syscall) : Prop :=
  s.Tries pending → s.table.StandsAt file goal

/-- When a child has turned into its program, a file stands where the program keeps it. -/
def StandsWhenRunning (file : Nat) (goal : Place) (s : Setup) (result : Started) : Prop :=
  result = .running → s.table.StandsAt file goal.kept

/-- Whatever is left of a setup, it brings a file to its goal before it asks for the program. -/
def Brings (fresh : Nat → Prop) (file : Nat) (goal : Place) (rest : Dialogue Syscalls Started)
    (s : Setup) : Prop :=
  rest.Secures (Setup.Next fresh) (StandsWhenTried file goal) (StandsWhenRunning file goal) s

namespace Setup

lemma next_iff {x : Exchange Syscalls} :
    Next fresh s x s' ↔
      ∃ n table, fresh n ∧ s.table.after? n x = some table ∧ s' = ⟨table, x.request :: s.past⟩ := by
  constructor
  · rintro ⟨n, hn, hs'⟩
    obtain ⟨table, htable, rfl⟩ := Option.map_eq_some_iff.1 hs'
    exact ⟨n, table, hn, htable, rfl⟩
  · rintro ⟨n, table, hn, htable, rfl⟩
    exact ⟨n, hn, by rw [after?, htable]; rfl⟩

/-- As long as a child has not asked for its program, nothing is said about where the file is. -/
lemma Untried.whenTried (h : s.Untried) {r : Syscall} (hr : r.isExec = false) :
    StandsWhenTried file goal s r := by
  rintro ⟨c, hc, hexec⟩
  rcases List.mem_cons.1 hc with rfl | hc
  · simp [hr] at hexec
  · simp [h c hc] at hexec

lemma Untried.next (h : s.Untried) {x : Exchange Syscalls} (hx : x.request.isExec = false)
    (done : Next fresh s x s') : s'.Untried := by
  obtain ⟨n, table, -, -, rfl⟩ := next_iff.1 done
  exact List.forall_mem_cons.2 ⟨hx, h⟩

end Setup

/-- A child on its way: it has not asked for its program, and a file stands at a place. -/
structure OnTheWay (file : Nat) (place : Place) (s : Setup) : Prop where
  untried : s.Untried
  stands : s.table.StandsAt file place

lemma OnTheWay.idle (h : OnTheWay file place s) {x : Exchange Syscalls}
    (hx : x.request.isExec = false) (done : Setup.Next fresh s x s')
    (idle : ∀ n, s.table.after? n x = some s.table) : OnTheWay file place s' := by
  refine ⟨h.untried.next hx done, ?_⟩
  obtain ⟨n, table, -, htable, rfl⟩ := Setup.next_iff.1 done
  rw [idle n] at htable
  cases htable
  exact h.stands

namespace Child

lemma tell_brings {parts : List String} {code : Nat}
    (h : ∀ bytes, StandsWhenTried file goal s (.write Fd.stderr bytes)) :
    Brings fresh file goal (tell parts (.done (.ended code))) s := by
  induction parts generalizing s with
  | nil => exact fun ended => nomatch ended
  | cons part parts ih =>
    refine secures_call_bind (h _) fun _ s' done => ih fun bytes tried => ?_
    obtain ⟨n, table, -, htable, rfl⟩ := Setup.next_iff.1 done
    cases htable
    -- a part that has been told is no request for the program
    obtain ⟨c, hc, hexec⟩ := tried
    refine h bytes ⟨c, ?_, hexec⟩
    rcases List.mem_cons.1 hc with rfl | hc
    · exact List.mem_cons_self
    · rcases List.mem_cons.1 hc with rfl | hc
      · cases hexec
      · exact List.mem_cons_of_mem _ hc

lemma die_brings {subject reason : String} {code : Nat}
    (h : ∀ bytes, StandsWhenTried file goal s (.write Fd.stderr bytes)) :
    Brings fresh file goal (die subject reason code) s :=
  tell_brings h

/-- A setup that fails on its way has nothing more to bring. -/
lemma die_brings_of_untried (h : s.Untried) {subject reason : String} {code : Nat} :
    Brings fresh file goal (die subject reason code) s :=
  die_brings fun _ => h.whenTried rfl

lemma start_brings {segment : Segment} (h : s.table.StandsAt file goal) :
    Brings fresh file goal (start segment) s := by
  refine secures_call_bind (fun _ => h) fun answer s' done => ?_
  obtain ⟨n, table, -, htable, rfl⟩ := Setup.next_iff.1 done
  cases answer with
  | none =>
    cases htable
    exact fun _ => h.afterExec
  | some e =>
    cases htable
    exact die_brings fun _ _ => h

lemma attach_brings {fd target : Fd} {next : Dialogue Syscalls Started}
    (h : OnTheWay file place s)
    (hnext : ∀ s', OnTheWay file (place.moved fd target) s' → Brings fresh file goal next s') :
    Brings fresh file goal (attach fd target next) s := by
  unfold attach
  split
  · rename_i heq
    subst heq
    refine secures_call_bind (h.untried.whenTried rfl) fun answer s' done => ?_
    have untried' := h.untried.next rfl done
    cases answer with
    | error e => exact die_brings_of_untried untried'
    | ok _ =>
      obtain ⟨n, table, -, htable, rfl⟩ := Setup.next_iff.1 done
      exact hnext _ ⟨untried', h.stands.keep (toOption_eq_some_iff.1 htable)⟩
  · rename_i distinct
    -- the call is repeated in vain as long as nothing has changed
    refine ⟨OnTheWay file place, h, fun s h => ⟨h.untried.whenTried rfl, ?_⟩⟩
    intro answer s' done
    have untried' := h.untried.next rfl done
    cases answer with
    | error e =>
      exact ⟨fun _ => h.idle rfl done fun _ => rfl, fun _ => die_brings_of_untried untried'⟩
    | ok _ =>
      refine ⟨fun again => absurd again Bool.false_ne_true, fun _ => ?_⟩
      obtain ⟨n, table, -, htable, rfl⟩ := Setup.next_iff.1 done
      refine secures_call_bind (untried'.whenTried rfl) fun answer s'' closed => ?_
      have untried'' := untried'.next rfl closed
      obtain ⟨n, table', -, htable', rfl⟩ := Setup.next_iff.1 closed
      cases htable'
      exact hnext _ ⟨untried'', h.stands.move distinct (toOption_eq_some_iff.1 htable)⟩

lemma attachPipe_brings {fd : Option Fd} {target : Fd} {next : Dialogue Syscalls Started}
    (h : OnTheWay file place s)
    (hnext : ∀ s', OnTheWay file (fd.elim place (place.moved · target)) s' →
      Brings fresh file goal next s') :
    Brings fresh file goal (attachPipe fd target next) s := by
  cases fd with
  | none => exact hnext s h
  | some fd => exact attach_brings h hnext

/-- A file that is opened anew takes the place of what stood behind the target. -/
lemma attachFile_brings (hfresh : ∀ n, fresh n → n ≠ file) {path : String} {mode : OpenMode}
    {target : Fd} {next : Dialogue Syscalls Started} (h : OnTheWay file place s)
    (hnext : ∀ s', OnTheWay file (place.closed target) s' → Brings fresh file goal next s') :
    Brings fresh file goal (attachFile path mode target next) s := by
  refine ⟨OnTheWay file place, h, fun s h => ⟨h.untried.whenTried rfl, ?_⟩⟩
  intro answer s' done
  have untried' := h.untried.next rfl done
  cases answer with
  | error e =>
    exact ⟨fun _ => h.idle rfl done fun _ => rfl, fun _ => die_brings_of_untried untried'⟩
  | ok fd =>
    refine ⟨fun again => absurd again Bool.false_ne_true, fun _ => ?_⟩
    obtain ⟨n, table, hn, htable, rfl⟩ := Setup.next_iff.1 done
    obtain ⟨free, rfl⟩ : s.table.get? fd = none ∧ s.table.put fd (some ⟨n, true⟩) = table := by
      simpa [Descriptors.after?] using htable
    refine attach_brings ⟨untried', h.stands.opened free (hfresh n hn)⟩ fun s' h' => hnext s' ?_
    rwa [h.stands.moved_eq_closed (Descriptors.not_refersTo_of_free free)] at h'

lemma attachInput_brings (hfresh : ∀ n, fresh n → n ≠ file) {segment : Segment}
    {next : Dialogue Syscalls Started} (h : OnTheWay file place s)
    (hnext : ∀ s', OnTheWay file (segment.input.elim place fun _ => place.closed Fd.stdin) s' →
      Brings fresh file goal next s') :
    Brings fresh file goal (attachInput segment next) s := by
  unfold attachInput
  cases hinput : segment.input with
  | none => exact hnext s (by rwa [hinput])
  | some path => exact attachFile_brings hfresh h (by simpa [hinput] using hnext)

lemma attachOutput_brings (hfresh : ∀ n, fresh n → n ≠ file) {segment : Segment}
    {next : Dialogue Syscalls Started} (h : OnTheWay file place s)
    (hnext : ∀ s', OnTheWay file (segment.output.elim place fun _ => place.closed Fd.stdout) s' →
      Brings fresh file goal next s') :
    Brings fresh file goal (attachOutput segment next) s := by
  unfold attachOutput
  cases houtput : segment.output with
  | none => exact hnext s (by rwa [houtput])
  | some target => exact attachFile_brings hfresh h (by simpa [houtput] using hnext)

/-- Where a file that stood at a place when a child was made stands when the child asks for its
program. -/
def journey (c : Child) (place : Place) : Place :=
  let place := c.wiring.unused.elim place place.closed
  let place := c.wiring.input.elim place (place.moved · Fd.stdin)
  let place := c.wiring.output.elim place (place.moved · Fd.stdout)
  let place := c.segment.input.elim place fun _ => place.closed Fd.stdin
  c.segment.output.elim place fun _ => place.closed Fd.stdout

lemma joinGroup_brings {c : Child} {next : Dialogue Syscalls Started}
    (h : OnTheWay file place s)
    (hnext : ∀ s', OnTheWay file place s' → Brings fresh file goal next s') :
    Brings fresh file goal (c.joinGroup next) s := by
  unfold joinGroup
  split
  · exact secures_call_bind (h.untried.whenTried rfl) fun answer s' done =>
      hnext s' (h.idle rfl done fun _ => rfl)
  · exact hnext s h

lemma dropUnused_brings {c : Child} {next : Dialogue Syscalls Started}
    (h : OnTheWay file place s)
    (hnext : ∀ s', OnTheWay file (c.wiring.unused.elim place place.closed) s' →
      Brings fresh file goal next s') :
    Brings fresh file goal (c.dropUnused next) s := by
  unfold dropUnused
  cases hunused : c.wiring.unused with
  | none => exact hnext s (by rwa [hunused])
  | some fd =>
    refine secures_call_bind (h.untried.whenTried rfl) fun answer s' done => hnext s' ?_
    have untried' := h.untried.next rfl done
    obtain ⟨n, table, -, htable, rfl⟩ := Setup.next_iff.1 done
    cases htable
    rw [hunused]
    exact ⟨untried', h.stands.put fd (by simp)⟩

/-- **A setup takes an inherited file where it belongs.** A file that stands at one place when a
child is made stands at the end of the place's journey whenever the child asks for its program. -/
theorem setup_brings (hfresh : ∀ n, fresh n → n ≠ file) (c : Child) {table : Descriptors}
    (h : table.StandsAt file place) :
    Brings fresh file (c.journey place) c.setup ⟨table, []⟩ := by
  have start : OnTheWay file place ⟨table, []⟩ := ⟨by simp [Setup.Untried], h⟩
  rw [setup_eq]
  refine secures_call_bind (start.untried.whenTried rfl) fun _ s done => ?_
  refine joinGroup_brings (start.idle rfl done fun _ => rfl) fun s h => ?_
  refine dropUnused_brings h fun s h => ?_
  refine secures_call_bind (h.untried.whenTried rfl) fun answer s' done => ?_
  have h' := h.idle rfl done fun _ => rfl
  cases answer with
  | error e => exact die_brings_of_untried h'.untried
  | ok _ =>
    refine attachPipe_brings h' fun s h => ?_
    refine attachPipe_brings h fun s h => ?_
    refine attachInput_brings hfresh h fun s h => ?_
    exact attachOutput_brings hfresh h fun s h => start_brings h.stands

end Child

/-! ## The pipe end that a child has no use for -/

/-- A file that no descriptor refers to cannot be reached any more: the calls of a setup open other
files, and make descriptors out of those that are there. -/
theorem Setup.Next.stands_none (hfresh : ∀ n, fresh n → n ≠ file) {x : Exchange Syscalls}
    (h : s.table.StandsAt file none) (done : Setup.Next fresh s x s') :
    s'.table.StandsAt file none := by
  obtain ⟨n, table, hn, htable, rfl⟩ := Setup.next_iff.1 done
  unfold Descriptors.after? at htable
  split at htable
  · split at htable
    · rename_i free
      cases htable
      exact h.opened free (hfresh n hn)
    · cases htable
  · cases htable
    exact h.put _ (by simp)
  · exact h.duplicate (toOption_eq_some_iff.1 htable)
  · exact h.keep (toOption_eq_some_iff.1 htable)
  · cases htable
    exact h.afterExec
  · cases htable
    exact h

/-- A file is held only behind the descriptor that a child has no use for, and only until the child
has closed that. -/
def HeldUntilClosed (file : Nat) (c : Child) (s : Setup) : Prop :=
  ∀ fd, s.table.RefersTo fd file → c.wiring.unused = some fd ∧ Syscall.close fd ∉ s.past

lemma HeldUntilClosed.of_stands_none {c : Child} (h : s.table.StandsAt file none) :
    HeldUntilClosed file c s :=
  fun fd refers => absurd refers (Descriptors.StandsAt.none_iff.1 h fd)

/-- Whatever is left of a setup, a file is held only until the child has closed the end that it has
no use for, and the file is dropped before the child asks for its program. -/
def Drops (fresh : Nat → Prop) (file : Nat) (c : Child) (rest : Dialogue Syscalls Started)
    (s : Setup) : Prop :=
  rest.Secures (Setup.Next fresh)
    (fun s pending => HeldUntilClosed file c s ∧ StandsWhenTried file none s pending)
    (fun s _ => s.table.StandsAt file none) s

lemma drops_of_stands_none (hfresh : ∀ n, fresh n → n ≠ file) {c : Child}
    {rest : Dialogue Syscalls Started} (h : s.table.StandsAt file none) :
    Drops fresh file c rest s := by
  refine secures_of_invariant (fun s x s' h done => ?_) (fun s r h => ?_) (fun s _ h => h) h
  · exact done.stands_none hfresh h
  · exact ⟨.of_stands_none h, fun _ => h⟩

/-- A child that still has the end that it has no use for. -/
structure HasUnused (file : Nat) (c : Child) (fd : Fd) (s : Setup) : Prop where
  onTheWay : ∃ closeOnExec, OnTheWay file (some (fd, closeOnExec)) s
  opened : Syscall.close fd ∉ s.past

namespace HasUnused

variable {c : Child} {fd : Fd}

lemma ready (h : HasUnused file c fd s) (unused : c.wiring.unused = some fd) {r : Syscall}
    (hr : r.isExec = false) : HeldUntilClosed file c s ∧ StandsWhenTried file none s r := by
  obtain ⟨⟨closeOnExec, untried, stands⟩, opened⟩ := h
  refine ⟨fun other refers => ?_, untried.whenTried hr⟩
  obtain ⟨_, hplace⟩ := stands.refersTo_iff.1 refers
  cases hplace
  exact ⟨unused, opened⟩

lemma idle (h : HasUnused file c fd s) {x : Exchange Syscalls} (hx : x.request.isExec = false)
    (other : x.request ≠ .close fd) (done : Setup.Next fresh s x s')
    (idle : ∀ n, s.table.after? n x = some s.table) : HasUnused file c fd s' := by
  obtain ⟨⟨closeOnExec, onTheWay⟩, opened⟩ := h
  refine ⟨⟨closeOnExec, onTheWay.idle hx done idle⟩, ?_⟩
  obtain ⟨n, table, -, -, rfl⟩ := Setup.next_iff.1 done
  intro closed
  rcases List.mem_cons.1 closed with closed | closed
  · exact other closed.symm
  · exact opened closed

/-- The end is gone with the call that closes it. -/
lemma dropUnused_drops (hfresh : ∀ n, fresh n → n ≠ file) (h : HasUnused file c fd s)
    (unused : c.wiring.unused = some fd) {next : Dialogue Syscalls Started} :
    Drops fresh file c (c.dropUnused next) s := by
  simp only [Child.dropUnused, unused]
  refine secures_call_bind (h.ready unused rfl) fun answer s' done => ?_
  refine drops_of_stands_none hfresh ?_
  obtain ⟨⟨closeOnExec, -, stands⟩, -⟩ := h
  obtain ⟨n, table, -, htable, rfl⟩ := Setup.next_iff.1 done
  cases htable
  have closed : Place.closed (some (fd, closeOnExec)) fd = none := by simp [Place.closed]
  exact closed ▸ stands.put fd (by simp)

end HasUnused

/-- **A setup drops the end that it has no use for.** A file that stands behind that end when the
child is made is held nowhere else, and not any more when the child has closed the end, which it
does before it asks for its program. -/
theorem Child.setup_drops (hfresh : ∀ n, fresh n → n ≠ file) (c : Child) {table : Descriptors}
    {fd : Fd} {closeOnExec : Bool} (unused : c.wiring.unused = some fd)
    (h : table.StandsAt file (some (fd, closeOnExec))) :
    Drops fresh file c c.setup ⟨table, []⟩ := by
  have start : HasUnused file c fd ⟨table, []⟩ :=
    ⟨⟨closeOnExec, by simp [Setup.Untried], h⟩, by simp⟩
  rw [setup_eq]
  refine secures_call_bind (start.ready unused rfl) fun _ s done => ?_
  have h := start.idle rfl (by rintro ⟨⟩) done fun _ => rfl
  unfold joinGroup
  split
  · refine secures_call_bind (h.ready unused rfl) fun _ s' done => ?_
    exact (h.idle rfl (by rintro ⟨⟩) done fun _ => rfl).dropUnused_drops hfresh unused
  · exact h.dropUnused_drops hfresh unused

end Journey

end CommandShell
