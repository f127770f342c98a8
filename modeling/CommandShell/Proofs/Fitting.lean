import CommandShell.Proofs.Scene
import CommandShell.Proofs.Stages

/-!
# Children that are fitted out

What a child has come to on the way to its program: its descriptors as a whole, the directory it is
in, and the files it has opened (`Fitting`). Where a single inherited file goes is told by its
journey; here the question is what stands behind each number, whatever else it may be known by.

The descriptors are looked at as a function, which every call changes at one place or two. A setup
only ever has one descriptor more than it should have, a pipe end or a file that it has just opened,
and that one stands at a number that is otherwise free. Attaching it (`Child.attach_fits`) puts its
file at the target and leaves all else alone, also when the descriptor is at the target already. So
what stands where is told by the order in which things are attached, and the numbers that they had
before do not matter.
-/

namespace CommandShell

open Dialogue Function

/-! ## Stages and what is safe -/

section Leads

variable {I : Interface} {α σ : Type} {effect : σ → Exchange I → σ → Prop} {s s' : σ}

/-- A number of exchanges takes the system from one state to another. -/
def Leads (effect : σ → Exchange I → σ → Prop) : σ → List (Exchange I) → σ → Prop
  | s, [], s' => s' = s
  | s, x :: t, s' => ∃ after, effect s x after ∧ Leads effect after t s'

/-- What each exchange preserves is preserved by all of them. -/
theorem Leads.preserves {inv : σ → Prop} {t : List (Exchange I)} (led : Leads effect s t s')
    (preserved : ∀ s x s', inv s → effect s x s' → inv s') (h : inv s) : inv s' := by
  induction t generalizing s with
  | nil =>
    cases led
    exact h
  | cons x t ih =>
    obtain ⟨after, first, led⟩ := led
    exact ih led (preserved s x after h first)

/-- A dialogue that is safe is safe at each of its stages, in the state that it has led to. -/
theorem Dialogue.Secures.of_reaches [DecidableEq I.Request] {d e : Dialogue I α}
    {t : List (Exchange I)} {allowed : σ → I.Request → Prop} {post : σ → α → Prop}
    (h : d.Secures effect allowed post s) (reached : d.Reaches t e) (led : Leads effect s t s') :
    e.Secures effect allowed post s' := by
  induction reached generalizing s with
  | refl d =>
    cases led
    exact h
  | @step r again next t e answer later ih =>
    obtain ⟨after, first, led⟩ := led
    have taken : (Dialogue.ask r again next).take? ⟨r, answer⟩ =
        some (resume again next answer) := take?_eq_some_iff.2 ⟨again, next, rfl, rfl⟩
    exact ih (h.take? taken first) led

end Leads

/-! ## Descriptors as a function -/

lemma Fd.stdin_ne_stdout : Fd.stdin ≠ Fd.stdout := by decide

namespace Descriptors

variable {d d' : Descriptors} {fd source target : Fd}

lemma get?_put_eq_update (d : Descriptors) (fd : Fd) (slot : Option Slot) :
    (d.put fd slot).get? = update d.get? fd slot := by
  funext other
  rw [get?_put, update_apply]
  simp only [eq_comm]

lemma get?_of_duplicate (h : d.duplicate source target = .ok d') (distinct : source ≠ target) :
    ∃ slot, d.get? source = some slot ∧
      d'.get? = update d.get? target (some { file := slot.file }) := by
  unfold duplicate at h
  split at h
  · cases h
  · rename_i slot hslot
    rw [if_neg distinct] at h
    cases h
    exact ⟨slot, hslot, get?_put_eq_update _ _ _⟩

lemma get?_of_keepOnExec (h : d.keepOnExec fd = .ok d') :
    ∃ slot, d.get? fd = some slot ∧
      d'.get? = update d.get? fd (some { slot with closeOnExec := false }) := by
  unfold keepOnExec at h
  split at h
  · cases h
  · rename_i slot hslot
    cases h
    exact ⟨slot, hslot, get?_put_eq_update _ _ _⟩

end Descriptors

/-! ## A child on the way -/

/-- A file that a process has opened. -/
structure OpenedFile where
  path : String
  mode : OpenMode
  /-- Its number among the open files. -/
  file : Nat
  deriving DecidableEq, Repr

/-- What has been opened, whatever its number is. -/
def OpenedFile.what (f : OpenedFile) : String × OpenMode :=
  (f.path, f.mode)

/-- What a child has come to on the way to its program. -/
structure Fitting where
  table : Descriptors
  /-- Open files have numbers below this one, and numbers are never used again. -/
  files : Nat
  /-- Where it has gone. -/
  directory : Option String := none
  /-- The files that it has opened, in this order. -/
  opened : List OpenedFile := []
  /-- The signals that the shell has arranged for do what they do by default. -/
  defaultSignals : Bool := false
  /-- A call has failed without which it cannot go on. -/
  hindered : Bool := false
  /-- It has asked for its program. -/
  tried : Bool := false

/-- A call has failed without which a setup cannot go on. Opening and duplicating are repeated after
an interrupt, and whether a descriptor could be closed is not looked at. -/
def hindersSetup : Exchange Syscalls → Bool
  | ⟨.enter _, .error _⟩ => true
  | ⟨.openFile _ _ _, .error e⟩ => e != .EINTR
  | ⟨.duplicate _ _, .error e⟩ => e != .EINTR
  | ⟨.keepOnExec _, .error _⟩ => true
  | _ => false

/-- What a child has come to, without the numbers of the files and the calls that led there. -/
structure Picture where
  behind : Fd → Option Slot
  opened : List OpenedFile
  directory : Option String
  defaultSignals : Bool

namespace Picture

variable {p : Picture} {fd source target : Fd}

/-- The same with something else behind a descriptor. -/
def put (p : Picture) (fd : Fd) (slot : Option Slot) : Picture :=
  { p with behind := update p.behind fd slot }

lemma behind_put_self (fd : Fd) (slot : Option Slot) : (p.put fd slot).behind fd = slot :=
  update_self _ _ _

lemma behind_put_of_ne (h : fd ≠ target) (slot : Option Slot) :
    (p.put target slot).behind fd = p.behind fd :=
  update_of_ne h _ _

lemma put_put (fd : Fd) (before slot : Option Slot) :
    (p.put fd before).put fd slot = p.put fd slot := by
  simp only [put, update_idem]

/-- What has been put at a free number and is moved from there leaves nothing behind. -/
lemma put_put_of_free (free : p.behind source = none) (distinct : source ≠ target)
    (slot there : Option Slot) :
    ((p.put source slot).put target there).put source none = p.put target there := by
  simp only [put, update_comm distinct, update_idem]
  rw [← free, update_comm distinct.symm, update_eq_self]

end Picture

namespace Fitting

/-- What is remembered of a call besides the descriptors. A file that it opens has this number. -/
def noting (s : Fitting) (file : Nat) (x : Exchange Syscalls) : Fitting :=
  match x with
  | ⟨.defaultSignals, _⟩ => { s with defaultSignals := true }
  | ⟨.enter path, .ok _⟩ => { s with directory := some path }
  | ⟨.openFile path mode _, .ok _⟩ => { s with opened := s.opened ++ [⟨path, mode, file⟩] }
  | ⟨.exec _ _, _⟩ => { s with tried := true }
  | x => { s with hindered := s.hindered || hindersSetup x }

/-- A child after one more call, if the system can answer so. A file that the call opens gets the
number `file`, which has to be new. -/
def after? (s : Fitting) (file : Nat) (x : Exchange Syscalls) : Option Fitting :=
  if s.files ≤ file then
    (s.table.after? file x).map fun table => { s.noting file x with table, files := file + 1 }
  else none

/-- A call takes a child from one point to another. -/
def Next (s : Fitting) (x : Exchange Syscalls) (s' : Fitting) : Prop :=
  ∃ file, s.after? file x = some s'

/-- The child has asked for its program, or has met something that keeps it from doing so. -/
def Settled (s : Fitting) : Prop :=
  s.hindered = true ∨ s.tried = true

/-- A child as the picture of what it has come to. -/
def picture (s : Fitting) : Picture :=
  ⟨s.table.get?, s.opened, s.directory, s.defaultSignals⟩

variable {s s' : Fitting} {x : Exchange Syscalls}

lemma next_iff : Next s x s' ↔ ∃ file table, s.files ≤ file ∧
    s.table.after? file x = some table ∧
      s' = { s.noting file x with table, files := file + 1 } := by
  simp only [Next, after?, Option.ite_none_right_eq_some, Option.map_eq_some_iff]
  constructor
  · rintro ⟨file, new, table, htable, rfl⟩
    exact ⟨file, table, new, htable, rfl⟩
  · rintro ⟨file, table, new, htable, rfl⟩
    exact ⟨file, new, table, htable, rfl⟩

lemma Settled.next (h : s.Settled) (done : Next s x s') : s'.Settled := by
  obtain ⟨file, table, -, -, rfl⟩ := next_iff.1 done
  unfold noting
  split
  · exact h
  · exact h
  · exact h
  · exact .inr rfl
  · exact h.imp_left fun hindered => by simp [hindered]

lemma Next.picture_of_close {fd : Fd} {answer : Except Errno Unit}
    (done : Next s ⟨.close fd, answer⟩ s') : s'.picture = s.picture.put fd none := by
  obtain ⟨file, table, -, htable, rfl⟩ := next_iff.1 done
  cases htable
  simp only [picture, Picture.put, Descriptors.get?_put_eq_update]
  rfl

lemma Next.picture_of_keepOnExec {fd : Fd} (done : Next s ⟨.keepOnExec fd, .ok ()⟩ s') :
    ∃ slot, s.picture.behind fd = some slot ∧
      s'.picture = s.picture.put fd (some { slot with closeOnExec := false }) := by
  obtain ⟨file, table, -, htable, rfl⟩ := next_iff.1 done
  obtain ⟨slot, hslot, behind⟩ := Descriptors.get?_of_keepOnExec (toOption_eq_some_iff.1 htable)
  refine ⟨slot, hslot, ?_⟩
  simp only [picture, Picture.put, behind]
  rfl

lemma Next.picture_of_duplicate {source target : Fd} (distinct : source ≠ target)
    (done : Next s ⟨.duplicate source target, .ok ()⟩ s') :
    ∃ slot, s.picture.behind source = some slot ∧
      s'.picture = s.picture.put target (some { file := slot.file }) := by
  obtain ⟨file, table, -, htable, rfl⟩ := next_iff.1 done
  obtain ⟨slot, hslot, behind⟩ :=
    Descriptors.get?_of_duplicate (toOption_eq_some_iff.1 htable) distinct
  refine ⟨slot, hslot, ?_⟩
  simp only [picture, Picture.put, behind]
  rfl

lemma Next.picture_of_openFile {path : String} {mode : OpenMode} {closeOnExec : Bool} {fd : Fd}
    (done : Next s ⟨.openFile path mode closeOnExec, .ok fd⟩ s') :
    ∃ file, s.picture.behind fd = none ∧
      s'.picture = { s.picture.put fd (some ⟨file, closeOnExec⟩) with
        opened := s.opened ++ [⟨path, mode, file⟩] } := by
  obtain ⟨file, table, -, htable, rfl⟩ := next_iff.1 done
  obtain ⟨free, rfl⟩ : s.table.get? fd = none ∧
      s.table.put fd (some ⟨file, closeOnExec⟩) = table := by
    simpa [Descriptors.after?] using htable
  refine ⟨file, free, ?_⟩
  simp only [picture, Picture.put, Descriptors.get?_put_eq_update]
  rfl

lemma table_noting (file : Nat) (x : Exchange Syscalls) : (s.noting file x).table = s.table := by
  unfold noting
  split <;> rfl

lemma Next.picture_of_still (done : Next s x s')
    (still : ∀ n, s.table.after? n x = some s.table) :
    ∃ file, s'.picture = (s.noting file x).picture := by
  obtain ⟨file, table, -, htable, rfl⟩ := next_iff.1 done
  rw [still file] at htable
  cases htable
  exact ⟨file, by simp only [picture, table_noting]⟩

/-- A call without which a child cannot go on has failed. -/
lemma Next.settled_of_hinders (done : Next s x s') (hinders : hindersSetup x = true) :
    s'.Settled := by
  obtain ⟨file, table, -, -, rfl⟩ := next_iff.1 done
  unfold noting
  split
  · cases hinders
  · cases hinders
  · cases hinders
  · cases hinders
  · exact .inl (by simp [hinders])

/-! ### The numbers of the files that a child opens -/

/-- The files that a child has opened are new: they have numbers of their own, from `base` on. -/
structure OpensNew (base : Nat) (s : Fitting) : Prop where
  base_le : base ≤ s.files
  numbered : ∀ f ∈ s.opened, base ≤ f.file ∧ f.file < s.files
  distinct : (s.opened.map OpenedFile.file).Nodup

lemma OpensNew.next {base : Nat} (h : OpensNew base s) (done : Next s x s') :
    OpensNew base s' := by
  obtain ⟨file, table, new, -, rfl⟩ := next_iff.1 done
  have hbase := h.base_le
  -- of all calls only an opening that succeeds notes a file
  have still {s' : Fitting} (same : s'.opened = s.opened) (files : s'.files = file + 1) :
      OpensNew base s' := by
    constructor
    · omega
    · intro f hf
      have := h.numbered f (same ▸ hf)
      omega
    · exact same ▸ h.distinct
  unfold noting
  split
  · exact still rfl rfl
  · exact still rfl rfl
  · constructor
    · show base ≤ file + 1
      omega
    · intro f hf
      show base ≤ f.file ∧ f.file < file + 1
      rcases List.mem_append.1 hf with hf | hf
      · have := h.numbered f hf
        omega
      · obtain rfl := List.mem_singleton.1 hf
        exact ⟨Nat.le_trans hbase new, Nat.lt_succ_self file⟩
    · rw [List.map_append, List.nodup_append]
      refine ⟨h.distinct, List.nodup_singleton _, ?_⟩
      -- the numbers noted before are smaller than the new one
      rintro _ hold _ hnew rfl
      obtain ⟨f, hf, hfile⟩ := List.mem_map.1 hold
      have := h.numbered f hf
      simp only [List.map_cons, List.map_nil, List.mem_singleton] at hnew
      omega
  · exact still rfl rfl
  · exact still rfl rfl

end Fitting

/-! ## What a child is to come to -/

/-- Where a child sits: by itself, or on one side of a pipe. -/
inductive Role
  | only
  | left (ends : PipeEnds)
  | right (ends : PipeEnds)
  deriving DecidableEq, Repr

namespace Role

/-- The end of the pipe that the child reads from. -/
def reading? : Role → Option Nat
  | right ends => some ends.reading
  | _ => none

/-- The end of the pipe that the child writes to. -/
def writing? : Role → Option Nat
  | left ends => some ends.writing
  | _ => none

/-- The files of the pipe. -/
def files : Role → List Nat
  | only => []
  | left ends | right ends => [ends.reading, ends.writing]

end Role

/-- The file that a segment reads from, and how it is opened. -/
def Segment.inputFile? (segment : Segment) : Option (String × OpenMode) :=
  segment.input.map fun path => (path, .read)

/-- The file that a segment writes to, and how it is opened. -/
def Segment.outputFile? (segment : Segment) : Option (String × OpenMode) :=
  segment.output.map fun target => (target.path, .write target.mode 0o644)

namespace Picture

/-- The same with a file opened and put behind a descriptor, if there is one to be opened. -/
def redirect (p : Picture) (target : Fd) : Option OpenedFile → Picture
  | none => p
  | some f => { p.put target (some ⟨f.file, false⟩) with opened := p.opened ++ [f] }

/-- A child in its directory, with its end of the pipe attached and without the other one. All else
is as it was with the shell before there was a pipe. -/
def attached (shell : Descriptors) (workingDir : String) (role : Role) : Picture :=
  let home : Picture := ⟨shell.get?, [], some workingDir, true⟩
  match role with
  | .only => home
  | .left ends => home.put Fd.stdout (some ⟨ends.writing, false⟩)
  | .right ends => home.put Fd.stdin (some ⟨ends.reading, false⟩)

/-- What is left to do when the pipe is attached has been done: the files of a segment have been
opened and have taken the places of its standard streams. -/
def RedirectedFor (segment : Segment) (start p : Picture) : Prop :=
  ∃ input output : Option OpenedFile, input.map OpenedFile.what = segment.inputFile? ∧
    output.map OpenedFile.what = segment.outputFile? ∧
      p = (start.redirect Fd.stdin input).redirect Fd.stdout output

end Picture

namespace Picture

variable {p : Picture} {fd target : Fd} {shell : Descriptors} {workingDir : String} {role : Role}

lemma behind_redirect_self (file : Option OpenedFile) :
    (p.redirect target file).behind target =
      (file.map fun f => ⟨f.file, false⟩).or (p.behind target) := by
  cases file with
  | none => rfl
  | some f => exact behind_put_self _ _

lemma behind_redirect_of_ne (h : fd ≠ target) (file : Option OpenedFile) :
    (p.redirect target file).behind fd = p.behind fd := by
  cases file with
  | none => rfl
  | some f => exact behind_put_of_ne h _

@[simp] lemma opened_redirect (file : Option OpenedFile) :
    (p.redirect target file).opened = p.opened ++ file.toList := by
  cases file with
  | none => exact (List.append_nil _).symm
  | some f => rfl

@[simp] lemma directory_redirect (file : Option OpenedFile) :
    (p.redirect target file).directory = p.directory := by
  cases file <;> rfl

@[simp] lemma defaultSignals_redirect (file : Option OpenedFile) :
    (p.redirect target file).defaultSignals = p.defaultSignals := by
  cases file <;> rfl

@[simp] lemma opened_attached : (attached shell workingDir role).opened = [] := by
  cases role <;> rfl

@[simp] lemma directory_attached :
    (attached shell workingDir role).directory = some workingDir := by
  cases role <;> rfl

@[simp] lemma defaultSignals_attached :
    (attached shell workingDir role).defaultSignals = true := by
  cases role <;> rfl

lemma behind_attached_stdin : (attached shell workingDir role).behind Fd.stdin =
    (role.reading?.map fun file => ⟨file, false⟩).or (shell.get? Fd.stdin) := by
  cases role with
  | only => rfl
  | left ends => exact behind_put_of_ne Fd.stdin_ne_stdout _
  | right ends => exact behind_put_self _ _

lemma behind_attached_stdout : (attached shell workingDir role).behind Fd.stdout =
    (role.writing?.map fun file => ⟨file, false⟩).or (shell.get? Fd.stdout) := by
  cases role with
  | only => rfl
  | left ends => exact behind_put_self _ _
  | right ends => exact behind_put_of_ne Fd.stdin_ne_stdout.symm _

lemma behind_attached_of_ne (hin : fd ≠ Fd.stdin) (hout : fd ≠ Fd.stdout) :
    (attached shell workingDir role).behind fd = shell.get? fd := by
  cases role with
  | only => rfl
  | left ends => exact behind_put_of_ne hout _
  | right ends => exact behind_put_of_ne hin _

end Picture

/-- A process has what the shell had before, and both ends of a new pipe. -/
structure Descriptors.AddsPipe (table shell : Descriptors) (ends : PipeEnds) (read write : Fd) :
    Prop where
  distinct : read ≠ write
  freeRead : shell.get? read = none
  freeWrite : shell.get? write = none
  behind : table.get? = update (update shell.get? read (some ⟨ends.reading, true⟩)) write
    (some ⟨ends.writing, true⟩)

namespace Descriptors.AddsPipe

variable {table shell : Descriptors} {ends : PipeEnds} {read write : Fd}

/-- Without the writing end there is the reading end only. -/
lemma update_write (h : table.AddsPipe shell ends read write) :
    update table.get? write none = update shell.get? read (some ⟨ends.reading, true⟩) := by
  have free : update shell.get? write none = shell.get? := update_eq_self_iff.2 h.freeWrite.symm
  rw [h.behind, update_idem, update_comm h.distinct, free]

/-- Without the reading end there is the writing end only. -/
lemma update_read (h : table.AddsPipe shell ends read write) :
    update table.get? read none = update shell.get? write (some ⟨ends.writing, true⟩) := by
  have free : update shell.get? read none = shell.get? := update_eq_self_iff.2 h.freeRead.symm
  rw [h.behind, update_comm h.distinct, update_idem, update_comm h.distinct.symm, free]

lemma refersTo (h : table.AddsPipe shell ends read write) {fd : Fd} {file : Nat}
    (refers : shell.RefersTo fd file) : table.RefersTo fd file := by
  obtain ⟨slot, hslot, hfile⟩ := refers
  have notRead : fd ≠ read := by
    rintro rfl
    simp [h.freeRead] at hslot
  have notWrite : fd ≠ write := by
    rintro rfl
    simp [h.freeWrite] at hslot
  exact ⟨slot, by rw [h.behind, update_of_ne notWrite, update_of_ne notRead, hslot], hfile⟩

lemma refersTo_reading (h : table.AddsPipe shell ends read write) :
    table.RefersTo read ends.reading :=
  ⟨_, by rw [h.behind, update_of_ne h.distinct, update_self], rfl⟩

lemma refersTo_writing (h : table.AddsPipe shell ends read write) :
    table.RefersTo write ends.writing :=
  ⟨_, by rw [h.behind, update_self], rfl⟩

end Descriptors.AddsPipe

/-! ## Setting up -/

/-- Whatever is left of a setup, it asks for the program of a segment and for no other, it does so
in a state that it is to come to, and it does not end before, unless something fails. -/
def Fits (segment : Segment) (goal : Picture → Prop) (rest : Dialogue Syscalls Started)
    (s : Fitting) : Prop :=
  rest.Secures Fitting.Next
    (fun s r => r.isExec = true → r = .exec segment.program segment.argv ∧ goal s.picture)
    (fun s _ => s.Settled) s

namespace Child

variable {segment : Segment} {goal : Picture → Prop} {s : Fitting} {p : Picture}
  {next : Dialogue Syscalls Started}

lemma tell_fits {parts : List String} {code : Nat} (h : s.Settled) :
    Fits segment goal (tell parts (.done (.ended code))) s := by
  induction parts generalizing s with
  | nil => exact h
  | cons part parts ih => exact secures_call_bind nofun fun _ _ done => ih (h.next done)

lemma die_fits {subject reason : String} {code : Nat} (h : s.Settled) :
    Fits segment goal (die subject reason code) s :=
  tell_fits h

lemma start_fits (h : goal s.picture) : Fits segment goal (start segment) s := by
  refine secures_call_bind (fun _ => ⟨rfl, h⟩) fun answer s' done => ?_
  have tried : s'.Settled := by
    obtain ⟨file, table, -, -, rfl⟩ := Fitting.next_iff.1 done
    exact .inr rfl
  cases answer with
  | none => exact tried
  | some e => exact die_fits tried

lemma bne_EINTR_of_settles {α : Type} {e : Errno}
    (settles : wasInterrupted (.error e : Except Errno α) = false) : (e != .EINTR) = true := by
  simpa [wasInterrupted] using settles

/-- Attaching takes what stands at a number that is otherwise free to the target, and that is all
that it does. -/
theorem attach_fits {fd target : Fd} {file : Nat} {closeOnExec : Bool} (free : p.behind fd = none)
    (h : s.picture = p.put fd (some ⟨file, closeOnExec⟩))
    (hnext : ∀ s', s'.picture = p.put target (some ⟨file, false⟩) → Fits segment goal next s') :
    Fits segment goal (attach fd target next) s := by
  have there {s : Fitting} {slot : Slot} (h : s.picture = p.put fd (some ⟨file, closeOnExec⟩))
      (hslot : s.picture.behind fd = some slot) : slot = ⟨file, closeOnExec⟩ := by
    rw [h, Picture.behind_put_self] at hslot
    exact (Option.some.inj hslot).symm
  unfold attach
  split
  · rename_i heq
    subst heq
    refine secures_call_bind nofun fun answer s' done => ?_
    cases answer with
    | error e => exact die_fits (done.settled_of_hinders rfl)
    | ok _ =>
      obtain ⟨slot, hslot, kept⟩ := done.picture_of_keepOnExec
      obtain rfl := there h hslot
      exact hnext s' (by rw [kept, h, Picture.put_put])
  · rename_i distinct
    -- the call is repeated in vain as long as nothing has changed
    refine ⟨fun s => s.picture = p.put fd (some ⟨file, closeOnExec⟩), h, fun s h => ⟨nofun, ?_⟩⟩
    intro answer s' done
    cases answer with
    | error e =>
      obtain ⟨_, same⟩ := done.picture_of_still fun _ => rfl
      refine ⟨fun _ => same.trans h, fun settles => ?_⟩
      exact die_fits (done.settled_of_hinders (bne_EINTR_of_settles settles))
    | ok _ =>
      refine ⟨fun again => absurd again Bool.false_ne_true, fun _ => ?_⟩
      obtain ⟨slot, hslot, duplicated⟩ := done.picture_of_duplicate distinct
      obtain rfl := there h hslot
      refine secures_call_bind nofun fun answer s'' closed => hnext s'' ?_
      rw [closed.picture_of_close, duplicated, h, Picture.put_put_of_free free distinct]

/-- A file is opened under a free number, whatever that is, and attached. -/
lemma attachFile_fits {path : String} {mode : OpenMode} {target : Fd} (h : s.picture = p)
    (hnext : ∀ file s', s'.picture = p.redirect target (some ⟨path, mode, file⟩) →
      Fits segment goal next s') :
    Fits segment goal (attachFile path mode target next) s := by
  refine ⟨fun s => s.picture = p, h, fun s h => ⟨nofun, ?_⟩⟩
  intro answer s' done
  cases answer with
  | error e =>
    obtain ⟨_, same⟩ := done.picture_of_still fun _ => rfl
    refine ⟨fun _ => same.trans h, fun settles => ?_⟩
    exact die_fits (done.settled_of_hinders (bne_EINTR_of_settles settles))
  | ok fd =>
    refine ⟨fun again => absurd again Bool.false_ne_true, fun _ => ?_⟩
    obtain ⟨file, free, opened⟩ := done.picture_of_openFile
    subst h
    exact attach_fits (p := { s.picture with opened := s.opened ++ [⟨path, mode, file⟩] }) free
      opened fun s' attached => hnext file s' attached

lemma attachInput_fits (h : s.picture = p)
    (hnext : ∀ (input : Option OpenedFile) s', input.map OpenedFile.what = segment.inputFile? →
      s'.picture = p.redirect Fd.stdin input → Fits segment goal next s') :
    Fits segment goal (attachInput segment next) s := by
  unfold attachInput
  cases hinput : segment.input with
  | none => exact hnext none s (by simp [Segment.inputFile?, hinput]) h
  | some path =>
    exact attachFile_fits h fun file s' =>
      hnext (some _) s' (by simp [Segment.inputFile?, hinput, OpenedFile.what])

lemma attachOutput_fits (h : s.picture = p)
    (hnext : ∀ (output : Option OpenedFile) s', output.map OpenedFile.what = segment.outputFile? →
      s'.picture = p.redirect Fd.stdout output → Fits segment goal next s') :
    Fits segment goal (attachOutput segment next) s := by
  unfold attachOutput
  cases houtput : segment.output with
  | none => exact hnext none s (by simp [Segment.outputFile?, houtput]) h
  | some target =>
    dsimp only
    rw [openMode_outputFlags]
    exact attachFile_fits h fun file s' =>
      hnext (some _) s' (by simp [Segment.outputFile?, houtput, OpenedFile.what])

/-- When the pipe has been attached, the redirections take the places of the streams. -/
lemma redirections_fit (h : s.picture = p) :
    Fits segment (p.RedirectedFor segment)
      (attachInput segment <| attachOutput segment <| start segment) s := by
  refine attachInput_fits h fun input s isInput h => ?_
  refine attachOutput_fits h fun output s isOutput h => ?_
  exact start_fits ⟨input, output, isInput, isOutput, h⟩

lemma joinGroup_fits {c : Child} (h : s.picture = p)
    (hnext : ∀ s', s'.picture = p → Fits segment goal next s') :
    Fits segment goal (c.joinGroup next) s := by
  unfold joinGroup
  split
  · refine secures_call_bind nofun fun answer s' done => ?_
    obtain ⟨_, same⟩ := done.picture_of_still fun _ => rfl
    exact hnext s' (same.trans h)
  · exact hnext s h

lemma dropUnused_fits {c : Child} (h : s.picture = p)
    (hnext : ∀ s', s'.picture = c.wiring.unused.elim p (p.put · none) →
      Fits segment goal next s') :
    Fits segment goal (c.dropUnused next) s := by
  unfold dropUnused
  cases hunused : c.wiring.unused with
  | none => exact hnext s (by rwa [hunused])
  | some fd =>
    refine secures_call_bind nofun fun answer s' done => hnext s' ?_
    rw [done.picture_of_close, h, hunused]
    rfl

/-- Before anything is attached, a child drops the end that it has no use for and goes into the
working directory. -/
lemma setup_fits_of_outfit {c : Child} (h : s.picture = p)
    (houtfit : ∀ s', s'.picture = { c.wiring.unused.elim p (p.put · none) with
        directory := some c.workingDir, defaultSignals := true } → Fits segment goal c.outfit s') :
    Fits segment goal c.setup s := by
  rw [setup_eq]
  refine secures_call_bind nofun fun _ s₁ done => ?_
  obtain ⟨_, signals⟩ := done.picture_of_still fun _ => rfl
  have h₁ : s₁.picture = { p with defaultSignals := true } := by
    rw [signals, ← h]
    rfl
  refine joinGroup_fits h₁ fun s₂ h₂ => dropUnused_fits h₂ fun s₃ h₃ => ?_
  refine secures_call_bind nofun fun answer s₄ done => ?_
  cases answer with
  | error e => exact die_fits (done.settled_of_hinders rfl)
  | ok _ =>
    obtain ⟨_, entered⟩ := done.picture_of_still fun _ => rfl
    have h₄ : s₄.picture = { s₃.picture with directory := some c.workingDir } := entered
    refine houtfit s₄ ?_
    rw [h₄, h₃]
    cases c.wiring.unused <;> rfl

variable {plan : Plan} {workingDir : String} {shell table : Descriptors} {files : Nat}

/-- A child without a pipe. -/
theorem setup_fits_only :
    Fits plan.left ((Picture.attached shell workingDir .only).RedirectedFor plan.left)
      (plan.onlyChild workingDir).setup { table := shell, files } :=
  setup_fits_of_outfit rfl fun _ h => redirections_fit h

/-- The child that reads from the pipe. -/
theorem setup_fits_right {right : Segment} {ends : PipeEnds} {read write : Fd}
    (h : table.AddsPipe shell ends read write) :
    Fits right ((Picture.attached shell workingDir (.right ends)).RedirectedFor right)
      (plan.readingChild right workingDir read write).setup { table, files } := by
  refine setup_fits_of_outfit rfl fun s dropped => ?_
  have hands : s.picture = Picture.put ⟨shell.get?, [], some workingDir, true⟩ read
      (some ⟨ends.reading, true⟩) :=
    dropped.trans (congrArg (Picture.mk · [] (some workingDir) true) h.update_write)
  exact attach_fits h.freeRead hands fun s attached => redirections_fit attached

/-- The child that writes to the pipe. -/
theorem setup_fits_left {ends : PipeEnds} {read write : Fd}
    (h : table.AddsPipe shell ends read write) :
    Fits plan.left ((Picture.attached shell workingDir (.left ends)).RedirectedFor plan.left)
      (plan.writingChild workingDir read write).setup { table, files } := by
  refine setup_fits_of_outfit rfl fun s dropped => ?_
  have hands : s.picture = Picture.put ⟨shell.get?, [], some workingDir, true⟩ write
      (some ⟨ends.writing, true⟩) :=
    dropped.trans (congrArg (Picture.mk · [] (some workingDir) true) h.update_read)
  exact attach_fits h.freeWrite hands fun s attached => redirections_fit attached

end Child

end CommandShell
