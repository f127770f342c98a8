import CommandShell.Proofs.Fitting
import CommandShell.Proofs.PipeEnds

/-!
# The standard streams of a child

A program that the shell starts reads and writes where its line says, whatever descriptors the shell
has. Any of the standard ones may be closed when a plan is started, so that an end of the pipe or a
file of a redirection gets its number, and is in its place already or in the place of another
(`standard_streams_wired`).

When the shell makes a child its descriptors are those that it had before and, if there is a pipe,
both ends of it (`launch_seated`). What the child makes of them depends on its seat
(`Child.setup_fits_only`, `Child.setup_fits_right`, `Child.setup_fits_left`); here the two are put
together, and `Fitting.Wired` tells what has come of it.
-/

namespace CommandShell

open Dialogue Function

/-! ## What a child has when it asks for its program -/

namespace Role

/-- The open file that a child has for its standard input, if it does not have that of the shell:
the file of its redirection, or else its end of the pipe. -/
def source? (role : Role) (input : Option OpenedFile) : Option Nat :=
  (input.map OpenedFile.file).or role.reading?

/-- The open file that a child has for its standard output, if it does not have that of the
shell. -/
def sink? (role : Role) (output : Option OpenedFile) : Option Nat :=
  (output.map OpenedFile.file).or role.writing?

end Role

namespace Fitting

/-- The files that a child has besides those that the shell had before: those of the pipe, and those
that it has opened. -/
def newFiles (s : Fitting) (role : Role) : List Nat :=
  role.files ++ s.opened.map OpenedFile.file

/-- The descriptors of a child are what the line asks for. `shell` is what the shell had before
there was a pipe; `input` and `output` are the files that the child has opened. -/
structure Wired (s : Fitting) (shell : Descriptors) (role : Role) (segment : Segment)
    (workingDir : String) (input output : Option OpenedFile) : Prop where
  /-- Each redirection of the segment has had its file opened, as it says, and no other file has
  been opened. -/
  opened : s.opened = input.toList ++ output.toList
  reads : input.map OpenedFile.what = segment.inputFile?
  writes : output.map OpenedFile.what = segment.outputFile?
  stdin : s.table.get? Fd.stdin =
    ((role.source? input).map fun file => ⟨file, false⟩).or (shell.get? Fd.stdin)
  stdout : s.table.get? Fd.stdout =
    ((role.sink? output).map fun file => ⟨file, false⟩).or (shell.get? Fd.stdout)
  /-- All else is as it was with the shell, the standard error too. -/
  elsewhere : ∀ fd, fd ≠ Fd.stdin → fd ≠ Fd.stdout → s.table.get? fd = shell.get? fd
  /-- The files of the pipe and of the redirections are different from each other, and the shell
  had none of them. -/
  distinct : (s.newFiles role).Nodup
  new : ∀ file ∈ s.newFiles role, ∀ fd, ¬ shell.RefersTo fd file
  /-- Nothing else refers to one of these files. -/
  confined : ∀ file ∈ s.newFiles role, ∀ fd, s.table.RefersTo fd file →
    (fd = Fd.stdin ∧ role.source? input = some file) ∨
      (fd = Fd.stdout ∧ role.sink? output = some file)
  directory : s.directory = some workingDir
  signals : s.defaultSignals = true

end Fitting

lemma eq_some_of_refersTo {table shell : Descriptors} {fd : Fd} {attached : Option Nat}
    {file : Nat}
    (h : table.get? fd = (attached.map fun file => ⟨file, false⟩).or (shell.get? fd))
    (new : ¬ shell.RefersTo fd file) (refers : table.RefersTo fd file) : attached = some file := by
  obtain ⟨slot, hslot, rfl⟩ := refers
  rw [h] at hslot
  cases attached with
  | none => exact absurd ⟨slot, hslot, rfl⟩ new
  | some other =>
    cases hslot
    rfl

/-- How the files of a child stand to the descriptors of the shell when the child is made. -/
structure Role.IsNewTo (role : Role) (shell table : Descriptors) : Prop where
  distinct : role.files.Nodup
  new : ∀ file ∈ role.files, ∀ fd, ¬ shell.RefersTo fd file
  below : ∀ files, table.Below files → shell.Below files ∧ ∀ file ∈ role.files, file < files

/-- No two of the files of a child are the same, and the shell has none of them. -/
lemma Role.IsNewTo.newFiles {role : Role} {shell table : Descriptors} {files : Nat} {s : Fitting}
    (h : role.IsNewTo shell table) (below : table.Below files) (opens : s.OpensNew files) :
    (s.newFiles role).Nodup ∧ ∀ file ∈ s.newFiles role, ∀ fd, ¬ shell.RefersTo fd file := by
  obtain ⟨shellBelow, roleBelow⟩ := h.below files below
  have opened : ∀ file ∈ s.opened.map OpenedFile.file, files ≤ file := by
    intro file hfile
    obtain ⟨f, hf, rfl⟩ := List.mem_map.1 hfile
    exact (opens.numbered f hf).1
  constructor
  · refine List.nodup_append.2 ⟨h.distinct, opens.distinct, ?_⟩
    rintro file hold _ hnew rfl
    exact absurd (roleBelow file hold) (Nat.not_lt.2 (opened file hnew))
  · intro file hfile fd refers
    rcases List.mem_append.1 hfile with hfile | hfile
    · exact h.new file hfile fd refers
    · exact absurd (shellBelow fd file refers) (Nat.not_lt.2 (opened file hfile))

lemma Fitting.exists_wired {s : Fitting} {shell table : Descriptors} {role : Role}
    {segment : Segment} {workingDir : String} {files : Nat}
    (h : (Picture.attached shell workingDir role).RedirectedFor segment s.picture)
    (isNew : role.IsNewTo shell table) (below : table.Below files) (opens : OpensNew files s) :
    ∃ input output, s.Wired shell role segment workingDir input output := by
  -- `h` compares the whole picture; the streams and the rest of the table are read off it
  obtain ⟨input, output, isInput, isOutput, h⟩ := h
  have behind := congrFun (congrArg Picture.behind h)
  have stdin : s.table.get? Fd.stdin =
      ((role.source? input).map fun file => ⟨file, false⟩).or (shell.get? Fd.stdin) := by
    refine (behind Fd.stdin).trans ?_
    rw [Picture.behind_redirect_of_ne Fd.stdin_ne_stdout, Picture.behind_redirect_self,
      Picture.behind_attached_stdin]
    cases input <;> rfl
  have stdout : s.table.get? Fd.stdout =
      ((role.sink? output).map fun file => ⟨file, false⟩).or (shell.get? Fd.stdout) := by
    refine (behind Fd.stdout).trans ?_
    rw [Picture.behind_redirect_self, Picture.behind_redirect_of_ne Fd.stdin_ne_stdout.symm,
      Picture.behind_attached_stdout]
    cases output <;> rfl
  have elsewhere (fd : Fd) (hin : fd ≠ Fd.stdin) (hout : fd ≠ Fd.stdout) :
      s.table.get? fd = shell.get? fd := by
    refine (behind fd).trans ?_
    rw [Picture.behind_redirect_of_ne hout, Picture.behind_redirect_of_ne hin,
      Picture.behind_attached_of_ne hin hout]
  have new := isNew.newFiles below opens
  refine ⟨input, output, ?_, isInput, isOutput, stdin, stdout, elsewhere, new.1, new.2, ?_, ?_, ?_⟩
  · exact (congrArg Picture.opened h).trans (by simp)
  · intro file hfile fd refers
    by_cases hin : fd = Fd.stdin
    · subst hin
      exact .inl ⟨rfl, eq_some_of_refersTo stdin (new.2 file hfile _) refers⟩
    · by_cases hout : fd = Fd.stdout
      · subst hout
        exact .inr ⟨rfl, eq_some_of_refersTo stdout (new.2 file hfile _) refers⟩
      · obtain ⟨slot, hslot, hfile'⟩ := refers
        exact absurd ⟨slot, (elsewhere fd hin hout).symm.trans hslot, hfile'⟩ (new.2 file hfile fd)
  · exact (congrArg Picture.directory h).trans (by simp)
  · exact (congrArg Picture.defaultSignals h).trans (by simp)

/-! ## The shell when it makes a child -/

/-- The children that are made for a plan, in this order: where each of them sits, and its segment.
The pipe is there before the first of them. -/
def Plan.seats (plan : Plan) (pipes : List PipeEnds) : List (Role × Segment) :=
  match plan.right, pipes with
  | none, _ => [(.only, plan.left)]
  | some right, ends :: _ => [(.right ends, right), (.left ends, plan.left)]
  | some _, [] => []

/-- What is true when the shell makes a call to start a plan: it makes a pipe with the descriptors
that it had before, and a child for the next seat, which fits itself out for it. -/
def Seated (plan : Plan) (workingDir : String) (shell : Descriptors) (v : ShellView) :
    ShellCall → Prop
  | .makePipe => v = ⟨shell, [], []⟩
  | .fork child => ∃ role segment,
      (plan.seats v.pipes)[v.children.length]? = some (role, segment) ∧
        role.IsNewTo shell v.table ∧
          ∀ files, Fits segment ((Picture.attached shell workingDir role).RedirectedFor segment)
            child.setup { table := v.table, files }
  | _ => True

section Launch

variable {plan : Plan} {right : Segment} {workingDir : String} {shell : Descriptors}
  {v v' : ShellView} {ends : PipeEnds} {read write : Fd}

/-- The shell has just made a pipe. -/
structure MadePipe (shell : Descriptors) (ends : PipeEnds) (read write : Fd) (v : ShellView) :
    Prop where
  pipes : v.pipes = [ends]
  adds : v.table.AddsPipe shell ends read write
  below : shell.Below ends.reading
  succ : ends.writing = ends.reading + 1

lemma MadePipe.of_makePipe
    (done : ShellView.Next ⟨shell, [], []⟩ ⟨.makePipe, .ok (read, write)⟩ v') :
    ∃ ends, MadePipe shell ends read write v' ∧ v'.children = [] := by
  obtain ⟨file, below, fresh, rfl⟩ := done
  obtain ⟨distinct, hread, hwrite⟩ := fresh (read, write) rfl
  refine ⟨⟨file, file + 1⟩, ⟨rfl, ⟨distinct, hread, hwrite, ?_⟩, below, rfl⟩, rfl⟩
  simp [ShellView.after, tableAfter, openedSlot, Traffic.pipe?, distinct.symm,
    Descriptors.get?_put_eq_update]

lemma MadePipe.isNewTo (h : MadePipe shell ends read write v) {role : Role}
    (hrole : role.files = [ends.reading, ends.writing]) : role.IsNewTo shell v.table := by
  have hsucc := h.succ
  constructor
  · simp [hrole, hsucc]
  · intro file hfile fd refers
    have old := h.below fd file refers
    rw [hrole] at hfile
    rcases List.mem_pair.1 hfile with rfl | rfl <;> omega
  · intro files below
    refine ⟨fun fd file refers => below fd file (h.adds.refersTo refers), fun file hfile => ?_⟩
    rw [hrole] at hfile
    rcases List.mem_pair.1 hfile with rfl | rfl
    · exact below _ _ h.adds.refersTo_reading
    · exact below _ _ h.adds.refersTo_writing

lemma launchSides_seated (h : MadePipe shell ends read write v) (alone : v.children = [])
    (piped : plan.right = some right) :
    (launchSides plan.left right workingDir plan.background read write).Secures ShellView.Next
      (Seated plan workingDir shell) (fun _ _ => True) v := by
  obtain ⟨table, _, children⟩ := v
  obtain rfl : children = [] := alone
  obtain rfl := h.pipes
  have close (v : ShellView) (fd : Fd) : Seated plan workingDir shell v (.close fd) := trivial
  -- both forks happen while the pipe is open, and each child finds its own end of it
  refine Secures.bind (spawn_secures ?_ (fun _ _ => trivial) ?_ ?_)
  · refine ⟨.right ends, right, by simp [Plan.seats, piped], h.isNewTo rfl, fun files => ?_⟩
    exact Child.setup_fits_right h.adds
  · intro errno
    exact Secures.bind (closePipe_secures close trivial)
  intro rightPid
  refine Secures.bind (spawn_secures ?_ (fun _ _ => trivial) ?_ ?_)
  · refine ⟨.left ends, plan.left, by simp [Plan.seats, piped], h.isNewTo rfl, fun files => ?_⟩
    exact Child.setup_fits_left h.adds
  · intro errno
    refine Secures.bind (closePipe_secures close ?_)
    exact Secures.bind (wait_secures trivial fun _ => trivial)
  · intro leftPid
    exact Secures.bind (closePipe_secures close trivial)

/-- Starting a plan, the shell makes a child for each seat, in order, while it has what it had
before and the pipe. -/
theorem launch_seated : (launch plan workingDir).Secures ShellView.Next
    (Seated plan workingDir shell) (fun _ _ => True) ⟨shell, [], []⟩ := by
  unfold launch
  split
  · exact trivial
  split
  · rename_i single
    refine Secures.bind (spawn_secures ?_ (fun _ _ => trivial) (fun _ => trivial) fun _ => trivial)
    refine ⟨.only, plan.left, by simp [Plan.seats, single], ?_, fun files => ?_⟩
    · exact ⟨List.nodup_nil, nofun, fun files below => ⟨below, nofun⟩⟩
    · exact Child.setup_fits_only
  · rename_i right piped
    refine secures_call_bind rfl fun answer v' done => ?_
    cases answer with
    | error errno => exact trivial
    | ok opened =>
      obtain ⟨ends, h, alone⟩ := MadePipe.of_makePipe done
      exact launchSides_seated h alone piped

end Launch

/-! ## The whole way -/

/-- **The standard streams of a child are wired as the line asks.** Whatever descriptors the shell
has when it starts a plan, and whatever numbers and answers the system gives: each child that the
shell makes is for one of the seats of the plan, in order. When the child asks for a program it is
that of its segment, with its arguments, in the working directory, and all descriptors are as they
should be (`Fitting.Wired`). A child that has ended without asking for it has met a failure that
hindered it. -/
theorem standard_streams_wired {plan : Plan} {workingDir : String} {shell : Descriptors}
    {t : List Traffic} {rest : Shell (Except LaunchError Job)} {v : ShellView} {child : Child}
    {files : Nat} {u : List (Exchange Syscalls)} {left : Dialogue Syscalls Started} {s : Fitting}
    (launching : (launch plan workingDir).Reaches t rest)
    (launched : Leads ShellView.Next ⟨shell, [], []⟩ t v)
    (forks : rest.pending? = some (.fork child)) (numbered : v.table.Below files)
    (underWay : child.setup.Reaches u left)
    (fitted : Leads Fitting.Next { table := v.table, files } u s) :
    ∃ role segment, (plan.seats v.pipes)[v.children.length]? = some (role, segment) ∧
      (∀ program argv, left.pending? = some (.exec program argv) →
        program = segment.program ∧ argv = segment.argv ∧
          ∃ input output, s.Wired shell role segment workingDir input output) ∧
      ∀ result, left = .done result → s.hindered = false → s.tried = true := by
  obtain ⟨role, segment, seat, isNew, fits⟩ :=
    (launch_seated.of_reaches launching launched).allowed_of_pending? forks
  have fits := (fits files).of_reaches underWay fitted
  -- the numbers of files that a child opens are new, and no two are the same
  have opens : Fitting.OpensNew files s :=
    fitted.preserves (fun _ _ _ h done => h.next done) ⟨Nat.le_refl _, nofun, List.nodup_nil⟩
  refine ⟨role, segment, seat, fun program argv pending => ?_, ?_⟩
  · obtain ⟨hexec, h⟩ := fits.allowed_of_pending? pending rfl
    cases hexec
    exact ⟨rfl, rfl, Fitting.exists_wired h isNew numbered opens⟩
  · rintro result rfl unhindered
    exact fits.resolve_left (by simp [unhindered])

/-- `sort -r < names | wc` -/
def sortedNames : Plan where
  left := { program := "sort", arguments := ["-r"], input := some "names" }
  right := some { program := "wc" }

/-- A shell whose standard input and output are closed, so that a pipe gets their numbers. -/
def errorStreamOnly : Descriptors := ⟨[none, none, some ⟨0, false⟩]⟩

/-- The calls of the shell until it makes the left side. -/
def towardsLeft : List Traffic :=
  [⟨.makePipe, .ok (0, 1)⟩, ⟨.fork (sortedNames.readingChild { program := "wc" } "/" 0 1), .ok 7⟩]

/-- The calls of the left side: once it has dropped the end that it has no use for, the file that it
opens gets the number of its standard input. -/
def towardsSort : List (Exchange Syscalls) :=
  [⟨.defaultSignals, ()⟩, ⟨.close 0, .error .EINTR⟩, ⟨.enter "/", .ok ()⟩, ⟨.keepOnExec 1, .ok ()⟩,
    ⟨.openFile "names" .read true, .error .EINTR⟩, ⟨.openFile "names" .read true, .ok 0⟩,
    ⟨.keepOnExec 0, .ok ()⟩]

theorem standard_streams_wired_errorStreamOnly :
    ∃ (rest : Shell (Except LaunchError Job)) (v : ShellView) (left : Dialogue Syscalls Started)
      (s : Fitting),
      (launch sortedNames "/").Reaches towardsLeft rest ∧
      Leads ShellView.Next ⟨errorStreamOnly, [], []⟩ towardsLeft v ∧
      rest.pending? = some (.fork (sortedNames.writingChild "/" 0 1)) ∧ v.table.Below 3 ∧
      (sortedNames.writingChild "/" 0 1).setup.Reaches towardsSort left ∧
      Leads Fitting.Next { table := v.table, files := 3 } towardsSort s ∧
      left.pending? = some (.exec "sort" ["sort", "-r"]) ∧
      s.table = ⟨[some ⟨8, false⟩, some ⟨2, false⟩, some ⟨0, false⟩]⟩ ∧
      ∃ input output, s.Wired errorStreamOnly (.left ⟨1, 2⟩) sortedNames.left "/" input output := by
  have fresh : errorStreamOnly.Below 1 := by
    rw [Descriptors.below_iff]
    decide
  let v : ShellView := ⟨⟨[some ⟨1, true⟩, some ⟨2, true⟩, some ⟨0, false⟩]⟩, [⟨1, 2⟩],
    [(sortedNames.readingChild { program := "wc" } "/" 0 1, 7)]⟩
  have numbered : v.table.Below 3 := by
    rw [Descriptors.below_iff]
    decide
  have launched : Leads ShellView.Next ⟨errorStreamOnly, [], []⟩ towardsLeft v :=
    ⟨_, ⟨1, fresh, by decide, rfl⟩, _, ⟨3, numbered, by decide, rfl⟩, rfl⟩
  obtain ⟨rest, launching, forks⟩ : ∃ rest, (launch sortedNames "/").Reaches towardsLeft rest ∧
      rest.pending? = some (.fork (sortedNames.writingChild "/" 0 1)) :=
    ⟨_, .step _ (.step _ (.refl _)), rfl⟩
  obtain ⟨left, underWay, asks⟩ : ∃ left,
      (sortedNames.writingChild "/" 0 1).setup.Reaches towardsSort left ∧
        left.pending? = some (.exec "sort" ["sort", "-r"]) :=
    ⟨_, .step _ (.step _ (.step _ (.step _ (.step _ (.step _ (.step _ (.refl _))))))), rfl⟩
  obtain ⟨s, fitted, htable⟩ : ∃ s,
      Leads Fitting.Next { table := v.table, files := 3 } towardsSort s ∧
        s.table = ⟨[some ⟨8, false⟩, some ⟨2, false⟩, some ⟨0, false⟩]⟩ :=
    ⟨_, ⟨_, ⟨3, rfl⟩, _, ⟨4, rfl⟩, _, ⟨5, rfl⟩, _, ⟨6, rfl⟩, _, ⟨7, rfl⟩, _, ⟨8, rfl⟩, _, ⟨9, rfl⟩,
      rfl⟩, rfl⟩
  -- the theorem says which seat the child has, and it is the left one
  obtain ⟨role, segment, seat, arrived, -⟩ :=
    standard_streams_wired launching launched forks numbered underWay fitted
  cases seat
  obtain ⟨-, -, wired⟩ := arrived _ _ asks
  exact ⟨rest, v, left, s, launching, launched, forks, numbered, underWay, fitted, asks, htable,
    wired⟩

end CommandShell
