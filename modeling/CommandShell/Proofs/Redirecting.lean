import CommandShell.Machine.Host
import CommandShell.Proofs.Openings
import CommandShell.Proofs.SetupEffects

/-!
# Output files of the shell and of its children

The shell opens the output file of a built-in command where it is itself, by a path that it has
joined to its working directory. A child opens its output file after it has gone to that directory.
`Machine.shellOpens_iff` is that both open the same file in the same way.
-/

namespace CommandShell

open Dialogue

namespace Machine

variable {m m' : Machine} {p : Process} {pid : Pid} {fd : Fd} {path : String} {output : OutputMode}
  {permissions : Nat} {closeOnExec : Bool}

/-! ## Opening a file for output -/

/-- The process has a descriptor left. -/
def HasRoom (p : Process) : Prop :=
  p.descriptors.lowestFree < p.limit

instance (p : Process) : Decidable (HasRoom p) :=
  inferInstanceAs (Decidable (_ < _))

/-- What there is once a file has been opened: what is stored, and the open file with its number. -/
structure Opening where
  nodes : Array Node
  number : Nat
  file : OpenFile

/-- A process has opened a file, and this is what there is now. -/
structure Holds (m : Machine) (pid : Pid) (fd : Fd) (o : Opening) : Prop where
  nodes : m.disk.nodes = o.nodes
  behind : ∃ p, m.process? pid = some p ∧ m.fileOf? p fd = some (o.number, o.file)

/-- A target is the file of a program that is running. -/
def executes (m : Machine) : Target → Bool
  | .found l => m.processes.any fun q => !q.hasEnded && q.executable.node == l.node
  | .missing _ _ => false

/-- What has been opened for output is not the file of a running program, or it would not have been
opened. -/
lemma isRunning_of_opens {disk : Disk} {truncate : Bool} {mode : Nat} {target : Target}
    {result : Disk × Location} (h : disk.Opens p.cwd path truncate mode target result) :
    m.isRunning disk p path = m.executes target := by
  unfold isRunning
  cases target with
  | missing up name =>
    have none (l : Location) : disk.lookup p.cwd path ≠ .ok l := by
      intro looked
      have resolved := Disk.lookup_eq_ok_iff.1 looked
      rw [h.resolved] at resolved
      cases resolved
    cases looked : disk.lookup p.cwd path with
    | ok l => exact absurd looked (none l)
    | error e => rfl
  | found l =>
    obtain ⟨disk', l'⟩ := result
    obtain ⟨-, allowed, -⟩ := Disk.openTarget_found_eq_ok_iff.1 h.opened
    rw [Disk.lookup_eq_ok_iff.2 h.resolved]
    dsimp only
    rw [allowed, Bool.true_and]
    rfl

/-- The machine once a process has opened a file under its lowest free descriptor. -/
def withOpened (m : Machine) (p : Process) (disk : Disk) (f : OpenFile) (closeOnExec : Bool) :
    Machine :=
  let slot : Slot := ⟨m.openFiles.size, closeOnExec⟩
  { m.withView disk with openFiles := m.openFiles.push f }.modifyProcess p.pid
    ({ · with descriptors := p.descriptors.put p.descriptors.lowestFree (some slot) })

lemma install_eq_ok_iff {disk : Disk} {f : OpenFile} :
    (m.withView disk).install p f closeOnExec = .ok (m', fd) ↔
      HasRoom p ∧ fd = p.descriptors.lowestFree ∧ m' = m.withOpened p disk f closeOnExec := by
  unfold install addOpenFile Descriptors.allocate HasRoom
  dsimp only
  by_cases room : p.descriptors.lowestFree < p.limit
  · rw [if_pos room, and_iff_right room]
    constructor
    · intro h
      cases h
      exact ⟨rfl, rfl⟩
    · rintro ⟨rfl, rfl⟩
      rfl
  · rw [if_neg room]
    exact ⟨nofun, fun h => absurd h.1 room⟩

/-- A file that is made if it is missing is not looked for first. -/
lemma openOutput_of_creates {disk : Disk} {cwd : Location} {flags : OutputFlags} {permitted : Nat}
    (creates : flags.creates = true) :
    openOutput disk cwd path flags permitted =
      disk.openWrite cwd path flags.truncates permitted := by
  simp [openOutput, creates]

/-- What it takes to open a file for output, and what comes of it. -/
lemma openPath_eq_ok_iff :
    m.openPath p path (.write output permissions) closeOnExec = .ok (m', fd) ↔
      HasRoom p ∧ ∃ target disk place, (m.view p.pid).Opens p.cwd path (output == .truncate)
        (p.permitted permissions) target (disk, place) ∧ m.executes target = false ∧
        fd = p.descriptors.lowestFree ∧ m' = m.withOpened p disk
          (openPlace disk place (.ofMode (.write output permissions))) closeOnExec := by
  -- each check is passed exactly if the conjunct that speaks of it holds
  constructor
  · intro h
    unfold openPath at h
    split at h
    · cases h
    rename_i room
    dsimp only at h
    split at h
    · cases h
    rename_i idle
    obtain ⟨⟨disk, place⟩, opened, installed⟩ := bind_eq_ok_iff.1 h
    rw [openOutput_of_creates rfl] at opened
    obtain ⟨target, opens⟩ := Disk.openWrite_eq_ok_iff.1 opened
    obtain ⟨-, hfd, hm⟩ := install_eq_ok_iff.1 installed
    refine ⟨Nat.lt_of_not_ge room, target, disk, place, opens, ?_, hfd, hm⟩
    rw [← isRunning_of_opens opens]
    simpa using idle
  · rintro ⟨room, target, disk, place, opens, idle, hfd, hm⟩
    have running : m.isRunning (m.view p.pid) p path = false :=
      (isRunning_of_opens opens).trans idle
    unfold openPath
    rw [if_neg (Nat.not_le_of_lt room)]
    dsimp only
    rw [running, Bool.and_false, if_neg Bool.false_ne_true]
    refine bind_eq_ok_iff.2 ⟨(disk, place), ?_, install_eq_ok_iff.2 ⟨room, hfd, hm⟩⟩
    rw [openOutput_of_creates rfl]
    exact Disk.openWrite_eq_ok_iff.2 ⟨target, opens⟩

/-- What has been opened is not the file of a running program either. -/
theorem executes_opened {disk : Disk} {truncate : Bool} {mode : Nat} {found : Target}
    {place : Location} (programs : ∀ q ∈ m.processes, m.disk.Stores q.executable.node)
    (idle : m.executes found = false)
    (opened : m.disk.openTarget found truncate mode = .ok (disk, place)) :
    m.executes (.found place) = false := by
  cases found with
  | missing up name =>
    -- what has been made is a node that no program can have been in
    obtain ⟨id, created, rfl⟩ := Disk.openTarget_missing_eq_ok_iff.1 opened
    obtain ⟨-, -, -, rfl⟩ := Disk.createEntry_eq_ok_iff.1 created
    refine List.any_eq_false.2 fun q hq => ?_
    obtain ⟨number, small, stored⟩ := programs q hq
    have other : (q.executable.node == NodeId.stored m.disk.nodes.size) = false := by
      rw [stored, beq_eq_false_iff_ne]
      rintro ⟨⟩
      exact Nat.lt_irrefl _ small
    rw [Location.node, other, Bool.and_false]
    exact Bool.false_ne_true
  | found l =>
    obtain ⟨-, -, -, rfl, -⟩ := Disk.openTarget_found_eq_ok_iff.1 opened
    exact idle

section Opened

variable {disk : Disk} {f : OpenFile}

lemma process?_withOpened (own : m.process? p.pid = some p) :
    (m.withOpened p disk f closeOnExec).process? p.pid =
      some { p with
        descriptors := p.descriptors.put p.descriptors.lowestFree
          (some ⟨m.openFiles.size, closeOnExec⟩) } := by
  unfold withOpened
  rw [process?_modifyProcess_self]
  · have kept : ({ m.withView disk with openFiles := m.openFiles.push f } : Machine).process?
        p.pid = some p := own
    rw [kept]
    rfl
  · exact fun _ => rfl

lemma holds_withOpened (own : m.process? p.pid = some p) :
    (m.withOpened p disk f closeOnExec).Holds p.pid p.descriptors.lowestFree
      ⟨disk.nodes, m.openFiles.size, f⟩ := by
  refine ⟨rfl, _, process?_withOpened own, ?_⟩
  have slot : (p.descriptors.put p.descriptors.lowestFree
      (some ⟨m.openFiles.size, closeOnExec⟩)).get? p.descriptors.lowestFree =
        some ⟨m.openFiles.size, closeOnExec⟩ := by
    rw [Descriptors.get?_put, if_pos rfl]
  have pushed : (m.withOpened p disk f closeOnExec).openFiles[m.openFiles.size]? = some f :=
    Array.getElem?_push_size
  unfold fileOf?
  simp only [slot, pushed, Option.bind_eq_bind, Option.bind_some]
  rfl

end Opened

lemma fileOf?_setOpenFile {file : Nat} {f f' : OpenFile}
    (behind : m.fileOf? p fd = some (file, f)) :
    (m.setOpenFile file f').fileOf? p fd = some (file, f') := by
  unfold fileOf? at behind ⊢
  simp only [Option.bind_eq_bind, Option.bind_eq_some_iff] at behind ⊢
  obtain ⟨slot, hslot, f, hf, same⟩ := behind
  cases same
  obtain ⟨small, -⟩ := Array.getElem?_eq_some_iff.1 hf
  exact ⟨slot, hslot, _, Array.getElem?_setIfInBounds_self_of_lt small, rfl⟩

lemma Holds.unique {o o' : Opening} (h : m.Holds pid fd o) (h' : m.Holds pid fd o') : o = o' := by
  obtain ⟨nodes, number, file⟩ := o
  obtain ⟨nodes', number', file'⟩ := o'
  obtain ⟨stored, p, own, behind⟩ := h
  obtain ⟨stored', p', own', behind'⟩ := h'
  cases own.symm.trans own'
  cases behind.symm.trans behind'
  cases stored.symm.trans stored'
  rfl

/-- What it takes for a process to hold a file open that it has opened for output. -/
lemma openPath_holds_iff {o : Opening} (own : m.process? p.pid = some p) :
    (∃ fd m', m.openPath p path (.write output permissions) closeOnExec = .ok (m', fd) ∧
        m'.Holds p.pid fd o) ↔
      HasRoom p ∧ ∃ target disk place, (m.view p.pid).Opens p.cwd path (output == .truncate)
        (p.permitted permissions) target (disk, place) ∧ m.executes target = false ∧
        o = ⟨disk.nodes, m.openFiles.size,
          openPlace disk place (.ofMode (.write output permissions))⟩ := by
  constructor
  · rintro ⟨fd, m', opened, holds⟩
    obtain ⟨room, target, disk, place, opens, idle, rfl, rfl⟩ := openPath_eq_ok_iff.1 opened
    exact ⟨room, target, disk, place, opens, idle, holds.unique (holds_withOpened own)⟩
  · rintro ⟨room, target, disk, place, opens, idle, rfl⟩
    exact ⟨_, _, openPath_eq_ok_iff.2 ⟨room, target, disk, place, opens, idle, rfl, rfl⟩,
      holds_withOpened own⟩

/-! ## The shell and its children -/

/-- The shell gets a descriptor for the target of a redirection, as it does for a built-in
command. -/
def ShellGets (m : Machine) (dir : String) (target : OutputTarget) (fd : Fd) (m' : Machine) :
    Prop :=
  m.host (.openOutput (Path.join dir target.path) (outputOptions target.mode)) = some (.ok fd, m')

/-- A launch hands the directory and the target over to a child, unless there is a NUL character in
one of them. -/
def Handed (dir : String) (target : OutputTarget) : Prop :=
  nulPosition? dir.toList = none ∧ nulPosition? target.path.toList = none

instance (dir : String) (target : OutputTarget) : Decidable (Handed dir target) :=
  inferInstanceAs (Decidable (_ ∧ _))

/-- A child goes to the directory and then gets a descriptor for the target, as it does in front of
its program. -/
def ChildGets (m : Machine) (pid : Pid) (dir : String) (target : OutputTarget) (fd : Fd)
    (m' : Machine) : Prop :=
  Handed dir target ∧ ∃ p moved p', m.process? pid = some p ∧
    m.perform p (.enter dir) = .answer (r := .enter dir) (.ok ()) moved ∧
    moved.process? pid = some p' ∧
    moved.perform p' (.openFile target.path (.output (Child.outputFlags target.mode)) true) =
      .answer (r := .openFile target.path (.output (Child.outputFlags target.mode)) true)
        (.ok fd) m'

/-- The shell opens the target. -/
def ShellOpens (m : Machine) (dir : String) (target : OutputTarget) (o : Opening) : Prop :=
  ∃ fd m', m.ShellGets dir target fd m' ∧ m'.Holds m.shell fd o

/-- A child opens the target. -/
def ChildOpens (m : Machine) (pid : Pid) (dir : String) (target : OutputTarget) (o : Opening) :
    Prop :=
  ∃ fd m', m.ChildGets pid dir target fd m' ∧ m'.Holds pid fd o

/-- What comes of opening a target for output in a directory, if things made there get these
permissions. -/
def OpensIn (m : Machine) (there : Location) (target : OutputTarget) (permissions : Nat)
    (o : Opening) : Prop :=
  ∃ found disk place, m.disk.Opens there target.path (target.mode == .truncate) permissions found
      (disk, place) ∧ m.executes found = false ∧
    o = ⟨disk.nodes, m.openFiles.size,
      openPlace disk place (.ofMode (.write target.mode 0o644))⟩

lemma openPlace_seenAs {disk : Disk} {shown : NodeId → Option Node} {place : Location}
    {access : Access} (stored : disk.Stores place.node) :
    openPlace (disk.seenAs shown) place access = openPlace disk place access := by
  unfold openPlace
  rw [stored.node_seenAs]

section Agreeing

variable {s c : Process} {dir : String} {target : OutputTarget} {there : Location} {o : Opening}

lemma shellProcess_eq (own : m.process? m.shell = some s) : m.shellProcess = s := by
  unfold shellProcess
  rw [own]
  rfl

/-- The options with which the shell opens an output file ask for the same as the flags with which
a child does. -/
lemma openMode_outputOptions (mode : OutputMode) :
    (outputOptions mode).openMode = .ok (.output (Child.outputFlags mode)) := by
  cases mode <;> rfl

/-- The shell opens a path for output as a child does, if it is one that a call can take. -/
lemma host_openOutput_iff (own : m.process? m.shell = some s) :
    m.host (.openOutput path (outputOptions output)) = some (.ok fd, m') ↔
      path.contains '\x00' = false ∧
        m.openPath s path (.output (Child.outputFlags output)) true = .ok (m', fd) := by
  have asked : (do m.openPath m.shellProcess path (← (outputOptions output).openMode) true) =
      m.openPath s path (.output (Child.outputFlags output)) true := by
    rw [openMode_outputOptions, shellProcess_eq own]
    rfl
  rw [← withPath_eq_ok_iff]
  unfold host
  dsimp only
  rw [asked]
  cases withPath path (m.openPath s path (.output (Child.outputFlags output)) true) with
  | error e => exact ⟨nofun, nofun⟩
  | ok result =>
    constructor
    · intro h
      cases h
      rfl
    · intro h
      cases h
      rfl

/-- What it takes for the shell to get a descriptor for the target. -/
theorem shellGets_iff (own : m.process? m.shell = some s) :
    m.ShellGets dir target fd m' ↔
      (Path.join dir target.path).contains '\x00' = false ∧ HasRoom s ∧
        ∃ found disk place, (m.view s.pid).Opens s.cwd (Path.join dir target.path)
          (target.mode == .truncate) (s.permitted 0o644) found (disk, place) ∧
        m.executes found = false ∧ fd = s.descriptors.lowestFree ∧
        m' = m.withOpened s disk
          (openPlace disk place (.ofMode (.write target.mode 0o644))) true := by
  unfold ShellGets
  rw [host_openOutput_iff own, Child.openMode_outputFlags, openPath_eq_ok_iff]

/-- The shell stays the shell. -/
theorem ShellGets.shell_eq (own : m.process? m.shell = some s)
    (h : m.ShellGets dir target fd m') : m'.shell = m.shell := by
  obtain ⟨-, -, _, disk, place, -, -, -, rfl⟩ := (shellGets_iff own).1 h
  rfl

/-- The shell opens the target as any process does, by the joined path. -/
theorem shellOpens_iff_opens (own : m.process? m.shell = some s) :
    m.ShellOpens dir target o ↔
      (Path.join dir target.path).contains '\x00' = false ∧ HasRoom s ∧
        ∃ found disk place, (m.view s.pid).Opens s.cwd (Path.join dir target.path)
          (target.mode == .truncate) (s.permitted 0o644) found (disk, place) ∧
        m.executes found = false ∧ o = ⟨disk.nodes, m.openFiles.size,
          openPlace disk place (.ofMode (.write target.mode 0o644))⟩ := by
  have pid : s.pid = m.shell := pid_of_process? own
  have own' : m.process? s.pid = some s := by rw [pid, own]
  have opens : m.ShellOpens dir target o ↔
      (Path.join dir target.path).contains '\x00' = false ∧ ∃ fd m',
        m.openPath s (Path.join dir target.path) (.write target.mode 0o644) true = .ok (m', fd) ∧
          m'.Holds s.pid fd o := by
    unfold ShellOpens ShellGets
    simp only [host_openOutput_iff own, Child.openMode_outputFlags, pid, and_assoc, exists_and_left]
  rw [opens, openPath_holds_iff own']

lemma shellOpens_iff_opensIn (own : m.process? m.shell = some s)
    (leads : m.disk.Leads dir target.path there) :
    m.ShellOpens dir target o ↔
      '\x00' ∉ target.path.toList ∧ HasRoom s ∧ m.disk.WithinLinks (Path.join dir target.path) ∧
        m.OpensIn there target (s.permitted 0o644) o := by
  rw [shellOpens_iff_opens own, Path.contains_nul_join_iff leads.dirPlain]
  refine and_congr_right fun _ => and_congr_right fun _ => ?_
  constructor
  · rintro ⟨found, disk, place, opened, idle, rfl⟩
    obtain ⟨within, own, opened', rfl⟩ := leads.opens_join_seenAs_iff.1 opened
    have stored := opened'.stores (leads.stores opened')
    refine ⟨within, found, own, place, opened', idle, ?_⟩
    rw [openPlace_seenAs stored]
    rfl
  · rintro ⟨within, found, own, place, opened, idle, rfl⟩
    have stored := opened.stores (leads.stores opened)
    refine ⟨found, own.seenAs (m.shownNode s.pid), place,
      leads.opens_join_seenAs_iff.2 ⟨within, own, opened, rfl⟩, idle, ?_⟩
    rw [openPlace_seenAs stored]
    rfl

lemma perform_openFile_iff {mode : OpenMode} :
    m.perform p (.openFile path mode closeOnExec) =
        .answer (r := .openFile path mode closeOnExec) (.ok fd) m' ↔
      m.openPath p path mode closeOnExec = .ok (m', fd) := by
  rw [perform_openFile]
  cases m.openPath p path mode closeOnExec with
  | error e => exact ⟨nofun, nofun⟩
  | ok result =>
    constructor
    · intro h
      cases h
      rfl
    · intro h
      cases h
      rfl

/-- Which programs run does not depend on anything else about the processes. -/
theorem executes_modifyProcess {f : Process → Process} (ended : ∀ p, (f p).hasEnded = p.hasEnded)
    (program : ∀ p, (f p).executable = p.executable) (found : Target) :
    (m.modifyProcess pid f).executes found = m.executes found := by
  cases found with
  | missing up name => rfl
  | found l =>
    unfold executes modifyProcess
    dsimp only
    rw [List.any_map]
    congr 1
    funext q
    rw [Function.comp_apply]
    by_cases own : q.pid = pid
    · rw [if_pos own, ended, program]
    · rw [if_neg own]

/-- The machine once a process has gone to a place. -/
def movedTo (m : Machine) (pid : Pid) (there : Location) : Machine :=
  m.modifyProcess pid ({ · with cwd := there })

/-- A child that gets to the directory opens the target as any process does that is there. -/
lemma childOpens_iff_opens (own : m.process? c.pid = some c)
    (entered : (m.view c.pid).enter c.cwd dir = .ok there) :
    m.ChildOpens c.pid dir target o ↔
      Handed dir target ∧ HasRoom c ∧
        ∃ found disk place, ((m.movedTo c.pid there).view c.pid).Opens there target.path
          (target.mode == .truncate) (c.permitted 0o644) found (disk, place) ∧
        m.executes found = false ∧ o = ⟨disk.nodes, m.openFiles.size,
          openPlace disk place (.ofMode (.write target.mode 0o644))⟩ := by
  let c' : Process := { c with cwd := there }
  have goes : m.perform c (.enter dir) =
      .answer (r := .enter dir) (.ok ()) (m.movedTo c.pid there) := perform_enter_of_ok entered
  have gone : (m.movedTo c.pid there).process? c'.pid = some c' := by
    unfold movedTo
    rw [process?_modifyProcess_self, own]
    · rfl
    · exact fun _ => rfl
  have idle (found : Target) : (m.movedTo c.pid there).executes found = m.executes found := by
    apply executes_modifyProcess
    · exact fun _ => rfl
    · exact fun _ => rfl
  have opens : m.ChildOpens c.pid dir target o ↔ Handed dir target ∧
      ∃ fd m', (m.movedTo c.pid there).openPath c' target.path (.write target.mode 0o644) true =
        .ok (m', fd) ∧ m'.Holds c'.pid fd o := by
    unfold ChildOpens ChildGets
    rw [Child.openMode_outputFlags]
    constructor
    -- process, place and table in between are determined by the calls
    · rintro ⟨fd, m', ⟨handed, p, moved, p', found, goes', after, opened⟩, holds⟩
      cases own.symm.trans found
      cases goes.symm.trans goes'
      cases gone.symm.trans after
      exact ⟨handed, fd, m', perform_openFile_iff.1 opened, holds⟩
    · rintro ⟨handed, fd, m', opened, holds⟩
      exact ⟨fd, m', ⟨handed, c, _, c', own, goes, gone, perform_openFile_iff.2 opened⟩, holds⟩
  rw [opens, openPath_holds_iff gone]
  simp only [idle]
  rfl

lemma childOpens_iff_opensIn (own : m.process? pid = some c)
    (leads : m.disk.Leads dir target.path there) :
    m.ChildOpens pid dir target o ↔
      '\x00' ∉ target.path.toList ∧ HasRoom c ∧ m.OpensIn there target (c.permitted 0o644) o := by
  obtain rfl := pid_of_process? own
  have handed : Handed dir target ↔ '\x00' ∉ target.path.toList := by
    rw [Handed, nulPosition?_eq_none_iff, nulPosition?_eq_none_iff, and_iff_right leads.dirPlain]
  rw [childOpens_iff_opens own (leads.enter_seenAs c.cwd), handed]
  refine and_congr_right fun _ => and_congr_right fun _ => ?_
  constructor
  -- what is opened is stored on the disk, so the process sees it as it is
  · rintro ⟨found, disk, place, opened, idle, rfl⟩
    obtain ⟨own, opened', rfl⟩ := (Disk.opens_seenAs_iff leads.pathKept).1 opened
    have stored := opened'.stores (leads.stores opened')
    refine ⟨found, own, place, opened', idle, ?_⟩
    rw [openPlace_seenAs stored]
    rfl
  · rintro ⟨found, own, place, opened, idle, rfl⟩
    have stored := opened.stores (leads.stores opened)
    refine ⟨found, own.seenAs ((m.movedTo c.pid there).shownNode c.pid), place,
      (Disk.opens_seenAs_iff leads.pathKept).2 ⟨own, opened, rfl⟩, idle, ?_⟩
    rw [openPlace_seenAs stored]
    rfl

/-- A child opens what the path leads to in the directory. -/
theorem exists_childOpens {found : Target} {result : Disk × Location}
    (own : m.process? c.pid = some c) (entered : (m.view c.pid).enter c.cwd dir = .ok there)
    (handed : Handed dir target) (room : HasRoom c)
    (opens : ((m.movedTo c.pid there).view c.pid).Opens there target.path
      (target.mode == .truncate) (c.permitted 0o644) found result)
    (idle : m.executes found = false) : ∃ o, m.ChildOpens c.pid dir target o :=
  ⟨_, (childOpens_iff_opens own entered).2 ⟨handed, room, found, _, _, opens, idle, rfl⟩⟩

/-- The shell opens nothing by a path that leads nowhere. -/
theorem not_shellOpens_of_error {e : Errno} (own : m.process? m.shell = some s)
    (lost : (m.view s.pid).resolveShort s.cwd (Path.join dir target.path) = .error e)
    (o : Opening) : ¬ m.ShellOpens dir target o := by
  intro opens
  obtain ⟨-, -, found, disk, place, opened, -⟩ := (shellOpens_iff_opens own).1 opens
  cases lost.symm.trans opened.resolved

/-- **The shell and a child open the same file in the same way**, if they may have as many
descriptors and keep back the same permissions. Only the links of the directory count for the shell
together with those of the path. -/
theorem shellOpens_iff (shell : m.process? m.shell = some s) (child : m.process? pid = some c)
    (room : HasRoom s ↔ HasRoom c) (mask : s.mask = c.mask)
    (leads : m.disk.Leads dir target.path there) :
    m.ShellOpens dir target o ↔
      m.ChildOpens pid dir target o ∧ m.disk.WithinLinks (Path.join dir target.path) := by
  have permitted : s.permitted 0o644 = c.permitted 0o644 := by
    unfold Process.permitted
    rw [mask]
  rw [shellOpens_iff_opensIn shell leads, childOpens_iff_opensIn child leads, permitted, room,
    and_assoc, and_assoc]
  exact and_congr_right fun _ => and_congr_right fun _ => and_comm

end Agreeing

end Machine

end CommandShell
