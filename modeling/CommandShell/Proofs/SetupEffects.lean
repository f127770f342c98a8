import CommandShell.Machine.Schedule
import CommandShell.Proofs.Directory
import CommandShell.Proofs.PlanText
import CommandShell.Proofs.SetupSteps

/-!
# What a setup does to a machine

The calls of a setup as deeds of a process on a machine (`Deed`). Between them others may do what
they like, as long as the process stays where it is; and a call may also fail for reasons that are
not the machine's, as an interrupted one does, and then it has changed nothing (`Machine.Answers`).

Three things are known of every deed of a setup, at whatever stage it is. No other process is
touched (`Machine.Answers.others`). What is stored changes in two cases only: the file of the output
has been opened, or a failure has been told into the file behind the standard error
(`Machine.Answers.stored`). And the paths of files and programs are looked up from where the child
has gone, which is the working directory of the shell (`Deeds.place_of_placed`).
-/

namespace CommandShell

open Dialogue

namespace Machine

variable {m m' : Machine} {p : Process} {pid : Pid}

/-! ## One process of a machine -/

lemma pid_of_process? (h : m.process? pid = some p) : p.pid = pid := by
  simpa using List.find?_some h

lemma process?_modifyProcess (m : Machine) (pid q : Pid) {f : Process → Process}
    (same : ∀ p, (f p).pid = p.pid) :
    (m.modifyProcess pid f).process? q =
      (m.process? q).map fun p => if p.pid = pid then f p else p := by
  unfold process? modifyProcess
  rw [List.find?_map]
  congr 2
  funext p
  rw [Function.comp_apply]
  split <;> simp [same]

lemma process?_modifyProcess_of_ne {q : Pid} (other : q ≠ pid) {f : Process → Process}
    (same : ∀ p, (f p).pid = p.pid) :
    (m.modifyProcess pid f).process? q = m.process? q := by
  rw [process?_modifyProcess m pid q same]
  cases h : m.process? q with
  | none => rfl
  | some p =>
    rw [Option.map_some, if_neg]
    rw [pid_of_process? h]
    exact other

lemma process?_modifyProcess_self {f : Process → Process} (same : ∀ p, (f p).pid = p.pid) :
    (m.modifyProcess pid f).process? pid = (m.process? pid).map f := by
  rw [process?_modifyProcess m pid pid same]
  cases h : m.process? pid with
  | none => rfl
  | some p => rw [Option.map_some, Option.map_some, if_pos (pid_of_process? h)]

/-- Where a process is. -/
def placeOf? (m : Machine) (pid : Pid) : Option Location :=
  (m.process? pid).map (·.cwd)

lemma placeOf?_moved {place : Location} (h : m.process? pid = some p) :
    (m.modifyProcess pid ({ · with cwd := place })).placeOf? pid = some place := by
  rw [placeOf?, process?_modifyProcess_self, h]
  · rfl
  · exact fun _ => rfl

/-- Nothing has changed for the processes, but for one of them, which has stayed where it was. -/
structure StaysIn (pid : Pid) (m m' : Machine) : Prop where
  others : ∀ q, q ≠ pid → m'.process? q = m.process? q
  place : m'.placeOf? pid = m.placeOf? pid

namespace StaysIn

lemma of_processes_eq (h : m'.processes = m.processes) : StaysIn pid m m' := by
  have same (q : Pid) : m'.process? q = m.process? q := by
    unfold process?
    rw [h]
  exact ⟨fun q _ => same q, by rw [placeOf?, placeOf?, same]⟩

lemma refl (m : Machine) : StaysIn pid m m := of_processes_eq rfl

lemma trans {m'' : Machine} (first : StaysIn pid m m') (second : StaysIn pid m' m'') :
    StaysIn pid m m'' :=
  ⟨fun q other => (second.others q other).trans (first.others q other),
    second.place.trans first.place⟩

lemma modifyProcess {f : Process → Process} (same : ∀ p, (f p).pid = p.pid)
    (stays : ∀ p, (f p).cwd = p.cwd) : StaysIn pid m (m.modifyProcess pid f) := by
  refine ⟨fun q other => process?_modifyProcess_of_ne other same, ?_⟩
  unfold placeOf?
  rw [process?_modifyProcess_self same]
  cases m.process? pid with
  | none => rfl
  | some p => exact congrArg some (stays p)

end StaysIn

/-! ## Opening and writing -/

/-- A file that is opened is added to the table, and its descriptor to the process. -/
lemma install_eq_ok {f : OpenFile} {closeOnExec : Bool} {fd : Fd}
    (h : m.install p f closeOnExec = .ok (m', fd)) :
    ∃ descriptors, p.descriptors.allocate p.limit ⟨m.openFiles.size, closeOnExec⟩ =
        .ok (fd, descriptors) ∧
      m' = ({ m with openFiles := m.openFiles.push f }).modifyProcess p.pid
        ({ · with descriptors }) := by
  unfold install addOpenFile at h
  dsimp only at h
  split at h
  · cases h
  · rename_i found allocated
    cases h
    exact ⟨_, allocated, rfl⟩

lemma openPath_eq_ok {path : String} {mode : OpenMode} {closeOnExec : Bool} {fd : Fd}
    (h : m.openPath p path mode closeOnExec = .ok (m', fd)) :
    ∃ disk place, (mode = .read → disk = m.view p.pid) ∧
      (m.withView disk).install p (openPlace disk place (.ofMode mode)) closeOnExec =
        .ok (m', fd) := by
  unfold openPath at h
  split at h
  · cases h
  dsimp only at h
  split at h
  · cases h
  -- reading makes no file, so the disk is as it is seen
  cases mode with
  | read =>
    obtain ⟨place, -, h⟩ := bind_eq_ok_iff.1 h
    exact ⟨_, place, fun _ => rfl, h⟩
  | output flags =>
    obtain ⟨⟨disk, place⟩, -, h⟩ := bind_eq_ok_iff.1 h
    exact ⟨disk, place, nofun, h⟩
  | update flags =>
    obtain ⟨⟨disk, place⟩, -, h⟩ := bind_eq_ok_iff.1 h
    obtain ⟨_, -, h⟩ := bind_eq_ok_iff.1 h
    exact ⟨disk, place, nofun, h⟩

lemma StaysIn.of_openPath {path : String} {mode : OpenMode} {closeOnExec : Bool} {fd : Fd}
    (h : m.openPath p path mode closeOnExec = .ok (m', fd)) : StaysIn p.pid m m' := by
  obtain ⟨disk, place, -, installed⟩ := openPath_eq_ok h
  obtain ⟨descriptors, -, rfl⟩ := install_eq_ok installed
  have added : StaysIn p.pid m
      { m.withView disk with
        openFiles := m.openFiles.push (openPlace disk place (.ofMode mode)) } :=
    .of_processes_eq rfl
  exact added.trans (.modifyProcess (fun _ => rfl) fun _ => rfl)

lemma nodes_of_openPath_read {path : String} {closeOnExec : Bool} {fd : Fd}
    (h : m.openPath p path .read closeOnExec = .ok (m', fd)) : m'.disk.nodes = m.disk.nodes := by
  obtain ⟨disk, place, same, installed⟩ := openPath_eq_ok h
  obtain ⟨descriptors, -, rfl⟩ := install_eq_ok installed
  rw [same rfl]
  rfl

lemma Disk.getElem?_nodes_set {disk : Disk} {id : NodeId} {n : Node} {number : Nat}
    (other : id ≠ .stored number) : (disk.set id n).nodes[number]? = disk.nodes[number]? := by
  unfold Disk.set
  cases id with
  | stored own =>
    refine Array.getElem?_setIfInBounds_ne ?_
    rintro rfl
    exact other rfl
  | _ => rfl

/-- What is written goes to the node of the open file, and nowhere else. -/
lemma writeTo_eq_moved {file : Nat} {f : OpenFile} {bytes : ByteArray}
    (h : m.writeTo file f bytes = .moved () m') :
    m'.processes = m.processes ∧ ∀ number, m'.disk.nodes[number]? ≠ m.disk.nodes[number]? →
      f.place.node = .stored number := by
  unfold writeTo at h
  split at h
  · cases h
  -- neither a device nor a pipe keeps anything on the disk
  split at h
  · rename_i place offset access
    split at h
    · cases h
      refine ⟨rfl, fun number changed => ?_⟩
      refine Classical.byContradiction fun other => changed ?_
      exact Disk.getElem?_nodes_set other
    · cases h
  · cases h
  · cases h
  · split at h
    · cases h
    · cases h
      exact ⟨rfl, fun number changed => absurd rfl changed⟩
  · split at h
    · cases h
    dsimp only at h
    split at h
    · cases h
    · cases h
      exact ⟨rfl, fun number changed => absurd rfl changed⟩

/-! ## Answers -/

/-- The call has failed. -/
def hasFailed : Exchange Syscalls → Bool
  | ⟨.enter _, .error _⟩ | ⟨.openFile _ _ _, .error _⟩ | ⟨.duplicate _ _, .error _⟩
  | ⟨.keepOnExec _, .error _⟩ | ⟨.exec _ _, some _⟩ => true
  | _ => false

/-- `m.Answers pid x m'`: the process `pid` makes a call on a machine and gets its answer, after
which the machine is `m'`. The machine performs the call, and a call that turns the process into
another program has nobody to answer; or the call fails for other reasons, and changes nothing. -/
inductive Answers (m : Machine) (pid : Pid) : Exchange Syscalls → Machine → Prop
  | performed {p : Process} {r : Syscall} {a : r.Answer} {m' : Machine}
      (own : m.process? pid = some p) (done : m.perform p r = .answer a m') :
      Answers m pid ⟨r, a⟩ m'
  | turned {p : Process} {program : String} {argv : List String} {m' : Machine}
      (own : m.process? pid = some p)
      (done : m.perform p (.exec program argv) = .replaced m') :
      Answers m pid ⟨.exec program argv, none⟩ m'
  | refused {x : Exchange Syscalls} (failed : hasFailed x = true) : Answers m pid x m

lemma settleUnit_eq_answer {r : Syscall} {h : r.Answer = Except Errno Unit}
    {result : Except Errno Machine} {a : r.Answer}
    (done : m.settleUnit h result = .answer a m') :
    result = .ok m' ∨ (∃ e, result = .error e) ∧ m' = m := by
  unfold settleUnit at done
  cases result with
  | ok changed =>
    cases done
    exact .inl rfl
  | error e =>
    cases done
    exact .inr ⟨⟨e, rfl⟩, rfl⟩

lemma StaysIn.of_withDescriptors {result : Except Errno Descriptors}
    (h : m.withDescriptors p result = .ok m') :
    StaysIn p.pid m m' ∧ m'.disk = m.disk := by
  cases result with
  | error e => cases h
  | ok descriptors =>
    cases h
    exact ⟨.modifyProcess (fun _ => rfl) fun _ => rfl, rfl⟩

/-- What a call of a setup other than a change of the directory leaves as it is. -/
structure Spares (pid : Pid) (x : Exchange Syscalls) (m m' : Machine) : Prop where
  stays : StaysIn pid m m'
  /-- Something stored changes by opening a file for writing, or by writing. -/
  stored : ∀ number, m'.disk.nodes[number]? ≠ m.disk.nodes[number]? →
    (∃ path mode closeOnExec fd, x = ⟨.openFile path mode closeOnExec, .ok fd⟩ ∧ mode ≠ .read) ∨
    ∃ fd bytes p file f, x.request = .write fd bytes ∧ m.process? pid = some p ∧
      m.fileOf? p fd = some (file, f) ∧ f.place.node = .stored number

lemma Spares.of_disk_eq {x : Exchange Syscalls} (stays : StaysIn pid m m')
    (same : m'.disk.nodes = m.disk.nodes) : Spares pid x m m' :=
  ⟨stays, fun _ changed => absurd (by rw [same]) changed⟩

/-- A change of descriptors, if it succeeds, is all that such a call does. -/
lemma Spares.of_settleUnit {r : Syscall} (h : r.Answer = Except Errno Unit) {a : r.Answer}
    {result : Except Errno Descriptors}
    (done : m.settleUnit h (m.withDescriptors p result) = .answer a m') :
    Spares p.pid ⟨r, a⟩ m m' := by
  rcases settleUnit_eq_answer done with changed | ⟨-, rfl⟩
  · obtain ⟨stays, same⟩ := StaysIn.of_withDescriptors changed
    exact .of_disk_eq stays (by rw [same])
  · exact .of_disk_eq (.refl _) rfl

/-! The calls whose answers are looked at more closely, one by one. -/

lemma perform_enter (m : Machine) (p : Process) (path : String) :
    m.perform p (.enter path) = m.settleUnit rfl
      (((m.view p.pid).enter p.cwd path).map fun cwd => m.modifyProcess p.pid ({ · with cwd })) :=
  rfl

lemma perform_openFile (m : Machine) (p : Process) (path : String) (mode : OpenMode)
    (closeOnExec : Bool) :
    m.perform p (.openFile path mode closeOnExec) =
      match m.openPath p path mode closeOnExec with
      | .ok (m, fd) => .answer (r := .openFile path mode closeOnExec) (.ok fd) m
      | .error e => .answer (r := .openFile path mode closeOnExec) (.error e) m :=
  rfl

lemma perform_enter_of_ok {path : String} {place : Location}
    (h : (m.view p.pid).enter p.cwd path = .ok place) :
    m.perform p (.enter path) =
      .answer (r := .enter path) (.ok ()) (m.modifyProcess p.pid ({ · with cwd := place })) := by
  rw [perform_enter, h]
  rfl

lemma perform_openFile_of_error {path : String} {mode : OpenMode} {closeOnExec : Bool} {e : Errno}
    (h : m.openPath p path mode closeOnExec = .error e) :
    m.perform p (.openFile path mode closeOnExec) =
      .answer (r := .openFile path mode closeOnExec) (.error e) m := by
  rw [perform_openFile, h]

lemma perform_exec (m : Machine) (p : Process) (program : String) (argv : List String) :
    m.perform p (.exec program argv) =
      match m.findProgram p program argv with
      | .ok (path, loaded) => .replaced (m.become p path loaded)
      | .error e => .answer (r := .exec program argv) (some e) m :=
  rfl

lemma perform_write (m : Machine) (p : Process) (fd : Fd) (bytes : ByteArray) :
    m.perform p (.write fd bytes) =
      match m.fileOf? p fd with
      | none => m.settleUnit rfl (.error .EBADF)
      | some (file, f) =>
        match m.writeTo file f bytes with
        | .moved _ m => m.settleUnit rfl (.ok m)
        | .failed e => m.settleUnit rfl (.error e)
        | .waits => .blocked
        | .broken =>
          if p.dispositions.brokenPipe = .default then
            .replaced (m.strike p Signal.SIGPIPE.number)
          else m.settleUnit rfl (.error .EPIPE) :=
  rfl

/-- What the machine performs for a setup, other than a change of the directory and of programs. -/
theorem Spares.of_perform {r : Syscall} {a : r.Answer} (setup : r.isOfSetup = true)
    (stays : ∀ path, r ≠ .enter path) (own : m.process? p.pid = some p)
    (done : m.perform p r = .answer a m') : Spares p.pid ⟨r, a⟩ m m' := by
  cases r with
  | defaultSignals =>
    cases done
    exact .of_disk_eq (.modifyProcess (fun _ => rfl) fun _ => rfl) rfl
  | ownGroup =>
    cases done
    exact .of_disk_eq (.modifyProcess (fun _ => rfl) fun _ => rfl) rfl
  | enter path => exact absurd rfl (stays path)
  | openFile path mode closeOnExec =>
    rw [perform_openFile] at done
    split at done
    · rename_i opened fd hopened
      cases done
      by_cases reads : mode = .read
      · subst reads
        exact .of_disk_eq (.of_openPath hopened) (nodes_of_openPath_read hopened)
      · exact ⟨.of_openPath hopened, fun _ _ => .inl ⟨_, _, _, _, rfl, reads⟩⟩
    · cases done
      exact .of_disk_eq (.refl _) rfl
  | close fd => exact .of_settleUnit rfl done
  | duplicate source target => exact .of_settleUnit rfl done
  | keepOnExec fd => exact .of_settleUnit rfl done
  | exec program argv =>
    rw [perform_exec] at done
    split at done
    · cases done
    · cases done
      exact .of_disk_eq (.refl _) rfl
  | write fd bytes =>
    rw [perform_write] at done
    split at done
    · rcases settleUnit_eq_answer done with failed | ⟨-, rfl⟩
      · cases failed
      · exact .of_disk_eq (.refl _) rfl
    · rename_i file f held
      split at done
      · rename_i moved
        rcases settleUnit_eq_answer done with changed | ⟨⟨_, failed⟩, -⟩
        · cases changed
          obtain ⟨processes, stored⟩ := writeTo_eq_moved moved
          exact ⟨.of_processes_eq processes, fun number changed =>
            .inr ⟨fd, bytes, p, file, f, rfl, own, held, stored number changed⟩⟩
        · cases failed
      · rcases settleUnit_eq_answer done with failed | ⟨-, rfl⟩
        · cases failed
        · exact .of_disk_eq (.refl _) rfl
      · cases done
      · split at done
        · cases done
        · rcases settleUnit_eq_answer done with failed | ⟨-, rfl⟩
          · cases failed
          · exact .of_disk_eq (.refl _) rfl
  | _ => exact absurd setup Bool.false_ne_true

lemma Answers.spares {x : Exchange Syscalls} (h : m.Answers pid x m')
    (setup : x.request.isOfSetup = true) (stays : ∀ path, x.request ≠ .enter path) :
    Spares pid x m m' := by
  cases h with
  | performed own done =>
    obtain rfl := pid_of_process? own
    exact .of_perform setup stays own done
  | turned own done =>
    obtain rfl := pid_of_process? own
    rw [perform_exec] at done
    split at done
    · cases done
      exact .of_disk_eq (.modifyProcess (fun _ => rfl) fun _ => rfl) rfl
    · cases done
  | refused => exact .of_disk_eq (.refl m) rfl

/-- A change of the directory leads to where the path does, or to nothing. -/
lemma Answers.of_enter {path : String} {a : Except Errno Unit}
    (h : m.Answers pid ⟨.enter path, a⟩ m') :
    (∃ p place, m.process? pid = some p ∧ (m.view pid).enter p.cwd path = .ok place ∧ a = .ok () ∧
        m' = m.modifyProcess pid ({ · with cwd := place })) ∨
      (∃ e, a = .error e) ∧ m' = m := by
  cases h with
  | @performed p _ _ _ own done =>
    obtain rfl := pid_of_process? own
    rw [perform_enter] at done
    cases entered : (m.view p.pid).enter p.cwd path with
    | ok place =>
      rw [entered] at done
      cases done
      exact .inl ⟨p, place, own, entered, rfl, rfl⟩
    | error e =>
      rw [entered] at done
      cases done
      exact .inr ⟨⟨e, rfl⟩, rfl⟩
  | refused failed =>
    cases a with
    | ok _ => cases failed
    | error e => exact .inr ⟨⟨e, rfl⟩, rfl⟩

/-- Nothing that is stored changes with the directory of a process, and no other process. -/
theorem Answers.others {x : Exchange Syscalls} (h : m.Answers pid x m')
    (setup : x.request.isOfSetup = true) {q : Pid} (other : q ≠ pid) :
    m'.process? q = m.process? q := by
  by_cases enters : ∃ path, x.request = .enter path
  · obtain ⟨r, a⟩ := x
    obtain ⟨path, rfl⟩ := enters
    rcases h.of_enter with ⟨p, place, -, -, -, rfl⟩ | ⟨-, rfl⟩
    · exact process?_modifyProcess_of_ne other fun _ => rfl
    · rfl
  · exact (h.spares setup fun path enter => enters ⟨path, enter⟩).stays.others q other

end Machine

/-! ## Deeds -/

/-- A call of a process, with the machine in front of it and after it. -/
structure Deed where
  before : Machine
  call : Exchange Syscalls
  after : Machine

/-- `Deeds pid place deeds`: a process that is at `place` makes these calls one after another. In
between others may do what they like, as long as they leave it where it is. -/
inductive Deeds (pid : Pid) : Location → List Deed → Prop
  | nil (place : Location) : Deeds pid place []
  | cons {place next : Location} {deed : Deed} {deeds : List Deed}
      (own : deed.before.placeOf? pid = some place)
      (answered : deed.before.Answers pid deed.call deed.after)
      (goes : deed.after.placeOf? pid = some next) (rest : Deeds pid next deeds) :
      Deeds pid place (deed :: deeds)

/-- If a process goes to `dir` once, then that is what it has done before it opens a file or asks
for a program. -/
lemma GoesOnce.split_of_isPlaced {dir : String} {t before after : List (Exchange Syscalls)}
    {x : Exchange Syscalls} (h : GoesOnce dir t) (ht : t = before ++ x :: after)
    (placed : Syscall.isPlaced x.request = true) (stays : ∀ path, x.request ≠ .enter path) :
    ∃ idle later, before = idle ++ ⟨.enter dir, .ok ()⟩ :: later ∧
      (∀ y ∈ idle, ∀ path, y.request ≠ .enter path) ∧
      ∀ y ∈ later, ∀ path, y.request ≠ .enter path := by
  obtain ⟨idle, answer, rest, rfl, first, once, refused⟩ := h
  -- before the entry nothing is placed, and after a refused one nothing either
  have idles : ∀ y ∈ idle, ∀ path, y.request ≠ .enter path := fun y hy path enters => by
    have idle := first y hy
    rw [enters] at idle
    cases idle
  have not_first : x ∉ idle := fun hx => by
    rw [first x hx] at placed
    cases placed
  rcases List.append_eq_append_iff.1 ht with ⟨between, rfl, hrest⟩ | ⟨between, rfl, hbefore⟩
  · -- the call comes after everything that is done in front of the entry
    cases between with
    | nil =>
      cases hrest
      exact absurd rfl (stays dir)
    | cons y later =>
      cases hrest
      refine ⟨idle, later, ?_, idles, fun y hy => once y (List.mem_append_left _ hy)⟩
      cases answer with
      | ok _ => rfl
      | error e =>
        rw [refused e rfl x (List.mem_append_right _ List.mem_cons_self)] at placed
        cases placed
  · cases between with
    | nil =>
      cases hbefore
      exact absurd rfl (stays dir)
    | cons y later =>
      cases hbefore
      exact absurd (List.mem_append_right _ List.mem_cons_self) not_first

namespace Deeds

variable {pid : Pid} {place : Location} {idle deeds : List Deed} {deed : Deed}

lemma answers_of_mem (h : Deeds pid place deeds) (own : deed ∈ deeds) :
    deed.before.Answers pid deed.call deed.after := by
  induction h with
  | nil => cases own
  | cons _ answered _ _ ih =>
    rcases List.mem_cons.1 own with rfl | own
    · exact answered
    · exact ih own

/-- As long as it makes other calls of a setup, a process stays where it is. -/
lemma of_append (h : Deeds pid place (idle ++ deeds))
    (setup : ∀ deed ∈ idle, deed.call.request.isOfSetup = true)
    (stays : ∀ deed ∈ idle, ∀ path, deed.call.request ≠ .enter path) : Deeds pid place deeds := by
  induction idle generalizing place with
  | nil => exact h
  | cons deed idle ih =>
    rw [List.forall_mem_cons] at setup stays
    cases h with
    | cons own answered goes rest =>
      have same := (answered.spares setup.1 stays.1).stays.place
      rw [goes, own] at same
      cases same
      exact ih rest setup.2 stays.2

/-- Files and programs are looked up from where the process has gone. -/
theorem place_of_placed {past more : List Deed} {dir : String} {u : List (Exchange Syscalls)}
    (h : Deeds pid place (past ++ deed :: more))
    (once : GoesOnce dir ((past ++ deed :: more).map (·.call) ++ u))
    (setup : ∀ deed ∈ past, deed.call.request.isOfSetup = true)
    (placed : Syscall.isPlaced deed.call.request = true)
    (stays : ∀ path, deed.call.request ≠ .enter path) :
    ∃ entry ∈ past, ∃ there, entry.call = ⟨.enter dir, .ok ()⟩ ∧
      (entry.before.view pid).enter place dir = .ok there ∧
      deed.before.placeOf? pid = some there := by
  have order : (past ++ deed :: more).map (·.call) ++ u =
      past.map (·.call) ++ deed.call :: (more.map (·.call) ++ u) := by
    simp only [List.map_append, List.map_cons, List.append_assoc, List.cons_append]
  obtain ⟨idle, later, hpast, idles, laters⟩ := once.split_of_isPlaced order placed stays
  obtain ⟨idle, entries, rfl, rfl, hentries⟩ := List.map_eq_append_iff.1 hpast
  obtain ⟨entry, later, rfl, entered, rfl⟩ := List.map_eq_cons_iff.1 hentries
  rw [List.forall_mem_append, List.forall_mem_cons] at setup
  rw [List.append_assoc, List.cons_append] at h
  -- up to the entry the process stays where it started
  have arrived := h.of_append setup.1 fun deed own => idles _ (List.mem_map_of_mem own)
  cases arrived with
  | @cons _ next _ _ own answered goes rest =>
    rw [entered] at answered
    rcases answered.of_enter with ⟨p, there, hp, leads, -, hafter⟩ | ⟨⟨e, failed⟩, -⟩
    -- the entry leads from the start to `there`, and nothing leaves it again
    · have starts : p.cwd = place := by
        rw [Machine.placeOf?, hp] at own
        exact Option.some.inj own
      have reached : next = there := by
        rw [hafter, Machine.placeOf?_moved hp] at goes
        exact (Option.some.inj goes).symm
      subst starts reached
      have last := rest.of_append setup.2.2 fun deed own => laters _ (List.mem_map_of_mem own)
      cases last with
      | cons own _ _ _ =>
        exact ⟨entry, List.mem_append_right _ List.mem_cons_self, next, entered, leads, own⟩
    · cases failed

end Deeds

/-- What is known of a deed of a setup whose process was at `start` when it began, and has done
`past` before. -/
structure SetupDeed (c : Child) (pid : Pid) (start : Location) (past : List Deed) (deed : Deed) :
    Prop where
  /-- Nothing changes for the other processes: not where they are, not what they have open, and not
  what they still have to do. -/
  others : ∀ q, q ≠ pid → deed.after.process? q = deed.before.process? q
  /-- Something that is stored changes when the file of the output has been opened, or when a
  failure is told into it. -/
  stored : ∀ number, deed.after.disk.nodes[number]? ≠ deed.before.disk.nodes[number]? →
    (∃ target fd, c.segment.output = some target ∧
      deed.call = ⟨.openFile target.path (.write target.mode 0o644) true, .ok fd⟩) ∨
    ∃ subject reason p file f, deed.call.request ∈ diagnostic subject reason ∧
      deed.before.process? pid = some p ∧ deed.before.fileOf? p Fd.stderr = some (file, f) ∧
      f.place.node = .stored number
  /-- Files and programs are looked up from the working directory. -/
  placed : Syscall.isPlaced deed.call.request = true →
    (∀ path, deed.call.request ≠ .enter path) → ∃ entry ∈ past, ∃ there,
      entry.call = ⟨.enter c.workingDir, .ok ()⟩ ∧
      (entry.before.view pid).enter start c.workingDir = .ok there ∧
      deed.before.placeOf? pid = some there

lemma Child.mem_steps_openFile {c : Child} {step : SetupStep} {path : String} {mode : OpenMode}
    {closeOnExec : Bool} (own : step ∈ c.steps)
    (opens : step.request = .openFile path mode closeOnExec) (writes : mode ≠ .read) :
    ∃ target, c.segment.output = some target ∧ step = .openOutput target := by
  simp only [steps, List.mem_cons, List.mem_append, List.mem_map, Option.mem_toList,
    List.not_mem_nil, or_false] at own
  rcases own with rfl | ((⟨path, -, rfl⟩ | ⟨target, htarget, rfl⟩) | rfl)
  · cases opens
  · cases opens
    exact absurd rfl writes
  · exact ⟨target, htarget, rfl⟩
  · cases opens

/-- What is known of the deeds of a setup at whatever stage it is. -/
lemma Child.setupDeed (c : Child) {pid : Pid} {start : Location} {past more : List Deed}
    {deed : Deed} {rest : Dialogue Syscalls Started} (h : Deeds pid start (past ++ deed :: more))
    (reached : c.setup.Reaches ((past ++ deed :: more).map (·.call)) rest) :
    SetupDeed c pid start past deed := by
  obtain ⟨u, result, run⟩ := c.exists_runs_append reached
  have setup (other : Deed) (own : other ∈ past ++ deed :: more) :
      other.call.request.isOfSetup = true :=
    (c.setup_within.of_runs run).1 _ (List.mem_append_left _ (List.mem_map_of_mem own))
  have own : deed ∈ past ++ deed :: more := List.mem_append_right _ List.mem_cons_self
  have answered := h.answers_of_mem own
  refine ⟨fun q other => answered.others (setup deed own) other, fun number changed => ?_,
    h.place_of_placed (c.worksIn _ _ run) fun other hpast =>
      setup other (List.mem_append_left _ hpast)⟩
  -- entering a directory writes nothing; every other call spares all but its own file
  by_cases enters : ∃ path, deed.call.request = .enter path
  · obtain ⟨before, ⟨r, a⟩, after⟩ := deed
    obtain ⟨path, rfl⟩ := enters
    rcases answered.of_enter with ⟨p, place, -, -, -, moved⟩ | ⟨-, same⟩
    · exact absurd (congrArg (fun m : Machine => m.disk.nodes[number]?) moved) changed
    · exact absurd (congrArg (fun m : Machine => m.disk.nodes[number]?) same) changed
  · have spared := answered.spares (setup deed own) fun path enter => enters ⟨path, enter⟩
    have known := ((c.setupRun_of_runs _ _ run).setupCall deed.call
      (List.mem_append_left _ (List.mem_map_of_mem own))).request_cases
    rcases spared.stored number changed with ⟨path, mode, close, fd, hcall, writes⟩ |
      ⟨fd, bytes, p, file, f, requested, hp, hf, there⟩
    · have opened : deed.call.request = .openFile path mode close := by rw [hcall]
      -- a file that is opened for writing is that of the output
      rcases known with arranges | ⟨step, hstep, asks⟩ | ⟨subject, reason, told⟩
      · rw [opened] at arranges
        cases arranges
      · obtain ⟨target, htarget, rfl⟩ := mem_steps_openFile hstep (asks.symm.trans opened) writes
        refine .inl ⟨target, fd, htarget, ?_⟩
        cases asks.symm.trans opened
        exact hcall
      · obtain ⟨bytes, told⟩ := exists_of_mem_diagnostic told
        cases told.symm.trans opened
    · rcases known with arranges | ⟨step, hstep, asks⟩ | ⟨subject, reason, told⟩
      · rw [requested] at arranges
        cases arranges
      · have writes := asks.symm.trans requested
        cases step <;> cases writes
      · obtain ⟨told', writes⟩ := exists_of_mem_diagnostic told
        cases writes.symm.trans requested
        exact .inr ⟨subject, reason, p, file, f, told, hp, hf, there⟩

/-- **A child that cannot be set up has no further effect.** Whatever is answered, a setup takes its
steps in order, and the first one that fails is the last: the failure is told, with what was to be
entered, opened or executed, and the child ends with the code for it. So at no stage is anything
asked for that comes after a failed step. And whatever machine the child is on, none of its deeds
touches another process, nothing that is stored changes but by opening the file of the output or by
telling of a failure, and files and programs are looked up from the working directory. -/
theorem setup_stops_at_failure (c : Child) :
    (∀ t result, c.setup.Runs t result → SetupRun c.steps t result) ∧
    (∀ t rest, c.setup.Reaches t rest → ∀ (step : SetupStep) (e : Errno),
      (step.opens = true → e ≠ .EINTR) → step.failed e ∈ t →
        ∀ later : SetupStep, step.rank < later.rank → ∀ x ∈ t, x.request ≠ later.request) ∧
    ∀ pid start past deed more rest, Deeds pid start (past ++ deed :: more) →
      c.setup.Reaches ((past ++ deed :: more).map (·.call)) rest →
      SetupDeed c pid start past deed := by
  refine ⟨c.setupRun_of_runs, fun t rest reached step e fatal failed later order x hx => ?_,
    fun pid start past deed more rest deeds reached => c.setupDeed deeds reached⟩
  obtain ⟨u, result, run⟩ := c.exists_runs_append reached
  exact (c.setupRun_of_runs _ _ run).not_requested c.steps_sorted fatal
    (List.mem_append_left _ failed) order x (List.mem_append_left _ hx)

/-- A child that is to copy a file into `kept`, both in `/work`. -/
def lostInput : Child where
  segment := { program := "cat", input := some "absent", output := some ⟨"kept", .truncate⟩ }
  workingDir := "/work"

/-- A process that can set itself up. -/
def helper : Process where
  pid := 5
  parent := 4
  group := 4
  command := "orbit"
  cwd := []
  descriptors := ⟨[]⟩
  condition := .attended

/-- It is in the root of a disk on which there is `/work`, with `kept` in it. -/
def workshop : Machine where
  disk.nodes := #[
    .directory { entries := [("work", .stored 1)] },
    .directory { entries := [("kept", .stored 2)] },
    .file 0o644 (Text.bytes "old")]
  processes := [helper]

/-- The process has gone to `/work`. -/
def inWork : Machine :=
  workshop.modifyProcess 5 ({ · with cwd := [("work", .stored 1)] })

/-- What it writes to its standard error there, behind which there is nothing. -/
def toldInWork (parts : List String) : List Deed :=
  parts.map fun part => ⟨inWork, ⟨.write Fd.stderr (Text.bytes part), .error .EBADF⟩, inWork⟩

lemma deeds_toldInWork (parts : List String) :
    Deeds 5 [("work", .stored 1)] (toldInWork parts) := by
  induction parts with
  | nil => exact .nil _
  | cons part parts ih => exact .cons rfl (.performed rfl rfl) rfl ih

/-- The child goes to `/work`, is interrupted when it opens the file of its input, and finds that it
is not there. -/
def lostInputDeeds : List Deed :=
  [⟨workshop, ⟨.defaultSignals, ()⟩, workshop⟩,
    ⟨workshop, ⟨.enter "/work", .ok ()⟩, inWork⟩,
    ⟨inWork, ⟨.openFile "absent" .read true, .error .EINTR⟩, inWork⟩,
    ⟨inWork, ⟨.openFile "absent" .read true, .error .ENOENT⟩, inWork⟩] ++
  toldInWork (diagnosticParts "absent" Errno.ENOENT.describe)

lemma lostInputDeeds_deeds : Deeds 5 [] lostInputDeeds := by
  have entered : (workshop.view 5).enter [] "/work" = .ok [("work", .stored 1)] := by cbv
  have absent : inWork.openPath { helper with cwd := [("work", .stored 1)] } "absent" .read true =
      .error .ENOENT := by cbv
  refine .cons rfl (.performed rfl rfl) rfl (.cons rfl (.performed rfl ?_) rfl
    (.cons rfl (.refused rfl) rfl (.cons rfl (.performed rfl ?_) rfl (deeds_toldInWork _))))
  · exact Machine.perform_enter_of_ok entered
  · exact Machine.perform_openFile_of_error absent

lemma lostInput_runs :
    lostInput.setup.Runs (lostInputDeeds.map (·.call)) (.ended 1) := by
  refine .of_resume (.of_resume (.of_resume (.of_resume ?_)))
  exact .of_resume (.of_resume (.of_resume (.of_resume (.of_resume (.done _)))))

theorem setup_stops_at_failure_lostInput :
    SetupRun lostInput.steps (lostInputDeeds.map (·.call)) (.ended 1) ∧
      (∀ x ∈ lostInputDeeds.map (·.call),
        x.request ≠ .openFile "kept" (.write .truncate 0o644) true) ∧
      ∀ past deed more, lostInputDeeds = past ++ deed :: more →
        SetupDeed lostInput 5 [] past deed := by
  obtain ⟨runs, stops, deeds⟩ := setup_stops_at_failure lostInput
  have reached := Dialogue.reaches_done_iff.2 lostInput_runs
  refine ⟨runs _ _ lostInput_runs, ?_, fun past deed more split => ?_⟩
  · refine stops _ _ reached (.openInput "absent") .ENOENT ?_ ?_
      (.openOutput ⟨"kept", .truncate⟩) ?_
    · decide
    · simp [lostInputDeeds, SetupStep.failed]
    · decide
  · refine deeds 5 [] past deed more (.done (.ended 1)) ?_ ?_
    · rw [← split]
      exact lostInputDeeds_deeds
    · rw [← split]
      exact reached

end CommandShell
