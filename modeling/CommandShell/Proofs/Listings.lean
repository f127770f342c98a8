import CommandShell.Proofs.Filling
import CommandShell.Proofs.Growing
import CommandShell.Proofs.Starting

/-!
# Listings in files

A line that sends the listing of the built-in commands to a file opens the file, writes the listing,
and closes it again. `Machine.Offers` says what there has to be for such a line to succeed: the
shell has a descriptor left, finds the file by the path, and may write to it. Every such line leaves
it so, with the listing behind what the mode has kept of the file (`Machine.Offers.listing`), and so
the lines can go on for as long as one likes (`Machine.Offers.runsLines`).
-/

namespace CommandShell

/-! ## Playing parts of a dialogue -/

namespace Dialogue

variable {I : Interface} {σ α β : Type} {host : Host I σ} {s s' : σ}

lemma persist_of_settles {r : I.Request} {answer : I.Answer r} {again : I.Answer r → Bool}
    (answered : host r s = some (answer, s')) (settles : again answer = false) (patience : Nat) :
    persist host r again (patience + 1) s = some ⟨answer, settles, s'⟩ := by
  unfold persist
  rw [answered]
  dsimp only
  rw [dif_neg (by simp [settles])]

lemma play_call {r : I.Request} {answer : I.Answer r} (answered : host r s = some (answer, s'))
    (patience : Nat) : (call r).play host (patience + 1) s = some (answer, s') := by
  have settled : persist host r (fun _ => false) (patience + 1) s = some ⟨answer, rfl, s'⟩ :=
    persist_of_settles answered rfl patience
  unfold call play
  rw [settled]
  rfl

lemma play_bind {d : Dialogue I α} {f : α → Dialogue I β} {a : α} {patience : Nat}
    (first : d.play host patience s = some (a, s')) :
    (d.bind f).play host patience s = (f a).play host patience s' := by
  induction d generalizing s with
  | done b =>
    cases first
    rfl
  | ask r again next ih =>
    unfold play at first
    rw [ask_bind]
    conv => lhs; unfold play
    cases settled : persist host r again patience s with
    | none =>
      rw [settled] at first
      cases first
    | some settled' =>
      rw [settled] at first
      exact ih _ settled'.settles first

end Dialogue

/-! ## Closing a descriptor -/

lemma Descriptors.lowestFree_le {d : Descriptors} {fd : Fd} (free : d.get? fd = none) :
    d.lowestFree ≤ fd := by
  by_contra above
  have before : fd < d.slots.findIdx Option.isNone := Nat.lt_of_not_le above
  have inside : fd < d.slots.length := Nat.lt_of_lt_of_le before List.findIdx_le_length
  have used := List.not_of_lt_findIdx before
  unfold get? at free
  rw [List.getElem?_eq_getElem inside, Option.join_some] at free
  rw [free] at used
  cases used

namespace Machine

variable {m m' : Machine} {p : Process} {fd : Fd} {path : String} {l : Location}
  {number mode : Nat} {content : ByteArray}

/-- A process has closed one of its descriptors. -/
structure Closed (m m' : Machine) (p : Process) (fd : Fd) : Prop where
  own : m'.process? m'.shell = some { p with descriptors := p.descriptors.put fd none }
  executes : ∀ found, m'.executes found = m.executes found
  disk : m'.disk = m.disk

lemma exists_host_close {slot : Slot} (own : m.process? m.shell = some p)
    (held : p.descriptors.get? fd = some slot) :
    ∃ closed m', m.host (.close fd) = some (closed, m') ∧ m.Closed m' p fd := by
  have pid : p.pid = m.shell := pid_of_process? own
  have own' : m.process? p.pid = some p := by rw [pid, own]
  have closes : p.descriptors.close fd = .ok (p.descriptors.put fd none) := by
    unfold Descriptors.close
    rw [held]
  let m' := m.modifyProcess p.pid ({ · with descriptors := p.descriptors.put fd none })
  have ended : ∃ closed, m.host (.close fd) = some (closed, m') := by
    unfold host
    dsimp only
    rw [shellProcess_eq own, closes]
    exact ⟨_, rfl⟩
  obtain ⟨closed, ended⟩ := ended
  refine ⟨closed, m', ended, ?_, fun found => ?_, rfl⟩
  -- closing changes the shell's own table and nothing that can be executed
  · have shell : m'.shell = p.pid := pid.symm
    rw [shell, process?_modifyProcess_self, own']
    · rfl
    · exact fun _ => rfl
  · apply executes_modifyProcess
    · exact fun _ => rfl
    · exact fun _ => rfl

/-! ## Lines that ask for the listing -/

lemma play_call {request : ShellCall} {answer : request.Answer}
    (answered : m.host request = some (answer, m')) :
    m.play (Shell.call request) = some (answer, m') :=
  Dialogue.play_call answered 9999999

lemma play_bind {α β : Type} {part : Shell α} {f : α → Shell β} {a : α}
    (first : m.play part = some (a, m')) : m.play (part >>= f) = m'.play (f a) :=
  Dialogue.play_bind first

end Machine

/-- The line asks for the listing of the built-in commands, and sends it to a file. -/
def AsksForListing (s : State) (line : String) (target : OutputTarget) : Prop :=
  ∃ plan, HasPlan s line plan ∧ Builtin.ofName? plan.left.program = some .help ∧
    plan.right = none ∧ plan.background = false ∧ plan.left.output = some target

/-- What is done for such a line. -/
def State.listInto (s : State) (arguments : List String) (target : OutputTarget) :
    Shell (State × Except CommandError Flow) := do
  let path := Path.join s.workingDir target.path
  match ← Shell.call (.openOutput path (outputOptions target.mode)) with
  | .error e => return (s, .error (.redirect target.path e))
  | .ok fd =>
    let (s, result) ← Builtin.help.execute arguments s (.file fd)
    let _ ← Shell.call (.close fd)
    return (s, result.mapError .builtin)

lemma AsksForListing.exists_run_eq {s : State} {line : String} {target : OutputTarget}
    (h : AsksForListing s line target) : ∃ arguments, s.run line = s.listInto arguments target := by
  obtain ⟨plan, planned, help, single, foreground, output⟩ := h
  have alone : (plan.isPipeline || plan.background) = false := by
    rw [Plan.isPipeline, single, foreground]
    rfl
  refine ⟨plan.left.arguments, ?_⟩
  rw [run_eq_runPlan planned]
  unfold State.runPlan
  rw [help]
  dsimp only
  unfold State.runBuiltin
  have stays : Builtin.help ≠ .exit := by decide
  rw [if_neg stays, alone, if_neg Bool.false_ne_true, output]
  rfl

namespace Machine

variable {m m₁ m₂ m₃ : Machine} {p : Process} {fd : Fd} {path line : String} {l : Location}
  {number mode : Nat} {content : ByteArray} {s : State} {target : OutputTarget}

lemma play_writeListing
    (written : m.host (.write (.file fd) Builtin.listing) = some (.ok (), m₁)) :
    m.play (writeListing (.file fd)) = some (.ok (), m₁) := by
  have flushed : m₁.host (.flush (.file fd)) = some (.ok (), m₁) := rfl
  exact (play_bind (play_call written)).trans (play_call flushed)

lemma play_listing {closed : Except Errno Unit} (asks : AsksForListing s line target)
    (opened : m.ShellGets s.workingDir target fd m₁)
    (written : m₁.host (.write (.file fd) Builtin.listing) = some (.ok (), m₂))
    (ended : m₂.host (.close fd) = some (closed, m₃)) :
    m.play (s.run line) = some ((s, .ok .continue), m₃) := by
  obtain ⟨arguments, run⟩ := asks.exists_run_eq
  have listed : m₁.play (Builtin.help.execute arguments s (.file fd)) =
      some ((s, .ok .continue), m₂) := play_bind (play_writeListing written)
  rw [run, State.listInto, play_bind (play_call opened)]
  dsimp only
  rw [play_bind listed, play_bind (play_call ended)]
  rfl

/-- Such a line does nothing if its file cannot be opened. -/
theorem exists_play_refused (asks : AsksForListing s line target)
    (refused : ∀ fd m', ¬ m.ShellGets s.workingDir target fd m') :
    ∃ e, m.play (s.run line) = some ((s, .error (.redirect target.path e)), m) := by
  have unopened : ∃ e, m.host (.openOutput (Path.join s.workingDir target.path)
      (outputOptions target.mode)) = some (.error e, m) := by
    unfold ShellGets host at refused
    unfold host
    dsimp only at refused ⊢
    split
    · rename_i opened
      rw [opened] at refused
      exact absurd rfl (refused _ _)
    · exact ⟨_, rfl⟩
  obtain ⟨e, unopened⟩ := unopened
  obtain ⟨arguments, run⟩ := asks.exists_run_eq
  refine ⟨e, ?_⟩
  rw [run, State.listInto, play_bind (play_call unopened)]
  rfl

/-! ## One line after the other -/

/-- What is left when a file has been written and closed again: the shell has a descriptor left, the
same programs run, and of all that is stored on `disk` only the file has changed. -/
structure Wrote (m m' : Machine) (disk : Disk) (number : Nat) (n : Node) : Prop where
  room : ∃ p, m'.process? m'.shell = some p ∧ HasRoom p
  executes : ∀ found, m'.executes found = m.executes found
  nodes : m'.disk.nodes = (disk.set (.stored number) n).nodes

/-- A file that has been opened gets the listing. -/
theorem exists_play_listing {f : OpenFile} {disk : Disk} (own : m.process? m.shell = some p)
    (room : HasRoom p) (asks : AsksForListing s line target)
    (opened : m.ShellGets s.workingDir target p.descriptors.lowestFree (m.withOpened p disk f true))
    (fills : (m.withOpened p disk f true).Fills p.pid p.descriptors.lowestFree number mode
      content) :
    ∃ m', m.play (s.run line) = some ((s, .ok .continue), m') ∧
      m.Wrote m' disk number (.file mode (content ++ Builtin.listing.toUTF8)) := by
  have pid : p.pid = m.shell := pid_of_process? own
  have own' : m.process? p.pid = some p := by rw [pid, own]
  let m₁ := m.withOpened p disk f true
  let q : Process := { p with
    descriptors := p.descriptors.put p.descriptors.lowestFree (some ⟨m.openFiles.size, true⟩) }
  have has₁ : m₁.process? p.pid = some q := process?_withOpened own'
  have fills₁ : m₁.Fills m₁.shell p.descriptors.lowestFree number mode content := by
    have shell₁ : m₁.shell = p.pid := pid.symm
    rw [shell₁]
    exact fills
  obtain ⟨m₂, written, -, changes⟩ := fills₁.host_write Builtin.listing
  have has₂ : m₂.process? m₂.shell = some q := by
    have shell₂ : m₂.shell = p.pid := changes.shell.trans pid.symm
    rw [shell₂]
    unfold process? at has₁ ⊢
    rw [changes.processes]
    exact has₁
  have slot : q.descriptors.get? p.descriptors.lowestFree = some ⟨m.openFiles.size, true⟩ := by
    rw [Descriptors.get?_put, if_pos rfl]
  obtain ⟨closed, m₃, ended, left⟩ := exists_host_close has₂ slot
  -- the three machines: `m₁` has the file open, `m₂` has written and `m₃` has closed it
  refine ⟨m₃, play_listing asks opened written ended, ⟨_, left.own, ?_⟩, fun found => ?_, ?_⟩
  · have free : (q.descriptors.put p.descriptors.lowestFree none).get?
        p.descriptors.lowestFree = none := by
      rw [Descriptors.get?_put, if_pos rfl]
    exact Nat.lt_of_le_of_lt (Descriptors.lowestFree_le free) room
  · have opens : m₁.executes found = m.executes found := by
      apply executes_modifyProcess
      · exact fun _ => rfl
      · exact fun _ => rfl
    have writes : m₂.executes found = m₁.executes found := by
      unfold executes
      rw [changes.processes]
    rw [left.executes, writes, opens]
  · rw [left.disk, changes.disk]
    rfl

/-- The shell can open the file at the place by the path, and this is in it. -/
structure Offers (m : Machine) (path : String) (l : Location) (number mode : Nat)
    (content : ByteArray) : Prop where
  room : ∃ p, m.process? m.shell = some p ∧ HasRoom p
  idle : m.executes (.found l) = false
  finds : m.disk.Finds path l
  held : l.node = .stored number
  stored : m.disk.nodes[number]? = some (.file mode content)
  writable : mode.testBit 7 = true

lemma Wrote.offers {disk : Disk} {changed : ByteArray}
    (h : m.Wrote m₁ disk number (.file mode changed)) (finds : disk.Finds path l)
    (stored : disk.nodes[number]? = some (.file mode content))
    (idle : m.executes (.found l) = false) (held : l.node = .stored number)
    (writable : mode.testBit 7 = true) :
    m₁.Offers path l number mode changed := by
  obtain ⟨small, -⟩ := Array.getElem?_eq_some_iff.1 stored
  refine ⟨h.room, (h.executes _).trans idle, ?_, held, ?_, writable⟩
  · exact (finds.set stored changed).of_nodes_eq h.nodes
  · rw [h.nodes]
    exact Array.getElem?_setIfInBounds_self_of_lt small

/-- A file that is on offer can be opened, and keeps what the mode keeps. -/
lemma Offers.exists_opens (h : m.Offers path l number mode content) (p : Process)
    (output : OutputMode) : ∃ disk, (m.view p.pid).Opens p.cwd path (output == .truncate)
        (p.permitted 0o644) (.found l) (disk, l) ∧
      disk.nodes[number]? = some (.file mode (kept output content)) ∧ disk.Finds path l := by
  obtain ⟨-, -, finds, held, stored, writable⟩ := h
  have seen : (m.view p.pid).nodes[number]? = some (.file mode content) := stored
  have finds' : (m.view p.pid).Finds path l := finds.of_nodes_eq rfl
  have kind : (m.view p.pid).node l.node = .file mode content := by
    rw [held]
    exact Disk.node_of_nodes seen
  obtain ⟨small, -⟩ := Array.getElem?_eq_some_iff.1 seen
  refine ⟨if output == .truncate then (m.view p.pid).emptied l.node else m.view p.pid,
    ⟨finds.demanded (m.shownNode p.pid) p.cwd, finds.resolved (m.shownNode p.pid) p.cwd, ?_⟩, ?_⟩
  -- the file exists, so opening it makes nothing and only empties it when asked to
  · refine Disk.openTarget_found_eq_ok_iff.2 ⟨?_, ?_, ?_, rfl, rfl⟩
    · unfold Disk.directory?
      rw [kind]
    · rw [held]
      exact (Disk.allows_write_of_nodes seen).trans writable
    · rw [kind]
      exact nofun
  · cases output with
    | append => exact ⟨stored, finds'⟩
    | truncate =>
      have emptied : (m.view p.pid).emptied (.stored number) =
          (m.view p.pid).set (.stored number) (.file mode .empty) := by
        unfold Disk.emptied
        rw [← held, kind]
      rw [held]
      exact ⟨(congrArg (·.nodes[number]?) emptied).trans
        (Array.getElem?_setIfInBounds_self_of_lt small), finds'.emptied ⟨number, small, rfl⟩⟩

/-- A file that is on offer takes the listing, and is on offer again. -/
theorem Offers.listing (h : m.Offers (Path.join s.workingDir target.path) l number mode content)
    (plain : (Path.join s.workingDir target.path).contains '\x00' = false)
    (asks : AsksForListing s line target) :
    ∃ m', m.play (s.run line) = some ((s, .ok .continue), m') ∧
      m'.Offers (Path.join s.workingDir target.path) l number mode
        (kept target.mode content ++ Builtin.listing.toUTF8) := by
  obtain ⟨p, own, room⟩ := h.room
  obtain ⟨disk, opens, stored, finds⟩ := h.exists_opens p target.mode
  have own' : m.process? p.pid = some p := by rw [pid_of_process? own, own]
  let f := openPlace disk l (.ofMode (.write target.mode 0o644))
  have behind : f = .regular l 0 (.ofMode (.write target.mode 0o644)) := by
    unfold f openPlace
    rw [h.held, Disk.node_of_nodes stored]
  have gets : m.ShellGets s.workingDir target p.descriptors.lowestFree
      (m.withOpened p disk f true) :=
    (shellGets_iff own).2 ⟨plain, room, .found l, disk, l, opens, h.idle, rfl, rfl⟩
  have holds : (m.withOpened p disk f true).Holds p.pid p.descriptors.lowestFree
      ⟨disk.nodes, m.openFiles.size, f⟩ := holds_withOpened own'
  obtain ⟨m', played, wrote⟩ :=
    exists_play_listing own room asks gets (holds.fills h.held behind stored)
  exact ⟨m', played, wrote.offers finds stored h.idle h.held h.writable⟩

/-- The first line of several: the file is made or emptied, or kept, and gets the listing. -/
lemma exists_play_first {there : Location} {o : Opening} (own : m.process? m.shell = some p)
    (leads : m.disk.Leads s.workingDir target.path there)
    (opens : m.ShellOpens s.workingDir target o) (regular : o.IsRegular number)
    (writable : ({ nodes := o.nodes } : Disk).allows (.stored number) .write = true)
    (programs : ∀ q ∈ m.processes, m.disk.Stores q.executable.node)
    (asks : AsksForListing s line target) :
    ∃ m' mode, m.play (s.run line) = some ((s, .ok .continue), m') ∧
      m'.Offers (Path.join s.workingDir target.path) o.file.place number mode
        (kept target.mode (m.heldBy number) ++ Builtin.listing.toUTF8) := by
  have own' : m.process? p.pid = some p := by rw [pid_of_process? own, own]
  obtain ⟨-, -, -, opensIn⟩ := (shellOpens_iff_opensIn own leads).1 opens
  obtain ⟨mode, -, stored, place, held, behind⟩ := opensIn.regular leads regular
  obtain ⟨fd, m₁, gets, holds⟩ := opens
  obtain ⟨-, room, found, disk, place', opened, idle, rfl, rfl⟩ := (shellGets_iff own).1 gets
  obtain ⟨within, stored', opened', rfl⟩ := leads.opens_join_seenAs_iff.1 opened
  rw [← pid_of_process? own] at holds
  obtain rfl := holds.unique (holds_withOpened own')
  obtain ⟨rfl, -, -⟩ := openPlace_eq_regular behind
  have fills := holds.fills held behind stored
  replace idle : m.executes (.found place) = false := executes_opened programs idle opened'.opened
  have bit : mode.testBit 7 = true := by
    rw [← Disk.allows_write_of_nodes stored]
    exact writable
  have finds : stored'.Finds (Path.join s.workingDir target.path) place := by
    refine leads.finds opened' within ?_
    rw [held]
    exact (Disk.allows_write_of_nodes stored).trans bit
  obtain ⟨m', played, wrote⟩ := exists_play_listing own room asks gets fills
  rw [behind]
  exact ⟨m', mode, played, wrote.offers (finds.of_nodes_eq rfl) stored idle held bit⟩

/-- The shell runs lines one after the other, and each of them succeeds. -/
inductive RunsLines (s : State) : Machine → List String → Machine → Prop
  | nil (m : Machine) : RunsLines s m [] m
  | cons {m m₁ m₂ : Machine} {line : String} {lines : List String}
      (first : m.play (s.run line) = some ((s, .ok .continue), m₁))
      (rest : RunsLines s m₁ lines m₂) : RunsLines s m (line :: lines) m₂

/-- As many lines as one likes can ask for the listing. -/
theorem Offers.runsLines {lines : List (String × OutputMode)}
    (h : m.Offers (Path.join s.workingDir path) l number mode content)
    (plain : (Path.join s.workingDir path).contains '\x00' = false)
    (asks : ∀ x ∈ lines, AsksForListing s x.1 ⟨path, x.2⟩) :
    ∃ m', RunsLines s m (lines.map (·.1)) m' ∧
      m'.Offers (Path.join s.workingDir path) l number mode
        ((lines.map (·.2)).foldl (fun content mode => kept mode content ++ Builtin.listing.toUTF8)
          content) := by
  induction lines generalizing m content with
  | nil => exact ⟨m, .nil m, h⟩
  | cons x lines ih =>
    obtain ⟨own, others⟩ := List.forall_mem_cons.1 asks
    have h : m.Offers (Path.join s.workingDir (⟨path, x.2⟩ : OutputTarget).path) l number mode
      content := h
    obtain ⟨m₁, first, offers⟩ := h.listing plain own
    obtain ⟨m₂, rest, last⟩ := ih offers others
    exact ⟨m₂, .cons first rest, last⟩

/-! ## How often the listing is there -/

/-- The listing so many times. -/
def listings (n : Nat) : ByteArray :=
  heap .empty (List.replicate n Builtin.listing.toUTF8)

lemma listings_succ (n : Nat) : listings (n + 1) = listings n ++ Builtin.listing.toUTF8 := by
  unfold listings heap
  rw [List.replicate_succ', List.foldl_append]
  rfl

lemma size_listings (n : Nat) : (listings n).size = n * Builtin.listing.toUTF8.size := by
  induction n with
  | zero => exact (Nat.zero_mul _).symm
  | succ n ih => rw [listings_succ, ByteArray.size_append, ih, Nat.succ_mul]

/-- The listing is there once more than there have been lines that keep what is in the file, since
the last one that does not. -/
lemma foldl_listings (modes : List OutputMode) :
    modes.foldl (fun content mode => kept mode content ++ Builtin.listing.toUTF8) (listings 1) =
      listings (1 + (modes.reverse.takeWhile (· == .append)).length) := by
  induction modes using List.reverseRecOn with
  | nil => rfl
  | append_singleton modes mode ih =>
    rw [List.foldl_append, ih, List.reverse_append]
    cases mode with
    | truncate => exact (listings_succ 0).symm
    | append => exact (listings_succ _).symm

end Machine

end CommandShell
