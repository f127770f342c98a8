import CommandShell.Proofs.Redirecting

/-!
# What is written to an opened file

A file that has been opened for output takes whatever is written to it at its end: at the end of
what it held, if that has been kept, and at its start, if it has been emptied. `Machine.Fills` says
that a process writes at the end of a file, and every write leaves it so (`Machine.Fills.writes`).

So a file holds what it held before, or nothing, and then what has been written, and it makes no
difference whether the shell has written it or a child (`Machine.leaves_of_opens`).
-/

namespace CommandShell

namespace Machine

variable {m m' : Machine} {p : Process} {pid : Pid} {fd : Fd} {number mode : Nat}
  {content bytes : ByteArray}

/-! ## Writing at the end -/

/-- Whatever the process writes to the descriptor comes to stand at the end of the file. -/
structure Fills (m : Machine) (pid : Pid) (fd : Fd) (number mode : Nat) (content : ByteArray) :
    Prop where
  stored : m.disk.nodes[number]? = some (.file mode content)
  behind : ∃ p file place offset access, m.process? pid = some p ∧
    m.fileOf? p fd = some (file, .regular place offset access) ∧ place.node = .stored number ∧
    access.writes = true ∧ (access.appends = true ∨ offset = content.size)

/-- A file has changed, and the open file that was written to. -/
structure Changes (m m' : Machine) (number : Nat) (n : Node) : Prop where
  disk : m'.disk = m.disk.set (.stored number) n
  processes : m'.processes = m.processes
  shell : m'.shell = m.shell

/-- What is written comes to stand at the end, and the next thing behind it. -/
theorem Fills.writes (h : m.Fills pid fd number mode content) (bytes : ByteArray) :
    ∃ p file f m', m.process? pid = some p ∧ m.fileOf? p fd = some (file, f) ∧
      m.writeTo file f bytes = .moved () m' ∧ m'.Fills pid fd number mode (content ++ bytes) ∧
      m.Changes m' number (.file mode (content ++ bytes)) := by
  obtain ⟨stored, p, file, place, offset, access, own, behind, held, may, ends⟩ := h
  have atEnd : (if access.appends = true then content.size else offset) = content.size := by
    -- both ways of opening write at the end: one by its flag, the other by where it stands
    rcases ends with appends | rfl
    · rw [if_pos appends]
    · rw [ite_self]
  have kind : m.disk.node place.node = .file mode content := by
    rw [held]
    exact Disk.node_of_nodes stored
  have joined : overlay content bytes content.size = content ++ bytes := if_pos rfl
  let filled : Machine :=
    { m with disk := m.disk.set (.stored number) (.file mode (content ++ bytes)) }.setOpenFile file
      (.regular place (content.size + bytes.size) access)
  have moved : m.writeTo file (.regular place offset access) bytes = .moved () filled := by
    have writable : (OpenFile.regular place offset access).isWritable = true := may
    unfold writeTo
    rw [writable, Bool.not_true, if_neg Bool.false_ne_true]
    dsimp only
    rw [kind]
    dsimp only
    rw [atEnd, joined, held]
  refine ⟨p, file, _, filled, own, behind, moved, ⟨?_, ?_⟩, ⟨rfl, rfl, rfl⟩⟩
  · obtain ⟨small, -⟩ := Array.getElem?_eq_some_iff.1 stored
    exact Array.getElem?_setIfInBounds_self_of_lt small
  · refine ⟨p, file, place, content.size + bytes.size, access, own, ?_, held, may, .inr ?_⟩
    · exact fileOf?_setOpenFile behind
    · exact ByteArray.size_append.symm

/-- The shell writes to its descriptor. -/
theorem Fills.host_write (h : m.Fills m.shell fd number mode content) (text : String) :
    ∃ m', m.host (.write (.file fd) text) = some (.ok (), m') ∧
      m'.Fills m'.shell fd number mode (content ++ text.toUTF8) ∧
      m.Changes m' number (.file mode (content ++ text.toUTF8)) := by
  obtain ⟨p, file, f, m', own, behind, moved, fills, changes⟩ := h.writes text.toUTF8
  refine ⟨m', ?_, ?_, changes⟩
  · have written : m.host (.write (.file fd) text) = some (m.writeDescriptor fd text) := rfl
    rw [written, writeDescriptor, shellProcess_eq own, behind]
    dsimp only
    rw [moved]
    rfl
  · rw [changes.shell]
    exact fills

/-- A process writes to its descriptor. -/
theorem Fills.perform_write (h : m.Fills pid fd number mode content) (bytes : ByteArray) :
    ∃ p m', m.process? pid = some p ∧
      m.perform p (.write fd bytes) = .answer (r := .write fd bytes) (.ok ()) m' ∧
      m'.Fills pid fd number mode (content ++ bytes) := by
  obtain ⟨p, file, f, m', own, behind, moved, fills, -⟩ := h.writes bytes
  refine ⟨p, m', own, ?_, fills⟩
  rw [Machine.perform_write, behind]
  dsimp only
  rw [moved]
  rfl

/-- The shell writes texts, one after the other. -/
inductive ShellWrites (fd : Fd) : Machine → List String → Machine → Prop
  | nil (m : Machine) : ShellWrites fd m [] m
  | cons {m m₁ m₂ : Machine} {text : String} {texts : List String}
      (first : m.host (.write (.file fd) text) = some (.ok (), m₁))
      (rest : ShellWrites fd m₁ texts m₂) : ShellWrites fd m (text :: texts) m₂

/-- A process writes bytes, one portion after the other. -/
inductive ProcessWrites (pid : Pid) (fd : Fd) : Machine → List ByteArray → Machine → Prop
  | nil (m : Machine) : ProcessWrites pid fd m [] m
  | cons {m m₁ m₂ : Machine} {p : Process} {bytes : ByteArray} {portions : List ByteArray}
      (own : m.process? pid = some p)
      (first : m.perform p (.write fd bytes) = .answer (r := .write fd bytes) (.ok ()) m₁)
      (rest : ProcessWrites pid fd m₁ portions m₂) :
      ProcessWrites pid fd m (bytes :: portions) m₂

/-- What there is once portions have been put behind what was there. -/
def heap (content : ByteArray) (portions : List ByteArray) : ByteArray :=
  portions.foldl (· ++ ·) content

lemma Fills.shellWrites (h : m.Fills m.shell fd number mode content) (texts : List String) :
    ∃ m', ShellWrites fd m texts m' ∧
      m'.disk.nodes[number]? = some (.file mode (heap content (texts.map String.toUTF8))) := by
  induction texts generalizing m content with
  | nil => exact ⟨m, .nil m, h.stored⟩
  | cons text texts ih =>
    obtain ⟨m₁, first, fills, -⟩ := h.host_write text
    obtain ⟨m₂, rest, stored⟩ := ih fills
    exact ⟨m₂, .cons first rest, stored⟩

lemma Fills.processWrites (h : m.Fills pid fd number mode content) (portions : List ByteArray) :
    ∃ m', ProcessWrites pid fd m portions m' ∧
      m'.disk.nodes[number]? = some (.file mode (heap content portions)) := by
  induction portions generalizing m content with
  | nil => exact ⟨m, .nil m, h.stored⟩
  | cons bytes portions ih =>
    obtain ⟨p, m₁, own, first, fills⟩ := h.perform_write bytes
    obtain ⟨m₂, rest, stored⟩ := ih fills
    exact ⟨m₂, .cons own first rest, stored⟩

/-! ## What is written after a file has been opened -/

/-- What is left of a file that is opened in a mode. -/
def kept : OutputMode → ByteArray → ByteArray
  | .truncate, _ => .empty
  | .append, content => content

/-- What a file holds. One that is not there holds nothing. -/
def heldBy (m : Machine) (number : Nat) : ByteArray :=
  (m.disk.content? (.stored number)).getD .empty

/-- The file has the permissions that it had, or these, if it is a new one. -/
def KeepsMode (m : Machine) (number permissions mode : Nat) : Prop :=
  (∃ content, m.disk.nodes[number]? = some (.file mode content)) ∨
    m.disk.nodes[number]? = none ∧ mode = permissions

/-- A regular file has been opened. -/
structure Opening.IsRegular (o : Opening) (number : Nat) : Prop where
  behind : ∃ place offset access, o.file = .regular place offset access ∧
    place.node = .stored number
  stored : ∃ mode content, o.nodes[number]? = some (.file mode content)

lemma heldBy_of_nodes (h : m.disk.nodes[number]? = some (.file mode content)) :
    m.heldBy number = content := by
  unfold heldBy Disk.content?
  rw [Disk.node_of_nodes h]
  rfl

lemma openPlace_eq_regular {disk : Disk} {place place' : Location} {access access' : Access}
    {offset : Nat} (h : openPlace disk place access = .regular place' offset access') :
    place' = place ∧ offset = 0 ∧ access' = access := by
  unfold openPlace at h
  split at h
  · cases h
  · cases h
  · cases h
  · split at h
    · cases h
      exact ⟨rfl, rfl, rfl⟩
    · cases h

section OpensIn

variable {there : Location} {target : OutputTarget} {permissions : Nat} {o : Opening} {dir : String}

/-- What a regular file is like that has been opened. -/
theorem OpensIn.regular (h : m.OpensIn there target permissions o)
    (leads : m.disk.Leads dir target.path there) (regular : o.IsRegular number) :
    ∃ mode, m.KeepsMode number permissions mode ∧
      o.nodes[number]? = some (.file mode (kept target.mode (m.heldBy number))) ∧
      ∃ place, place.node = .stored number ∧ o.file = .regular place 0
        (.ofMode (.write target.mode 0o644)) := by
  obtain ⟨found, disk, place, opened, -, rfl⟩ := h
  obtain ⟨⟨place', offset, access, behind, held⟩, mode, content, stored⟩ := regular
  obtain ⟨rfl, rfl, rfl⟩ := openPlace_eq_regular behind
  have left := leads.stores opened
  cases found with
  -- a file that has just been made is empty, and its permissions are those asked for
  | missing up name =>
    obtain ⟨id, created, rfl⟩ := Disk.openTarget_missing_eq_ok_iff.1 opened.opened
    have gains := Disk.gains_of_createEntry left created
    obtain ⟨-, -, -, rfl⟩ := Disk.createEntry_eq_ok_iff.1 created
    cases held
    have new : m.disk.nodes[m.disk.nodes.size]? = none := Array.getElem?_eq_none (Nat.le_refl _)
    have nothing : m.heldBy m.disk.nodes.size = .empty := by
      unfold heldBy Disk.content? Disk.node
      dsimp only
      rw [new]
      rfl
    refine ⟨permissions, .inr ⟨new, rfl⟩, ?_, _, rfl, behind⟩
    rw [nothing]
    cases target.mode with
    | truncate => exact gains.made
    | append => exact gains.made
  | found l =>
    obtain ⟨-, -, -, rfl, rfl⟩ := Disk.openTarget_found_eq_ok_iff.1 opened.opened
    obtain ⟨path, output⟩ := target
    cases output with
    | truncate =>
      obtain ⟨before, old, emptied⟩ := Disk.file_of_emptied held stored
      exact ⟨mode, .inl ⟨before, old⟩, emptied, _, held, behind⟩
    | append =>
      refine ⟨mode, .inl ⟨content, stored⟩, ?_, _, held, behind⟩
      rw [heldBy_of_nodes stored]
      exact stored

/-- A process that holds a regular file open that it has opened for output writes at its end. -/
lemma Holds.fills {place : Location} (h : m.Holds pid fd o) (held : place.node = .stored number)
    (behind : o.file = .regular place 0 (.ofMode (.write target.mode 0o644)))
    (stored : o.nodes[number]? = some (.file mode (kept target.mode content))) :
    m.Fills pid fd number mode (kept target.mode content) := by
  obtain ⟨nodes, p, own, found⟩ := h
  rw [behind] at found
  refine ⟨by rw [nodes, stored], p, o.number, place, 0, _, own, found, held, rfl, ?_⟩
  cases target.mode with
  | truncate => exact .inr rfl
  | append => exact .inl rfl

/-- Once the shell has opened the target and written texts to it, this is in the file. -/
def ShellLeaves (m : Machine) (dir : String) (target : OutputTarget) (texts : List String)
    (number : Nat) (n : Node) : Prop :=
  ∃ fd opened written, m.ShellGets dir target fd opened ∧ ShellWrites fd opened texts written ∧
    written.disk.nodes[number]? = some n

/-- Once a child has opened the target and written portions to it, this is in the file. -/
def ChildLeaves (m : Machine) (pid : Pid) (dir : String) (target : OutputTarget)
    (portions : List ByteArray) (number : Nat) (n : Node) : Prop :=
  ∃ fd opened written, m.ChildGets pid dir target fd opened ∧
    ProcessWrites pid fd opened portions written ∧ written.disk.nodes[number]? = some n

/-- **A file takes the same from the shell and from a child.** It holds what it has held before, or
nothing, and then what has been written, and a new one gets the permissions that are given to things
made by the process. -/
theorem leaves_of_opens {s c : Process} (shell : m.process? m.shell = some s)
    (child : m.process? pid = some c) (room : HasRoom s ↔ HasRoom c) (mask : s.mask = c.mask)
    (leads : m.disk.Leads dir target.path there) (opens : m.ShellOpens dir target o)
    (regular : o.IsRegular number) (texts : List String) :
    ∃ mode, m.KeepsMode number (s.permitted 0o644) mode ∧
      m.ShellLeaves dir target texts number
        (.file mode (heap (kept target.mode (m.heldBy number)) (texts.map String.toUTF8))) ∧
      m.ChildLeaves pid dir target (texts.map String.toUTF8) number
        (.file mode (heap (kept target.mode (m.heldBy number)) (texts.map String.toUTF8))) := by
  obtain ⟨-, -, -, opensIn⟩ := (shellOpens_iff_opensIn shell leads).1 opens
  obtain ⟨mode, keeps, stored, place, held, behind⟩ := opensIn.regular leads regular
  obtain ⟨opens', -⟩ := (shellOpens_iff shell child room mask leads).1 opens
  refine ⟨mode, keeps, ?_, ?_⟩
  · obtain ⟨fd, opened, gets, holds⟩ := opens
    have fills := holds.fills held behind stored
    rw [← gets.shell_eq shell] at fills
    obtain ⟨written, writes, last⟩ := fills.shellWrites texts
    exact ⟨fd, opened, written, gets, writes, last⟩
  · obtain ⟨fd, opened, gets, holds⟩ := opens'
    obtain ⟨written, writes, last⟩ :=
      (holds.fills held behind stored).processWrites (texts.map String.toUTF8)
    exact ⟨fd, opened, written, gets, writes, last⟩

end OpensIn

end Machine

end CommandShell
