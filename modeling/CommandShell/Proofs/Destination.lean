import CommandShell.Machine.Host
import CommandShell.Proofs.Canonical
import CommandShell.Proofs.Transcript

/-!
# Where a change of the working directory leads

A `cd` asks two things, the canonical path of its target and whether that is a directory. Where it
leads is therefore a question to the disk alone, and to the place of the process that asks
(`Surroundings`); `Surroundings.destination` answers it without the shell.

The answer is always a canonical place, and a directory that can be looked up by its path
(`Surroundings.destination_eq_ok_iff`). That a shell is told of it is what `Surroundings.Answers`
says of the two questions, in the terms in which a machine answers them. The lookup of the canonical
path goes through the disk a second time, so it has to be known that it comes to the same place;
this is where `Disk.IsCanonical.lookup_path` is needed.
-/

namespace CommandShell

/-! ## What a shell finds -/

/-- What a shell finds when it looks for a directory: what is on the disk, and where its own process
is. -/
structure Surroundings where
  disk : Disk
  cwd : Location

namespace Surroundings

/-- The answer is right about a path, if it is one. -/
def Answers (w : Surroundings) : Traffic → Prop
  | ⟨.canonical path, answer⟩ =>
    answer = Machine.withPath path ((w.disk.byText.canonical w.cwd path).map (·.path))
  | ⟨.isDirectory path, answer⟩ =>
    answer = Machine.withPath path ((w.disk.lookup w.cwd path).map w.disk.isDirectory)
  | _ => True

/-- Where a `cd` to `target` leads from `dir`. -/
def destination (w : Surroundings) (dir target : String) : Except IoError Location :=
  let path := Path.join dir target
  match Machine.withPath path (w.disk.byText.canonical w.cwd path) with
  | .error e => .error e
  | .ok l =>
    match Machine.withPath l.path ((w.disk.lookup w.cwd l.path).map w.disk.isDirectory) with
    | .ok true => .ok l
    | _ => .error (.os .ENOTDIR)

end Surroundings

lemma Machine.withPath_map {α β : Type} (path : String) (result : Except Errno α) (f : α → β) :
    withPath path (result.map f) = (withPath path result).map f := by
  unfold withPath
  split
  · rfl
  · cases result <;> rfl

lemma Machine.withPath_eq_ok_iff {α : Type} {path : String} {result : Except Errno α} {a : α} :
    withPath path result = .ok a ↔ path.contains '\x00' = false ∧ result = .ok a := by
  unfold withPath
  split
  · rename_i nul
    simp [nul]
  · rename_i clean
    have clean : path.contains '\x00' = false := by simpa using clean
    constructor
    · intro h
      cases result with
      | error e => cases h
      | ok b =>
        cases h
        exact ⟨clean, rfl⟩
    · rintro ⟨-, rfl⟩
      rfl

/-! ## Where a change leads -/

/-- A directory that a shell can have moved to, by its place on the disk. -/
structure Disk.IsDestination (disk : Disk) (l : Location) : Prop where
  /-- No link and no dots are on the way, and each entry of it is there. -/
  canonical : disk.IsCanonical l
  directory : disk.isDirectory l = true
  /-- The path starts at the root, and goes through the names on the way. -/
  absolute : Path.isAbsolute l.path = true
  names : Path.names l.path = l.names
  /-- None of them leads to the directory itself, or upwards. -/
  noDots : ∀ name ∈ Path.names l.path, Path.isDots name = false
  /-- So the path leads there from everywhere, and it is the canonical path of where it leads. -/
  leads : ∀ cwd, disk.byText.canonical cwd l.path = .ok l

lemma Disk.IsCanonical.isDestination {disk : Disk} {l : Location} (h : disk.IsCanonical l)
    (directory : disk.isDirectory l = true) : disk.IsDestination l where
  canonical := h
  directory := directory
  absolute := l.isAbsolute_path
  names := h.names_path
  noDots := by
    rw [h.names_path]
    exact fun name hname => (h.isName name hname).noDots
  leads := fun cwd => (Disk.isCanonical_byText_iff.2 h).canonical_path cwd

/-- The path of a canonical place is found to be that of a directory if the place is one, and if the
path is one that a call can take. -/
lemma Disk.IsCanonical.isDirectory_iff {disk : Disk} {cwd l : Location}
    (h : disk.IsCanonical l) :
    Machine.withPath l.path ((disk.lookup cwd l.path).map disk.isDirectory) = .ok true ↔
      disk.isDirectory l = true ∧
        l.path.contains '\x00' = false ∧ Text.size l.path < Path.maxLength := by
  rw [Machine.withPath_eq_ok_iff, h.lookup_path]
  split
  · rename_i long
    exact iff_of_false (fun found => nomatch found.2) fun short =>
      absurd short.2.2 (Nat.not_lt_of_ge long)
  · rename_i short
    constructor
    · exact fun ⟨taken, found⟩ => ⟨Except.ok.inj found, taken, Nat.lt_of_not_ge short⟩
    · exact fun ⟨directory, taken, _⟩ => ⟨taken, congrArg Except.ok directory⟩

namespace Surroundings

variable {w : Surroundings} {dir target : String} {l : Location}

lemma isCanonical_of_canonical_join
    (start : Path.isAbsolute dir = true ∨ w.disk.IsCanonical w.cwd)
    (h : w.disk.byText.canonical w.cwd (Path.join dir target) = .ok l) :
    w.disk.IsCanonical l := by
  refine Disk.isCanonical_byText_iff.1 (Disk.isCanonical_of_canonical ?_ ?_ h)
  · exact w.disk.byText_noShortcuts
  · exact start.imp (Path.isAbsolute_join · target) Disk.isCanonical_byText_iff.2

/-- A `cd` leads to the place that its target leads to, if that is a directory whose path a call can
take. -/
theorem destination_eq_ok_iff
    (start : Path.isAbsolute dir = true ∨ w.disk.IsCanonical w.cwd) :
    w.destination dir target = .ok l ↔
      (Path.join dir target).contains '\x00' = false ∧
        w.disk.byText.canonical w.cwd (Path.join dir target) = .ok l ∧
        w.disk.IsDestination l ∧
        l.path.contains '\x00' = false ∧ Text.size l.path < Path.maxLength := by
  unfold destination
  dsimp only
  constructor
  · intro h
    split at h
    · cases h
    · rename_i found resolved
      obtain ⟨clean, resolved⟩ := Machine.withPath_eq_ok_iff.1 resolved
      have canonical := isCanonical_of_canonical_join start resolved
      split at h
      · rename_i answered
        -- of a canonical place the disk says truly whether it is a directory
        cases h
        obtain ⟨directory, taken⟩ := canonical.isDirectory_iff.1 answered
        exact ⟨clean, resolved, canonical.isDestination directory, taken⟩
      · cases h
  · rintro ⟨clean, resolved, arrives, taken⟩
    rw [Machine.withPath_eq_ok_iff.2 ⟨clean, resolved⟩]
    dsimp only
    rw [arrives.canonical.isDirectory_iff.2 ⟨arrives.directory, taken⟩]

/-- A target that does not resolve leads nowhere. -/
theorem destination_eq_error {e : IoError}
    (h : w.Answers ⟨.canonical (Path.join dir target), .error e⟩) :
    w.destination dir target = .error e := by
  have found := Eq.trans h (Machine.withPath_map _ _ _)
  unfold destination
  dsimp only
  split
  · rename_i failed
    rw [failed] at found
    cases found
    rfl
  · rename_i resolved
    rw [resolved] at found
    cases found

/-- A target that resolves is the path of a place, and it leads there if that is a directory. -/
theorem exists_place {path : String}
    (h : w.Answers ⟨.canonical (Path.join dir target), .ok path⟩) :
    ∃ l : Location, path = l.path ∧
      (w.Answers ⟨.isDirectory path, .ok true⟩ → w.destination dir target = .ok l) ∧
      ∀ answer, answer ≠ .ok true → w.Answers ⟨.isDirectory path, answer⟩ →
        w.destination dir target = .error (.os .ENOTDIR) := by
  have found := Eq.trans h (Machine.withPath_map _ _ _)
  unfold destination
  dsimp only
  split
  · rename_i failed
    rw [failed] at found
    cases found
  · rename_i l resolved
    rw [resolved] at found
    cases found
    refine ⟨l, rfl, fun directory => ?_, fun answer other directory => ?_⟩
    · split
      · rfl
      · rename_i noDirectory
        exact absurd (Eq.symm directory) noDirectory
    · split
      · rename_i isDirectory
        exact absurd (Eq.trans directory isDirectory) other
      · rfl

end Surroundings

end CommandShell
