import CommandShell.Proofs.Joining
import CommandShell.Proofs.PlanText
import CommandShell.Proofs.Walking

/-!
# Two ways to open a file

A file for output is opened by a path that has been joined to the path of a working directory, or by
the path itself after one has gone to that directory. On one disk these come to the same, but for
one thing: the joined path has to pay for its own links and those of the directory out of one budget
(`Disk.opens_join_iff`).

Two processes do not see quite the same disk, as everybody finds things about themselves on it.
Where a path keeps to what is stored (`Disk.KeepsToStored`) that makes no difference to what it
opens (`Disk.opens_seenAs_iff`).
-/

namespace CommandShell

namespace Path

/-- Where a walk along a path begins. -/
def start (cwd : Location) (path : String) : Location :=
  if isAbsolute path then [] else cwd

end Path

namespace Disk

variable {disk disk' : Disk} {cwd there : Location} {path wd : String} {follow truncate : Bool}
  {links mode : Nat} {target : Target}

/-! ## Resolving and entering -/

theorem resolve_eq_ok_iff :
    disk.resolve cwd path follow = .ok target ↔ path ≠ "" ∧
      ∃ n ≤ maxLinks, disk.Trail follow (Path.start cwd path) (Path.components path) n target := by
  unfold resolve
  by_cases empty : path = ""
  · simp [empty]
  · have given : ¬ path.isEmpty = true := fun h => empty (String.isEmpty_iff.1 h)
    rw [if_neg given, and_iff_right empty]
    exact walk_eq_ok_iff

lemma resolveShort_eq_ok_iff :
    disk.resolveShort cwd path follow = .ok target ↔
      Text.size path < Path.maxLength ∧ disk.resolve cwd path follow = .ok target := by
  unfold resolveShort
  by_cases long : Text.size path ≥ Path.maxLength
  · simp [long, Nat.not_lt_of_ge long]
  · rw [if_neg long, and_iff_right (Nat.lt_of_not_ge long)]

lemma lookup_eq_ok_iff {l : Location} :
    disk.lookup cwd path follow = .ok l ↔ disk.resolveShort cwd path follow = .ok (.found l) := by
  unfold lookup
  constructor
  · intro h
    obtain ⟨target, resolved, found⟩ := bind_eq_ok_iff.1 h
    cases target with
    | found l =>
      cases found
      exact resolved
    | missing up name => cases found
  · intro h
    rw [h]
    rfl

lemma enter_eq_ok_iff :
    disk.enter cwd wd = .ok there ↔ disk.resolveShort cwd wd = .ok (.found there) ∧
      (disk.directory? there.node).isSome = true ∧ disk.allows there.node .execute = true := by
  rw [← lookup_eq_ok_iff]
  unfold enter isDirectory demand
  constructor
  · intro h
    obtain ⟨l, looked, h⟩ := bind_eq_ok_iff.1 h
    cases held : (disk.directory? l.node).isSome with
    | false =>
      rw [held] at h
      cases h
    | true =>
      cases allowed : disk.allows l.node .execute with
      | false =>
        rw [held, List.all_cons, allowed] at h
        cases h
      | true =>
        rw [held, List.all_cons, allowed] at h
        cases h
        exact ⟨looked, held, allowed⟩
  · rintro ⟨looked, held, allowed⟩
    refine bind_eq_ok_iff.2 ⟨there, looked, ?_⟩
    rw [held, List.all_cons, allowed]
    rfl

/-- Whoever has gone to a directory has been led there by the path. -/
theorem trail_of_enter (h : disk.enter cwd wd = .ok there) :
    ∃ n ≤ maxLinks, disk.Trail true (Path.start cwd wd) (Path.components wd) n (.found there) :=
  (resolve_eq_ok_iff.1 (resolveShort_eq_ok_iff.1 (enter_eq_ok_iff.1 h).1).2).2

/-- A slash at the end of the path makes no difference to that. -/
theorem Trail.of_components {here : Location} {n : Nat}
    (h : disk.Trail true here (Path.components wd) n (.found there)) :
    disk.Trail true here (Path.names wd) n (.found there) := by
  unfold Path.components at h
  split at h
  · exact h.of_slash
  · exact h

/-! ## Opening for output -/

/-- Nothing stands against a path as one of a file if it does not end in a slash, and neither does
what is said by the links in its last place. -/
theorem demandFile_eq_ok_iff :
    disk.demandFile links cwd path = .ok () ↔ Path.endsInSlash path = false ∧
      ∀ left l text, links = left + 1 → disk.resolve cwd path false = .ok (.found l) →
        disk.node l.node = .link text → disk.demandFile left l.tail text = .ok () := by
  conv => lhs; unfold demandFile
  by_cases ends : Path.endsInSlash path = true
  · rw [if_pos ends]
    constructor
    · intro h
      obtain ⟨_, -, h⟩ := bind_eq_ok_iff.1 h
      cases h
    · intro h
      rw [h.1] at ends
      cases ends
  · rw [if_neg ends, and_iff_right (Bool.eq_false_iff.2 ends)]
    dsimp only
    cases links with
    | zero =>
      refine ⟨fun _ left _ _ more => absurd more (Nat.zero_ne_add_one left), fun _ => ?_⟩
      cases disk.resolve cwd path false <;> rfl
    | succ links =>
      cases resolved : disk.resolve cwd path false with
      | error e => exact ⟨fun _ _ _ _ _ found => (nomatch found), fun _ => rfl⟩
      | ok target =>
        cases target with
        | missing up name => exact ⟨fun _ _ _ _ _ found => (nomatch found), fun _ => rfl⟩
        | found l =>
          dsimp only
          constructor
          · intro h left l' text more found linked
            cases more
            cases found
            rw [linked] at h
            exact h
          · intro h
            cases linked : disk.node l.node with
            | link text => exact h links l text rfl rfl linked
            | _ => rfl

/-- What is done at the end of a path that is opened for output. -/
def openTarget (disk : Disk) (target : Target) (truncate : Bool) (mode : Nat) :
    Except Errno (Disk × Location) := do
  match target with
  | .missing dir name => do
    let (disk, id) ← disk.createEntry dir.node name (.file mode .empty)
    return (disk, (name, id) :: dir)
  | .found l =>
    if disk.isDirectory l then .error .EISDIR
    disk.demand l.node [.write]
    match disk.node l.node with
    | .device .terminal => .error .deviceMissing
    | .file mode _ =>
      return (if truncate then disk.set l.node (.file mode .empty) else disk, l)
    | _ => return (disk, l)

/-- The disk after a file has been emptied, if the node is a file. -/
def emptied (disk : Disk) (id : NodeId) : Disk :=
  match disk.node id with
  | .file mode _ => disk.set id (.file mode .empty)
  | _ => disk

lemma createEntry_eq_ok_iff {dir id : NodeId} {name : String} {n : Node} :
    disk.createEntry dir name n = .ok (disk', id) ↔
      (∃ d, disk.directory? dir = some d ∧ d.isSealed = false) ∧ disk.demandChange dir = .ok () ∧
        disk' = (disk.add n).1.setEntry dir name id ∧ id = .stored disk.nodes.size := by
  unfold createEntry create
  cases disk.directory? dir with
  | none => exact ⟨fun h => (nomatch h), fun ⟨⟨_, h, _⟩, _⟩ => (nomatch h)⟩
  | some d =>
    dsimp only
    cases sealing : d.isSealed with
    | true =>
      refine ⟨fun h => (nomatch h), fun ⟨⟨d', own, free⟩, _⟩ => ?_⟩
      cases own
      rw [sealing] at free
      cases free
    | false =>
      -- a sealed directory and one that may not be changed take no new entry
      cases disk.demandChange dir with
      | error e => exact ⟨fun h => (nomatch h), fun ⟨_, h, _⟩ => (nomatch h)⟩
      | ok _ =>
        constructor
        · intro h
          cases h
          exact ⟨⟨d, rfl, sealing⟩, rfl, rfl, rfl⟩
        · rintro ⟨-, -, rfl, rfl⟩
          rfl

lemma openTarget_missing_eq_ok_iff {up l : Location} {name : String} :
    disk.openTarget (.missing up name) truncate mode = .ok (disk', l) ↔
      ∃ id, disk.createEntry up.node name (.file mode .empty) = .ok (disk', id) ∧
        l = (name, id) :: up := by
  unfold openTarget
  rw [bind_eq_ok_iff]
  constructor
  · rintro ⟨⟨disk, id⟩, created, h⟩
    cases h
    exact ⟨id, created, rfl⟩
  · rintro ⟨id, created, rfl⟩
    exact ⟨(disk', id), created, rfl⟩

lemma openTarget_found_eq_ok_iff {l l' : Location} :
    disk.openTarget (.found l) truncate mode = .ok (disk', l') ↔
      disk.directory? l.node = none ∧ disk.allows l.node .write = true ∧
        disk.node l.node ≠ .device .terminal ∧ l' = l ∧
        disk' = if truncate then disk.emptied l.node else disk := by
  unfold openTarget isDirectory emptied demand
  dsimp only
  cases disk.directory? l.node with
  | some d => exact ⟨fun h => (nomatch h), fun ⟨h, _⟩ => (nomatch h)⟩
  | none =>
    rw [List.all_cons, List.all_nil, Bool.and_true]
    cases disk.allows l.node .write with
    | false => exact ⟨fun h => (nomatch h), fun ⟨_, h, _⟩ => (nomatch h)⟩
    | true =>
      -- only a file holds something that could be emptied
      constructor
      · intro h
        refine ⟨rfl, rfl, ?_⟩
        cases kind : disk.node l.node with
        | file own content =>
          rw [kind] at h
          cases h
          exact ⟨nofun, rfl, rfl⟩
        | device own =>
          rw [kind] at h
          cases own <;> cases h <;> refine ⟨nofun, rfl, ?_⟩ <;> cases truncate <;> rfl
        | _ =>
          rw [kind] at h
          cases h
          refine ⟨nofun, rfl, ?_⟩
          cases truncate <;> rfl
      · rintro ⟨-, -, kept, rfl, rfl⟩
        cases kind : disk.node l'.node with
        | file own content => rfl
        | device own =>
          cases own with
          | terminal => exact absurd kind kept
          | _ => cases truncate <;> rfl
        | _ => cases truncate <;> rfl

lemma openWrite_eq (disk : Disk) (cwd : Location) (path : String) (truncate : Bool)
    (mode : Nat) :
    disk.openWrite cwd path truncate mode =
      disk.demandFile maxLinks cwd path >>= fun _ =>
        disk.resolveShort cwd path >>= fun target => disk.openTarget target truncate mode :=
  rfl

/-- The path is opened for output: it leads to the target, and this is what comes of it. -/
structure Opens (disk : Disk) (cwd : Location) (path : String) (truncate : Bool) (mode : Nat)
    (target : Target) (result : Disk × Location) : Prop where
  demanded : disk.demandFile maxLinks cwd path = .ok ()
  resolved : disk.resolveShort cwd path = .ok target
  opened : disk.openTarget target truncate mode = .ok result

lemma openWrite_eq_ok_iff {result : Disk × Location} :
    disk.openWrite cwd path truncate mode = .ok result ↔
      ∃ target, disk.Opens cwd path truncate mode target result := by
  rw [openWrite_eq, bind_eq_ok_iff]
  constructor
  · rintro ⟨_, demanded, h⟩
    obtain ⟨target, resolved, opened⟩ := bind_eq_ok_iff.1 h
    exact ⟨target, demanded, resolved, opened⟩
  · rintro ⟨target, demanded, resolved, opened⟩
    exact ⟨(), demanded, bind_eq_ok_iff.2 ⟨target, resolved, opened⟩⟩

lemma Opens.trail {result : Disk × Location}
    (h : disk.Opens cwd path truncate mode target result) :
    ∃ n ≤ maxLinks, disk.Trail true (Path.start cwd path) (Path.components path) n target :=
  (resolve_eq_ok_iff.1 (resolveShort_eq_ok_iff.1 h.resolved).2).2

/-! ## A path that is joined to a directory -/

/-- A path leads through no more links than are followed, if it leads anywhere. -/
def WithinLinks (disk : Disk) (path : String) : Prop :=
  ∀ n target, disk.Trail true [] (Path.components path) n target → n ≤ maxLinks

lemma demandFile_congr {cwd' : Location} {path' : String}
    (ends : Path.endsInSlash path' = Path.endsInSlash path)
    (same : ∀ other, disk.resolve cwd' path' false = .ok other ↔
      disk.resolve cwd path false = .ok other) :
    disk.demandFile links cwd' path' = .ok () ↔ disk.demandFile links cwd path = .ok () := by
  rw [demandFile_eq_ok_iff, demandFile_eq_ok_iff, ends]
  simp only [same]

section Joined

variable {w n : Nat}

lemma resolve_join_iff (absolute : Path.isAbsolute wd = true)
    (relative : Path.isAbsolute path = false) (given : path ≠ "")
    (way : disk.Trail true [] (Path.names wd) w (.found there)) :
    disk.resolve cwd (Path.join wd path) follow = .ok target ↔
      ∃ n, w + n ≤ maxLinks ∧ disk.Trail follow there (Path.components path) n target := by
  have some : wd ≠ "" := by
    rintro rfl
    exact absurd absolute (by decide)
  have joined : Path.isAbsolute (Path.join wd path) = true := Path.isAbsolute_join absolute path
  have nonempty : Path.join wd path ≠ "" := by
    intro h
    rw [h] at joined
    exact absurd joined (by decide)
  have names := Path.all_components relative given
  rw [resolve_eq_ok_iff, and_iff_right nonempty, Path.start, if_pos joined,
    Path.components_join relative some given]
  constructor
  -- a trail through the joined path first goes the way of the directory, and only once
  · rintro ⟨m, few, trail⟩
    obtain ⟨mid, first, second, rfl, front, back⟩ := trail.split names
    obtain ⟨rfl, found⟩ := front.unique way
    cases found
    exact ⟨second, few, back⟩
  · rintro ⟨n, few, trail⟩
    refine ⟨w + n, few, way.append ?_ trail⟩
    intro none
    rw [none] at names
    cases names

/-- Along a path that leads somewhere, the two ways to look at its last place agree as well. -/
lemma resolve_join_last_iff (absolute : Path.isAbsolute wd = true)
    (relative : Path.isAbsolute path = false) (given : path ≠ "")
    (way : disk.Trail true [] (Path.names wd) w (.found there))
    (trail : disk.Trail true there (Path.components path) n target) (few : w + n ≤ maxLinks)
    {other : Target} :
    disk.resolve cwd (Path.join wd path) false = .ok other ↔
      disk.resolve there path false = .ok other := by
  obtain ⟨m, fewer, last, unfollowed⟩ := trail.exists_unfollowed
  have begins : Path.start there path = there := if_neg (by rw [relative]; exact Bool.false_ne_true)
  rw [resolve_join_iff absolute relative given way, resolve_eq_ok_iff, and_iff_right given, begins]
  constructor
  · rintro ⟨m', -, trail'⟩
    obtain ⟨rfl, rfl⟩ := trail'.unique unfollowed
    exact ⟨m', by omega, trail'⟩
  · rintro ⟨m', -, trail'⟩
    obtain ⟨rfl, rfl⟩ := trail'.unique unfollowed
    exact ⟨m', by omega, trail'⟩

end Joined

lemma resolve_of_absolute (absolute : Path.isAbsolute path = true) (cwd cwd' : Location) :
    disk.resolve cwd path follow = disk.resolve cwd' path follow := by
  unfold resolve
  rw [if_pos absolute, if_pos absolute]

/-- Where an absolute path leads, name by name. -/
theorem resolveShort_of_components {names : List String} (absolute : Path.isAbsolute path = true)
    (short : Text.size path < Path.maxLength) (split : Path.components path = names)
    (cwd : Location) : disk.resolveShort cwd path = disk.walk true maxLinks [] names := by
  have given : ¬ path.isEmpty = true := by
    intro empty
    rw [String.isEmpty_iff.1 empty] at absolute
    exact absurd absolute (by decide)
  unfold resolveShort resolve
  rw [if_neg (Nat.not_le_of_lt short), if_neg given, if_pos absolute, split]

/-- A path that leads somewhere from the root is within the links. -/
theorem withinLinks_of_resolve (absolute : Path.isAbsolute path = true)
    (h : disk.resolve cwd path = .ok target) : disk.WithinLinks path := by
  obtain ⟨-, n, few, trail⟩ := resolve_eq_ok_iff.1 h
  rw [Path.start, if_pos absolute] at trail
  intro m other trail'
  obtain ⟨rfl, -⟩ := trail'.unique trail
  exact few

variable {result : Disk × Location}

lemma opens_of_absolute (absolute : Path.isAbsolute path = true) (cwd cwd' : Location) :
    disk.Opens cwd path truncate mode target result ↔
      disk.Opens cwd' path truncate mode target result := by
  have same {follow : Bool} : disk.resolve cwd path follow = disk.resolve cwd' path follow :=
    resolve_of_absolute absolute cwd cwd'
  have demanded : disk.demandFile maxLinks cwd path = .ok () ↔
      disk.demandFile maxLinks cwd' path = .ok () :=
    demandFile_congr rfl fun other => by rw [same]
  have resolved : disk.resolveShort cwd path = disk.resolveShort cwd' path := by
    unfold resolveShort
    rw [same]
  constructor
  · intro h
    exact ⟨demanded.1 h.demanded, resolved ▸ h.resolved, h.opened⟩
  · intro h
    exact ⟨demanded.2 h.demanded, resolved ▸ h.resolved, h.opened⟩

/-- No file can be opened by the path of a directory with nothing behind it, nor by nothing. -/
lemma not_opens_join_empty (some : wd ≠ "") :
    ¬ disk.Opens cwd (Path.join wd "") truncate mode target result := by
  intro h
  have ends := (demandFile_eq_ok_iff.1 h.demanded).1
  rw [Path.endsInSlash_join_empty some] at ends
  cases ends

lemma not_opens_empty : ¬ disk.Opens cwd "" truncate mode target result := by
  intro h
  exact (resolve_eq_ok_iff.1 (resolveShort_eq_ok_iff.1 h.resolved).2).1 rfl

section Relative

variable {w n : Nat}

/-- The links of a joined path are those of the directory and its own. -/
theorem withinLinks_join_iff (absolute : Path.isAbsolute wd = true)
    (relative : Path.isAbsolute path = false) (given : path ≠ "")
    (way : disk.Trail true [] (Path.names wd) w (.found there))
    (trail : disk.Trail true there (Path.components path) n target) :
    disk.WithinLinks (Path.join wd path) ↔ w + n ≤ maxLinks := by
  have some : wd ≠ "" := by
    rintro rfl
    exact absurd absolute (by decide)
  have more : Path.components path ≠ [] := by
    intro none
    have names := Path.all_components relative given
    rw [none] at names
    cases names
  have whole := way.append more trail
  -- the trail is unique, so the bound speaks of this one number of links
  unfold WithinLinks
  rw [Path.components_join relative some given]
  constructor
  · intro within
    exact within _ _ whole
  · intro few m other trail'
    obtain ⟨rfl, -⟩ := trail'.unique whole
    exact few

lemma opens_join_relative_iff (absolute : Path.isAbsolute wd = true)
    (relative : Path.isAbsolute path = false) (given : path ≠ "")
    (way : disk.Trail true [] (Path.names wd) w (.found there))
    (short : Text.size (Path.join wd path) < Path.maxLength) :
    disk.Opens cwd (Path.join wd path) truncate mode target result ↔
      disk.Opens there path truncate mode target result ∧
        disk.WithinLinks (Path.join wd path) := by
  have begins : Path.start there path = there := if_neg (by rw [relative]; exact Bool.false_ne_true)
  have last {n : Nat} (trail : disk.Trail true there (Path.components path) n target)
      (few : w + n ≤ maxLinks) : disk.demandFile maxLinks cwd (Path.join wd path) = .ok () ↔
        disk.demandFile maxLinks there path = .ok () :=
    demandFile_congr (Path.endsInSlash_join given) fun _ =>
      resolve_join_last_iff absolute relative given way trail few
  constructor
  · intro h
    obtain ⟨-, resolved⟩ := resolveShort_eq_ok_iff.1 h.resolved
    obtain ⟨n, few, trail⟩ := (resolve_join_iff absolute relative given way).1 resolved
    have shorter := Nat.lt_of_le_of_lt (Path.size_le_size_join wd path) short
    have resolves : disk.resolve there path = .ok target := by
      refine resolve_eq_ok_iff.2 ⟨given, n, by omega, ?_⟩
      rwa [begins]
    refine ⟨⟨(last trail few).1 h.demanded, resolveShort_eq_ok_iff.2 ⟨shorter, resolves⟩,
      h.opened⟩, ?_⟩
    exact (withinLinks_join_iff absolute relative given way trail).2 few
  · rintro ⟨h, within⟩
    obtain ⟨n, -, trail⟩ := h.trail
    rw [begins] at trail
    have few := (withinLinks_join_iff absolute relative given way trail).1 within
    have resolves : disk.resolve cwd (Path.join wd path) = .ok target :=
      (resolve_join_iff absolute relative given way).2 ⟨n, few, trail⟩
    exact ⟨(last trail few).2 h.demanded, resolveShort_eq_ok_iff.2 ⟨short, resolves⟩, h.opened⟩

end Relative

/-- **A joined path opens what the path opens in the directory.** The only difference is that its
links count together with those of the directory. -/
theorem opens_join_iff (absolute : Path.isAbsolute wd = true)
    (entered : disk.enter cwd wd = .ok there)
    (short : Text.size (Path.join wd path) < Path.maxLength) :
    disk.Opens cwd (Path.join wd path) truncate mode target result ↔
      disk.Opens there path truncate mode target result ∧
        disk.WithinLinks (Path.join wd path) := by
  have some : wd ≠ "" := by
    rintro rfl
    exact absurd absolute (by decide)
  obtain ⟨w, fewer, trail⟩ := trail_of_enter entered
  rw [Path.start, if_pos absolute] at trail
  have way := trail.of_components
  by_cases relative : Path.isAbsolute path = false
  · by_cases given : path = ""
    · subst given
      exact ⟨fun h => absurd h (not_opens_join_empty some), fun h => absurd h.1 not_opens_empty⟩
    · exact opens_join_relative_iff absolute relative given way short
  · have whole : Path.isAbsolute path = true := by simpa using relative
    rw [Path.join_of_isAbsolute whole, opens_of_absolute whole cwd there]
    refine ⟨fun h => ⟨h, ?_⟩, And.left⟩
    exact withinLinks_of_resolve whole (resolveShort_eq_ok_iff.1 h.resolved).2

/-! ## What others see -/

/-- The disk as somebody sees it who finds these nodes beside those that are stored. -/
def seenAs (disk : Disk) (shown : NodeId → Option Node) : Disk :=
  { disk with shown }

/-- The node is stored. -/
def Stores (disk : Disk) (id : NodeId) : Prop :=
  ∃ number < disk.nodes.size, id = .stored number

/-- Whoever follows the path meets nothing but what is stored. -/
def KeepsToStored (disk : Disk) (cwd : Location) (path : String) : Prop :=
  ∀ id, disk.Meets (Path.start cwd path) (Path.components path) id → disk.Stores id

variable {shown : NodeId → Option Node}

lemma Stores.node_seenAs {id : NodeId} (h : disk.Stores id) :
    (disk.seenAs shown).node id = disk.node id := by
  obtain ⟨number, -, rfl⟩ := h
  rfl

lemma KeepsToStored.alike (h : disk.KeepsToStored cwd path) (shown : NodeId → Option Node)
    (id : NodeId) (meets : disk.Meets (Path.start cwd path) (Path.components path) id) :
    disk.Alike (disk.seenAs shown) id :=
  .inl (h id meets).node_seenAs

/-- On disks that are alike along a path, it leads to the same. -/
theorem resolve_congr
    (alike : ∀ id, disk.Meets (Path.start cwd path) (Path.components path) id →
      disk.Alike disk' id) :
    disk'.resolve cwd path follow = .ok target ↔ disk.resolve cwd path follow = .ok target := by
  rw [resolve_eq_ok_iff, resolve_eq_ok_iff]
  constructor
  · rintro ⟨given, n, few, trail⟩
    exact ⟨given, n, few, trail.of_alike_of_meets alike⟩
  · rintro ⟨given, n, few, trail⟩
    exact ⟨given, n, few, trail.of_alike alike⟩

lemma node_eq_link_iff {id : NodeId} {text : String} (alike : disk.Alike disk' id) :
    disk'.node id = .link text ↔ disk.node id = .link text := by
  rcases alike with same | ⟨⟨_, _, own⟩, ⟨_, _, other⟩⟩
  · rw [same]
  · rw [own, other]
    exact ⟨nofun, nofun⟩

/-- Neither do the links in its last place stand against it on one of them alone. -/
theorem demandFile_alike
    (alike : ∀ id, disk.Meets (Path.start cwd path) (Path.components path) id →
      disk.Alike disk' id) :
    disk'.demandFile links cwd path = .ok () ↔ disk.demandFile links cwd path = .ok () := by
  induction links generalizing cwd path with
  | zero =>
    rw [demandFile_eq_ok_iff, demandFile_eq_ok_iff]
    refine and_congr_right fun _ => ⟨fun _ _ _ _ none => (nomatch none), fun _ _ _ _ none => ?_⟩
    cases none
  | succ links ih =>
    rw [demandFile_eq_ok_iff, demandFile_eq_ok_iff]
    refine and_congr_right fun _ => forall_congr' fun left => forall_congr' fun l =>
      forall_congr' fun text => imp_congr_right fun more => ?_
    cases more
    rw [resolve_congr alike]
    refine imp_congr_right fun resolved => ?_
    obtain ⟨-, n, -, trail⟩ := resolve_eq_ok_iff.1 resolved
    have found : disk.Alike disk' l.node := alike _ trail.meets_target
    rw [node_eq_link_iff found]
    refine imp_congr_right fun linked => ih fun id meets => alike id ?_
    exact .last trail linked meets

section Stored

variable {id dir : NodeId} {name : String}

lemma Stores.directory?_seenAs (h : disk.Stores id) :
    (disk.seenAs shown).directory? id = disk.directory? id := by
  unfold directory?
  rw [h.node_seenAs]

lemma Stores.allows_seenAs (h : disk.Stores id) (right : Right) :
    (disk.seenAs shown).allows id right = disk.allows id right := by
  unfold allows
  rw [h.node_seenAs]

lemma Stores.demand_seenAs (h : disk.Stores id) (rights : List Right) :
    (disk.seenAs shown).demand id rights = disk.demand id rights := by
  unfold demand
  rw [funext h.allows_seenAs]

lemma Stores.set_seenAs (h : disk.Stores id) (n : Node) :
    (disk.seenAs shown).set id n = (disk.set id n).seenAs shown := by
  obtain ⟨number, -, rfl⟩ := h
  rfl

lemma Stores.setEntry_seenAs (h : disk.Stores dir) :
    (disk.seenAs shown).setEntry dir name id = (disk.setEntry dir name id).seenAs shown := by
  unfold setEntry
  rw [h.directory?_seenAs]
  cases disk.directory? dir with
  | none => rfl
  | some d => exact h.set_seenAs _

lemma Stores.add (h : disk.Stores dir) (n : Node) : (disk.add n).1.Stores dir := by
  obtain ⟨number, small, rfl⟩ := h
  refine ⟨number, ?_, rfl⟩
  rw [Disk.add, Array.size_push]
  omega

lemma Stores.createEntry_seenAs_iff (h : disk.Stores dir) {n : Node} :
    (disk.seenAs shown).createEntry dir name n = .ok (disk', id) ↔
      ∃ own, disk.createEntry dir name n = .ok (own, id) ∧ disk' = own.seenAs shown := by
  have changed : (disk.seenAs shown).demandChange dir = disk.demandChange dir := by
    obtain ⟨number, small, rfl⟩ := h
    exact Stores.demand_seenAs ⟨number, small, rfl⟩ _
  have entered : ((disk.seenAs shown).add n).1.setEntry dir name id =
      ((disk.add n).1.setEntry dir name id).seenAs shown :=
    (h.add n).setEntry_seenAs
  simp only [createEntry_eq_ok_iff]
  rw [h.directory?_seenAs, changed, entered]
  constructor
  · rintro ⟨free, demanded, rfl, same⟩
    exact ⟨_, ⟨free, demanded, rfl, same⟩, rfl⟩
  · rintro ⟨own, ⟨free, demanded, rfl, same⟩, rfl⟩
    exact ⟨free, demanded, rfl, same⟩

lemma Stores.emptied_seenAs (h : disk.Stores id) :
    (disk.seenAs shown).emptied id = (disk.emptied id).seenAs shown := by
  unfold emptied
  rw [h.node_seenAs]
  cases disk.node id with
  | file own content => exact h.set_seenAs _
  | _ => rfl

/-- What is done at the end of a path is the same for everybody, if it is done to what is stored. -/
lemma openTarget_seenAs_iff (h : disk.Stores target.node) {l : Location} :
    (disk.seenAs shown).openTarget target truncate mode = .ok (disk', l) ↔
      ∃ own, disk.openTarget target truncate mode = .ok (own, l) ∧ disk' = own.seenAs shown := by
  cases target with
  | missing up name =>
    replace h : disk.Stores up.node := h
    simp only [openTarget_missing_eq_ok_iff, h.createEntry_seenAs_iff]
    constructor
    · rintro ⟨id, ⟨own, created, rfl⟩, rfl⟩
      exact ⟨own, ⟨id, created, rfl⟩, rfl⟩
    · rintro ⟨own, ⟨id, created, rfl⟩, rfl⟩
      exact ⟨id, ⟨own, created, rfl⟩, rfl⟩
  | found there =>
    replace h : disk.Stores there.node := h
    -- emptying a file and seeing the disk another way do not get in each other's way
    have changed : (if truncate then (disk.seenAs shown).emptied there.node
        else disk.seenAs shown) =
        (if truncate then disk.emptied there.node else disk).seenAs shown := by
      cases truncate with
      | true => exact h.emptied_seenAs
      | false => rfl
    simp only [openTarget_found_eq_ok_iff]
    rw [h.directory?_seenAs, h.allows_seenAs, h.node_seenAs, changed]
    constructor
    · rintro ⟨noDirectory, may, kept, rfl, rfl⟩
      exact ⟨_, ⟨noDirectory, may, kept, rfl, rfl⟩, rfl⟩
    · rintro ⟨own, ⟨noDirectory, may, kept, rfl, rfl⟩, rfl⟩
      exact ⟨noDirectory, may, kept, rfl, rfl⟩

end Stored

/-- **What a path opens does not depend on who follows it**, if it keeps to what is stored. -/
theorem opens_seenAs_iff {l : Location} (keeps : disk.KeepsToStored cwd path) :
    (disk.seenAs shown).Opens cwd path truncate mode target (disk', l) ↔
      ∃ own, disk.Opens cwd path truncate mode target (own, l) ∧ disk' = own.seenAs shown := by
  have resolves : (disk.seenAs shown).resolveShort cwd path = .ok target ↔
      disk.resolveShort cwd path = .ok target := by
    rw [resolveShort_eq_ok_iff, resolveShort_eq_ok_iff, resolve_congr (keeps.alike shown)]
  have stored (h : disk.resolveShort cwd path = .ok target) : disk.Stores target.node := by
    obtain ⟨-, n, -, trail⟩ := resolve_eq_ok_iff.1 (resolveShort_eq_ok_iff.1 h).2
    exact keeps _ trail.meets_target
  constructor
  · intro h
    have resolved := resolves.1 h.resolved
    obtain ⟨own, opened, rfl⟩ := (openTarget_seenAs_iff (stored resolved)).1 h.opened
    exact ⟨own, ⟨(demandFile_alike (keeps.alike shown)).1 h.demanded, resolved, opened⟩, rfl⟩
  · rintro ⟨own, h, rfl⟩
    exact ⟨(demandFile_alike (keeps.alike shown)).2 h.demanded, resolves.2 h.resolved,
      (openTarget_seenAs_iff (stored h.resolved)).2 ⟨own, h.opened, rfl⟩⟩

lemma enter_seenAs_iff {l : Location} (keeps : disk.KeepsToStored cwd path) :
    (disk.seenAs shown).enter cwd path = .ok l ↔ disk.enter cwd path = .ok l := by
  rw [enter_eq_ok_iff, enter_eq_ok_iff, resolveShort_eq_ok_iff, resolveShort_eq_ok_iff,
    resolve_congr (keeps.alike shown)]
  refine and_congr_right fun h => ?_
  obtain ⟨-, n, -, trail⟩ := resolve_eq_ok_iff.1 h.2
  have stored : disk.Stores l.node := keeps _ trail.meets_target
  rw [stored.directory?_seenAs, stored.allows_seenAs]

/-! ## From the directory, or by a joined path -/

lemma size_set (disk : Disk) (id : NodeId) (n : Node) :
    (disk.set id n).nodes.size = disk.nodes.size := by
  unfold set
  cases id with
  | stored number => exact Array.size_setIfInBounds
  | _ => rfl

lemma size_setEntry (disk : Disk) (dir id : NodeId) (name : String) :
    (disk.setEntry dir name id).nodes.size = disk.nodes.size := by
  unfold setEntry
  cases disk.directory? dir with
  | none => rfl
  | some d => exact disk.size_set dir _

lemma size_emptied (disk : Disk) (id : NodeId) :
    (disk.emptied id).nodes.size = disk.nodes.size := by
  unfold emptied
  cases disk.node id with
  | file own content => exact disk.size_set id _
  | _ => rfl

lemma node_of_nodes {number : Nat} {n : Node} (h : disk.nodes[number]? = some n) :
    disk.node (.stored number) = n := by
  unfold node
  dsimp only
  rw [h]
  rfl

lemma nodes_of_node {number mode : Nat} {content : ByteArray}
    (h : disk.node (.stored number) = .file mode content) :
    disk.nodes[number]? = some (.file mode content) := by
  unfold node at h
  dsimp only at h
  cases found : disk.nodes[number]? with
  | none =>
    rw [found] at h
    cases h
  | some n =>
    rw [found] at h
    exact congrArg some h

lemma allows_write_of_nodes {number mode : Nat} {content : ByteArray}
    (h : disk.nodes[number]? = some (.file mode content)) :
    disk.allows (.stored number) .write = mode.testBit 7 := by
  unfold allows
  rw [node_of_nodes h]
  rfl

lemma node_set_self {number : Nat} {n : Node} (small : number < disk.nodes.size) :
    (disk.set (.stored number) n).node (.stored number) = n :=
  node_of_nodes (Array.getElem?_setIfInBounds_self_of_lt small)

lemma node_set_of_ne {id other : NodeId} {n : Node} (distinct : other ≠ id) :
    (disk.set id n).node other = disk.node other := by
  unfold set
  cases id with
  | stored number =>
    unfold node
    cases other with
    | stored k =>
      have distinct : number ≠ k := fun same => distinct (congrArg NodeId.stored same.symm)
      dsimp only
      rw [Array.getElem?_setIfInBounds_ne distinct]
    | _ => rfl
  | _ => rfl

/-- Only a file can be emptied. -/
theorem file_of_emptied {id : NodeId} {number mode : Nat} {content : ByteArray}
    (held : id = .stored number)
    (h : (disk.emptied id).nodes[number]? = some (.file mode content)) :
    ∃ before, disk.nodes[number]? = some (.file mode before) ∧
      (disk.emptied id).nodes[number]? = some (.file mode .empty) := by
  subst held
  unfold emptied at h ⊢
  cases kind : disk.node (.stored number) with
  | file own before =>
    have old := nodes_of_node kind
    obtain ⟨small, -⟩ := Array.getElem?_eq_some_iff.1 old
    rw [kind] at h
    have empty := nodes_of_node (node_set_self (n := .file own .empty) small)
    cases empty.symm.trans h
    exact ⟨before, old, empty⟩
  | _ =>
    rw [kind] at h
    cases (node_of_nodes h).symm.trans kind

/-- A directory has got an entry for something new. Nothing else has changed. -/
structure Gains (disk disk' : Disk) (dir : NodeId) (name : String) (n : Node) : Prop where
  entered : ∃ d, disk.directory? dir = some d ∧ disk'.node dir = .directory
    { d with entries := d.entries.filter (·.1 ≠ name) ++ [(name, .stored disk.nodes.size)] }
  made : disk'.nodes[disk.nodes.size]? = some n
  others : ∀ id, disk.Stores id → id ≠ dir → disk'.node id = disk.node id

lemma gains_of_createEntry {dir id : NodeId} {name : String} {n : Node} (stored : disk.Stores dir)
    (h : disk.createEntry dir name n = .ok (disk', id)) : disk.Gains disk' dir name n := by
  obtain ⟨⟨d, held, -⟩, -, rfl, rfl⟩ := createEntry_eq_ok_iff.1 h
  obtain ⟨own, small, rfl⟩ := stored
  -- a node is put behind all the others, so the old ones keep their numbers
  have kept {number : Nat} (small : number < disk.nodes.size) :
      (disk.add n).1.node (.stored number) = disk.node (.stored number) := by
    unfold node add
    dsimp only
    rw [Array.getElem?_push_lt small, Array.getElem?_eq_getElem small]
  have held' : (disk.add n).1.directory? (.stored own) = some d := by
    unfold directory? at held ⊢
    rw [kept small]
    exact held
  have grown : (disk.add n).1.nodes.size = disk.nodes.size + 1 := Array.size_push _
  have entered : (disk.add n).1.setEntry (.stored own) name (.stored disk.nodes.size) =
      (disk.add n).1.set (.stored own) (.directory { d with
        entries := d.entries.filter (·.1 ≠ name) ++ [(name, .stored disk.nodes.size)] }) := by
    unfold setEntry
    rw [held']
  rw [entered]
  refine ⟨⟨d, held, node_set_self (by omega)⟩, ?_, ?_⟩
  · have other : own ≠ disk.nodes.size := by omega
    unfold set
    rw [Array.getElem?_setIfInBounds_ne other]
    exact Array.getElem?_push_size
  · rintro _ ⟨number, little, rfl⟩ other
    rw [node_set_of_ne other, kept little]

/-- What has been opened is stored, if what the path leads to is. -/
lemma Opens.stores {own : Disk} {l : Location} (stored : disk.Stores target.node)
    (h : disk.Opens cwd path truncate mode target (own, l)) : own.Stores l.node := by
  cases target with
  | missing up name =>
    obtain ⟨id, created, rfl⟩ := openTarget_missing_eq_ok_iff.1 h.opened
    obtain ⟨-, -, rfl, rfl⟩ := createEntry_eq_ok_iff.1 created
    refine ⟨disk.nodes.size, ?_, rfl⟩
    rw [size_setEntry, add, Array.size_push]
    exact Nat.lt_succ_self _
  | found there =>
    obtain ⟨-, -, -, rfl, rfl⟩ := openTarget_found_eq_ok_iff.1 h.opened
    obtain ⟨number, small, same⟩ := stored
    refine ⟨number, ?_, same⟩
    cases truncate with
    | true => rwa [if_pos rfl, size_emptied]
    | false => exact small

/-- A directory that one can go to, and a path that is used in it. The system says how long a path
may be, and there is no NUL character in that of a directory that exists. Neither the directory nor
the path leads through what the system shows of its processes. -/
structure Leads (disk : Disk) (dir path : String) (there : Location) : Prop where
  absolute : Path.isAbsolute dir = true
  entered : disk.enter [] dir = .ok there
  short : Text.size (Path.join dir path) < Path.maxLength
  dirPlain : '\x00' ∉ dir.toList
  dirKept : disk.KeepsToStored [] dir
  pathKept : disk.KeepsToStored there path

namespace Leads

variable {dir : String}

lemma stores (h : disk.Leads dir path there) {result : Disk × Location}
    (opened : disk.Opens there path truncate mode target result) : disk.Stores target.node := by
  obtain ⟨n, -, trail⟩ := opened.trail
  exact h.pathKept _ trail.meets_target

/-- Wherever one is and whatever else one sees, one gets to the directory. -/
theorem enter_seenAs (h : disk.Leads dir path there) (cwd : Location) :
    (disk.seenAs shown).enter cwd dir = .ok there := by
  have begins : Path.start cwd dir = Path.start [] dir := by
    rw [Path.start, Path.start, if_pos h.absolute, if_pos h.absolute]
  have kept : disk.KeepsToStored cwd dir := by
    unfold KeepsToStored
    rw [begins]
    exact h.dirKept
  rw [enter_seenAs_iff kept, enter_eq_ok_iff]
  unfold resolveShort
  rw [resolve_of_absolute h.absolute cwd []]
  exact enter_eq_ok_iff.1 h.entered

/-- The links of the joined path are no others for those who see something else. -/
lemma withinLinks_seenAs_iff (h : disk.Leads dir path there) {own : Disk} {l : Location}
    (opened : disk.Opens there path truncate mode target (own, l)) :
    (disk.seenAs shown).WithinLinks (Path.join dir path) ↔
      disk.WithinLinks (Path.join dir path) := by
  by_cases relative : Path.isAbsolute path = false
  · have given : path ≠ "" := by
      rintro rfl
      exact not_opens_empty opened
    obtain ⟨w, -, way⟩ := trail_of_enter h.entered
    obtain ⟨n, -, trail⟩ := opened.trail
    have way' := way.of_alike (h.dirKept.alike shown)
    have trail' := trail.of_alike (h.pathKept.alike shown)
    have begins : Path.start there path = there :=
      if_neg (by rw [relative]; exact Bool.false_ne_true)
    rw [begins] at trail trail'
    rw [Path.start, if_pos h.absolute] at way way'
    -- the same links are gone through whichever way the disk is seen
    rw [withinLinks_join_iff h.absolute relative given way.of_components trail,
      withinLinks_join_iff h.absolute relative given way'.of_components trail']
  · have absolute : Path.isAbsolute path = true := by simpa using relative
    have opened' : (disk.seenAs shown).Opens there path truncate mode target
        (own.seenAs shown, l) := (opens_seenAs_iff h.pathKept).2 ⟨own, opened, rfl⟩
    rw [Path.join_of_isAbsolute absolute]
    exact iff_of_true
      (withinLinks_of_resolve absolute (resolveShort_eq_ok_iff.1 opened'.resolved).2)
      (withinLinks_of_resolve absolute (resolveShort_eq_ok_iff.1 opened.resolved).2)

/-- **Who joins the path to that of the directory opens what the path opens there**, whoever looks
and wherever he is, as long as there are not too many links. -/
theorem opens_join_seenAs_iff (h : disk.Leads dir path there) {l : Location} :
    (disk.seenAs shown).Opens cwd (Path.join dir path) truncate mode target (disk', l) ↔
      disk.WithinLinks (Path.join dir path) ∧
        ∃ own, disk.Opens there path truncate mode target (own, l) ∧ disk' = own.seenAs shown := by
  rw [opens_join_iff h.absolute (h.enter_seenAs cwd) h.short, opens_seenAs_iff h.pathKept]
  constructor
  · rintro ⟨⟨own, opened, rfl⟩, within⟩
    exact ⟨(h.withinLinks_seenAs_iff opened).1 within, own, opened, rfl⟩
  · rintro ⟨within, own, opened, rfl⟩
    exact ⟨⟨own, opened, rfl⟩, (h.withinLinks_seenAs_iff opened).2 within⟩

end Leads

end Disk

end CommandShell
