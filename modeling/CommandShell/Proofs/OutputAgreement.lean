import CommandShell.Proofs.LastOutput
import CommandShell.Proofs.Listings

/-!
# Redirected output

The output of a built-in command goes to a file that the shell opens, and that of a program to one
that a child opens. `outputs_agree` is that this makes no difference: they open the same file, leave
the same in it, and touch no other.

There are limits to this, and `outputs_disagree` shows them. Most of them are what `Disk.Leads` asks
for, which a disk on which everything is stored grants to every path (`Disk.leads_of_isWhole`).
-/

namespace CommandShell

/-! ## Disks on which everything is stored -/

namespace Disk

variable {disk : Disk} {follow : Bool} {here there l : Location} {names rest : List String}
  {name path dir : String} {n : Nat} {id : NodeId}

/-- The root is stored, and so is whatever has an entry in what is stored. -/
def isWhole (disk : Disk) : Bool :=
  0 < disk.nodes.size && disk.nodes.all fun
    | .directory d => d.entries.all fun (_, id) =>
      match id with
      | .stored number => number < disk.nodes.size
      | _ => false
    | .shortcut _ _ => false
    | _ => true

/-- The way to a place leads through what is stored. -/
def Inside (disk : Disk) (l : Location) : Prop :=
  ∀ x ∈ l, disk.Stores x.2

lemma inside_nil (disk : Disk) : disk.Inside [] :=
  List.forall_mem_nil _

lemma Inside.cons (h : disk.Inside l) (stored : disk.Stores id) : disk.Inside ((name, id) :: l) :=
  List.forall_mem_cons.2 ⟨stored, h⟩

lemma Inside.tail (h : disk.Inside l) : disk.Inside l.tail :=
  fun x hx => h x (List.mem_of_mem_tail hx)

lemma Inside.stores (h : disk.Inside l) (whole : disk.isWhole = true) : disk.Stores l.node := by
  cases l with
  | nil =>
    obtain ⟨some, -⟩ := Bool.and_eq_true_iff.1 whole
    exact ⟨0, of_decide_eq_true some, rfl⟩
  | cons x up => exact h x List.mem_cons_self

lemma Stores.exists_node (h : disk.Stores id) :
    ∃ number, ∃ small : number < disk.nodes.size, disk.node id = disk.nodes[number] := by
  obtain ⟨number, small, rfl⟩ := h
  exact ⟨number, small, node_of_nodes (Array.getElem?_eq_getElem small)⟩

lemma Stores.of_lookup {d : Directory} (h : disk.Stores l.node) (whole : disk.isWhole = true)
    (held : disk.directory? l.node = some d) (found : d.entries.lookup name = some id) :
    disk.Stores id := by
  obtain ⟨number, small, kind⟩ := h.exists_node
  obtain ⟨-, all⟩ := Bool.and_eq_true_iff.1 whole
  have own := Array.all_eq_true.1 all number small
  obtain ⟨before, after, entries, -⟩ := List.lookup_eq_some_iff.1 found
  have entry : (name, id) ∈ d.entries := by
    rw [entries]
    exact List.mem_append_right _ List.mem_cons_self
  rw [← kind, node_of_directory? held] at own
  have small' := List.all_eq_true.1 own (name, id) entry
  cases id with
  | stored number => exact ⟨number, of_decide_eq_true small', rfl⟩
  | _ => cases small'

lemma Stores.ne_shortcut (h : disk.Stores id) (whole : disk.isWhole = true) (text : String)
    (place : Location) : disk.node id ≠ .shortcut text place := by
  intro kind
  obtain ⟨number, small, same⟩ := h.exists_node
  obtain ⟨-, all⟩ := Bool.and_eq_true_iff.1 whole
  have own := Array.all_eq_true.1 all number small
  rw [← same, kind] at own
  cases own

/-- A step stays inside, wherever it leads. -/
def Pace.StaysInside (disk : Disk) : Pace → Prop
  | .stops (.ok (.found l)) | .on l | .through (some (l, _)) => disk.Inside l
  | _ => True

lemma staysInside_of_pace {p : Pace} (whole : disk.isWhole = true) (inside : disk.Inside here)
    (step : disk.pace follow here name rest = p) : p.StaysInside disk := by
  subst step
  fun_cases disk.pace follow here name rest
  case case5 => exact inside.tail
  case case7 =>
    split
    · trivial
    · trivial
  case case8 d held nonempty searched noDot noDots short id found =>
    -- what is found in a stored directory of a whole disk is stored itself
    have stored := (inside.stores whole).of_lookup whole held found
    unfold paceInto
    cases kind : disk.node id with
    | link target =>
      dsimp only
      split
      · exact inside.cons stored
      · split
        · trivial
        · split
          · exact disk.inside_nil
          · exact inside
    | shortcut text place => exact absurd kind (stored.ne_shortcut whole text place)
    | _ => exact inside.cons stored
  all_goals trivial

lemma Trail.inside (whole : disk.isWhole = true) (inside : disk.Inside here)
    (h : disk.Trail follow here names n (.found l)) : disk.Inside l := by
  generalize htarget : Target.found l = target at h
  induction h with
  | nil here =>
    cases htarget
    exact inside
  | stops step =>
    subst htarget
    exact staysInside_of_pace whole inside step
  | on step _ ih =>
    exact ih (staysInside_of_pace whole inside step) htarget
  | through step _ ih =>
    exact ih (staysInside_of_pace whole inside step) htarget

lemma Meets.stores (whole : disk.isWhole = true) (inside : disk.Inside here)
    (h : disk.Meets here names id) : disk.Stores id := by
  induction h with
  | here here names => exact inside.stores whole
  | entry held found => exact (inside.stores whole).of_lookup whole held found
  | on step _ ih =>
    exact ih (staysInside_of_pace whole inside step)
  | through step _ ih =>
    exact ih (staysInside_of_pace whole inside step)
  | @last here l names n target id trail link _ ih =>
    refine ih ?_
    split
    · exact disk.inside_nil
    · exact (trail.inside whole inside).tail

lemma keepsToStored_of_isWhole (whole : disk.isWhole = true) (inside : disk.Inside here)
    (path : String) : disk.KeepsToStored here path := by
  intro id meets
  refine meets.stores whole ?_
  unfold Path.start
  split
  · exact disk.inside_nil
  · exact inside

theorem leads_of_isWhole (whole : disk.isWhole = true) (absolute : Path.isAbsolute dir = true)
    (entered : disk.enter [] dir = .ok there)
    (short : Text.size (Path.join dir path) < Path.maxLength)
    (plain : '\x00' ∉ dir.toList) : disk.Leads dir path there := by
  obtain ⟨n, -, trail⟩ := trail_of_enter entered
  rw [Path.start, if_pos absolute] at trail
  exact ⟨absolute, entered, short, plain, keepsToStored_of_isWhole whole disk.inside_nil dir,
    keepsToStored_of_isWhole whole (trail.inside whole disk.inside_nil) path⟩

end Disk

/-! ## Listing into a file -/

namespace Machine

variable {m : Machine} {p : Process} {there : Location} {s : State} {path line : String}
  {o : Opening} {number : Nat} {rest : List (String × OutputMode)}

/-- **Lines that list the built-in commands in a file.** The first line opens it anew, and every
line finds what the lines before have left. -/
lemma exists_runsLines (own : m.process? m.shell = some p)
    (leads : m.disk.Leads s.workingDir path there)
    (opens : m.ShellOpens s.workingDir ⟨path, .truncate⟩ o) (regular : o.IsRegular number)
    (writable : ({ nodes := o.nodes } : Disk).allows (.stored number) .write = true)
    (programs : ∀ q ∈ m.processes, m.disk.Stores q.executable.node)
    (first : AsksForListing s line ⟨path, .truncate⟩)
    (others : ∀ x ∈ rest, AsksForListing s x.1 ⟨path, x.2⟩) :
    ∃ m' mode, RunsLines s m (line :: rest.map (·.1)) m' ∧
      m'.Offers (Path.join s.workingDir path) o.file.place number mode
        (listings (1 + ((rest.map (·.2)).reverse.takeWhile (· == .append)).length)) := by
  obtain ⟨m₁, mode, played, offers⟩ :=
    exists_play_first own leads opens regular writable programs first
  obtain ⟨plain, -⟩ := (shellOpens_iff_opens own).1 opens
  obtain ⟨m₂, run, left⟩ := offers.runsLines plain others
  have once : kept .truncate (m.heldBy number) ++ Builtin.listing.toUTF8 = listings 1 := rfl
  rw [once, foldl_listings] at left
  exact ⟨m₂, mode, .cons played run, left⟩

end Machine

open Machine

/-- A shell that is in a directory. -/
def shellIn (dir : String) : State := State.start {} dir false

lemma asksForListing_truncate (dir : String) :
    AsksForListing (shellIn dir) "help > f" ⟨"f", .truncate⟩ :=
  ⟨{ left := { program := "help", output := some ⟨"f", .truncate⟩ } },
    planLine_eq_ok_iff.1 (by cbv), by cbv, rfl, rfl, rfl⟩

lemma asksForListing_append (dir : String) :
    AsksForListing (shellIn dir) "help >> f" ⟨"f", .append⟩ :=
  ⟨{ left := { program := "help", output := some ⟨"f", .append⟩ } },
    planLine_eq_ok_iff.1 (by cbv), by cbv, rfl, rfl, rfl⟩

/-- Its process, whose child the helper is. -/
def mainShell : Process :=
  { helper with pid := 4, parent := 1 }

/-- A shell and a child of it, on a disk on which there is an empty directory `/work`. -/
def desk : Machine where
  disk.nodes := #[.directory { entries := [("work", .stored 1)] }, .directory {}]
  processes := [mainShell, helper]
  shell := 4

lemma leads_desk : desk.disk.Leads "/work" "f" [("work", .stored 1)] :=
  Disk.leads_of_isWhole (by cbv) (by cbv) (by cbv) (by cbv) (by decide)

/-- The new file in the directory. -/
def deskFile : Opening where
  nodes := #[.directory { entries := [("work", .stored 1)] },
    .directory { entries := [("f", .stored 2)] }, .file 0o644 .empty]
  number := 0
  file := .regular [("f", .stored 2), ("work", .stored 1)] 0
    (.ofMode (.write .truncate 0o644))

lemma withinLinks_desk : desk.disk.WithinLinks (Path.join "/work" "f") := by
  have joined : Path.join "/work" "f" = "/work/f" := by cbv
  have resolved : desk.disk.resolve [] "/work/f" = .ok (.missing [("work", .stored 1)] "f") := by
    cbv
  rw [joined]
  exact Disk.withinLinks_of_resolve (by cbv) resolved

lemma opens_desk : desk.disk.Opens [("work", .stored 1)] "f" true 0o644
    (.missing [("work", .stored 1)] "f")
    (⟨deskFile.nodes, fun _ => none⟩, deskFile.file.place) := by
  refine ⟨?_, ?_, ?_⟩
  · cbv
  · cbv
  · rfl

lemma shellOpens_desk : desk.ShellOpens "/work" ⟨"f", .truncate⟩ deskFile :=
  (shellOpens_iff_opensIn rfl leads_desk).2
    ⟨by decide, by decide, withinLinks_desk, _, _, _, opens_desk, rfl, rfl⟩

lemma isRegular_deskFile : deskFile.IsRegular 2 :=
  ⟨⟨_, _, _, rfl, rfl⟩, _, _, rfl⟩

/-- What is said when the listing goes to the last of two files. -/
def lastOfTwo : List Traffic :=
  [⟨.openOutput (Path.join "/work" "f") (outputOptions .truncate), .ok 0⟩,
    ⟨.write (.file 0) Builtin.listing, .ok ()⟩, ⟨.flush (.file 0), .ok ()⟩, ⟨.close 0, .ok ()⟩]

def twoOutputs : Plan where
  left := { program := "help", output := some ⟨"f", .truncate⟩ }

lemma hasPlan_twoOutputs : HasPlan (shellIn "/work") "help > e > f" twoOutputs :=
  planLine_eq_ok_iff.1 (by cbv)

lemma runs_lastOfTwo : ((shellIn "/work").execute "help > e > f").Runs lastOfTwo
    (shellIn "/work", .continue) := by
  have asks : AsksForListing (shellIn "/work") "help > e > f" ⟨"f", .truncate⟩ :=
    ⟨twoOutputs, hasPlan_twoOutputs, by cbv, rfl, rfl, rfl⟩
  obtain ⟨arguments, run⟩ := asks.exists_run_eq
  refine Dialogue.runs_bind_iff.2
    ⟨lastOfTwo, [], (shellIn "/work", .ok .continue), rfl, ?_, .done _⟩
  rw [run]
  exact .of_resume (.of_resume (.of_resume (.of_resume (.done _))))

lemma stores_programs_desk (q : Process) (h : q ∈ desk.processes) :
    desk.disk.Stores q.executable.node := by
  have root : q.executable = [] := by
    revert q
    decide
  rw [root]
  exact ⟨0, by decide, rfl⟩

/-- Five links, of which each leads through the one before it twice. -/
def linked : Machine where
  disk.nodes := #[
    .directory { entries := [("a", .stored 1), ("b", .stored 2), ("c", .stored 3), ("d", .stored 4),
      ("e", .stored 5)] },
    .link ".", .link "a/a", .link "b/b", .link "c/c", .link "d/d"]
  processes := [mainShell, helper]
  shell := 4

/-- Either way alone does not lead through too many links, but both together do. -/
lemma outputs_linked :
    (∃ o, linked.ChildOpens 5 "/e" ⟨"d/f", .truncate⟩ o) ∧
      ∀ o, ¬ linked.ShellOpens "/e" ⟨"d/f", .truncate⟩ o := by
  have child : linked.process? helper.pid = some helper := rfl
  have entered : (linked.view helper.pid).enter [] "/e" = .ok [] := by cbv
  have opens : ((linked.movedTo helper.pid []).view helper.pid).Opens [] "d/f" true 0o644
      (.missing [] "f") (_, _) := ⟨by cbv, by cbv, rfl⟩
  set_option maxRecDepth 2000 in
  have lost : (linked.view 4).resolveShort [] (Path.join "/e" "d/f") = .error .ELOOP := by cbv
  exact ⟨exists_childOpens child entered (by decide) (by decide) opens rfl,
    not_shellOpens_of_error (s := mainShell) rfl lost⟩

/-- A shell in a directory in which it cannot look for anything, and a child of it in the root,
where the system shows its processes. -/
def apart : Machine where
  disk.nodes := #[.directory { entries := [("proc", .processes), ("home", .stored 1)] },
    .directory { mode := 0 }]
  processes := [{ mainShell with cwd := [("home", .stored 1)] }, helper]
  shell := 4

/-- Everybody finds themselves behind the same link. -/
lemma outputs_apart :
    (∃ o, apart.ChildOpens 5 "/proc/self/cwd" ⟨"f", .truncate⟩ o) ∧
      ∀ o, ¬ apart.ShellOpens "/proc/self/cwd" ⟨"f", .truncate⟩ o := by
  have child : apart.process? helper.pid = some helper := rfl
  have names : Path.components "/proc/self/cwd" = ["proc", "self", "cwd"] := by decide +kernel
  -- `/proc/self/cwd` is the root for the child, and the shell's own directory for the shell
  have home : (apart.view helper.pid).walk true Disk.maxLinks [] ["proc", "self", "cwd"] =
      .ok (.found []) := by cbv
  have entered : (apart.view helper.pid).enter [] "/proc/self/cwd" = .ok [] :=
    Disk.enter_eq_ok_iff.2
      ⟨(Disk.resolveShort_of_components (by cbv) (by cbv) names []).trans home, rfl, rfl⟩
  have opens : ((apart.movedTo helper.pid []).view helper.pid).Opens [] "f" true 0o644
      (.missing [] "f") (_, _) := ⟨by cbv, by cbv, rfl⟩
  have joined : Path.join "/proc/self/cwd" "f" = "/proc/self/cwd/f" := by decide +kernel
  have names' : Path.components "/proc/self/cwd/f" = ["proc", "self", "cwd", "f"] := by
    decide +kernel
  have away : (apart.view 4).walk true Disk.maxLinks [] ["proc", "self", "cwd", "f"] =
      .error .EACCES := by cbv
  have lost : (apart.view 4).resolveShort [("home", .stored 1)] (Path.join "/proc/self/cwd" "f") =
      .error .EACCES := by
    rw [joined]
    exact (Disk.resolveShort_of_components (by cbv) (by cbv) names' _).trans away
  exact ⟨exists_childOpens child entered (by decide) (by decide) opens rfl,
    not_shellOpens_of_error (s := { mainShell with cwd := [("home", .stored 1)] }) rfl lost⟩

/-- The shell may have one more descriptor, but its child has something behind its first one
already. -/
def crowded : Machine where
  disk := desk.disk
  openFiles := #[.directory []]
  processes := [{ mainShell with limit := 1 },
    { helper with limit := 1, descriptors := ⟨[some ⟨0, true⟩]⟩ }]
  shell := 4

lemma outputs_crowded :
    (∃ o, crowded.ShellOpens "/work" ⟨"f", .truncate⟩ o) ∧
      ∀ o, ¬ crowded.ChildOpens 5 "/work" ⟨"f", .truncate⟩ o := by
  have shell : crowded.process? crowded.shell = some { mainShell with limit := 1 } := rfl
  have child : crowded.process? 5 =
    some { helper with limit := 1, descriptors := ⟨[some ⟨0, true⟩]⟩ } := rfl
  have leads : crowded.disk.Leads "/work" "f" [("work", .stored 1)] := leads_desk
  constructor
  · exact ⟨_, (shellOpens_iff_opensIn shell leads).2
      ⟨by decide, by decide, withinLinks_desk, _, _, _, opens_desk, rfl, rfl⟩⟩
  · intro o opens
    obtain ⟨-, room, -⟩ := (childOpens_iff_opensIn child leads).1 opens
    exact absurd room (by decide)

/-- There is a file in the root that keeps nothing of what is written to it. -/
def voided : Machine where
  disk.nodes := #[.directory { entries := [("null", .stored 1)] }, .device .null]
  processes := [mainShell]
  shell := 4

lemma outputs_voided :
    ∃ fd opened written, voided.ShellGets "/" ⟨"null", .truncate⟩ fd opened ∧
      ShellWrites fd opened ["x"] written ∧ written.heldBy 1 = .empty := by
  have shell : voided.process? voided.shell = some mainShell := rfl
  have opens : (voided.view 4).Opens [] (Path.join "/" "null") true 0o644
      (.found [("null", .stored 1)]) (_, _) := ⟨by cbv, by cbv, rfl⟩
  have plain : (Path.join "/" "null").contains '\x00' = false := by cbv
  have gets : voided.ShellGets "/" ⟨"null", .truncate⟩ 0 _ :=
    (shellGets_iff shell).2 ⟨plain, by decide, _, _, _, opens, rfl, rfl, rfl⟩
  exact ⟨_, _, _, gets, .cons rfl (.nil _), rfl⟩

/-- A shell whose files may not be written to. -/
def maskedShell : Process :=
  { mainShell with mask := 0o200 }

def masked : Machine where
  disk.nodes := #[.directory {}]
  processes := [maskedShell]
  shell := 4

/-- What is stored once it has made a file, and what is in the file. -/
def maskedNodes (content : ByteArray) : Array Node :=
  #[.directory { entries := [("f", .stored 1)] }, .file 0o444 content]

lemma resolveShort_maskedNodes (content : ByteArray) (shown : NodeId → Option Node)
    (cwd : Location) : Disk.resolveShort ⟨maskedNodes content, shown⟩ cwd (Path.join "/" "f") =
      .ok (.found [("f", .stored 1)]) := by cbv

lemma outputs_masked :
    ∃ m e, masked.play ((shellIn "/").run "help > f") = some ((shellIn "/", .ok .continue), m) ∧
      m.play ((shellIn "/").run "help >> f") =
        some ((shellIn "/", .error (.redirect "f" e)), m) ∧ m.heldBy 1 = listings 1 := by
  have shell : masked.process? masked.shell = some maskedShell := rfl
  have plain : (Path.join "/" "f").contains '\x00' = false := by cbv
  have opens : (masked.view 4).Opens maskedShell.cwd (Path.join "/" "f")
      (OutputMode.truncate == OutputMode.truncate) (maskedShell.permitted 0o644)
      (.missing [] "f") (⟨maskedNodes .empty, masked.shownNode 4⟩, [("f", .stored 1)]) :=
    ⟨by cbv, by cbv, rfl⟩
  have gets : masked.ShellGets "/" ⟨"f", .truncate⟩ 0 _ :=
    (shellGets_iff shell).2 ⟨plain, by decide, _, _, _, opens, rfl, rfl, rfl⟩
  obtain ⟨m, played, wrote⟩ := exists_play_listing (s := shellIn "/") shell (by decide)
    (asksForListing_truncate "/") gets
      ⟨rfl, _, _, _, _, _, rfl, rfl, rfl, rfl, .inr rfl⟩
  have left : m.disk.nodes = maskedNodes (.empty ++ Builtin.listing.toUTF8) := wrote.nodes
  -- its permissions do not let it be written to again
  have refused : ∀ fd m', ¬ m.ShellGets "/" ⟨"f", .append⟩ fd m' := by
    intro fd m' gets
    obtain ⟨q, own, -⟩ := wrote.room
    obtain ⟨-, -, found, disk, place, opened, -⟩ := (shellGets_iff own).1 gets
    have seen : m.view q.pid = ⟨_, m.shownNode q.pid⟩ := congrArg (Disk.mk · _) left
    have resolved := opened.resolved
    rw [seen, resolveShort_maskedNodes] at resolved
    cases resolved
    obtain ⟨-, allowed, -⟩ := Disk.openTarget_found_eq_ok_iff.1 opened.opened
    have stored : (m.view q.pid).nodes[1]? = _ := congrArg (·[1]?) left
    rw [Location.node, Disk.allows_write_of_nodes stored] at allowed
    cases allowed
  obtain ⟨e, failed⟩ := exists_play_refused (asksForListing_append "/") refused
  exact ⟨m, e, played, failed, heldBy_of_nodes (congrArg (·[1]?) left)⟩

end CommandShell
