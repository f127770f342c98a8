import CommandShell.Proofs.Openings

/-!
# Files that have been made

A path that has led to nothing yet leads to the file once it has been made, and every other path
leads where it did. Opening a path for output therefore makes a file at most once: who opens it
again finds the same file (`Disk.Leads.finds`).

What is looked at are the steps of a walk. A directory that has got an entry changes those steps
alone that have missed its name there (`Disk.Gains.pace_cases`), and they go on now.
-/

namespace CommandShell

namespace Disk

variable {disk disk' : Disk} {follow : Bool} {here l up : Location} {dir : NodeId}
  {name missed path : String} {names rest : List String} {mode links n : Nat} {content : ByteArray}
  {target : Target}

/-! ## The last place -/

/-- In front of other names links are followed anyway. -/
lemma pace_of_ne_nil (some : rest ≠ []) :
    disk.pace follow here missed rest = disk.pace true here missed rest := by
  have front (follow : Bool) : disk.pace follow here missed ([] ++ rest) =
      (disk.pace true here missed []).followedBy rest := pace_append some
  exact (front follow).trans (front true).symm

/-- A step through something in the last place goes through a link, or leads to a place. -/
lemma pace_through_last {there : Location} {left : List String}
    (step : disk.pace true here missed [] = .through (some (there, left))) :
    left = [] ∨ ∃ id text, disk.node id = .link text ∧ text ≠ "" ∧ there = Path.start here text ∧
      left = Path.components text ∧
      disk.pace false here missed [] = .stops (.ok (.found ((missed, id) :: here))) := by
  revert step
  fun_cases disk.pace true here missed []
  case case8 d held nonempty searched noDot noDots short id found =>
    rw [pace_eq_paceInto held nonempty searched noDot noDots short found]
    intro step
    unfold paceInto at step ⊢
    cases kind : disk.node id with
    | link text =>
      rw [kind] at step
      dsimp only at step ⊢
      rw [Bool.not_true, Bool.and_false, if_neg Bool.false_ne_true] at step
      -- only a link is gone through, and unfollowed it is the place itself that is reached
      by_cases empty : text.isEmpty = true
      · rw [if_pos empty] at step
        cases step
      · rw [if_neg empty] at step
        cases step
        refine .inr ⟨id, text, kind, ?_, rfl, List.append_nil _, rfl⟩
        rintro rfl
        exact empty rfl
    | shortcut text target =>
      rw [kind] at step
      dsimp only at step
      rw [Bool.not_true, Bool.and_false, if_neg Bool.false_ne_true] at step
      cases step
      exact .inl rfl
    | _ =>
      rw [kind] at step
      cases step
  all_goals
    intro step
    cases step

lemma getLast?_of_ne_nil (front : List String) (some : rest ≠ []) :
    (front ++ rest).getLast? = rest.getLast? := by
  rw [List.getLast?_append, List.getLast?_eq_some_getLast some, Option.some_or]

lemma eq_nil_of_all_empty {name : String} (all : rest.all (· = "") = true)
    (last : (name :: rest).getLast? ≠ some "") : rest = [] := by
  by_contra some
  have member := List.mem_of_getLast? (List.getLast?_eq_some_getLast some)
  have empty : rest.getLast some = "" := of_decide_eq_true (List.all_eq_true.1 all _ member)
  have ends := getLast?_of_ne_nil [name] some
  rw [List.getLast?_eq_some_getLast some, empty] at ends
  exact last ends

/-! ## Entries -/

lemma lookup_of_gained (entries : List (String × NodeId)) (name : String) (id : NodeId)
    (other : String) :
    (entries.filter (·.1 ≠ name) ++ [(name, id)]).lookup other =
      if other = name then some id else entries.lookup other := by
  rw [List.lookup_append]
  by_cases own : other = name
  · subst own
    have none : (entries.filter (·.1 ≠ other)).lookup other = none := by
      rw [List.lookup_eq_none_iff]
      intro entry kept
      have differs : entry.1 ≠ other := of_decide_eq_true (List.mem_filter.1 kept).2
      exact bne_iff_ne.2 differs.symm
    rw [none, if_pos rfl]
    simp
  -- taking out entries of another name does not change what is found
  · rw [if_neg own]
    have last : [(name, id)].lookup other = none := by
      rw [List.lookup_cons, beq_false_of_ne own]
      rfl
    rw [last, Option.or_none]
    induction entries with
    | nil => rfl
    | cons entry entries ih =>
      by_cases removed : entry.1 = name
      · have missed : (other == entry.1) = false := by
          simpa [removed] using own
        rw [List.filter_cons_of_neg (by simpa using removed), ih, List.lookup_cons, missed]
      · rw [List.filter_cons_of_pos (by simpa using removed), List.lookup_cons, List.lookup_cons,
          ih]

lemma node_of_directory? {id : NodeId} {d : Directory} (held : disk.directory? id = some d) :
    disk.node id = .directory d := by
  unfold directory? at held
  split at held
  · cases held
    assumption
  · cases held

/-! ## Steps on a disk that has grown -/

namespace Gains

lemma seenAs {node : Node} (g : disk.Gains disk' dir name node) (stored : disk.Stores dir)
    {shown : NodeId → Option Node} : disk.Gains (disk'.seenAs shown) dir name node := by
  have same {id : NodeId} (stored : disk.Stores id) :
      (disk'.seenAs shown).node id = disk'.node id := by
    obtain ⟨number, -, rfl⟩ := stored
    rfl
  obtain ⟨⟨d, held, entered⟩, made, others⟩ := g
  refine ⟨⟨d, held, (same stored).trans entered⟩, made, fun id stored other => ?_⟩
  exact (same stored).trans (others id stored other)

variable (g : disk.Gains disk' dir name (.file mode content))
include g

lemma node_made : disk'.node (.stored disk.nodes.size) = .file mode content :=
  node_of_nodes g.made

lemma node_of_link {id : NodeId} {text : String} (stored : disk.Stores id)
    (linked : disk.node id = .link text) : disk'.node id = .link text := by
  have other : id ≠ dir := by
    rintro rfl
    obtain ⟨d, held, -⟩ := g.entered
    cases (node_of_directory? held).symm.trans linked
  rw [g.others id stored other, linked]

lemma paceInto_eq {id : NodeId} (stored : disk.Stores id) :
    disk'.paceInto follow here missed rest id = disk.paceInto follow here missed rest id := by
  unfold paceInto
  by_cases own : id = dir
  · subst own
    obtain ⟨d, held, entered⟩ := g.entered
    rw [entered, node_of_directory? held]
  · rw [g.others id stored own]

/-- In all other directories the steps are what they were. -/
lemma pace_elsewhere (other : here.node ≠ dir)
    (kept : ∀ id, disk.Meets here (missed :: rest) id → disk.Stores id) :
    disk'.pace follow here missed rest = disk.pace follow here missed rest := by
  have same := g.others here.node (kept _ (.here ..)) other
  refine pace_eq_of_paceInto_eq ?_ (fun _ _ => ?_) fun d id held found =>
    g.paceInto_eq (kept id (.entry held found))
  · unfold directory?
    rw [same]
  · unfold allows
    rw [same]

lemma exists_directory (own : here.node = dir) :
    ∃ d, disk.directory? here.node = some d ∧ disk'.directory? here.node = some { d with
        entries := d.entries.filter (·.1 ≠ name) ++ [(name, .stored disk.nodes.size)] } ∧
      disk'.allows here.node .execute = disk.allows here.node .execute := by
  obtain ⟨d, held, entered⟩ := g.entered
  refine ⟨d, own ▸ held, ?_, ?_⟩
  · unfold directory?
    rw [own, entered]
  · unfold allows
    rw [own, entered, node_of_directory? held]

/-- By another name the step from the directory is what it was. -/
lemma pace_otherwise (own : here.node = dir) (other : missed ≠ name)
    (kept : ∀ id, disk.Meets here (missed :: rest) id → disk.Stores id) :
    disk'.pace follow here missed rest = disk.pace follow here missed rest := by
  obtain ⟨d, held, held', allowed⟩ := g.exists_directory own
  unfold pace
  rw [held', held, allowed]
  dsimp only
  rw [lookup_of_gained, if_neg other]
  cases found : d.entries.lookup missed with
  | none => rfl
  | some id =>
    dsimp only
    rw [g.paceInto_eq (kept id (.entry held found))]

/-- By the new name the step is what it was only if it does not get to look for the name. -/
lemma pace_by_name (own : here.node = dir)
    (none : ∀ d, disk.directory? dir = some d → d.entries.lookup name = none) :
    disk'.pace follow here name rest = disk.pace follow here name rest ∨
      disk'.pace follow here name rest = .on ((name, .stored disk.nodes.size) :: here) ∧
        disk.pace follow here name rest =
          .stops (if rest.all (· = "") then .ok (.missing here name) else .error .ENOENT) := by
  obtain ⟨d, held, held', allowed⟩ := g.exists_directory own
  have nothing := none d (own ▸ held)
  unfold pace
  rw [held', held, allowed]
  dsimp only
  rw [lookup_of_gained, if_pos rfl, nothing]
  -- the new entry is met only where nothing else has already decided the step
  by_cases empty : name = ""
  · left
    rw [if_pos empty, if_pos empty]
  by_cases barred : (!disk.allows here.node .execute) = true
  · left
    simp only [if_neg empty, if_pos barred]
  by_cases dot : name = "."
  · left
    simp only [if_neg empty, if_neg barred, if_pos dot]
  by_cases dots : name = ".."
  · left
    simp only [if_neg empty, if_neg barred, if_neg dot, if_pos dots]
  by_cases long : Text.size name > Path.maxName
  · left
    simp only [if_neg empty, if_neg barred, if_neg dot, if_neg dots, if_pos long]
  right
  simp only [if_neg empty, if_neg barred, if_neg dot, if_neg dots, if_neg long]
  refine ⟨?_, trivial⟩
  unfold paceInto
  rw [g.node_made]

/-- A step is what it was, or it has missed the name that is there now, and goes on. -/
theorem pace_cases (follow : Bool)
    (none : ∀ d, disk.directory? dir = some d → d.entries.lookup name = none)
    (kept : ∀ id, disk.Meets here (missed :: rest) id → disk.Stores id) :
    disk'.pace follow here missed rest = disk.pace follow here missed rest ∨
      here.node = dir ∧ missed = name ∧
        disk'.pace follow here missed rest = .on ((name, .stored disk.nodes.size) :: here) ∧
        disk.pace follow here missed rest =
          .stops (if rest.all (· = "") then .ok (.missing here name) else .error .ENOENT) := by
  by_cases own : here.node = dir
  · by_cases same : missed = name
    · subst same
      exact (g.pace_by_name own none).imp_right fun goes => ⟨own, rfl, goes⟩
    · exact .inl (g.pace_otherwise own same kept)
  · exact .inl (g.pace_elsewhere own kept)

lemma pace_of_on {there : Location}
    (none : ∀ d, disk.directory? dir = some d → d.entries.lookup name = none)
    (kept : ∀ id, disk.Meets here (missed :: rest) id → disk.Stores id)
    (step : disk.pace follow here missed rest = .on there) :
    disk'.pace follow here missed rest = .on there := by
  rcases g.pace_cases follow none kept with same | ⟨-, -, -, misses⟩
  · exact same.trans step
  · rw [step] at misses
    cases misses

lemma pace_of_through {next : Option (Location × List String)}
    (none : ∀ d, disk.directory? dir = some d → d.entries.lookup name = none)
    (kept : ∀ id, disk.Meets here (missed :: rest) id → disk.Stores id)
    (step : disk.pace follow here missed rest = .through next) :
    disk'.pace follow here missed rest = .through next := by
  rcases g.pace_cases follow none kept with same | ⟨-, -, -, misses⟩
  · exact same.trans step
  · rw [step] at misses
    cases misses

/-- The step that has missed the name goes on to what has been made. -/
lemma pace_of_missing (own : here.node = dir)
    (none : ∀ d, disk.directory? dir = some d → d.entries.lookup name = none)
    (step : disk.pace true here name [] = .stops (.ok (.missing here name))) (follow : Bool) :
    disk'.pace follow here name [] = .on ((name, .stored disk.nodes.size) :: here) := by
  obtain ⟨d, held, held', -⟩ := g.exists_directory own
  have misses : disk.pace follow here name [] = .stops (.ok (.missing here name)) := by
    rcases disk.pace_cases follow here name [] with same | ⟨d', id, inside, found, -⟩
    · exact same.trans step
    · rw [none d' (own ▸ inside)] at found
      cases found
  rcases g.pace_by_name own none with same | ⟨goes, -⟩
  · -- the name is there now, so it is not missed again
    rcases pace_eq_stops_ok (same.trans misses) with ⟨d', inside, lookup, -, -⟩ |
      ⟨_, _, -, -, found⟩
    · cases held'.symm.trans inside
      rw [lookup_of_gained, if_pos rfl] at lookup
      cases lookup
    · cases found
  · exact goes

lemma trail_found (none : ∀ d, disk.directory? dir = some d → d.entries.lookup name = none)
    (kept : ∀ id, disk.Meets here names id → disk.Stores id)
    (h : disk.Trail follow here names n (.found l)) :
    disk'.Trail follow here names n (.found l) := by
  generalize htarget : Target.found l = target at h
  induction h with
  | nil here => exact .nil here
  | @stops here missed rest target step =>
    subst htarget
    rcases g.pace_cases follow none kept with same | ⟨-, -, -, misses⟩
    · exact .stops (same.trans step)
    · rw [misses] at step
      split at step <;> cases step
  | on step _ ih =>
    refine .on (g.pace_of_on none kept step) (ih (fun id meets => ?_) htarget)
    exact kept id (.on (pace_true_of_on step) meets)
  | through step _ ih =>
    refine .through (g.pace_of_through none kept step) (ih (fun id meets => ?_) htarget)
    exact kept id (.through (pace_true_of_through step) meets)

/-- What has been missed is found now. -/
lemma trail_missing (none : ∀ d, disk.directory? dir = some d → d.entries.lookup name = none)
    (kept : ∀ id, disk.Meets here names id → disk.Stores id)
    (h : disk.Trail true here names n (.missing up name)) (there : up.node = dir)
    (last : names.getLast? ≠ some "") :
    (∀ follow, disk'.Trail follow here names n (.found ((name, .stored disk.nodes.size) :: up))) ∨
      ∃ m k l text, n = m + 1 + k ∧ disk.Trail false here names m (.found l) ∧
        disk.node l.node = .link text ∧ text ≠ "" ∧
        disk.Trail true (Path.start l.tail text) (Path.components text) k (.missing up name) ∧
        ∀ target, disk'.Trail true (Path.start l.tail text) (Path.components text) k target →
          disk'.Trail true here names n target := by
  generalize htarget : Target.missing up name = target at h
  induction h with
  | nil here => cases htarget
  | @stops here missed rest target step =>
    subst htarget
    obtain ⟨d, held, lookup, all, missing⟩ := pace_true_eq_stops_ok step
    -- the name that was missing is the last one, and now it is there
    cases missing
    obtain rfl := eq_nil_of_all_empty all last
    exact .inl fun follow => .on (g.pace_of_missing there none step follow) (.nil _)
  | @on here there missed rest n target step later ih =>
    have some : rest ≠ [] := by
      rintro rfl
      cases later
      cases htarget
    have step' (follow : Bool) : disk'.pace follow here missed rest = .on there :=
      g.pace_of_on none kept ((pace_of_ne_nil some).trans step)
    have last' : rest.getLast? ≠ Option.some "" := by
      rw [← getLast?_of_ne_nil [missed] some]
      exact last
    rcases ih (fun id meets => kept id (.on step meets)) last' htarget with found |
      ⟨m, k, l, text, links, trail, kind, given, rest, goes⟩
    · exact .inl fun follow => .on (step' follow) (found follow)
    · exact .inr ⟨m, k, l, text, links, .on ((pace_of_ne_nil some).trans step) trail, kind, given,
        rest, fun target trail => .on (step' true) (goes target trail)⟩
  | @through here there missed rest left n target step later ih =>
    have step' : disk'.pace true here missed rest = .through (some (there, left)) :=
      g.pace_of_through none kept step
    by_cases some : rest = []
    -- a link in the last place is where following or not makes a difference: the trail ends at
    -- the link itself if it is not followed, and what is behind the link is still missing
    · subst some
      rcases pace_through_last step with rfl | ⟨id, text, kind, given, rfl, rfl, stops⟩
      · cases later
        cases htarget
      · subst htarget
        refine .inr ⟨0, n, (missed, id) :: here, text, by omega, .stops stops, kind, given, later,
          fun target trail => .through step' trail⟩
    · have whole : disk.pace true here missed ([] ++ rest) =
          (disk.pace true here missed []).followedBy rest := pace_append some
      obtain ⟨front, rfl, -⟩ := Pace.followedBy_eq_through_iff.1 (whole.symm.trans step)
      have last' : (front ++ rest).getLast? ≠ Option.some "" := by
        rw [getLast?_of_ne_nil front some, ← getLast?_of_ne_nil [missed] some]
        exact last
      rcases ih (fun id meets => kept id (.through step meets)) last' htarget with found |
        ⟨m, k, l, text, links, trail, kind, given, rest, goes⟩
      · left
        intro follow
        have step'' : disk'.pace follow here missed rest =
            .through (.some (there, front ++ rest)) := (pace_of_ne_nil some).trans step'
        exact .through step'' (found follow)
      · refine .inr ⟨m + 1, k, l, text, by omega,
          .through ((pace_of_ne_nil some).trans step) trail, kind, given, rest,
          fun target trail => ?_⟩
        exact .through step' (goes target trail)

omit g in
/-- A path that does not end in a slash has a name in its last place. -/
lemma getLast?_components (ends : Path.endsInSlash path = false) :
    (Path.components path).getLast? ≠ some "" := by
  unfold Path.components
  rw [ends, Bool.false_and, if_neg Bool.false_ne_true]
  intro last
  have named := (List.mem_filter.1 (List.mem_of_getLast? last)).2
  exact absurd rfl (of_decide_eq_true named)

/-- **The file that has been missed is found at the end of the path**, and nothing stands against
the path as one of a file. -/
lemma found_of_missing (none : ∀ d, disk.directory? dir = some d → d.entries.lookup name = none)
    (there : up.node = dir) {cwd : Location} (few : links ≤ maxLinks) (given : path ≠ "")
    (kept : disk.KeepsToStored cwd path) (demanded : disk.demandFile links cwd path = .ok ())
    (enough : n ≤ links)
    (trail : disk.Trail true (Path.start cwd path) (Path.components path) n (.missing up name)) :
    disk'.demandFile links cwd path = .ok () ∧
      disk'.Trail true (Path.start cwd path) (Path.components path) n
        (.found ((name, .stored disk.nodes.size) :: up)) := by
  -- every link in the last place takes one from those that are left
  induction n using Nat.strong_induction_on generalizing links cwd path with
  | _ n ih =>
    obtain ⟨ends, follows⟩ := demandFile_eq_ok_iff.1 demanded
    rcases g.trail_missing none kept trail there (getLast?_components ends) with found |
      ⟨m, k, l, text, rfl, unfollowed, linked, given', later, goes⟩
    -- the new file is not a link, so nothing more is demanded of the last place
    · refine ⟨demandFile_eq_ok_iff.2 ⟨ends, fun left l text _ resolved linked => ?_⟩, found true⟩
      obtain ⟨-, _, -, trail'⟩ := resolve_eq_ok_iff.1 resolved
      obtain ⟨-, same⟩ := trail'.unique (found false)
      cases same
      cases g.node_made.symm.trans linked
    · obtain ⟨left, rfl⟩ : ∃ left, links = left + 1 := ⟨links - 1, by omega⟩
      have resolved : disk.resolve cwd path false = .ok (.found l) :=
        resolve_eq_ok_iff.2 ⟨given, m, by omega, unfollowed⟩
      obtain ⟨demanded', found⟩ := ih k (by omega) (by omega) given'
        (fun id meets => kept id (.last unfollowed linked meets))
        (follows left l text rfl resolved linked) (by omega) later
      refine ⟨demandFile_eq_ok_iff.2 ⟨ends, fun left' l' text' more resolved' linked' => ?_⟩,
        goes _ found⟩
      cases more
      obtain ⟨-, _, -, trail'⟩ := resolve_eq_ok_iff.1 resolved'
      obtain ⟨-, same⟩ := trail'.unique (g.trail_found none kept unfollowed)
      cases same
      have stored : disk.Stores l.node := kept _ unfollowed.meets_target
      rw [g.node_of_link stored linked] at linked'
      cases linked'
      exact demanded'

lemma enters {id : NodeId} (stored : disk.Stores id) (held : (disk.directory? id).isSome = true)
    (allowed : disk.allows id .execute = true) :
    (disk'.directory? id).isSome = true ∧ disk'.allows id .execute = true := by
  by_cases own : id = dir
  · subst own
    obtain ⟨d, inside, entered⟩ := g.entered
    unfold allows at allowed
    rw [node_of_directory? inside] at allowed
    unfold directory? allows
    rw [entered]
    exact ⟨rfl, allowed⟩
  · have same := g.others id stored own
    unfold directory? at held ⊢
    unfold allows at allowed ⊢
    rw [same]
    exact ⟨held, allowed⟩

end Gains

lemma Trail.lookup_missing (h : disk.Trail true here names n (.missing up name)) :
    ∀ d, disk.directory? up.node = some d → d.entries.lookup name = none := by
  generalize htarget : Target.missing up name = target at h
  induction h with
  | nil here => cases htarget
  | stops step =>
    subst htarget
    obtain ⟨d, held, lookup, -, same⟩ := pace_true_eq_stops_ok step
    cases same
    intro d' held'
    cases held.symm.trans held'
    exact lookup
  | on _ _ ih => exact ih htarget
  | through _ _ ih => exact ih htarget

/-! ## Opening again -/

/-- Whoever looks by the path for a file to open finds the one at the place. -/
structure Finds (disk : Disk) (path : String) (l : Location) : Prop where
  demanded : ∀ shown cwd, (disk.seenAs shown).demandFile maxLinks cwd path = .ok ()
  resolved : ∀ shown cwd, (disk.seenAs shown).resolveShort cwd path = .ok (.found l)

lemma Finds.of_nodes_eq (h : disk.Finds path l) (same : disk'.nodes = disk.nodes) :
    disk'.Finds path l := by
  have seen (shown : NodeId → Option Node) : disk'.seenAs shown = disk.seenAs shown := by
    unfold seenAs
    rw [same]
  refine ⟨fun shown cwd => ?_, fun shown cwd => ?_⟩
  · rw [seen]
    exact h.demanded shown cwd
  · rw [seen]
    exact h.resolved shown cwd

lemma Finds.set {number : Nat} (h : disk.Finds path l)
    (held : disk.nodes[number]? = some (.file mode content)) (changed : ByteArray) :
    (disk.set (.stored number) (.file mode changed)).Finds path l := by
  obtain ⟨small, -⟩ := Array.getElem?_eq_some_iff.1 held
  have alike (shown : NodeId → Option Node) (id : NodeId) : (disk.seenAs shown).Alike
      ((disk.set (.stored number) (.file mode changed)).seenAs shown) id := by
    by_cases own : id = .stored number
    · subst own
      exact .inr ⟨⟨_, _, node_of_nodes held⟩, _, _, node_set_self small⟩
    · have same : ((disk.seenAs shown).set (.stored number) (.file mode changed)).node id =
          (disk.seenAs shown).node id := node_set_of_ne own
      exact .inl same
  refine ⟨fun shown cwd => ?_, fun shown cwd => ?_⟩
  · exact (demandFile_alike fun id _ => alike shown id).2 (h.demanded shown cwd)
  · obtain ⟨short, resolved⟩ := resolveShort_eq_ok_iff.1 (h.resolved shown cwd)
    exact resolveShort_eq_ok_iff.2
      ⟨short, (resolve_congr fun id _ => alike shown id).2 resolved⟩

/-- A file that has been emptied is still found by its path. -/
theorem Finds.emptied {id : NodeId} (h : disk.Finds path l) (stored : disk.Stores id) :
    (disk.emptied id).Finds path l := by
  obtain ⟨number, -, rfl⟩ := stored
  unfold Disk.emptied
  cases kind : disk.node (.stored number) with
  | file mode content => exact h.set (nodes_of_node kind) .empty
  | _ => exact h

namespace Leads

variable {there : Location} {wd : String} {truncate : Bool}

lemma enter_of_gains (h : disk.Leads wd path there)
    (g : disk.Gains disk' dir name (.file mode content))
    (none : ∀ d, disk.directory? dir = some d → d.entries.lookup name = none) (cwd : Location) :
    disk'.enter cwd wd = .ok there := by
  obtain ⟨resolved, held, allowed⟩ := enter_eq_ok_iff.1 h.entered
  obtain ⟨short, resolved⟩ := resolveShort_eq_ok_iff.1 resolved
  obtain ⟨given, w, few, way⟩ := resolve_eq_ok_iff.1 resolved
  have begins : Path.start cwd wd = Path.start [] wd := by
    rw [Path.start, Path.start, if_pos h.absolute, if_pos h.absolute]
  have way' := g.trail_found none h.dirKept way
  rw [← begins] at way'
  refine enter_eq_ok_iff.2 ⟨resolveShort_eq_ok_iff.2 ⟨short, ?_⟩, ?_⟩
  · exact resolve_eq_ok_iff.2 ⟨given, w, few, way'⟩
  · exact g.enters (h.dirKept _ way.meets_target) held allowed

/-- The joined path has no more links than before. -/
lemma withinLinks_of_gains (h : disk.Leads wd path there)
    (g : disk.Gains disk' dir name (.file mode content))
    (none : ∀ d, disk.directory? dir = some d → d.entries.lookup name = none)
    (within : disk.WithinLinks (Path.join wd path)) (relative : Path.isAbsolute path = false)
    (given : path ≠ "") (trail : disk.Trail true there (Path.components path) n target)
    (trail' : disk'.Trail true there (Path.components path) n (.found l)) :
    disk'.WithinLinks (Path.join wd path) := by
  obtain ⟨w, -, way⟩ := trail_of_enter h.entered
  have way' := g.trail_found none h.dirKept way
  rw [Path.start, if_pos h.absolute] at way way'
  rw [withinLinks_join_iff h.absolute relative given way.of_components trail] at within
  rwa [withinLinks_join_iff h.absolute relative given way'.of_components trail']

/-- A file that has been made is opened again by the same path, whoever looks and wherever he is. -/
lemma opens_made (h : disk.Leads wd path there) {own : Disk}
    (opened : disk.Opens there path truncate mode (.missing up name) (own, l))
    (within : disk.WithinLinks (Path.join wd path)) (writable : own.allows l.node .write = true)
    (shown : NodeId → Option Node) (cwd : Location) :
    (own.seenAs shown).Opens cwd (Path.join wd path) false mode (.found l)
      (own.seenAs shown, l) := by
  have stored : disk.Stores up.node := h.stores opened
  obtain ⟨id, created, rfl⟩ := openTarget_missing_eq_ok_iff.1 opened.opened
  have gains := gains_of_createEntry stored created
  obtain ⟨-, -, -, rfl⟩ := createEntry_eq_ok_iff.1 created
  have g : disk.Gains (own.seenAs shown) up.node name (.file mode .empty) := gains.seenAs stored
  obtain ⟨n, few, trail⟩ := opened.trail
  have none := trail.lookup_missing
  obtain ⟨short, resolved⟩ := resolveShort_eq_ok_iff.1 opened.resolved
  have given := (resolve_eq_ok_iff.1 resolved).1
  -- what had to be made is now found on the same trail
  obtain ⟨demanded, found⟩ :=
    g.found_of_missing none rfl (Nat.le_refl _) given h.pathKept opened.demanded few trail
  have opens : (own.seenAs shown).Opens there path false mode
      (.found ((name, .stored disk.nodes.size) :: up))
      (own.seenAs shown, (name, .stored disk.nodes.size) :: up) := by
    refine ⟨demanded, resolveShort_eq_ok_iff.2 ⟨short, ?_⟩, ?_⟩
    · exact resolve_eq_ok_iff.2 ⟨given, n, few, found⟩
    · refine openTarget_found_eq_ok_iff.2 ⟨?_, writable, ?_, rfl, rfl⟩
      · unfold directory?
        rw [Location.node, g.node_made]
      · rw [Location.node, g.node_made]
        exact nofun
  refine (opens_join_iff h.absolute (h.enter_of_gains g none cwd) h.short).2 ⟨opens, ?_⟩
  by_cases relative : Path.isAbsolute path = false
  · have begins : Path.start there path = there :=
      if_neg (by rw [relative]; exact Bool.false_ne_true)
    rw [begins] at trail found
    exact h.withinLinks_of_gains g none within relative given trail found
  · have absolute : Path.isAbsolute path = true := by simpa using relative
    rw [Path.join_of_isAbsolute absolute]
    exact withinLinks_of_resolve absolute (resolveShort_eq_ok_iff.1 opens.resolved).2

/-- **A file that has been opened is found again by the same path.** -/
theorem finds (h : disk.Leads wd path there) {own : Disk}
    (opened : disk.Opens there path truncate mode target (own, l))
    (within : disk.WithinLinks (Path.join wd path)) (writable : own.allows l.node .write = true) :
    own.Finds (Path.join wd path) l := by
  cases target with
  | found l' =>
    obtain ⟨-, -, -, rfl, left⟩ := openTarget_found_eq_ok_iff.1 opened.opened
    have again (shown : NodeId → Option Node) (cwd : Location) :
        (disk.seenAs shown).Opens cwd (Path.join wd path) truncate mode (.found l)
          (own.seenAs shown, l) := h.opens_join_seenAs_iff.2 ⟨within, own, opened, rfl⟩
    have before : disk.Finds (Path.join wd path) l :=
      ⟨fun shown cwd => (again shown cwd).demanded, fun shown cwd => (again shown cwd).resolved⟩
    subst left
    cases truncate with
    | true => exact before.emptied (h.stores opened)
    | false => exact before
  | missing up name =>
    have again := h.opens_made opened within writable
    exact ⟨fun shown cwd => (again shown cwd).demanded, fun shown cwd => (again shown cwd).resolved⟩

end Leads

end Disk

end CommandShell
