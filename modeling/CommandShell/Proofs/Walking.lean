import CommandShell.System.Disk
import Mathlib.Tactic.Lemma

/-!
# Walks, step by step

`Disk.walk` goes from name to name, with a budget of links. Here a walk is taken apart into its
steps (`Disk.pace`), which know nothing of the budget, and the links on the way are counted instead:
a `Disk.Trail` is a way to a target through so many links, and a walk finds its target if there is a
trail that the budget is enough for (`Disk.walk_eq_ok_iff`).

Counting is what makes ways add up. A trail along some names and then along others is a trail along
all of them, with the links of both (`Disk.Trail.append`), and every longer trail can be cut so
(`Disk.Trail.split`). So a path that is joined to the path of a directory leads where it does from
the directory, but its links and those of the directory come out of one budget.

What a trail depends on are the nodes that are met on the way (`Disk.Meets`). A disk on which these
are the same, but for what is in files, has the same trails (`Disk.Trail.of_alike`).
-/

namespace CommandShell

/-- The node at which a walk has ended: what was found, or the directory in which a name is
missing. -/
def Target.node : Target → NodeId
  | .found l => l.node
  | .missing up _ => up.node

namespace Disk

/-! ## Steps -/

/-- What a step of a walk comes to. -/
inductive Pace
  /-- The walk is over. -/
  | stops (result : Except Errno Target)
  /-- It goes on from another place, by the names that are left. -/
  | on (here : Location)
  /-- It goes through a link, from a place and by names. A link that says nothing leads nowhere. -/
  | through (next : Option (Location × List String))

/-- The step into an entry, if these names are left after it. -/
def paceInto (disk : Disk) (follow : Bool) (here : Location) (name : String) (rest : List String)
    (id : NodeId) : Pace :=
  match disk.node id with
  | .link target =>
    if rest.isEmpty && !follow then .stops (.ok (.found ((name, id) :: here)))
    else if target.isEmpty then .through none
    else
      .through (some (if Path.isAbsolute target then [] else here, Path.components target ++ rest))
  | .shortcut _ target =>
    if rest.isEmpty && !follow then .stops (.ok (.found ((name, id) :: here)))
    else .through (some (target, rest))
  | _ => .on ((name, id) :: here)

/-- The step from a place by a name, if these names are left after it. -/
def pace (disk : Disk) (follow : Bool) (here : Location) (name : String) (rest : List String) :
    Pace :=
  match disk.directory? here.node with
  | none => .stops (.error .ENOTDIR)
  | some d =>
    if name = "" then .on here
    else if !disk.allows here.node .execute then .stops (.error .EACCES)
    else if name = "." then .on here
    else if name = ".." then .on here.tail
    else if Text.size name > Path.maxName then .stops (.error .ENAMETOOLONG)
    else
      match d.entries.lookup name with
      | none => .stops (if rest.all (· = "") then .ok (.missing here name) else .error .ENOENT)
      | some id => disk.paceInto follow here name rest id

variable {disk : Disk} {follow : Bool} {links : Nat} {here : Location} {name : String}
  {names rest : List String}

section Searched

variable {d : Directory} {id : NodeId} (held : disk.directory? here.node = some d)
  (nonempty : name ≠ "") (searched : ¬ (!disk.allows here.node .execute) = true)
  (noDot : name ≠ ".") (noDots : name ≠ "..") (short : ¬ Text.size name > Path.maxName)
include held nonempty searched noDot noDots short

lemma pace_eq_paceInto (found : d.entries.lookup name = some id) :
    disk.pace follow here name rest = disk.paceInto follow here name rest id := by
  unfold pace
  simp only [held, if_neg nonempty, if_neg searched, if_neg noDot, if_neg noDots, if_neg short,
    found]

lemma pace_eq_stops (missing : d.entries.lookup name = none) :
    disk.pace follow here name rest =
      .stops (if rest.all (· = "") then .ok (.missing here name) else .error .ENOENT) := by
  unfold pace
  simp only [held, if_neg nonempty, if_neg searched, if_neg noDot, if_neg noDots, if_neg short,
    missing]

end Searched

lemma walk_nil (disk : Disk) (follow : Bool) (links : Nat) (here : Location) :
    disk.walk follow links here [] = .ok (.found here) := by
  rw [walk]

/-- A walk is a step and the walk after it. Only a link is paid for. -/
lemma walk_cons_eq (disk : Disk) (follow : Bool) (links : Nat) (here : Location) (name : String)
    (rest : List String) :
    disk.walk follow links here (name :: rest) =
      match disk.pace follow here name rest with
      | .stops result => result
      | .on there => disk.walk follow links there rest
      | .through next =>
        match links, next with
        | 0, _ => .error .ELOOP
        | _ + 1, none => .error .ENOENT
        | links + 1, some (there, names) => disk.walk follow links there names := by
  -- only a name that is found can lead through a link, and only there is the budget looked at
  rw [walk]
  fun_cases disk.pace follow here name rest
  case case8 d held nonempty searched noDot noDots short id found =>
    simp only [held, if_neg nonempty, if_neg searched, if_neg noDot, if_neg noDots, if_neg short,
      found]
    unfold paceInto
    cases disk.node id with
    | link target =>
      dsimp only
      by_cases last : (rest.isEmpty && !follow) = true
      · simp only [if_pos last]
      · simp only [if_neg last]
        by_cases empty : target.isEmpty = true
        · cases links <;> simp only [if_pos empty]
        · cases links <;> simp only [if_neg empty]
    | shortcut text target =>
      dsimp only
      by_cases last : (rest.isEmpty && !follow) = true
      · simp only [if_pos last]
      · cases links <;> simp only [if_neg last]
    | _ => rfl
  case case7 d held nonempty searched noDot noDots short missing =>
    simp only [held, if_neg nonempty, if_neg searched, if_neg noDot, if_neg noDots, if_neg short,
      missing]
  all_goals simp_all

/-! ## Trails -/

/-- `disk.Trail follow here names n target`: from the place the names lead to the target, through
`n` links. -/
inductive Trail (disk : Disk) (follow : Bool) : Location → List String → Nat → Target → Prop
  | nil (here : Location) : Trail disk follow here [] 0 (.found here)
  | stops {here : Location} {name : String} {rest : List String} {target : Target}
      (step : disk.pace follow here name rest = .stops (.ok target)) :
      Trail disk follow here (name :: rest) 0 target
  | on {here there : Location} {name : String} {rest : List String} {n : Nat} {target : Target}
      (step : disk.pace follow here name rest = .on there)
      (later : Trail disk follow there rest n target) :
      Trail disk follow here (name :: rest) n target
  | through {here there : Location} {name : String} {rest names : List String} {n : Nat}
      {target : Target} (step : disk.pace follow here name rest = .through (some (there, names)))
      (later : Trail disk follow there names n target) :
      Trail disk follow here (name :: rest) (n + 1) target

/-- A walk from a name on has a trail if the walks after its step have. -/
lemma exists_trail_cons {target : Target}
    (on : ∀ there, disk.walk follow links there rest = .ok target →
      ∃ n ≤ links, disk.Trail follow there rest n target)
    (through : ∀ left there names, links = left + 1 →
      disk.walk follow left there names = .ok target →
        ∃ n ≤ left, disk.Trail follow there names n target)
    (h : disk.walk follow links here (name :: rest) = .ok target) :
    ∃ n ≤ links, disk.Trail follow here (name :: rest) n target := by
  rw [walk_cons_eq] at h
  cases step : disk.pace follow here name rest with
  | stops result =>
    rw [step] at h
    subst h
    exact ⟨0, Nat.zero_le _, .stops step⟩
  | on there =>
    rw [step] at h
    obtain ⟨n, few, later⟩ := on there h
    exact ⟨n, few, .on step later⟩
  | through next =>
    rw [step] at h
    -- the link that is gone through takes one from the budget
    cases links with
    | zero => cases h
    | succ links =>
      cases next with
      | none => cases h
      | some next =>
        obtain ⟨there, names⟩ := next
        obtain ⟨n, few, later⟩ := through links there names rfl h
        exact ⟨n + 1, Nat.succ_le_succ few, .through step later⟩

lemma exists_trail_of_walk {target : Target}
    (h : disk.walk follow links here names = .ok target) :
    ∃ n ≤ links, disk.Trail follow here names n target := by
  -- the links come first, since the names that are left can become more with a link
  induction links using Nat.strongRecOn generalizing here names with
  | ind links ihLinks =>
    induction names generalizing here with
    | nil =>
      rw [walk_nil] at h
      cases h
      exact ⟨0, Nat.zero_le _, .nil here⟩
    | cons name rest ih =>
      refine exists_trail_cons (fun there h => ih h) (fun left there names more h => ?_) h
      exact ihLinks left (by omega) h

/-- A walk finds what a trail leads to that its links are enough for. -/
theorem walk_eq_ok_iff {target : Target} :
    disk.walk follow links here names = .ok target ↔
      ∃ n ≤ links, disk.Trail follow here names n target := by
  refine ⟨exists_trail_of_walk, ?_⟩
  rintro ⟨n, few, trail⟩
  induction trail generalizing links with
  | nil here => exact walk_nil ..
  | stops step => rw [walk_cons_eq, step]
  | on step _ ih =>
    rw [walk_cons_eq, step]
    exact ih few
  | through step _ ih =>
    rw [walk_cons_eq, step]
    obtain ⟨links, rfl⟩ := Nat.exists_eq_succ_of_ne_zero (Nat.ne_zero_of_lt few)
    exact ih (Nat.le_of_succ_le_succ few)

namespace Trail

lemma unique {n m : Nat} {target other : Target} (h : disk.Trail follow here names n target)
    (h' : disk.Trail follow here names m other) : n = m ∧ target = other := by
  -- the step is the same in both trails, so they are built alike
  induction h generalizing m with
  | nil here =>
    cases h'
    exact ⟨rfl, rfl⟩
  | stops step =>
    cases h' with
    | stops step' =>
      rw [step] at step'
      cases step'
      exact ⟨rfl, rfl⟩
    | on step' => rw [step] at step'; cases step'
    | through step' => rw [step] at step'; cases step'
  | on step _ ih =>
    cases h' with
    | stops step' => rw [step] at step'; cases step'
    | on step' later =>
      rw [step] at step'
      cases step'
      exact ih later
    | through step' => rw [step] at step'; cases step'
  | through step _ ih =>
    cases h' with
    | stops step' => rw [step] at step'; cases step'
    | on step' => rw [step] at step'; cases step'
    | through step' later =>
      rw [step] at step'
      cases step'
      obtain ⟨rfl, rfl⟩ := ih later
      exact ⟨rfl, rfl⟩

end Trail

/-! ## Ways that add up -/

/-- The step, if these names come after all that are left. -/
def Pace.followedBy (more : List String) : Pace → Pace
  | .stops (.ok target) =>
    .stops (if more.all (· = "") then .ok target else .error .ENOENT)
  | .stops (.error e) => .stops (.error e)
  | .on there => .on there
  | .through next => .through (next.map fun (there, names) => (there, names ++ more))

namespace Pace

variable {p : Pace} {more names : List String} {there : Location}

lemma followedBy_ne_stops_ok (some : more.all (· = "") = false) {target : Target} :
    p.followedBy more ≠ .stops (.ok target) := by
  intro h
  cases p with
  | stops result =>
    cases result with
    | error e => cases h
    | ok target =>
      rw [followedBy, some] at h
      cases h
  | on there => cases h
  | through next => cases h

lemma followedBy_eq_on_iff : p.followedBy more = .on there ↔ p = .on there := by
  cases p with
  | stops result => cases result <;> simp [followedBy]
  | on there => simp [followedBy]
  | through next => simp [followedBy]

lemma followedBy_eq_through_iff :
    p.followedBy more = .through (some (there, names)) ↔
      ∃ front, front ++ more = names ∧ p = .through (some (there, front)) := by
  cases p with
  | stops result => cases result <;> simp [followedBy]
  | on there => simp [followedBy]
  | through next =>
    rw [followedBy, through.injEq, Option.map_eq_some_iff]
    constructor
    · rintro ⟨⟨other, front⟩, rfl, h⟩
      cases h
      exact ⟨front, rfl, rfl⟩
    · rintro ⟨front, rfl, h⟩
      cases h
      exact ⟨_, rfl, rfl⟩

end Pace

/-- A step does not depend on the names after it, but for what it means that a name is missing and
for a link in the last place. -/
lemma pace_append {more : List String} (some : more ≠ []) :
    disk.pace follow here name (rest ++ more) =
      (disk.pace true here name rest).followedBy more := by
  have goes : (rest ++ more).isEmpty = false := by
    cases rest with
    | nil => simpa using some
    | cons => rfl
  fun_cases disk.pace true here name rest
  -- with more behind, the name is not the last one, so its link is followed
  case case8 d held nonempty searched noDot noDots short id found =>
    rw [pace_eq_paceInto held nonempty searched noDot noDots short found]
    unfold paceInto
    cases disk.node id with
    | link target =>
      simp only [goes, Bool.false_and, Bool.not_true, Bool.and_false, Bool.false_eq_true, if_false]
      by_cases empty : target.isEmpty = true
      · simp only [if_pos empty, Pace.followedBy, Option.map_none]
      · simp only [if_neg empty, Pace.followedBy, Option.map_some, List.append_assoc]
    | shortcut text target =>
      simp only [goes, Bool.false_and, Bool.not_true, Bool.and_false, Bool.false_eq_true, if_false,
        Pace.followedBy, Option.map_some]
    | _ => rfl
  case case7 d held nonempty searched noDot noDots short missing =>
    rw [pace_eq_stops held nonempty searched noDot noDots short missing]
    simp only [List.all_append]
    by_cases last : rest.all (· = "") = true
    · simp only [last, Bool.true_and, if_true, Pace.followedBy]
    · simp only [last, Bool.false_and, Bool.false_eq_true, if_false, Pace.followedBy]
  all_goals
    unfold pace
    simp_all [Pace.followedBy]

/-- Where links are followed, a step that stops with a target has missed a name. -/
theorem pace_true_eq_stops_ok {target : Target}
    (step : disk.pace true here name rest = .stops (.ok target)) :
    ∃ d, disk.directory? here.node = some d ∧ d.entries.lookup name = none ∧
      rest.all (· = "") = true ∧ target = .missing here name := by
  -- a step that follows links stops well only where a last name is missing
  revert step
  fun_cases disk.pace true here name rest
  case case7 d held nonempty searched noDot noDots short missing =>
    intro step
    by_cases last : rest.all (· = "") = true
    · rw [if_pos last] at step
      cases step
      exact ⟨d, held, missing, last, rfl⟩
    · rw [if_neg last] at step
      cases step
  case case8 d held nonempty searched noDot noDots short id found =>
    intro step
    unfold paceInto at step
    cases node : disk.node id with
    | link target =>
      rw [node] at step
      dsimp only at step
      rw [Bool.not_true, Bool.and_false, if_neg Bool.false_ne_true] at step
      split at step <;> cases step
    | shortcut text target =>
      rw [node] at step
      dsimp only at step
      rw [Bool.not_true, Bool.and_false, if_neg Bool.false_ne_true] at step
      cases step
    | _ =>
      rw [node] at step
      cases step
  all_goals
    intro step
    cases step

namespace Trail

variable {more : List String} {mid : Location} {target : Target} {n m : Nat}

lemma append (some : more ≠ []) (h : disk.Trail true here names n (.found mid))
    (h' : disk.Trail follow mid more m target) :
    disk.Trail follow here (names ++ more) (n + m) target := by
  generalize htarget : Target.found mid = found at h
  induction h with
  | nil here =>
    cases htarget
    rw [Nat.zero_add]
    exact h'
  | @stops here name rest target step =>
    -- where links are followed, a walk that stops has found nothing
    subst htarget
    obtain ⟨_, -, -, -, found⟩ := pace_true_eq_stops_ok step
    cases found
  | on step _ ih =>
    refine .on ((pace_append some).trans ?_) (ih htarget)
    rw [step]
    rfl
  | @through here there name rest names n target step _ ih =>
    rw [Nat.add_right_comm]
    refine .through ((pace_append some).trans ?_) (ih htarget)
    rw [step]
    rfl

/-- A slash at the end of a path asks for a directory, and changes nothing else. -/
lemma of_slash (h : disk.Trail true here (names ++ [""]) n (.found mid)) :
    disk.Trail true here names n (.found mid) := by
  have some : [""] ≠ [] := List.cons_ne_nil _ _
  generalize hall : names ++ [""] = all at h
  generalize htarget : Target.found mid = target at h
  induction h generalizing names with
  | nil here =>
    obtain ⟨-, none⟩ := List.append_eq_nil_iff.1 hall
    cases none
  | @stops here name rest target step =>
    subst htarget
    obtain ⟨_, -, -, -, found⟩ := pace_true_eq_stops_ok step
    cases found
  | @on here there name rest n target step later ih =>
    cases names with
    | nil =>
      obtain ⟨rfl, rfl⟩ := List.cons.inj hall
      -- the empty name behind a slash stays where it is
      have stays : there = here := by
        unfold pace at step
        split at step
        · cases step
        · exact (Pace.on.inj step).symm
      cases later with
      | nil =>
        subst stays
        cases htarget
        exact .nil _
    | cons first names =>
      obtain ⟨rfl, rfl⟩ := List.cons.inj hall
      replace step := (pace_append some).symm.trans step
      rw [← htarget] at ih ⊢
      exact .on (Pace.followedBy_eq_on_iff.1 step) (ih rfl rfl)
  | @through here there name rest left n target step later ih =>
    cases names with
    | nil =>
      obtain ⟨rfl, rfl⟩ := List.cons.inj hall
      unfold pace at step
      split at step <;> cases step
    | cons first names =>
      obtain ⟨rfl, rfl⟩ := List.cons.inj hall
      replace step := (pace_append some).symm.trans step
      obtain ⟨left, rfl, goes⟩ := Pace.followedBy_eq_through_iff.1 step
      rw [← htarget] at ih ⊢
      exact .through goes (ih rfl rfl)

/-- A trail can be cut between two names. -/
theorem split (some : more.all (· = "") = false)
    (h : disk.Trail follow here (names ++ more) n target) :
    ∃ mid first second, n = first + second ∧ disk.Trail true here names first (.found mid) ∧
      disk.Trail follow mid more second target := by
  have more_ne : more ≠ [] := by
    rintro rfl
    cases some
  generalize hall : names ++ more = all at h
  induction h generalizing names with
  | nil here =>
    obtain ⟨-, rfl⟩ := List.append_eq_nil_iff.1 hall
    cases some
  | @stops here name rest target step =>
    -- the walk may end before the second part only if that consists of empty names
    cases names with
    | nil =>
      subst hall
      exact ⟨here, 0, 0, rfl, .nil here, .stops step⟩
    | cons first names =>
      obtain ⟨rfl, rfl⟩ := List.cons.inj hall
      replace step := (pace_append more_ne).symm.trans step
      exact absurd step (Pace.followedBy_ne_stops_ok some)
  | @on here there name rest n target step later ih =>
    cases names with
    | nil =>
      subst hall
      exact ⟨here, 0, n, (Nat.zero_add n).symm, .nil here, .on step later⟩
    | cons first names =>
      obtain ⟨rfl, rfl⟩ := List.cons.inj hall
      replace step := (pace_append more_ne).symm.trans step
      obtain ⟨mid, first, second, rfl, front, back⟩ := ih rfl
      exact ⟨mid, first, second, rfl, .on (Pace.followedBy_eq_on_iff.1 step) front, back⟩
  | @through here there name rest left n target step later ih =>
    cases names with
    | nil =>
      subst hall
      exact ⟨here, 0, n + 1, (Nat.zero_add _).symm, .nil here, .through step later⟩
    | cons first names =>
      obtain ⟨rfl, rfl⟩ := List.cons.inj hall
      replace step := (pace_append more_ne).symm.trans step
      obtain ⟨left, rfl, goes⟩ := Pace.followedBy_eq_through_iff.1 step
      obtain ⟨mid, first, second, rfl, front, back⟩ := ih rfl
      exact ⟨mid, first + 1, second, Nat.add_right_comm .., .through goes front, back⟩

end Trail

/-! ## Where links are not followed -/

/-- Where links are not followed, a step is the same, but that it may find a link. -/
theorem pace_cases (disk : Disk) (follow : Bool) (here : Location) (name : String)
    (rest : List String) :
    disk.pace follow here name rest = disk.pace true here name rest ∨
      ∃ d id, disk.directory? here.node = some d ∧ d.entries.lookup name = some id ∧
        disk.pace follow here name rest = .stops (.ok (.found ((name, id) :: here))) := by
  fun_cases disk.pace true here name rest
  -- following makes a difference only at a link in the last place
  case case8 d held nonempty searched noDot noDots short id found =>
    rw [pace_eq_paceInto held nonempty searched noDot noDots short found]
    by_cases last : (rest.isEmpty && !follow) = true
    · unfold paceInto
      cases disk.node id with
      | link target => exact .inr ⟨d, id, held, found, if_pos last⟩
      | shortcut text target => exact .inr ⟨d, id, held, found, if_pos last⟩
      | _ => exact .inl rfl
    · left
      unfold paceInto
      simp [last]
  case case7 d held nonempty searched noDot noDots short missing =>
    left
    exact pace_eq_stops held nonempty searched noDot noDots short missing
  all_goals
    left
    unfold pace
    simp_all

/-! ## What is met on the way -/

/-- `disk.Meets here names id`: whoever goes from the place by the names comes to the node, or looks
at it. A link in the last place is also looked at beforehand. -/
inductive Meets (disk : Disk) : Location → List String → NodeId → Prop
  | here (here : Location) (names : List String) : Meets disk here names here.node
  | entry {here : Location} {name : String} {rest : List String} {d : Directory} {id : NodeId}
      (held : disk.directory? here.node = some d) (found : d.entries.lookup name = some id) :
      Meets disk here (name :: rest) id
  | on {here there : Location} {name : String} {rest : List String} {id : NodeId}
      (step : disk.pace true here name rest = .on there) (later : Meets disk there rest id) :
      Meets disk here (name :: rest) id
  | through {here there : Location} {name : String} {rest names : List String} {id : NodeId}
      (step : disk.pace true here name rest = .through (some (there, names)))
      (later : Meets disk there names id) : Meets disk here (name :: rest) id
  | last {here l : Location} {names : List String} {n : Nat} {target : String} {id : NodeId}
      (trail : Trail disk false here names n (.found l)) (link : disk.node l.node = .link target)
      (later : Meets disk (if Path.isAbsolute target then [] else l.tail)
        (Path.components target) id) : Meets disk here names id

/-- The node is a file that can be changed. -/
def IsFile (disk : Disk) (id : NodeId) : Prop :=
  ∃ mode content, disk.node id = .file mode content

/-- To a walk the node is the same on both disks. -/
def Alike (disk disk' : Disk) (id : NodeId) : Prop :=
  disk'.node id = disk.node id ∨ disk.IsFile id ∧ disk'.IsFile id

namespace Alike

variable {disk' : Disk} {id : NodeId}

lemma directory?_eq (h : disk.Alike disk' id) : disk'.directory? id = disk.directory? id := by
  unfold directory?
  rcases h with same | ⟨⟨_, _, own⟩, ⟨_, _, other⟩⟩
  · rw [same]
  · rw [own, other]

lemma allows_eq {d : Directory} (h : disk.Alike disk' id) (held : disk.directory? id = some d)
    (right : Right) : disk'.allows id right = disk.allows id right := by
  unfold allows
  rcases h with same | ⟨⟨_, _, own⟩, -⟩
  · rw [same]
  · unfold directory? at held
    rw [own] at held
    cases held

lemma paceInto_eq (h : disk.Alike disk' id) :
    disk'.paceInto follow here name rest id = disk.paceInto follow here name rest id := by
  unfold paceInto
  rcases h with same | ⟨⟨_, _, own⟩, ⟨_, _, other⟩⟩
  · rw [same]
  · rw [own, other]

end Alike

variable {disk' : Disk}

/-- A step depends on nothing but the directory in which it is made and what its name leads to. -/
lemma pace_eq_of_paceInto_eq (held : disk'.directory? here.node = disk.directory? here.node)
    (allowed : ∀ d, disk.directory? here.node = some d →
      disk'.allows here.node .execute = disk.allows here.node .execute)
    (entries : ∀ d id, disk.directory? here.node = some d → d.entries.lookup name = some id →
      disk'.paceInto follow here name rest id = disk.paceInto follow here name rest id) :
    disk'.pace follow here name rest = disk.pace follow here name rest := by
  unfold pace
  rw [held]
  cases inside : disk.directory? here.node with
  | none => rfl
  | some d =>
    dsimp only
    rw [allowed d inside]
    cases found : d.entries.lookup name with
    | none => rfl
    | some id =>
      dsimp only
      rw [entries d id inside found]

lemma pace_congr (alike : disk.Alike disk' here.node)
    (entries : ∀ d id, disk.directory? here.node = some d → d.entries.lookup name = some id →
      disk.Alike disk' id) :
    disk'.pace follow here name rest = disk.pace follow here name rest :=
  pace_eq_of_paceInto_eq alike.directory?_eq (fun _ held => alike.allows_eq held .execute)
    fun d id held found => (entries d id held found).paceInto_eq

lemma pace_congr_of_meets
    (alike : ∀ id, disk.Meets here (name :: rest) id → disk.Alike disk' id) :
    disk'.pace follow here name rest = disk.pace follow here name rest :=
  pace_congr (alike _ (.here here _)) fun _ id held found => alike id (.entry held found)

lemma pace_true_of_on {there : Location} (step : disk.pace follow here name rest = .on there) :
    disk.pace true here name rest = .on there := by
  rcases disk.pace_cases follow here name rest with same | ⟨_, _, -, -, stops⟩
  · exact same.symm.trans step
  · rw [stops] at step
    cases step

lemma pace_true_of_through {next : Option (Location × List String)}
    (step : disk.pace follow here name rest = .through next) :
    disk.pace true here name rest = .through next := by
  rcases disk.pace_cases follow here name rest with same | ⟨_, _, -, -, stops⟩
  · exact same.symm.trans step
  · rw [stops] at step
    cases step

/-- Where a walk can stop with a target: where a name is missing, or at a link in the last place. -/
theorem pace_eq_stops_ok {target : Target}
    (step : disk.pace follow here name rest = .stops (.ok target)) :
    (∃ d, disk.directory? here.node = some d ∧ d.entries.lookup name = none ∧
        rest.all (· = "") = true ∧ target = .missing here name) ∨
      ∃ d id, disk.directory? here.node = some d ∧ d.entries.lookup name = some id ∧
        target = .found ((name, id) :: here) := by
  rcases disk.pace_cases follow here name rest with same | ⟨d, id, held, found, stops⟩
  · exact .inl (pace_true_eq_stops_ok (same.symm.trans step))
  · rw [stops] at step
    cases step
    exact .inr ⟨d, id, held, found, rfl⟩

namespace Trail

variable {target : Target} {n : Nat}

/-- A trail is there on every disk that is the same along it. -/
theorem of_alike (h : disk.Trail follow here names n target)
    (alike : ∀ id, disk.Meets here names id → disk.Alike disk' id) :
    disk'.Trail follow here names n target := by
  induction h with
  | nil here => exact .nil here
  | stops step => exact .stops ((pace_congr_of_meets alike).trans step)
  | on step _ ih =>
    refine .on ((pace_congr_of_meets alike).trans step) (ih fun id meets => ?_)
    exact alike id (.on (pace_true_of_on step) meets)
  | through step _ ih =>
    refine .through ((pace_congr_of_meets alike).trans step) (ih fun id meets => ?_)
    exact alike id (.through (pace_true_of_through step) meets)

/-- And it is there only if it is there on the disk that has been looked at. -/
theorem of_alike_of_meets (h : disk'.Trail follow here names n target)
    (alike : ∀ id, disk.Meets here names id → disk.Alike disk' id) :
    disk.Trail follow here names n target := by
  induction h with
  | nil here => exact .nil here
  | stops step => exact .stops ((pace_congr_of_meets alike).symm.trans step)
  | on step _ ih =>
    have step := (pace_congr_of_meets alike).symm.trans step
    exact .on step (ih fun id meets => alike id (.on (pace_true_of_on step) meets))
  | through step _ ih =>
    have step := (pace_congr_of_meets alike).symm.trans step
    exact .through step (ih fun id meets => alike id (.through (pace_true_of_through step) meets))

lemma meets_target (h : disk.Trail follow here names n target) :
    disk.Meets here names target.node := by
  induction h with
  | nil here => exact .here here []
  | @stops here name rest target step =>
    rcases pace_eq_stops_ok step with ⟨_, -, -, -, rfl⟩ | ⟨d, id, held, found, rfl⟩
    · exact .here here _
    · exact .entry held found
  | on step _ ih => exact .on (pace_true_of_on step) ih
  | through step _ ih => exact .through (pace_true_of_through step) ih

/-- If links are not followed, there are no more of them on the way. -/
theorem exists_unfollowed (h : disk.Trail true here names n target) :
    ∃ m ≤ n, ∃ other, disk.Trail false here names m other := by
  induction h with
  | nil here => exact ⟨0, Nat.le_refl 0, _, .nil here⟩
  | @stops here name rest target step =>
    rcases disk.pace_cases false here name rest with same | ⟨_, _, -, -, stops⟩
    · exact ⟨0, Nat.le_refl 0, target, .stops (same.trans step)⟩
    · exact ⟨0, Nat.le_refl 0, _, .stops stops⟩
  | @on here there name rest n target step _ ih =>
    obtain ⟨m, few, other, later⟩ := ih
    rcases disk.pace_cases false here name rest with same | ⟨_, _, -, -, stops⟩
    · exact ⟨m, few, other, .on (same.trans step) later⟩
    · exact ⟨0, Nat.zero_le _, _, .stops stops⟩
  | @through here there name rest left n target step _ ih =>
    obtain ⟨m, few, other, later⟩ := ih
    rcases disk.pace_cases false here name rest with same | ⟨_, _, -, -, stops⟩
    · exact ⟨m + 1, Nat.succ_le_succ few, other, .through (same.trans step) later⟩
    · exact ⟨0, Nat.zero_le _, _, .stops stops⟩

end Trail

end Disk

end CommandShell
