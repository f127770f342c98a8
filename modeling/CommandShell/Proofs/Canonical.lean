import CommandShell.System.Disk
import Mathlib.Tactic.Lemma

/-!
# Canonical places

A location is the way down to a place on the disk, entry by entry. It is canonical
(`Disk.IsCanonical`) if each entry is there, can be looked up, has a name that is no dots, and is
not a link. Two things are to be known of canonical places.

* Whatever a path goes through, links, dots and names, what it leads to is canonical
  (`Disk.isCanonical_of_canonical`): a walk only steps into entries that are no links, and upwards,
  and a link is replaced by the names in its text before it goes on.
* The path of a canonical place leads there, from everywhere (`IsCanonical.canonical_path`,
  `IsCanonical.lookup_path`). This needs that the text of the path can be read back:
  `Location.components_path` cuts it up at its slashes and finds the names on the way.

Some links of the kernel lead to a place by themselves, whatever their text is (`Node.shortcut`).
Who asks for a canonical path follows them by their texts nevertheless, so the disk is looked at
through `Disk.byText` then. Where no link is on the way that makes no difference
(`Disk.isCanonical_byText_iff`).
-/

namespace CommandShell

/-! ## Names -/

namespace Path

/-- A name that an entry can have and that a path can give. -/
structure IsName (name : String) : Prop where
  nonempty : name ≠ ""
  unsplit : '/' ∉ name.toList
  noDots : isDots name = false
  short : Text.size name ≤ maxName

lemma notMem_of_mem_splitOn {x : Char} {chars piece : List Char}
    (h : piece ∈ chars.splitOn x) : x ∉ piece := by
  induction chars generalizing piece with
  | nil =>
    rw [List.splitOn_nil, List.mem_singleton] at h
    rw [h]
    exact List.not_mem_nil
  | cons c rest ih =>
    obtain ⟨first, pieces, hpieces⟩ := List.exists_cons_of_ne_nil (List.splitOn_ne_nil x rest)
    rw [List.splitOn_cons_eq_if_modifyHead] at h
    split at h
    · rcases List.mem_cons.1 h with rfl | h
      · exact List.not_mem_nil
      · exact ih h
    · rename_i other
      rw [hpieces, List.modifyHead_cons] at h
      rcases List.mem_cons.1 h with rfl | h
      · refine List.not_mem_cons_of_ne_of_not_mem ?_ (ih (hpieces ▸ List.mem_cons_self))
        rintro rfl
        exact other (beq_self_eq_true _)
      · exact ih (hpieces ▸ List.mem_cons_of_mem _ h)

lemma unsplit_of_mem_names {path name : String} (h : name ∈ names path) :
    '/' ∉ name.toList := by
  obtain ⟨hmem, -⟩ := List.mem_filter.1 h
  obtain ⟨piece, hpiece, rfl⟩ := List.mem_map.1 hmem
  rw [String.toList_ofList]
  exact notMem_of_mem_splitOn hpiece

lemma unsplit_of_mem_components {path name : String} (h : name ∈ components path) :
    '/' ∉ name.toList := by
  unfold components at h
  split at h
  · rcases List.mem_append.1 h with h | h
    · exact unsplit_of_mem_names h
    · rw [List.mem_singleton.1 h]
      exact List.not_mem_nil
  · exact unsplit_of_mem_names h

lemma isAbsolute_join {dir : String} (h : isAbsolute dir = true) (path : String) :
    isAbsolute (join dir path) = true := by
  have begins {suffix : String} : isAbsolute (dir ++ suffix) = true := by
    refine String.startsWith_string_iff.2 ?_
    rw [String.toList_append]
    exact (String.startsWith_string_iff.1 h).trans (List.prefix_append _ _)
  unfold join
  split
  · rename_i other
    rcases Bool.or_eq_true_iff.1 other with absolute | empty
    · exact absolute
    · rw [String.isEmpty_iff.1 empty] at h
      exact absurd h (by decide)
  split
  · exact begins
  · rw [String.append_assoc]
    exact begins

end Path

/-! ## The path of a place -/

namespace Location

/-- The names on the way down to a place. -/
def names (l : Location) : List String :=
  l.reverse.map (·.1)

lemma names_cons (entry : String × NodeId) (up : Location) :
    names (entry :: up) = names up ++ [entry.1] := by
  simp [names]

lemma toList_path {l : Location} (below : l ≠ []) :
    l.path.toList = l.names.flatMap fun name => '/' :: name.toList := by
  unfold path names
  rw [if_neg (by simpa using below), String.toList_join, List.flatMap_map, List.flatMap_map]
  simp

lemma isAbsolute_path (l : Location) : Path.isAbsolute l.path = true := by
  refine String.startsWith_string_iff.2 ?_
  by_cases below : l = []
  · subst below
    decide
  · rw [toList_path below]
    obtain ⟨name, rest, hnames⟩ : ∃ name rest, l.names = name :: rest :=
      List.exists_cons_of_ne_nil (by simpa [names] using below)
    rw [hnames, List.flatMap_cons]
    exact ⟨_, rfl⟩

lemma splitOn_flatMap {piece : List Char} {names : List String} (first : '/' ∉ piece)
    (unsplit : ∀ name ∈ names, '/' ∉ name.toList) :
    (piece ++ names.flatMap fun name => '/' :: name.toList).splitOn '/' =
      piece :: names.map String.toList := by
  induction names generalizing piece with
  | nil =>
    rw [List.flatMap_nil, List.append_nil]
    exact List.splitOn_eq_singleton first
  | cons name rest ih =>
    obtain ⟨next, unsplit⟩ := List.forall_mem_cons.1 unsplit
    rw [List.flatMap_cons, List.cons_append,
      List.splitOn_append_cons_self_of_not_mem first, ih next unsplit]
    rfl

variable {l : Location}

/-- The names in the path of a place are those on the way down to it. -/
lemma names_path (nonempty : ∀ name ∈ l.names, name ≠ "")
    (unsplit : ∀ name ∈ l.names, '/' ∉ name.toList) : Path.names l.path = l.names := by
  unfold Path.names
  by_cases below : l = []
  · subst below
    decide
  · have cut := @splitOn_flatMap [] _ List.not_mem_nil unsplit
    rw [List.nil_append] at cut
    have back : (l.names.map String.toList).map String.ofList = l.names := by simp
    rw [toList_path below, cut, List.map_cons, back]
    simpa using nonempty

/-- No path of a place ends in a slash, other than that of the root. -/
lemma not_endsInSlash (below : l ≠ []) (nonempty : ∀ name ∈ l.names, name ≠ "")
    (unsplit : ∀ name ∈ l.names, '/' ∉ name.toList) : ¬ Path.endsInSlash l.path = true := by
  intro ends
  unfold Path.endsInSlash at ends
  rw [String.endsWith_eq_endsWith_toSlice, String.Slice.endsWith_string_iff, String.copy_toSlice,
    toList_path below] at ends
  obtain ⟨entry, up, rfl⟩ := List.exists_cons_of_ne_nil below
  have last : entry.1 ∈ names (entry :: up) := by
    rw [names_cons]
    exact List.mem_append_right _ List.mem_cons_self
  have hlast := List.singleton_suffix_iff_getLast?_eq_some.1 ends
  rw [names_cons, List.flatMap_append, List.flatMap_singleton, List.getLast?_append,
    List.getLast?_cons] at hlast
  cases hlist : entry.1.toList.getLast? with
  | none => exact nonempty _ last (String.toList_eq_nil_iff.1 (List.getLast?_eq_none_iff.1 hlist))
  | some c =>
    rw [hlist] at hlast
    cases hlast
    exact unsplit _ last (List.mem_of_getLast? hlist)

theorem components_path (nonempty : ∀ name ∈ l.names, name ≠ "")
    (unsplit : ∀ name ∈ l.names, '/' ∉ name.toList) : Path.components l.path = l.names := by
  unfold Path.components
  rw [names_path nonempty unsplit]
  refine if_neg fun ends => ?_
  obtain ⟨ends, some⟩ := Bool.and_eq_true_iff.1 ends
  refine not_endsInSlash ?_ nonempty unsplit ends
  rintro rfl
  cases some

end Location

namespace Disk

variable {disk : Disk}

/-- The node is not a link. -/
def IsPlain (disk : Disk) (id : NodeId) : Prop :=
  (∀ target, disk.node id ≠ .link target) ∧ ∀ text target, disk.node id ≠ .shortcut text target

/-- The way down to a place is canonical: each name on it is one that an entry can have, each entry
is in a directory that can be looked into, and none is a link. -/
inductive IsCanonical (disk : Disk) : Location → Prop
  | root : IsCanonical disk []
  | entry {name : String} {id : NodeId} {up : Location} {d : Directory}
      (above : IsCanonical disk up)
      (held : disk.directory? (Location.node up) = some d)
      (searched : disk.allows (Location.node up) .execute = true)
      (proper : Path.IsName name) (found : d.entries.lookup name = some id)
      (plain : disk.IsPlain id) : IsCanonical disk ((name, id) :: up)

namespace IsCanonical

variable {l here : Location}

lemma tail (h : disk.IsCanonical l) : disk.IsCanonical l.tail := by
  cases h with
  | root => exact .root
  | entry above _ _ _ _ _ => exact above

lemma isName (h : disk.IsCanonical l) : ∀ name ∈ l.names, Path.IsName name := by
  induction h with
  | root => exact fun _ h => absurd h List.not_mem_nil
  | entry _ _ _ proper _ _ ih =>
    rw [Location.names_cons]
    exact List.forall_mem_append.2 ⟨ih, List.forall_mem_singleton.2 proper⟩

/-- What a path leads to is canonical, if the walk starts at a place that is. -/
lemma of_walk (noShortcuts : ∀ id text target, disk.node id ≠ .shortcut text target)
    {links : Nat} {names : List String} (start : disk.IsCanonical here)
    (unsplit : ∀ name ∈ names, '/' ∉ name.toList)
    (h : disk.walk true links here names = .ok (.found l)) : disk.IsCanonical l := by
  fun_induction disk.walk true links here names
  case case1 =>
    cases h
    exact start
  case case3 ih => exact ih start (List.forall_mem_cons.1 unsplit).2 h
  case case5 ih => exact ih start (List.forall_mem_cons.1 unsplit).2 h
  case case6 ih => exact ih start.tail (List.forall_mem_cons.1 unsplit).2 h
  case case13 target _ _ _ _ ih =>
    simp only [dite_eq_ite] at ih
    refine ih ?_ (List.forall_mem_append.2 ⟨?_, (List.forall_mem_cons.1 unsplit).2⟩) h
    · split
      · exact .root
      · exact start
    · exact fun name hname => Path.unsplit_of_mem_components hname
  case case10 followed => simp at followed
  case case14 hnode _ => exact absurd hnode (noShortcuts _ _ _)
  case case16 hnode _ _ _ => exact absurd hnode (noShortcuts _ _ _)
  case case17 held nonempty searched noDot noDots short id found noLink noShortcut ih =>
    have proper : Path.IsName _ :=
      ⟨nonempty, unsplit _ List.mem_cons_self, by simp [Path.isDots, noDot, noDots],
        Nat.le_of_not_gt short⟩
    have next := start.entry held (by simpa using searched) proper found ⟨noLink, noShortcut⟩
    exact ih next (List.forall_mem_cons.1 unsplit).2 h
  -- in all other cases nothing is found
  all_goals cases h

lemma walk_cons {name : String} {id : NodeId} {up : Location}
    (h : disk.IsCanonical ((name, id) :: up)) (follow : Bool) (links : Nat) (rest : List String) :
    disk.walk follow links up (name :: rest) = disk.walk follow links ((name, id) :: up) rest := by
  cases h with
  | entry above held searched proper found plain =>
    have noDots := proper.noDots
    simp only [Path.isDots, Bool.or_eq_false_iff, decide_eq_false_iff_not] at noDots
    rw [walk, held]
    simp only [if_neg proper.nonempty, searched, if_neg noDots.1, if_neg noDots.2,
      if_neg (Nat.not_lt_of_le proper.short), found, Bool.not_true, Bool.false_eq_true, if_false]
    split
    · rename_i hnode
      exact absurd hnode (plain.1 _)
    · rename_i hnode
      exact absurd hnode (plain.2 _ _)
    · rfl

/-- The names on the way lead all the way down. -/
lemma walk_names (h : disk.IsCanonical l) (follow : Bool) (links : Nat) (rest : List String) :
    disk.walk follow links [] (l.names ++ rest) = disk.walk follow links l rest := by
  induction l generalizing rest with
  | nil => rfl
  | cons entry up ih =>
    rw [Location.names_cons, List.append_assoc, ih h.tail]
    exact h.walk_cons follow links rest

/-- The path of a canonical place is cut up into the names on the way there. -/
lemma names_path (h : disk.IsCanonical l) : Path.names l.path = l.names :=
  Location.names_path (fun name hname => (h.isName name hname).nonempty) fun name hname =>
    (h.isName name hname).unsplit

lemma resolve_path (h : disk.IsCanonical l) (cwd : Location) (follow : Bool) :
    disk.resolve cwd l.path follow = .ok (.found l) := by
  have absolute := l.isAbsolute_path
  have some : ¬ l.path.isEmpty = true := by
    intro none
    rw [String.isEmpty_iff.1 none] at absolute
    exact absurd absolute (by decide)
  have pieces := Location.components_path (fun name hname => (h.isName name hname).nonempty)
    fun name hname => (h.isName name hname).unsplit
  unfold resolve
  rw [if_neg some, if_pos absolute, pieces]
  have walked := h.walk_names follow maxLinks []
  rw [List.append_nil] at walked
  rw [walked, walk]

theorem canonical_path (h : disk.IsCanonical l) (cwd : Location) :
    disk.canonical cwd l.path = .ok l := by
  unfold canonical
  rw [h.resolve_path cwd true]
  rfl

theorem lookup_path (h : disk.IsCanonical l) (cwd : Location) (follow : Bool) :
    disk.lookup cwd l.path follow =
      if Text.size l.path ≥ Path.maxLength then .error .ENAMETOOLONG else .ok l := by
  unfold lookup resolveShort
  split
  · rfl
  · rw [h.resolve_path cwd follow]
    rfl

end IsCanonical

/-- What a path leads to is canonical, if it is absolute or the working directory is canonical. -/
theorem isCanonical_of_canonical {cwd l : Location} {path : String}
    (noShortcuts : ∀ id text target, disk.node id ≠ .shortcut text target)
    (start : Path.isAbsolute path = true ∨ disk.IsCanonical cwd)
    (h : disk.canonical cwd path = .ok l) : disk.IsCanonical l := by
  unfold canonical resolve at h
  split at h
  · cases h
  · cases hwalk : disk.walk true maxLinks (if Path.isAbsolute path then [] else cwd)
        (Path.components path) with
    | error e =>
      rw [hwalk] at h
      cases h
    | ok target =>
      rw [hwalk] at h
      cases target with
      | missing up name => cases h
      | found l =>
        cases h
        -- the walk begins at the root or at the working directory, and both are canonical
        refine IsCanonical.of_walk noShortcuts ?_ (fun _ => Path.unsplit_of_mem_components) hwalk
        split
        · exact .root
        · rename_i relative
          exact start.resolve_left relative

/-! ## Links by their texts -/

end Disk

/-- What a node is to somebody who follows all links by their texts. -/
def Node.byText : Node → Node
  | .shortcut text _ => .link text
  | n => n

namespace Disk

variable {disk : Disk} {l : Location} {id : NodeId}

/-- A disk as somebody finds it who follows all links by their texts. -/
def byText (disk : Disk) : Disk where
  nodes := disk.nodes.map Node.byText
  shown id := (disk.shown id).map Node.byText

lemma node_byText (disk : Disk) (id : NodeId) : disk.byText.node id = (disk.node id).byText := by
  unfold node byText
  cases id with
  | stored number =>
    simp only [Array.getElem?_map]
    cases disk.nodes[number]? <;> rfl
  | _ =>
    dsimp only
    cases disk.shown _ <;> rfl

lemma byText_noShortcuts (disk : Disk) (id : NodeId) (text : String) (target : Location) :
    disk.byText.node id ≠ .shortcut text target := by
  rw [node_byText]
  cases disk.node id <;>
    · intro h
      cases h

lemma directory?_byText (disk : Disk) (id : NodeId) :
    disk.byText.directory? id = disk.directory? id := by
  unfold directory?
  rw [node_byText]
  cases disk.node id <;> rfl

lemma allows_byText (disk : Disk) (id : NodeId) (right : Right) :
    disk.byText.allows id right = disk.allows id right := by
  unfold allows
  rw [node_byText]
  cases disk.node id <;> rfl

lemma isPlain_byText_iff : disk.byText.IsPlain id ↔ disk.IsPlain id := by
  unfold IsPlain
  rw [node_byText]
  cases disk.node id <;> simp [Node.byText]

/-- Where no link is followed, it makes no difference how links would be. -/
theorem isCanonical_byText_iff : disk.byText.IsCanonical l ↔ disk.IsCanonical l := by
  constructor
  · intro h
    induction h with
    | root => exact .root
    | entry _ held searched proper found plain ih =>
      rw [directory?_byText] at held
      rw [allows_byText] at searched
      exact .entry ih held searched proper found (isPlain_byText_iff.1 plain)
  · intro h
    induction h with
    | root => exact .root
    | entry _ held searched proper found plain ih =>
      rw [← directory?_byText] at held
      rw [← allows_byText] at searched
      exact .entry ih held searched proper found (isPlain_byText_iff.2 plain)

end Disk

end CommandShell
