import CommandShell.Toml.Notation
import Mathlib.Tactic.Lemma

/-!
# The keys of a document

No key stands twice in a document that has been read, so a document is a table in which every key
has one value, and the order of its keys is one of them among many (`Toml.distinct_of_parse`).

Only the keys at the top matter here. A line of the text changes them in one of three ways: it adds
a key that is not there yet, it puts something else in the place of a key that is there, or it takes
a key out, to put it back in when the table of that name has been read. What has been read so far is
`Draft.IsDistinct` all the time.
-/

namespace CommandShell.Toml

/-- No key stands twice. -/
def Distinct {α : Type} (entries : List (String × α)) : Prop :=
  (entries.map Prod.fst).Nodup

section Lookup

variable {α : Type} {entries entries' : List (String × α)} {key : String} {value : α}

lemma Distinct.nil : Distinct ([] : List (String × α)) := List.nodup_nil

lemma Distinct.lookup_eq_some_iff (h : Distinct entries) :
    entries.lookup key = some value ↔ (key, value) ∈ entries := by
  constructor
  · intro found
    obtain ⟨before, after, rfl, -⟩ := List.lookup_eq_some_iff.1 found
    simp
  · intro hmem
    obtain ⟨before, after, rfl⟩ := List.append_of_mem hmem
    refine List.lookup_eq_some_iff.2 ⟨before, after, rfl, ?_⟩
    intro e he
    unfold Distinct at h
    rw [List.map_append, List.map_cons] at h
    have apart := (List.nodup_append.1 h).2.2 e.1 (List.mem_map_of_mem he) key (by simp)
    exact bne_iff_ne.2 (Ne.symm apart)

lemma Distinct.perm (h : Distinct entries) (p : entries.Perm entries') : Distinct entries' :=
  (p.map Prod.fst).nodup h

/-- In another order a key has the same value. -/
theorem Distinct.lookup_perm (h : Distinct entries) (p : entries.Perm entries') (key : String) :
    entries.lookup key = entries'.lookup key := by
  apply Option.ext
  intro value
  rw [h.lookup_eq_some_iff, (h.perm p).lookup_eq_some_iff, p.mem_iff]

end Lookup

section Entries

variable {entries entries' : Entries} {key : String} {item : Item}

lemma map_fst_replace (entries : Entries) (key : String) (item : Item) :
    (entries.replace key item).map Prod.fst = entries.map Prod.fst := by
  unfold Entries.replace
  rw [List.map_map]
  refine List.map_congr_left fun e _ => ?_
  by_cases h : e.1 = key
  · simp [h]
  · simp [h]

lemma Distinct.replace (h : Distinct entries) (key : String) (item : Item) :
    Distinct (entries.replace key item) := by
  unfold Distinct
  rw [map_fst_replace]
  exact h

lemma Distinct.concat (h : Distinct entries) (absent : entries.lookup key = none) :
    Distinct (entries ++ [(key, item)]) := by
  have hnew : key ∉ entries.map Prod.fst := by
    intro hmem
    obtain ⟨e, he, rfl⟩ := List.mem_map.1 hmem
    simpa using List.lookup_eq_none_iff.1 absent e he
  unfold Distinct
  rw [List.map_append]
  refine List.nodup_append.2 ⟨h, by simp, ?_⟩
  intro a ha b hb hab
  have hkey : b = key := by simpa using hb
  exact hnew (hkey ▸ hab ▸ ha)

lemma Distinct.filter (h : Distinct entries) (p : String × Item → Bool) :
    Distinct (entries.filter p) :=
  List.Nodup.sublist (List.filter_sublist.map Prod.fst) h

/-- A change of a table keeps its keys apart. -/
def KeepsDistinct (change : Entries → Origin → Option Entries) : Prop :=
  ∀ entries origin entries', Distinct entries → change entries origin = some entries' →
    Distinct entries'

/-- What happens further down adds a key at most. -/
lemma KeepsDistinct.alter {change : Entries → Origin → Option Entries}
    (hchange : KeepsDistinct change) {dotted : Bool} {path : List String} {origin : Origin}
    (h : Distinct entries)
    (altered : Entries.alter change dotted path entries origin = some entries') :
    Distinct entries' := by
  cases path with
  | nil => exact hchange entries origin entries' h altered
  | cons key rest =>
    unfold Entries.alter at altered
    cases hkey : entries.lookup key with
    | none =>
      simp only [hkey, Option.bind_eq_bind, Option.bind_eq_some_iff, Option.some.injEq] at altered
      obtain ⟨sub, -, rfl⟩ := altered
      exact h.concat hkey
    | some item =>
      -- an item that is there keeps its key, and only what stands behind the key changes
      cases item with
      | value v => simp [hkey] at altered
      | elements tables =>
        simp only [hkey, Option.bind_eq_bind, Option.bind_eq_some_iff, Option.some.injEq] at altered
        obtain ⟨last, -, sub, -, rfl⟩ := altered
        exact h.replace key _
      | table sub origin =>
        simp only [hkey] at altered
        split at altered
        · cases altered
        · simp only [Option.bind_eq_bind, Option.bind_eq_some_iff, Option.some.injEq] at altered
          obtain ⟨sub, -, rfl⟩ := altered
          exact h.replace key _

end Entries

/-! ## Drafts -/

namespace Draft

variable {d d' : Draft} {path : List String} {key : String}

/-- No key stands twice at the top, where the open table is if it has no name. -/
structure IsDistinct (d : Draft) : Prop where
  root : Distinct d.root
  top : d.path = [] → Distinct d.isOpen

lemma isDistinct_empty : IsDistinct {} := ⟨.nil, fun _ => .nil⟩

lemma IsDistinct.close (h : d.IsDistinct) {entries : Entries} (closed : d.close = some entries) :
    Distinct entries := by
  unfold Draft.close at closed
  cases hlast : d.path.getLast? with
  | none =>
    have hpath : d.path = [] := List.getLast?_eq_none_iff.1 hlast
    simp only [hlast, Option.some.injEq] at closed
    exact closed ▸ h.top hpath
  | some key =>
    simp only [hlast] at closed
    refine KeepsDistinct.alter ?_ h.root closed
    intro entries _ entries' hentries put
    dsimp only at put
    split at put
    · rename_i hkey
      cases put
      exact hentries.concat hkey
    · split at put
      · cases put
        exact hentries.replace key _
      · cases put
    · split at put
      · cases put
      · cases put
        exact hentries.replace key _
    · cases put

lemma IsDistinct.assign (h : d.IsDistinct) {v : Value}
    (assigned : d.assign path key v = some d') : d'.IsDistinct := by
  simp only [Draft.assign, Option.bind_eq_bind, Option.bind_eq_some_iff, Option.some.injEq]
    at assigned
  obtain ⟨entries, altered, rfl⟩ := assigned
  refine ⟨h.root, fun hpath => KeepsDistinct.alter ?_ (h.top hpath) altered⟩
  intro entries origin entries' hentries added
  dsimp only at added
  split at added
  · cases added
  · split at added
    · cases added
    · rename_i hkey
      cases added
      exact hentries.concat (Option.not_isSome_iff_eq_none.1 hkey)

/-- The table that is opened is taken out of the tree, whether it keeps entries or not. -/
theorem IsDistinct.openTable (h : d.IsDistinct) (opened : d.openTable path key = some d') :
    d'.IsDistinct := by
  obtain ⟨root, closed, opened⟩ := Option.bind_eq_some_iff.1 opened
  obtain ⟨parent, -, opened⟩ := Option.bind_eq_some_iff.1 opened
  have keeping (kept : Entries) (taken : ((root.alter
      (fun entries _ => some (entries.filter (·.1 != key))) false path .header).bind fun root =>
        some { root, isOpen := kept, path := path ++ [key], isElement := false }) = some d') :
      d'.IsDistinct := by
    obtain ⟨root', altered, same⟩ := Option.bind_eq_some_iff.1 taken
    cases same
    refine ⟨KeepsDistinct.alter ?_ (h.close closed) altered, by simp⟩
    intro entries _ entries' hentries filtered
    cases filtered
    exact hentries.filter _
  split at opened
  · exact keeping [] opened
  · exact keeping _ opened
  · cases opened

lemma IsDistinct.openElement (h : d.IsDistinct) (opened : d.openElement path key = some d') :
    d'.IsDistinct := by
  simp only [Draft.openElement, Option.bind_eq_bind, Option.bind_eq_some_iff, Option.some.injEq]
    at opened
  obtain ⟨root, closed, root', altered, rfl⟩ := opened
  refine ⟨KeepsDistinct.alter ?_ (h.close closed) altered, by simp⟩
  intro entries _ entries' hentries checked
  dsimp only at checked
  split at checked
  · rename_i hkey
    cases checked
    exact hentries.concat hkey
  · cases checked
    exact hentries
  · cases checked

end Draft

/-! ## Reading -/

section Reading

variable {d d' : Draft} {cs rest : List Char}

lemma isDistinct_of_assignment (h : d.IsDistinct) (read : assignment d cs = some (d', rest)) :
    d'.IsDistinct := by
  simp only [assignment, Option.bind_eq_bind, Option.bind_eq_some_iff, Option.some.injEq,
    Prod.mk.injEq] at read
  obtain ⟨⟨⟨path, key⟩, _⟩, -, _, -, ⟨v, _⟩, -, _, -, _, assigned, rfl, -⟩ := read
  exact h.assign assigned

lemma isDistinct_of_header (h : d.IsDistinct) (read : header d cs = some (d', rest)) :
    d'.IsDistinct := by
  unfold header at read
  split at read
  · simp only [Option.bind_eq_bind, Option.bind_eq_some_iff, Option.some.injEq, Prod.mk.injEq]
      at read
    obtain ⟨⟨⟨path, key⟩, _⟩, -, _, -, _, -, _, -, _, opened, rfl, -⟩ := read
    exact h.openElement opened
  · simp only [Option.bind_eq_bind, Option.bind_eq_some_iff, Option.some.injEq, Prod.mk.injEq]
      at read
    obtain ⟨⟨⟨path, key⟩, _⟩, -, _, -, _, -, _, opened, rfl, -⟩ := read
    exact h.openTable opened
  · cases read

lemma isDistinct_of_lines (n : Nat) (h : d.IsDistinct) (read : lines n d cs = some d') :
    d'.IsDistinct := by
  induction n generalizing d cs with
  | zero => cases read
  | succ n ih =>
    unfold lines at read
    split at read
    · cases read
      exact h
    · obtain ⟨rest, -, more⟩ := Option.bind_eq_some_iff.1 read
      exact ih h more
    · obtain ⟨⟨d₁, rest⟩, first, more⟩ := Option.bind_eq_some_iff.1 read
      exact ih (isDistinct_of_header h first) more
    · split at read
      · exact ih h read
      · obtain ⟨⟨d₁, rest⟩, first, more⟩ := Option.bind_eq_some_iff.1 read
        exact ih (isDistinct_of_assignment h first) more

end Reading

lemma map_fst_valuesOf (entries : Entries) :
    (valuesOf entries).map Prod.fst = entries.map Prod.fst := by
  induction entries with
  | nil => rfl
  | cons e rest ih =>
    obtain ⟨key, item⟩ := e
    rw [valuesOf, List.map_cons, List.map_cons, ih]

/-- No key stands twice in a document that has been read. -/
theorem distinct_of_parse {text : String} {document : Document} (h : parse text = some document) :
    Distinct document := by
  obtain ⟨d, read, finished⟩ := Option.bind_eq_some_iff.1 h
  obtain ⟨entries, closed, values⟩ := Option.bind_eq_some_iff.1 finished
  cases values
  have hread : d.IsDistinct := isDistinct_of_lines _ Draft.isDistinct_empty read
  have hentries : Distinct entries := hread.close closed
  unfold Distinct
  rw [map_fst_valuesOf]
  exact hentries

end CommandShell.Toml
