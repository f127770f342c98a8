import CommandShell.Proofs.Balance

/-!
# Where an open file stands

A table of descriptors, seen from one open file. The file stands at a `Place`: behind one descriptor
or behind none. `Descriptors.StandsAt` says so of a table, and there is a lemma for what each
operation on the table does to the place: closing a descriptor, moving one onto another, opening
another file, turning into another program. A pipe end that a process has inherited can be followed
in these terms without a word about the rest of the table.
-/

namespace CommandShell

/-! ## Places -/

/-- Where an open file stands in a table of descriptors: behind one descriptor, which is closed by a
new program or not, or behind none. -/
abbrev Place := Option (Fd × Bool)

namespace Place

/-- The place of a file after a descriptor has been closed or has been given to another file. -/
def closed (place : Place) (fd : Fd) : Place :=
  place.filter fun p => p.1 != fd

/-- The place of a file after a descriptor has been moved onto another one. -/
def moved (place : Place) (source target : Fd) : Place :=
  if place.any fun p => p.1 == source then some (target, false) else place.closed target

/-- The place of a file in a new program. -/
def kept (place : Place) : Place :=
  place.filter fun p => !p.2

end Place

namespace Descriptors

variable {d d' : Descriptors} {file : Nat} {place : Place}

/-- A descriptor refers to an open file. -/
def RefersTo (d : Descriptors) (fd : Fd) (file : Nat) : Prop :=
  ∃ slot, d.get? fd = some slot ∧ slot.file = file

lemma not_refersTo_of_ne {fd : Fd} {slot : Slot} (hslot : d.get? fd = some slot)
    (other : slot.file ≠ file) : ¬ d.RefersTo fd file := by
  rintro ⟨slot', hslot', rfl⟩
  rw [hslot] at hslot'
  exact other (congrArg Slot.file (Option.some.inj hslot'))

lemma not_refersTo_of_free {fd : Fd} (free : d.get? fd = none) : ¬ d.RefersTo fd file := by
  rintro ⟨_, hslot, -⟩
  rw [free] at hslot
  cases hslot

lemma refersTo_of_put {fd other : Fd} {slot : Option Slot}
    (h : (d.put fd slot).RefersTo other file) :
    (∃ s, slot = some s ∧ s.file = file) ∨ d.RefersTo other file := by
  obtain ⟨held, hheld, hfile⟩ := h
  rw [get?_put] at hheld
  split at hheld
  · exact .inl ⟨held, hheld, hfile⟩
  · exact .inr ⟨held, hheld, hfile⟩

lemma RefersTo.exists_mem {fd : Fd} (h : d.RefersTo fd file) :
    ∃ slot, some slot ∈ d.slots ∧ slot.file = file := by
  obtain ⟨slot, hslot, hfile⟩ := h
  exact ⟨slot, List.mem_of_getElem? (Option.join_eq_some_iff.1 hslot), hfile⟩

lemma holds_iff : d.holds file = true ↔ ∃ fd, d.RefersTo fd file := by
  simp only [holds, List.any_eq_true, Option.any_eq_true, beq_iff_eq]
  constructor
  · rintro ⟨_, hslot, slot, rfl, hfile⟩
    obtain ⟨fd, hfd⟩ := List.mem_iff_getElem?.1 hslot
    exact ⟨fd, slot, Option.join_eq_some_iff.2 hfd, hfile⟩
  · rintro ⟨fd, refers⟩
    obtain ⟨slot, hmem, hfile⟩ := refers.exists_mem
    exact ⟨some slot, hmem, slot, rfl, hfile⟩

/-- An open file stands at a place, and nowhere else. -/
def StandsAt (d : Descriptors) (file : Nat) (place : Place) : Prop :=
  ∀ fd closeOnExec, d.get? fd = some ⟨file, closeOnExec⟩ ↔ place = some (fd, closeOnExec)

lemma StandsAt.refersTo_iff (h : d.StandsAt file place) {fd : Fd} :
    d.RefersTo fd file ↔ ∃ closeOnExec, place = some (fd, closeOnExec) := by
  constructor
  · rintro ⟨⟨_, closeOnExec⟩, hslot, rfl⟩
    exact ⟨closeOnExec, (h fd closeOnExec).1 hslot⟩
  · rintro ⟨closeOnExec, hplace⟩
    exact ⟨_, (h fd closeOnExec).2 hplace, rfl⟩

lemma StandsAt.none_iff : d.StandsAt file none ↔ ∀ fd, ¬ d.RefersTo fd file := by
  constructor
  · intro h fd
    simp [h.refersTo_iff]
  · intro h fd closeOnExec
    simp only [reduceCtorEq, iff_false]
    intro hslot
    exact h fd ⟨_, hslot, rfl⟩

/-- All open files that a table refers to have numbers below `n`. -/
def Below (d : Descriptors) (n : Nat) : Prop :=
  ∀ fd file, d.RefersTo fd file → file < n

lemma below_iff {n : Nat} :
    d.Below n ↔ ∀ slot ∈ d.slots, ∀ held ∈ slot, held.file < n := by
  constructor
  · rintro h _ hslot held rfl
    obtain ⟨fd, hfd⟩ := List.mem_iff_getElem?.1 hslot
    exact h fd held.file ⟨held, Option.join_eq_some_iff.2 hfd, rfl⟩
  · intro h fd file refers
    obtain ⟨held, hmem, rfl⟩ := refers.exists_mem
    exact h _ hmem held rfl

lemma Below.mono {n m : Nat} (h : d.Below n) (hle : n ≤ m) : d.Below m :=
  fun fd file refers => Nat.lt_of_lt_of_le (h fd file refers) hle

/-- A file with a number that has not been given yet stands nowhere. -/
lemma Below.stands_none {n : Nat} (h : d.Below n) (hle : n ≤ file) : d.StandsAt file none :=
  StandsAt.none_iff.2 fun fd refers => Nat.not_lt.2 hle (h fd file refers)

/-- A descriptor that is closed, or is given to another file, is no place for a file any more. -/
lemma StandsAt.put (h : d.StandsAt file place) (fd : Fd) {slot : Option Slot}
    (other : ∀ s ∈ slot, s.file ≠ file) : (d.put fd slot).StandsAt file (place.closed fd) := by
  intro x closeOnExec
  rw [get?_put, Place.closed, Option.filter_eq_some_iff]
  by_cases hx : fd = x
  · simp only [hx, if_true, bne_self_eq_false, Bool.false_eq_true, and_false, iff_false]
    rintro rfl
    exact other _ rfl rfl
  · simp [hx, h x closeOnExec, Ne.symm hx]

lemma StandsAt.ne_of_not_refersTo (h : d.StandsAt file place) {fd : Fd}
    (elsewhere : ¬ d.RefersTo fd file) : ∀ p ∈ place, p.1 ≠ fd := by
  rintro p hp rfl
  exact elsewhere (h.refersTo_iff.2 ⟨p.2, hp⟩)

lemma StandsAt.closed_eq_self (h : d.StandsAt file place) {fd : Fd}
    (elsewhere : ¬ d.RefersTo fd file) : place.closed fd = place := by
  have hne := h.ne_of_not_refersTo elsewhere
  cases place with
  | none => rfl
  | some p => simp [Place.closed, hne p rfl]

/-- Only a descriptor that a file stands behind takes it along. -/
lemma StandsAt.moved_eq_closed (h : d.StandsAt file place) {source : Fd}
    (elsewhere : ¬ d.RefersTo source file) (target : Fd) :
    place.moved source target = place.closed target := by
  rw [Place.moved, if_neg]
  rw [Option.any_eq_true]
  rintro ⟨p, hp, hsource⟩
  exact h.ne_of_not_refersTo elsewhere p hp (by simpa using hsource)

/-- A descriptor that a file stands behind is its place, and takes it along. -/
lemma StandsAt.eq_of_get? (h : d.StandsAt file place) {source : Fd} {slot : Slot}
    (hslot : d.get? source = some slot) (there : slot.file = file) (target : Fd) :
    place = some (source, slot.closeOnExec) ∧ place.moved source target = some (target, false) := by
  subst there
  obtain rfl := (h source slot.closeOnExec).1 hslot
  simp [Place.moved]

lemma StandsAt.put_self (h : d.StandsAt file none) (fd : Fd) (closeOnExec : Bool) :
    (d.put fd (some ⟨file, closeOnExec⟩)).StandsAt file (some (fd, closeOnExec)) := by
  intro x flag
  rw [get?_put]
  by_cases hx : fd = x
  · simp [hx]
  · simp [hx, h x flag]

/-- A file that is opened under a free number moves no other. -/
lemma StandsAt.opened (h : d.StandsAt file place) {fd : Fd} {slot : Slot}
    (free : d.get? fd = none) (other : slot.file ≠ file) :
    (d.put fd (some slot)).StandsAt file place := by
  have moved : (d.put fd (some slot)).StandsAt file (place.closed fd) :=
    h.put fd (by simpa using other)
  rwa [h.closed_eq_self (not_refersTo_of_free free)] at moved

/-- A descriptor is moved by making another one for its file and closing the old one. -/
lemma StandsAt.move (h : d.StandsAt file place) {source target : Fd} (distinct : source ≠ target)
    (duplicated : d.duplicate source target = .ok d') :
    (d'.put source none).StandsAt file (place.moved source target) := by
  unfold duplicate at duplicated
  split at duplicated
  · cases duplicated
  rename_i slot hslot
  rw [if_neg distinct] at duplicated
  cases duplicated
  -- either the source refers to the file, and then only there, or it has no part in it
  by_cases there : slot.file = file
  · obtain ⟨rfl, moved⟩ := h.eq_of_get? hslot there target
    rw [moved]
    intro x closeOnExec
    rw [get?_put, get?_put]
    by_cases hs : source = x
    · simp [← hs, distinct.symm]
    · by_cases ht : target = x
      · simp [hs, ht, there, eq_comm]
      · simp [hs, ht, h x closeOnExec]
  · have elsewhere := not_refersTo_of_ne hslot there
    have overwritten : (d.put target (some { file := slot.file })).StandsAt file
        (place.closed target) := h.put target (by simpa using there)
    have still : ¬ (d.put target (some { file := slot.file })).RefersTo source file := by
      rintro ⟨slot', hslot', rfl⟩
      rw [get?_put, if_neg distinct.symm] at hslot'
      exact elsewhere ⟨slot', hslot', rfl⟩
    rw [h.moved_eq_closed elsewhere, ← overwritten.closed_eq_self still]
    exact overwritten.put source (by simp)

lemma StandsAt.duplicate (h : d.StandsAt file none) {source target : Fd}
    (duplicated : d.duplicate source target = .ok d') : d'.StandsAt file none := by
  unfold Descriptors.duplicate at duplicated
  split at duplicated
  · cases duplicated
  rename_i slot hslot
  have other : slot.file ≠ file := fun there => StandsAt.none_iff.1 h source ⟨slot, hslot, there⟩
  cases duplicated
  split
  · exact h
  · exact h.put target (by simpa using other)

lemma StandsAt.keep (h : d.StandsAt file place) {fd : Fd} (keeps : d.keepOnExec fd = .ok d') :
    d'.StandsAt file (place.moved fd fd) := by
  unfold keepOnExec at keeps
  split at keeps
  · cases keeps
  rename_i slot hslot
  cases keeps
  by_cases there : slot.file = file
  · obtain ⟨rfl, moved⟩ := h.eq_of_get? hslot there fd
    rw [moved]
    intro x closeOnExec
    rw [get?_put]
    by_cases hx : fd = x
    · simp [hx, there, eq_comm]
    · simp [hx, h x closeOnExec]
  · rw [h.moved_eq_closed (not_refersTo_of_ne hslot there)]
    exact h.put fd (by simpa using there)

lemma get?_afterExec (d : Descriptors) (fd : Fd) :
    d.afterExec.get? fd = (d.get? fd).filter fun slot => !slot.closeOnExec := by
  simp only [get?, afterExec, List.getElem?_map]
  rcases d.slots[fd]? with _ | slot <;> rfl

/-- A file that a new program is to keep is where it was. -/
lemma StandsAt.afterExec (h : d.StandsAt file place) : d.afterExec.StandsAt file place.kept := by
  intro fd closeOnExec
  rw [get?_afterExec, Option.filter_eq_some_iff, h fd closeOnExec, Place.kept,
    Option.filter_eq_some_iff]

end Descriptors

end CommandShell
