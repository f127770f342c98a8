import CommandShell.Proofs.Launch

/-!
# NUL bytes in what a launch hands over

The system takes a string up to its first NUL byte, so a launch looks through all strings of a plan
before it does anything. What it looks for is said here in bytes, as the system sees them, while the
launch goes over characters and adds up their widths: `nulPosition?_eq_idxOf?` is that the two
agree, because NUL is the only character whose encoding has a zero byte in it.

`launch_refuses_nul` is the whole of it. A launch is refused if and only if some string has a NUL
byte; the error has the place of the first one in the first such string; and a launch that is
refused has not made a single call, on whichever side the string stands.
-/

namespace CommandShell

/-! ## Bytes of a string -/

/-- The bytes that a string is encoded in. -/
def utf8Bytes (s : String) : List UInt8 :=
  s.toUTF8.data.toList

lemma utf8Bytes_eq_flatMap (s : String) :
    utf8Bytes s = s.toList.flatMap String.utf8EncodeChar := by
  have encoded : s.toUTF8 = (s.toList.flatMap String.utf8EncodeChar).toByteArray :=
    String.utf8Encode_toList.symm
  rw [utf8Bytes, encoded, List.data_toByteArray]

/-- NUL is the only character with a zero byte in it. -/
lemma zero_mem_utf8EncodeChar_iff {c : Char} : 0 ∈ String.utf8EncodeChar c ↔ c = '\x00' := by
  have high {n bound mark : Nat} (hn : n < bound) (hmark : 0 < mark) (fits : bound + mark ≤ 256) :
      (0 : UInt8) ≠ UInt8.ofNat (n + mark) := by
    intro h
    have hnat := congrArg UInt8.toNat h
    rw [UInt8.toNat_ofNat'] at hnat
    simp only [UInt8.toNat_zero] at hnat
    omega
  constructor
  · intro h
    unfold String.utf8EncodeChar at h
    dsimp only at h
    split at h
    · rename_i ascii
      have hnat := congrArg UInt8.toNat (List.mem_singleton.1 h)
      rw [UInt8.toNat_ofNat', Nat.mod_eq_of_lt (by omega)] at hnat
      exact Char.toNat_inj.1 hnat.symm
    -- the bytes of a longer character lie above 127
    · exfalso
      split at h
      · simp only [List.mem_cons, List.not_mem_nil, or_false] at h
        rcases h with h | h <;> exact high (Nat.mod_lt _ (by decide)) (by decide) (by decide) h
      split at h
      · simp only [List.mem_cons, List.not_mem_nil, or_false] at h
        rcases h with h | h | h <;> exact high (Nat.mod_lt _ (by decide)) (by decide) (by decide) h
      · simp only [List.mem_cons, List.not_mem_nil, or_false] at h
        rcases h with h | h | h | h <;>
          exact high (Nat.mod_lt _ (by decide)) (by decide) (by decide) h
  · rintro rfl
    exact List.mem_singleton.2 rfl

lemma zero_mem_utf8Bytes_iff {s : String} : 0 ∈ utf8Bytes s ↔ '\x00' ∈ s.toList := by
  rw [utf8Bytes_eq_flatMap, List.mem_flatMap]
  constructor
  · rintro ⟨c, hc, hzero⟩
    rwa [zero_mem_utf8EncodeChar_iff.1 hzero] at hc
  · exact fun h => ⟨_, h, zero_mem_utf8EncodeChar_iff.2 rfl⟩

/-- The widths of the characters before the first NUL add up to the number of bytes before it. -/
theorem nulPosition?_eq_idxOf? (cs : List Char) :
    nulPosition? cs = (cs.flatMap String.utf8EncodeChar).idxOf? 0 := by
  induction cs with
  | nil => rfl
  | cons c rest ih =>
    rw [nulPosition?, List.flatMap_cons, ih]
    split
    · rename_i nul
      subst nul
      rfl
    · rename_i other
      have clean : (String.utf8EncodeChar c).findIdx? (· == 0) = none :=
        List.idxOf?_eq_none_iff.2 fun h => other (zero_mem_utf8EncodeChar_iff.1 h)
      unfold List.idxOf?
      rw [List.findIdx?_append, clean, Option.none_or, String.length_utf8EncodeChar]
      simp only [Nat.add_comm]

/-! ## The first NUL byte -/

/-- The first NUL byte of a string stands behind so many others. -/
def HasFirstNul (s : String) (position : Nat) : Prop :=
  ∃ before after, utf8Bytes s = before ++ 0 :: after ∧ 0 ∉ before ∧ before.length = position

lemma nulPosition?_eq_some_iff {s : String} {position : Nat} :
    nulPosition? s.toList = some position ↔ HasFirstNul s position := by
  rw [nulPosition?_eq_idxOf?, ← utf8Bytes_eq_flatMap]
  unfold HasFirstNul
  constructor
  · intro h
    obtain ⟨inside, zero, first⟩ := List.idxOf?_eq_some_iff.1 h
    refine ⟨(utf8Bytes s).take position, (utf8Bytes s).drop (position + 1), ?_, ?_, ?_⟩
    · rw [← zero, List.getElem_cons_drop, List.take_append_drop]
    · intro earlier
      obtain ⟨j, hj, hzero⟩ := List.mem_take_iff_getElem.1 earlier
      exact first j (by omega) hzero
    · rw [List.length_take]
      omega
  · rintro ⟨before, after, hbytes, clean, rfl⟩
    have missing : before.findIdx? (· == 0) = none := List.idxOf?_eq_none_iff.2 clean
    rw [hbytes]
    unfold List.idxOf?
    rw [List.findIdx?_append, missing]
    simp [List.findIdx?_cons]

/-! ## The strings of a launch -/

/-- What a side of a plan hands to the system: the words of its program, and the files of its
redirections. -/
def Segment.handed (side : Segment) : List String :=
  side.program :: side.arguments ++ side.input.toList ++ side.output.toList.map (·.path)

/-- What a launch hands to the system: the working directory, and then what each side does, the left
one first. -/
def Plan.handed (plan : Plan) (workingDir : String) : List String :=
  workingDir :: plan.left.handed ++ plan.right.toList.flatMap Segment.handed

lemma Plan.strings_eq_handed (plan : Plan) (workingDir : String) :
    plan.strings workingDir = plan.handed workingDir := by
  have side (s : Segment) : s.strings = s.handed := by
    unfold Segment.strings Segment.handed Segment.argv
    rw [Option.toList_map]
  unfold Plan.strings Plan.handed
  rw [side]
  cases plan.right with
  | none => rfl
  | some right => simp [side]

/-- The first string with a NUL byte has it at this position. -/
def Plan.Offends (plan : Plan) (workingDir : String) (position : Nat) : Prop :=
  ∃ before s after, plan.handed workingDir = before ++ s :: after ∧
    (∀ earlier ∈ before, 0 ∉ utf8Bytes earlier) ∧ HasFirstNul s position

lemma Plan.nul?_eq_some_iff {plan : Plan} {workingDir : String} {position : Nat} :
    plan.nul? workingDir = some position ↔ plan.Offends workingDir position := by
  unfold Plan.nul? Plan.Offends
  rw [Plan.strings_eq_handed, List.findSome?_eq_some_iff]
  simp only [nulPosition?_eq_some_iff, nulPosition?_eq_none_iff, zero_mem_utf8Bytes_iff,
    and_comm, and_left_comm]

lemma Plan.exists_offends_iff {plan : Plan} {workingDir : String} :
    (∃ position, plan.Offends workingDir position) ↔
      ∃ s ∈ plan.handed workingDir, 0 ∈ utf8Bytes s := by
  simp only [← Plan.nul?_eq_some_iff, zero_mem_utf8Bytes_iff, ← Plan.strings_eq_handed]
  rw [← Option.isSome_iff_exists, Option.isSome_iff_ne_none, ne_eq, Plan.nul?_eq_none_iff]
  simp only [Classical.not_forall, Classical.not_not, exists_prop]

/-- **NUL bytes are found in time.** A launch fails for a NUL byte if and only if the working
directory, a word, or the file of a redirection has one, on either side of the plan. The error has
the place of the first such byte in the first such string. And there is nothing else that such a
launch can come to, and nothing that it asks for: no pipe, no child, no file. -/
theorem launch_refuses_nul (plan : Plan) (workingDir : String) :
    ((∃ t position, (launch plan workingDir).Runs t (.error (.nul position))) ↔
      ∃ s ∈ plan.handed workingDir, 0 ∈ utf8Bytes s) ∧
    (∀ t position, (launch plan workingDir).Runs t (.error (.nul position)) ↔
      t = [] ∧ plan.Offends workingDir position) ∧
    ∀ position, plan.Offends workingDir position →
      ∀ t result, (launch plan workingDir).Runs t result ↔
        t = [] ∧ result = .error (.nul position) := by
  have refused {position : Nat} (h : plan.Offends workingDir position) (t : List Traffic)
      (result : Except LaunchError Job) : (launch plan workingDir).Runs t result ↔
        t = [] ∧ result = .error (.nul position) := by
    unfold launch
    rw [Plan.nul?_eq_some_iff.2 h]
    exact Dialogue.runs_done_iff
  have only (t : List Traffic) (position : Nat) :
      (launch plan workingDir).Runs t (.error (.nul position)) ↔
        t = [] ∧ plan.Offends workingDir position := by
    constructor
    · intro run
      cases LaunchRun.of_runs run with
      | refused nul => exact ⟨rfl, Plan.nul?_eq_some_iff.1 nul⟩
    · rintro ⟨rfl, offends⟩
      exact (refused offends _ _).2 ⟨rfl, rfl⟩
  refine ⟨?_, only, fun position => refused⟩
  rw [← Plan.exists_offends_iff]
  constructor
  · rintro ⟨t, position, run⟩
    exact ⟨position, ((only t position).1 run).2⟩
  · rintro ⟨position, offends⟩
    exact ⟨[], position, (only [] position).2 ⟨rfl, offends⟩⟩

/-- A pipeline of which only the file for the output of the right side has a NUL byte, behind a
character of two bytes. -/
def taintedPipeline : Plan where
  left := { program := "cat", input := some "in" }
  right := some { program := "sort", output := some ⟨"é\x00x", .append⟩ }

theorem launch_refuses_nul_taintedPipeline :
    taintedPipeline.Offends "/" 2 ∧
      ∀ t result, (launch taintedPipeline "/").Runs t result ↔
        t = [] ∧ result = .error (.nul 2) := by
  have offends : taintedPipeline.Offends "/" 2 := Plan.nul?_eq_some_iff.1 (by decide +kernel)
  exact ⟨offends, (launch_refuses_nul taintedPipeline "/").2.2 2 offends⟩

end CommandShell
