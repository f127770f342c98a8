import CommandShell.Config
import CommandShell.Proofs.DistinctKeys

/-!
# The settings that a document gives

What settings a document gives can be said without going through its keys: `Config.IsGivenBy` says
it setting by setting, `Config.Fits` says which keys have a place among the settings, and
`Misfit.Tells` says what is wrong with one that has none. `Config.Verdict` puts this together, with
the limits that the settings have to keep.

Since no key stands twice in a document, the order of the keys is of no importance for the settings,
but it is for the error: only the first key that does not fit is told.
-/

namespace CommandShell

namespace Config

variable {config config' : Config} {field : Field} {value : Toml.Value} {key : String}
  {document document' : Toml.Document} {entry : String × Toml.Value} {reason : Misfit}

/-! ## What a document asks for -/

/-- The value is of the kind that the setting takes. A count has no sign. -/
def Field.Takes (field : Field) (value : Toml.Value) : Prop :=
  match field with
  | .promptSymbol | .logDir | .logFile => ∃ s, value = .string s
  | .color | .reportBackgroundCompletion => ∃ b, value = .boolean b
  | .maxLineLen | .maxArgs => ∃ n : Nat, value = .integer n

/-- The setting is a count, and the value is a number with a sign. -/
def Field.MissesSign (field : Field) (value : Toml.Value) : Prop :=
  (field = .maxLineLen ∨ field = .maxArgs) ∧ ∃ n < 0, value = .integer n

/-- The key is that of a setting, and the value is of the kind that this setting takes. -/
def Fits (entry : String × Toml.Value) : Prop :=
  ∃ field : Field, field.key = entry.1 ∧ field.Takes entry.2

/-- What is wrong with an entry of a document that does not fit. -/
def Misfit.Tells (entry : String × Toml.Value) : Misfit → Prop
  | .unknownKey key => key = entry.1 ∧ ∀ field : Field, field.key ≠ entry.1
  | .wrongType value field =>
    value = entry.2 ∧ field.key = entry.1 ∧ ¬ field.Takes value ∧ ¬ field.MissesSign value
  | .wrongValue value field => value = entry.2 ∧ field.key = entry.1 ∧ field.MissesSign value

/-- The value that a setting has, as a document would give it. -/
def valueOf (config : Config) : Field → Toml.Value
  | .promptSymbol => .string config.promptSymbol
  | .color => .boolean config.color
  | .maxLineLen => .integer config.maxLineLen
  | .maxArgs => .integer config.maxArgs
  | .logDir => .string config.logDir
  | .logFile => .string config.logFile
  | .reportBackgroundCompletion => .boolean config.reportBackgroundCompletion

/-- A setting has the value that the document gives it, or the usual one if its key is not there. -/
def IsGivenBy (config : Config) (document : Toml.Document) : Prop :=
  ∀ field : Field,
    config.valueOf field = (document.lookup field.key).getD (({} : Config).valueOf field)

/-- The settings are beyond a limit. -/
def Breaks (config : Config) : Violation → Prop
  | .fewArguments => config.maxArgs < 2
  | .noLineLength => config.maxLineLen < 1
  | .namelessLog => config.logFile = ""

instance (config : Config) : DecidablePred config.Breaks
  | .fewArguments => inferInstanceAs (Decidable (config.maxArgs < 2))
  | .noLineLength => inferInstanceAs (Decidable (config.maxLineLen < 1))
  | .namelessLog => inferInstanceAs (Decidable (config.logFile = ""))

/-- The limits, in the order in which they are reported. -/
def Violation.inOrder : List Violation := [.fewArguments, .noLineLength, .namelessLog]

/-- The limit to be reported. -/
def firstBroken? (config : Config) : Option Violation :=
  Violation.inOrder.find? fun violation => config.Breaks violation

/-! ## Keys and settings -/

lemma Field.key_injective {field field' : Field} (h : field.key = field'.key) :
    field = field' := by
  revert h
  cases field <;> cases field' <;> decide

lemma Field.mem_all (field : Field) : field ∈ Field.all := by
  cases field <;> decide

lemma Field.ofKey?_key (field : Field) : Field.ofKey? field.key = some field := by
  cases field <;> rfl

lemma Field.ofKey?_eq_none_iff : Field.ofKey? key = none ↔ ∀ field : Field, field.key ≠ key := by
  unfold Field.ofKey?
  rw [List.find?_eq_none]
  constructor
  · intro h field hkey
    exact h field field.mem_all (by simpa using hkey)
  · intro h field _
    simpa using h field

lemma eq_of_valueOf_eq (h : ∀ field, config.valueOf field = config'.valueOf field) :
    config = config' := by
  obtain ⟨symbol, color, length, args, dir, file, report⟩ := config
  obtain ⟨symbol', color', length', args', dir', file', report'⟩ := config'
  have h₁ := h .promptSymbol
  have h₂ := h .color
  have h₃ := h .maxLineLen
  have h₄ := h .maxArgs
  have h₅ := h .logDir
  have h₆ := h .logFile
  have h₇ := h .reportBackgroundCompletion
  simp only [valueOf, Toml.Value.string.injEq, Toml.Value.boolean.injEq,
    Toml.Value.integer.injEq, Int.natCast_inj] at h₁ h₂ h₃ h₄ h₅ h₆ h₇
  rw [h₁, h₂, h₃, h₄, h₅, h₆, h₇]

lemma IsGivenBy.unique (h : config.IsGivenBy document) (h' : config'.IsGivenBy document) :
    config = config' :=
  eq_of_valueOf_eq fun field => (h field).trans (h' field).symm

/-! ## One key -/

lemma Field.MissesSign.not_takes (h : field.MissesSign value) : ¬ field.Takes value := by
  obtain ⟨rfl | rfl, n, hsign, rfl⟩ := h <;>
  · rintro ⟨count, hcount⟩
    have : n = count := Toml.Value.integer.inj hcount
    omega

/-- An entry has one fault at most. -/
lemma Misfit.Tells.unique {reason' : Misfit} (h : reason.Tells entry) (h' : reason'.Tells entry) :
    reason = reason' := by
  -- the reasons say of the key and the value what excludes one another
  cases reason with
  | unknownKey key =>
    obtain ⟨rfl, hunknown⟩ := h
    cases reason' with
    | unknownKey key' => rw [h'.1]
    | wrongType value' field' => exact absurd h'.2.1 (hunknown field')
    | wrongValue value' field' => exact absurd h'.2.1 (hunknown field')
  | wrongType value field =>
    obtain ⟨rfl, hkey, -, hsign⟩ := h
    cases reason' with
    | unknownKey key' => exact absurd hkey (h'.2 field)
    | wrongType value' field' =>
      rw [h'.1, Field.key_injective (hkey.trans h'.2.1.symm)]
    | wrongValue value' field' =>
      obtain ⟨rfl, hkey', hsign'⟩ := h'
      rw [Field.key_injective (hkey.trans hkey'.symm)] at hsign
      exact absurd hsign' hsign
  | wrongValue value field =>
    obtain ⟨rfl, hkey, hsign⟩ := h
    cases reason' with
    | unknownKey key' => exact absurd hkey (h'.2 field)
    | wrongType value' field' =>
      obtain ⟨rfl, hkey', -, hsign'⟩ := h'
      rw [Field.key_injective (hkey.trans hkey'.symm)] at hsign
      exact absurd hsign hsign'
    | wrongValue value' field' =>
      rw [h'.1, Field.key_injective (hkey.trans h'.2.1.symm)]

lemma Misfit.Tells.not_fits (h : reason.Tells entry) : ¬ Fits entry := by
  rintro ⟨field, hkey, htakes⟩
  cases reason with
  | unknownKey key => exact h.2 field hkey
  | wrongType value field' =>
    obtain ⟨rfl, hkey', hnot, -⟩ := h
    rw [Field.key_injective (hkey'.trans hkey.symm)] at hnot
    exact hnot htakes
  | wrongValue value field' =>
    obtain ⟨rfl, hkey', hsign⟩ := h
    rw [Field.key_injective (hkey'.trans hkey.symm)] at hsign
    exact hsign.not_takes htakes

lemma Field.exists_tells (h : ¬ field.Takes value) :
    ∃ reason : Misfit, reason.Tells (field.key, value) := by
  by_cases hsign : field.MissesSign value
  · exact ⟨.wrongValue value field, rfl, rfl, hsign⟩
  · exact ⟨.wrongType value field, rfl, rfl, h, hsign⟩

lemma exists_tells (h : ¬ Fits entry) : ∃ reason : Misfit, reason.Tells entry := by
  by_cases known : ∃ field : Field, field.key = entry.1
  · obtain ⟨field, hkey⟩ := known
    have hnot : ¬ field.Takes entry.2 := fun htakes => h ⟨field, hkey, htakes⟩
    obtain ⟨reason, tells⟩ := Field.exists_tells hnot
    rw [hkey] at tells
    exact ⟨reason, tells⟩
  · exact ⟨.unknownKey entry.1, rfl, not_exists.1 known⟩

/-! ## All keys -/

/-- The first entry with a fault, and the fault. -/
def IsFirstMisfit (document : Toml.Document) (reason : Misfit) : Prop :=
  ∃ before entry after, document = before ++ entry :: after ∧ (∀ e ∈ before, Fits e) ∧
    reason.Tells entry

lemma IsFirstMisfit.unique {reason' : Misfit} (h : IsFirstMisfit document reason)
    (h' : IsFirstMisfit document reason') : reason = reason' := by
  obtain ⟨before, entry, after, rfl, fits, tells⟩ := h
  obtain ⟨before', entry', after', same, fits', tells'⟩ := h'
  -- the shorter beginning would end at a key that fits in the longer one
  induction before generalizing before' with
  | nil =>
    cases before' with
    | nil =>
      cases same
      exact tells.unique tells'
    | cons first before' =>
      cases same
      exact absurd (fits' _ List.mem_cons_self) tells.not_fits
  | cons first before ih =>
    rw [List.forall_mem_cons] at fits
    cases before' with
    | nil =>
      cases same
      exact absurd fits.1 tells'.not_fits
    | cons first' before' =>
      obtain ⟨-, same⟩ := List.cons.inj same
      exact ih fits.2 before' same (List.forall_mem_cons.1 fits').2

lemma IsFirstMisfit.exists_not_fits (h : IsFirstMisfit document reason) :
    ∃ e ∈ document, ¬ Fits e := by
  obtain ⟨before, entry, after, rfl, -, tells⟩ := h
  exact ⟨entry, by simp, tells.not_fits⟩

lemma fits_or_misfit (document : Toml.Document) :
    (∀ e ∈ document, Fits e) ∨ ∃ reason, IsFirstMisfit document reason := by
  induction document with
  | nil => exact .inl (List.forall_mem_nil _)
  | cons entry rest ih =>
    by_cases hentry : Fits entry
    · rcases ih with fits | ⟨reason, before, entry', after, rfl, fits, tells⟩
      · exact .inl (List.forall_mem_cons.2 ⟨hentry, fits⟩)
      · exact .inr ⟨reason, entry :: before, entry', after, rfl,
          List.forall_mem_cons.2 ⟨hentry, fits⟩, tells⟩
    · obtain ⟨reason, tells⟩ := exists_tells hentry
      exact .inr ⟨reason, [], entry, rest, rfl, List.forall_mem_nil _, tells⟩

/-! ## The limits -/

theorem violation?_eq (config : Config) : config.violation? = config.firstBroken? := by
  unfold violation? firstBroken? Violation.inOrder
  by_cases hargs : config.maxArgs < 2
  · simp [hargs, Breaks]
  · by_cases hlength : config.maxLineLen = 0
    · simp [hargs, hlength, Breaks]
    · by_cases hlog : config.logFile = ""
      · simp [hargs, hlength, hlog, Breaks]
      · simp [hargs, hlength, hlog, Breaks]

lemma firstBroken?_eq_none_iff :
    config.firstBroken? = none ↔ ∀ violation, ¬ config.Breaks violation := by
  unfold firstBroken?
  rw [List.find?_eq_none]
  constructor
  · intro h violation
    have hmem : violation ∈ Violation.inOrder := by cases violation <;> decide
    simpa using h violation hmem
  · intro h violation _
    simpa using h violation

/-- The usual settings are within the limits. -/
theorem not_breaks_default (violation : Violation) : ¬ ({} : Config).Breaks violation := by
  cases violation <;> decide

/-- Settings that are made of a text are within the limits, however they are made. -/
theorem not_breaks_of_ofText {deserialize : String → Except Fault Config} {path text : String}
    (h : ofText deserialize path text = .ok config) (violation : Violation) :
    ¬ config.Breaks violation := by
  unfold ofText at h
  split at h
  · cases h
  · cases h
  · split at h
    · cases h
    · rename_i sound
      cases h
      exact firstBroken?_eq_none_iff.1 ((violation?_eq config).symm.trans sound) violation

/-! ## What is to be loaded -/

/-- What has been loaded from a document is what the document gives. It is given if every key fits
and the settings that come of it are within the limits. Otherwise the first key that does not fit is
told, and only if there is none, the first limit that is broken. -/
structure Verdict (path : String) (document : Toml.Document) (loaded : Except LoadError Config) :
    Prop where
  ok_iff : ∀ config, loaded = .ok config ↔
    (∀ e ∈ document, Fits e) ∧ config.IsGivenBy document ∧ ∀ violation, ¬ config.Breaks violation
  misfit_iff : ∀ path' reason, loaded = .error (.misfit path' reason) ↔
    path' = path ∧ IsFirstMisfit document reason
  invalid_iff : ∀ violation, loaded = .error (.invalid violation) ↔
    (∀ e ∈ document, Fits e) ∧
      ∃ config : Config, config.IsGivenBy document ∧ config.firstBroken? = some violation
  told : (∃ config, loaded = .ok config) ∨ (∃ reason, loaded = .error (.misfit path reason)) ∨
    ∃ violation, loaded = .error (.invalid violation)

lemma verdict_misfit {path : String} (h : IsFirstMisfit document reason) :
    Verdict path document (.error (.misfit path reason)) := by
  obtain ⟨e, he, hmisfit⟩ := h.exists_not_fits
  refine ⟨fun config => ?_, fun path' reason' => ?_, fun violation => ?_, .inr (.inl ⟨reason, rfl⟩)⟩
  · simp only [reduceCtorEq, false_iff]
    rintro ⟨fits, -⟩
    exact hmisfit (fits e he)
  · constructor
    · intro heq
      cases heq
      exact ⟨rfl, h⟩
    · rintro ⟨rfl, h'⟩
      rw [h.unique h']
  · simp only [Except.error.injEq, reduceCtorEq, false_iff]
    rintro ⟨fits, -⟩
    exact hmisfit (fits e he)

lemma verdict_given {path : String} (fits : ∀ e ∈ document, Fits e)
    (given : config.IsGivenBy document) :
    Verdict path document (match config.firstBroken? with
      | some violation => .error (.invalid violation)
      | none => .ok config) := by
  have nofault (reason : Misfit) : ¬ IsFirstMisfit document reason := by
    intro h
    obtain ⟨e, he, hmisfit⟩ := h.exists_not_fits
    exact hmisfit (fits e he)
  -- the settings given are unique, so it is their first broken limit or none that decides
  cases hbroken : config.firstBroken? with
  | none =>
    have sound := firstBroken?_eq_none_iff.1 hbroken
    refine ⟨fun config' => ?_, fun path' reason => ?_, fun violation => ?_, .inl ⟨config, rfl⟩⟩
    · constructor
      · intro heq
        cases heq
        exact ⟨fits, given, sound⟩
      · rintro ⟨-, given', -⟩
        rw [given.unique given']
    · simp [nofault reason]
    · simp only [reduceCtorEq, false_iff]
      rintro ⟨-, config', given', hbroken'⟩
      rw [given'.unique given, hbroken] at hbroken'
      cases hbroken'
  | some violation =>
    refine ⟨fun config' => ?_, fun path' reason => ?_, fun violation' => ?_,
      .inr (.inr ⟨violation, rfl⟩)⟩
    · simp only [reduceCtorEq, false_iff]
      rintro ⟨-, given', sound⟩
      rw [given'.unique given] at sound
      rw [firstBroken?_eq_none_iff.2 sound] at hbroken
      cases hbroken
    · simp [nofault reason]
    · constructor
      · intro heq
        cases heq
        exact ⟨fits, config, given, hbroken⟩
      · rintro ⟨-, config', given', hbroken'⟩
        rw [given'.unique given, hbroken] at hbroken'
        rw [Option.some.inj hbroken']

/-- In another order the same keys give the same settings. -/
lemma isGivenBy_perm (distinct : Toml.Distinct document) (p : document.Perm document') :
    config.IsGivenBy document ↔ config.IsGivenBy document' := by
  unfold IsGivenBy
  simp only [distinct.lookup_perm p]

/-- So whether a document is taken, and what it gives, does not depend on the order of its keys. -/
theorem Verdict.ok_iff_of_perm {path path' : String} {loaded loaded' : Except LoadError Config}
    (h : Verdict path document loaded) (h' : Verdict path' document' loaded')
    (distinct : Toml.Distinct document) (p : document.Perm document') (config : Config) :
    loaded = .ok config ↔ loaded' = .ok config := by
  have hfits : (∀ e ∈ document, Fits e) ↔ ∀ e ∈ document', Fits e := by
    simp only [p.mem_iff]
  rw [h.ok_iff, h'.ok_iff, hfits, isGivenBy_perm distinct p]

end Config

end CommandShell
