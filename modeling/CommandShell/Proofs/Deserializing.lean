import CommandShell.Deserialize
import CommandShell.Proofs.Settings

/-!
# Making settings of a text

The settings of a file are made by code that is not the shell's own: a reader of TOML, and what has
been derived from the declaration of the settings. `Config.Deserializer` is such code, taken apart
into what it does with one key after the other, and `Deserializer.Lawful` collects what is known of
it from its documentation. Each law speaks of a single key or a single step. That a text comes to
what its document gives, whatever keys there are and in whichever order, follows from them
(`Deserializer.Lawful.verdict_ofText`).

`Deserializer.ofToml` is the code that the shell runs with here, and `lawful_ofToml` is that it
keeps the laws.
-/

namespace CommandShell

namespace Config

/-- Code that makes settings of a text, and how it goes about it. -/
structure Deserializer where
  /-- Makes settings of a text. -/
  fromText : String → Except Fault Config
  /-- The top-level table of a text, if the text is TOML. -/
  document? : String → Option Toml.Document
  /-- What has come of some keys. -/
  Progress : Type
  start : Progress
  /-- The value that a setting has been given. -/
  noted : Progress → Field → Option Toml.Value
  /-- Takes a key and its value. -/
  take : Progress → String × Toml.Value → Except Misfit Progress
  /-- The settings once there are no more keys. -/
  build : Progress → Config
  /-- Goes through what is left of a document. -/
  visit : Progress → Toml.Document → Except Misfit Config

namespace Deserializer

/-- What is relied on. Nothing is said of a setting that has been given a value already, since no
key stands twice. -/
structure Lawful (d : Deserializer) : Prop where
  /-- TOML has no key twice in one table. -/
  distinct {text : String} {document : Toml.Document} (read : d.document? text = some document) :
    Toml.Distinct document
  /-- A text that is not TOML gives an error. -/
  fromText_malformed {text : String} (malformed : d.document? text = none) :
    d.fromText text = .error .malformed
  /-- Of one that is, the top-level table is gone through. -/
  fromText_document {text : String} {document : Toml.Document}
    (read : d.document? text = some document) :
    d.fromText text = (d.visit d.start document).mapError .misfit
  /-- The keys are taken in the order of the document. -/
  visit_taken {p p' : d.Progress} {entry : String × Toml.Value} (rest : Toml.Document)
    (taken : d.take p entry = .ok p') : d.visit p (entry :: rest) = d.visit p' rest
  /-- The first error ends it. -/
  visit_refused {p : d.Progress} {entry : String × Toml.Value} {reason : Misfit}
    (rest : Toml.Document) (refused : d.take p entry = .error reason) :
    d.visit p (entry :: rest) = .error reason
  /-- When all keys have been taken, the settings are put together. -/
  visit_nil (p : d.Progress) : d.visit p [] = .ok (d.build p)
  /-- At first no setting has been given a value. -/
  noted_start (field : Field) : d.noted d.start field = none
  /-- Texts and paths are made of strings, switches of booleans, and counts of integers that are not
  negative. Such a value is noted for its setting, and for no other. -/
  take_known {p : d.Progress} {field : Field} {value : Toml.Value} (fresh : d.noted p field = none)
    (takes : field.Takes value) : ∃ p', d.take p (field.key, value) = .ok p' ∧
      ∀ other, d.noted p' other = if other = field then some value else d.noted p other
  /-- Any other value is an error, which says what is wrong with it. -/
  take_illTyped {p : d.Progress} {field : Field} {value : Toml.Value}
    (fresh : d.noted p field = none) (illTyped : ¬ field.Takes value) :
    ∃ reason : Misfit, d.take p (field.key, value) = .error reason ∧
      reason.Tells (field.key, value)
  /-- The settings are declared with `deny_unknown_fields`. -/
  take_unknown {p : d.Progress} {key : String} (value : Toml.Value)
    (unknown : ∀ field : Field, field.key ≠ key) :
    d.take p (key, value) = .error (.unknownKey key)
  /-- A setting has the value that it has been given. -/
  build_noted {p : d.Progress} {field : Field} {value : Toml.Value}
    (noted : d.noted p field = some value) : (d.build p).valueOf field = value
  /-- The settings are declared with `default`, which is where the missing ones come from. -/
  build_missing {p : d.Progress} {field : Field} (missing : d.noted p field = none) :
    (d.build p).valueOf field = ({} : Config).valueOf field

/-- None of the keys has been given a value yet. -/
def IsFresh (d : Deserializer) (p : d.Progress) (document : Toml.Document) : Prop :=
  ∀ entry ∈ document, ∀ field : Field, field.key = entry.1 → d.noted p field = none

namespace Lawful

variable {d : Deserializer} {p p' : d.Progress} {field : Field} {value : Toml.Value}
  {entry : String × Toml.Value} {document rest : Toml.Document} {reason : Misfit}

lemma isFresh_start (h : d.Lawful) (document : Toml.Document) : d.IsFresh d.start document :=
  fun _ _ field _ => h.noted_start field

lemma isFresh_rest (fresh : d.IsFresh p ((field.key, value) :: rest))
    (distinct : Toml.Distinct ((field.key, value) :: rest))
    (noted : ∀ other, d.noted p' other = if other = field then some value else d.noted p other) :
    d.IsFresh p' rest := by
  intro entry hentry other hkey
  have apart : other ≠ field := by
    rintro rfl
    obtain ⟨absent, -⟩ := List.nodup_cons.1 distinct
    exact absent (List.mem_map.2 ⟨entry, hentry, hkey.symm⟩)
  rw [noted, if_neg apart]
  exact fresh entry (List.mem_cons_of_mem _ hentry) other hkey

/-- What is wrong with an entry is what is told when it is taken. -/
lemma take_eq_error (h : d.Lawful) (fresh : ∀ field, field.key = entry.1 → d.noted p field = none)
    (tells : reason.Tells entry) : d.take p entry = .error reason := by
  obtain ⟨key, value⟩ := entry
  by_cases known : ∃ field : Field, field.key = key
  · obtain ⟨field, rfl⟩ := known
    have illTyped : ¬ field.Takes value := fun takes => tells.not_fits ⟨field, rfl, takes⟩
    obtain ⟨reason', refused, tells'⟩ := h.take_illTyped (fresh field rfl) illTyped
    rw [refused, tells.unique tells']
  · have unknown : ∀ field : Field, field.key ≠ key := not_exists.1 known
    have tells' : (Misfit.unknownKey key).Tells (key, value) := ⟨rfl, unknown⟩
    rw [h.take_unknown value unknown, tells.unique tells']

/-- Where all keys fit, each setting that has a key gets its value. -/
lemma exists_visit_eq_ok (h : d.Lawful) (distinct : Toml.Distinct document)
    (fits : ∀ e ∈ document, Fits e) (fresh : d.IsFresh p document) :
    ∃ p', d.visit p document = .ok (d.build p') ∧
      ∀ field : Field, d.noted p' field = (document.lookup field.key).or (d.noted p field) := by
  -- each key is noted for its setting and then no key behind it can be for the same one
  induction document generalizing p with
  | nil => exact ⟨p, h.visit_nil p, fun _ => rfl⟩
  | cons entry rest ih =>
    obtain ⟨key, value⟩ := entry
    obtain ⟨field, rfl, takes⟩ := fits _ List.mem_cons_self
    obtain ⟨p₁, taken, noted⟩ := h.take_known (fresh _ List.mem_cons_self field rfl) takes
    obtain ⟨absent, distinct'⟩ := List.nodup_cons.1 distinct
    have fresh₁ := isFresh_rest fresh distinct noted
    obtain ⟨p', visited, given⟩ :=
      ih distinct' (fun e he => fits e (List.mem_cons_of_mem _ he)) fresh₁
    refine ⟨p', (h.visit_taken rest taken).trans visited, fun other => ?_⟩
    rw [given, noted, List.lookup_cons]
    by_cases hother : other = field
    · -- no later key is for this setting
      have hnone : rest.lookup field.key = none := by
        refine List.lookup_eq_none_iff.2 fun e he => bne_iff_ne.2 fun heq => ?_
        exact absent (List.mem_map.2 ⟨e, he, heq.symm⟩)
      simp [hother, hnone]
    · have hkey : (other.key == field.key) = false :=
        beq_eq_false_iff_ne.2 fun heq => hother (Field.key_injective heq)
      simp [hother, hkey]

/-- Where the keys up to one fit, and that one does not, it is the one that is told. -/
lemma visit_eq_error (h : d.Lawful) {before after : Toml.Document}
    (distinct : Toml.Distinct (before ++ entry :: after)) (fits : ∀ e ∈ before, Fits e)
    (tells : reason.Tells entry) (fresh : d.IsFresh p (before ++ entry :: after)) :
    d.visit p (before ++ entry :: after) = .error reason := by
  induction before generalizing p with
  | nil => exact h.visit_refused after (h.take_eq_error (fresh entry List.mem_cons_self) tells)
  | cons first before ih =>
    obtain ⟨key, value⟩ := first
    obtain ⟨field, rfl, takes⟩ := fits _ List.mem_cons_self
    obtain ⟨p₁, taken, noted⟩ := h.take_known (fresh _ List.mem_cons_self field rfl) takes
    rw [List.cons_append] at distinct fresh ⊢
    rw [h.visit_taken _ taken]
    exact ih (List.nodup_cons.1 distinct).2 (fun e he => fits e (List.mem_cons_of_mem _ he))
      (isFresh_rest fresh distinct noted)

/-- A document whose keys fit gives the settings that its keys are for. -/
lemma exists_fromText_eq_ok (h : d.Lawful) {text : String}
    (read : d.document? text = some document) (fits : ∀ e ∈ document, Fits e) :
    ∃ config : Config, d.fromText text = .ok config ∧ config.IsGivenBy document := by
  obtain ⟨p, visited, noted⟩ :=
    h.exists_visit_eq_ok (h.distinct read) fits (h.isFresh_start document)
  refine ⟨d.build p, ?_, fun field => ?_⟩
  · rw [h.fromText_document read, visited]
    rfl
  · have given := noted field
    rw [h.noted_start, Option.or_none] at given
    cases found : document.lookup field.key with
    | none => exact h.build_missing (given.trans found)
    | some value => exact h.build_noted (given.trans found)

lemma fromText_eq_error (h : d.Lawful) {text : String} (read : d.document? text = some document)
    (misfit : IsFirstMisfit document reason) : d.fromText text = .error (.misfit reason) := by
  have distinct := h.distinct read
  have fresh := h.isFresh_start document
  rw [h.fromText_document read]
  obtain ⟨before, entry, after, rfl, fits, tells⟩ := misfit
  rw [h.visit_eq_error distinct fits tells fresh]
  rfl

/-- **A text comes to what its document gives.** -/
theorem verdict_ofText (h : d.Lawful) {path text : String}
    (read : d.document? text = some document) :
    Verdict path document (ofText d.fromText path text) := by
  unfold ofText
  rcases fits_or_misfit document with fits | ⟨reason, misfit⟩
  · obtain ⟨config, made, given⟩ := h.exists_fromText_eq_ok read fits
    simp only [made, violation?_eq]
    exact verdict_given fits given
  · simp only [h.fromText_eq_error read misfit]
    exact verdict_misfit misfit

end Lawful

end Deserializer

/-! ## The code that is run -/

namespace Given

variable {given : Given} {field : Field} {value : Toml.Value}

/-- The value that a setting has been given, as a document would give it. -/
def noted (given : Given) : Field → Option Toml.Value
  | .promptSymbol => given.promptSymbol.map .string
  | .color => given.color.map .boolean
  | .maxLineLen => given.maxLineLen.map fun n => .integer n
  | .maxArgs => given.maxArgs.map fun n => .integer n
  | .logDir => given.logDir.map .string
  | .logFile => given.logFile.map .string
  | .reportBackgroundCompletion => given.reportBackgroundCompletion.map .boolean

lemma note_of_takes (given : Given) (h : field.Takes value) :
    ∃ given', given.note field value = .ok given' ∧
      ∀ other, given'.noted other = if other = field then some value else given.noted other := by
  cases field with
  | promptSymbol | logDir | logFile | color | reportBackgroundCompletion =>
    obtain ⟨x, rfl⟩ := h
    exact ⟨_, rfl, fun other => by cases other <;> rfl⟩
  | maxLineLen | maxArgs =>
    obtain ⟨n, rfl⟩ := h
    have hsign : ¬ (n : Int) < 0 := by omega
    simp only [note, if_neg hsign, Int.toNat_natCast]
    exact ⟨_, rfl, fun other => by cases other <;> rfl⟩

/-- A value of the wrong kind is told, with the setting that it is not for. -/
lemma note_of_not_takes (given : Given) (h : ¬ field.Takes value) :
    ∃ reason, given.note field value = .error reason ∧ reason.Tells (field.key, value) := by
  cases field with
  | promptSymbol | logDir | logFile =>
    cases value with
    | string s => exact absurd ⟨s, rfl⟩ h
    | _ => exact ⟨_, rfl, rfl, rfl, h, by simp [Field.MissesSign]⟩
  | color | reportBackgroundCompletion =>
    cases value with
    | boolean b => exact absurd ⟨b, rfl⟩ h
    | _ => exact ⟨_, rfl, rfl, rfl, h, by simp [Field.MissesSign]⟩
  | maxLineLen | maxArgs =>
    cases value with
    | integer n =>
      have hsign : n < 0 := by
        apply Int.not_le.1
        intro hn
        exact h ⟨n.toNat, by rw [Int.toNat_of_nonneg hn]⟩
      simp only [note, if_pos hsign]
      exact ⟨_, rfl, rfl, rfl, by simp, n, hsign, rfl⟩
    | _ => exact ⟨_, rfl, rfl, rfl, h, by simp [Field.MissesSign]⟩

lemma take_key (given : Given) (field : Field) (value : Toml.Value) :
    given.take (field.key, value) = given.note field value := by
  unfold take
  rw [Field.ofKey?_key]

lemma take_of_unknown (given : Given) {key : String} (value : Toml.Value)
    (unknown : ∀ field : Field, field.key ≠ key) :
    given.take (key, value) = .error (.unknownKey key) := by
  unfold take
  rw [Field.ofKey?_eq_none_iff.2 unknown]

lemma visit_of_taken {given' : Given} {entry : String × Toml.Value} (rest : Toml.Document)
    (taken : given.take entry = .ok given') : given.visit (entry :: rest) = given'.visit rest := by
  rw [visit, taken]
  rfl

lemma visit_of_refused {entry : String × Toml.Value} {reason : Misfit} (rest : Toml.Document)
    (refused : given.take entry = .error reason) :
    given.visit (entry :: rest) = .error reason := by
  rw [visit, refused]
  rfl

lemma valueOf_config (given : Given) (field : Field) :
    given.config.valueOf field = (given.noted field).getD (({} : Config).valueOf field) := by
  obtain ⟨symbol, color, length, args, dir, file, report⟩ := given
  cases field with
  | promptSymbol => cases symbol <;> rfl
  | color => cases color <;> rfl
  | maxLineLen => cases length <;> rfl
  | maxArgs => cases args <;> rfl
  | logDir => cases dir <;> rfl
  | logFile => cases file <;> rfl
  | reportBackgroundCompletion => cases report <;> rfl

end Given

lemma fromToml_of_malformed {text : String} (malformed : Toml.parse text = none) :
    fromToml text = .error .malformed := by
  rw [fromToml, malformed]

lemma fromToml_of_document {text : String} {document : Toml.Document}
    (read : Toml.parse text = some document) :
    fromToml text = (({} : Given).visit document).mapError .misfit := by
  rw [fromToml, read]

namespace Deserializer

/-- The code that the shell is run with. -/
def ofToml : Deserializer where
  fromText := fromToml
  document? := Toml.parse
  Progress := Given
  start := {}
  noted := Given.noted
  take := Given.take
  build := Given.config
  visit := Given.visit

theorem lawful_ofToml : ofToml.Lawful where
  distinct read := Toml.distinct_of_parse read
  fromText_malformed malformed := fromToml_of_malformed malformed
  fromText_document read := fromToml_of_document read
  visit_taken rest taken := Given.visit_of_taken rest taken
  visit_refused rest refused := Given.visit_of_refused rest refused
  visit_nil p := rfl
  noted_start field := by cases field <;> rfl
  take_known {p field value} _ takes := by
    obtain ⟨given, noted, values⟩ := Given.note_of_takes p takes
    exact ⟨given, (Given.take_key p field value).trans noted, values⟩
  take_illTyped {p field value} _ illTyped := by
    obtain ⟨reason, refused, tells⟩ := Given.note_of_not_takes p illTyped
    exact ⟨reason, (Given.take_key p field value).trans refused, tells⟩
  take_unknown {p _} value unknown := Given.take_of_unknown p value unknown
  build_noted {p field _} noted :=
    (Given.valueOf_config p field).trans (congrArg (Option.getD · _) noted)
  build_missing {p field} missing :=
    (Given.valueOf_config p field).trans (congrArg (Option.getD · _) missing)

end Deserializer

end Config

end CommandShell
