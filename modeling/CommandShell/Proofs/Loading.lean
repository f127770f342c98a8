import CommandShell.Machine.Settings
import CommandShell.Proofs.Deserializing
import CommandShell.Proofs.Redirecting

/-!
# Loading the settings

Which file the settings are read from, what the file says, and what comes of it. Reading goes on
until nothing more comes, which gives all that is stored in a file (`Machine.readText_eq`), and what
the text of the file comes to is `Config.verdict_ofText`. `settings_verdict` puts them together.
-/

namespace CommandShell

namespace Machine

variable {m : Machine} {p : Process} {fd : Fd} {place : Location} {access : Access}
  {content : ByteArray} {file offset rounds : Nat}

/-! ## Reading to the end -/

/-- A portion of bytes and what comes after it are all that there is from its beginning on. -/
lemma extract_append_rest (content : ByteArray) {offset : Nat} (h : offset ≤ content.size)
    (max : Nat) :
    content.extract offset (offset + max) ++
        content.extract (offset + (content.extract offset (offset + max)).size) content.size =
      content.extract offset content.size := by
  let last := min (offset + max) content.size
  have hlast : content.extract offset (offset + max) = content.extract offset last := by
    ext1
    rw [ByteArray.data_extract, ByteArray.data_extract, Array.extract_eq_extract_right,
      ByteArray.size_data]
    omega
  have hsize : offset + (content.extract offset last).size = last := by
    rw [ByteArray.size_extract]
    omega
  rw [hlast, hsize, ByteArray.extract_append_extract]
  congr 1 <;> omega

lemma readToEnd_regular {text : ByteArray} (held : m.disk.content? place.node = some content)
    (reads : access.reads = true)
    (behind : m.fileOf? m.shellProcess fd = some (file, .regular place offset access))
    (within : offset ≤ content.size)
    (sofar : text ++ content.extract offset content.size = content)
    (enough : content.size - offset < rounds) :
    (m.readToEnd fd text rounds).1 = .ok content := by
  -- the portions already read and those still to come always make up the whole content
  induction rounds generalizing m offset text with
  | zero => omega
  | succ rounds ih =>
    let bytes := content.extract offset (offset + pipeCapacity)
    let further := m.setOpenFile file (.regular place (offset + bytes.size) access)
    have moved : m.readFrom file (.regular place offset access) pipeCapacity =
        .moved bytes further := by
      have readable : (OpenFile.regular place offset access).isReadable = true := reads
      unfold readFrom
      simp only [readable, held, Bool.not_true, Bool.false_eq_true, if_false, Option.getD_some]
      rfl
    have hsize : bytes.size = min (offset + pipeCapacity) content.size - offset :=
      ByteArray.size_extract
    have hcapacity : 0 < pipeCapacity := by decide
    unfold readToEnd
    simp only [behind, moved]
    by_cases hdone : bytes.size = 0
    · -- nothing more comes, so all has been read
      have hnone : content.extract offset content.size = .empty :=
        ByteArray.extract_eq_empty_iff.2 (by omega)
      rw [hnone, ByteArray.append_empty] at sofar
      have hempty : bytes.isEmpty = true := beq_iff_eq.2 hdone
      rw [if_pos hempty, sofar]
    · have hempty : ¬ bytes.isEmpty = true := fun h => hdone (beq_iff_eq.1 h)
      rw [if_neg hempty]
      refine ih (m := further) held (fileOf?_setOpenFile behind) ?_ ?_ ?_
      · omega
      · rw [ByteArray.append_assoc, extract_append_rest content within, sofar]
      · omega

lemma readToEnd_directory {text : ByteArray} (hrounds : 0 < rounds)
    (behind : m.fileOf? m.shellProcess fd = some (file, .directory place)) :
    (m.readToEnd fd text rounds).1 = .error .EISDIR := by
  cases rounds with
  | zero => exact absurd hrounds (Nat.lt_irrefl 0)
  | succ rounds =>
    unfold readToEnd
    simp only [behind]
    rfl

/-! ## Files of the shell -/

lemma openPath_read (room : HasRoom p) (closeOnExec : Bool) :
    m.openPath p path .read closeOnExec =
      ((m.view p.pid).openRead p.cwd path).map fun place =>
        (m.withOpened p (m.view p.pid) (openPlace (m.view p.pid) place (.ofMode .read)) closeOnExec,
          p.descriptors.lowestFree) := by
  unfold openPath
  rw [if_neg (Nat.not_le_of_lt room)]
  cases found : (m.view p.pid).openRead p.cwd path with
  | error e => simp [bind, Except.bind, found, Except.map]
  | ok place =>
    let f := openPlace (m.view p.pid) place (.ofMode .read)
    have installed : (m.withView (m.view p.pid)).install p f closeOnExec =
        .ok (m.withOpened p (m.view p.pid) f closeOnExec, p.descriptors.lowestFree) :=
      install_eq_ok_iff.2 ⟨room, rfl, rfl⟩
    simp only [bind, Except.bind, found, Except.map, pure, Except.pure]
    exact installed

/-- The file that has been opened stands behind the new descriptor of the shell. -/
lemma fileOf?_withOpened {disk : Disk} {f : OpenFile} {closeOnExec : Bool}
    (own : m.process? m.shell = some p) :
    (m.withOpened p disk f closeOnExec).fileOf?
        (m.withOpened p disk f closeOnExec).shellProcess p.descriptors.lowestFree =
      some (m.openFiles.size, f) := by
  have hpid : m.shell = p.pid := (pid_of_process? own).symm
  rw [hpid] at own
  obtain ⟨-, q, hq, behind⟩ : (m.withOpened p disk f closeOnExec).Holds p.pid
      p.descriptors.lowestFree ⟨disk.nodes, m.openFiles.size, f⟩ := holds_withOpened own
  have hshell : (m.withOpened p disk f closeOnExec).shellProcess = q := by
    refine shellProcess_eq ?_
    show (m.withOpened p disk f closeOnExec).process? m.shell = some q
    rw [hpid]
    exact hq
  rw [hshell]
  exact behind

lemma readFile_fst (m : Machine) (path : String) :
    (m.readFile path).1 = (m.openPath m.shellProcess path .read true).bind
      fun (opened, fd) => (opened.readToEnd fd .empty (opened.readings fd)).1 := by
  unfold readFile
  cases m.openPath m.shellProcess path .read true with
  | error e => rfl
  | ok opened =>
    obtain ⟨opened, fd⟩ := opened
    dsimp only [Except.bind]
    -- closing the file again does not matter for what has been read
    generalize opened.readToEnd fd .empty (opened.readings fd) = read
    obtain ⟨result, after⟩ := read
    dsimp only
    split <;> rfl

end Machine

/-- A path leads to a directory or to a file that is stored, if it can be read at all. -/
def Disk.IsOrdinary (disk : Disk) (cwd : Location) (path : String) : Prop :=
  ∀ place, disk.openRead cwd path = .ok place →
    disk.isDirectory place = true ∨
      disk.Stores place.node ∧ (disk.content? place.node).isSome = true

namespace Machine

variable {m : Machine} {p : Process} {fd : Fd} {path : String} {place : Location} {access : Access}
  {content : ByteArray} {file offset : Nat} {e : Errno}

lemma node_of_content? {disk : Disk} {id : NodeId} (h : disk.content? id = some content) :
    ∃ mode, disk.node id = .file mode content ∨ disk.node id = .readOnly mode content := by
  unfold Disk.content? at h
  split at h
  · rename_i mode bytes kind
    cases h
    exact ⟨mode, .inl kind⟩
  · rename_i mode bytes kind
    cases h
    exact ⟨mode, .inr kind⟩
  · cases h

lemma node_of_isDirectory {disk : Disk} (h : disk.isDirectory place = true) :
    ∃ d, disk.node place.node = .directory d := by
  unfold Disk.isDirectory Disk.directory? at h
  split at h
  · rename_i d kind
    exact ⟨d, kind⟩
  · cases h

section

variable {disk : Disk} {cwd : Location}

lemma openPlace_of_isDirectory (h : disk.isDirectory place = true) :
    openPlace disk place access = .directory place := by
  obtain ⟨d, kind⟩ := node_of_isDirectory h
  unfold openPlace
  simp only [kind]

lemma openPlace_of_content? (stored : disk.Stores place.node)
    (held : disk.content? place.node = some content) :
    openPlace disk place access = .regular place 0 access := by
  obtain ⟨number, -, hnode⟩ := stored
  unfold openPlace
  obtain ⟨mode, kind | kind⟩ := node_of_content? held <;>
  · rw [kind, hnode]

lemma readAll_of_isDirectory (found : disk.openRead cwd path = .ok place)
    (h : disk.isDirectory place = true) : disk.readAll cwd path = .error .EISDIR := by
  obtain ⟨d, kind⟩ := node_of_isDirectory h
  unfold Disk.readAll
  simp only [found, bind, Except.bind, kind]

lemma readAll_of_content? (found : disk.openRead cwd path = .ok place)
    (held : disk.content? place.node = some content) : disk.readAll cwd path = .ok content := by
  unfold Disk.readAll
  obtain ⟨mode, kind | kind⟩ := node_of_content? held <;>
  · simp only [found, bind, Except.bind, kind]

lemma readAll_of_error (found : disk.openRead cwd path = .error e) :
    disk.readAll cwd path = .error e := by
  unfold Disk.readAll
  rw [found]
  rfl

end

/-- What is stored is found by whoever looks. -/
lemma content?_congr {disk disk' : Disk} {id : NodeId} (stored : disk.Stores id)
    (same : disk'.nodes = disk.nodes) : disk'.content? id = disk.content? id := by
  obtain ⟨number, -, rfl⟩ := stored
  unfold Disk.content? Disk.node
  rw [same]

lemma readings_pos (m : Machine) (fd : Fd) : 0 < m.readings fd := by
  unfold readings
  omega

/-- A file that is stored is read as often as it takes. -/
lemma size_lt_readings
    (behind : m.fileOf? m.shellProcess fd = some (file, .regular place offset access))
    (held : m.disk.content? place.node = some content) : content.size < m.readings fd := by
  unfold readings storedBehind
  simp only [behind, OpenFile.place, held, Option.getD_some]
  omega

/-- The shell reads the whole contents of what a path leads to. -/
lemma readFile_eq_readAll (own : m.process? m.shell = some p) (room : HasRoom p)
    (ordinary : (m.view m.shell).IsOrdinary p.cwd path) :
    (m.readFile path).1 = (m.view m.shell).readAll p.cwd path := by
  have hpid : p.pid = m.shell := pid_of_process? own
  rw [readFile_fst, shellProcess_eq own, openPath_read room, hpid]
  cases found : (m.view m.shell).openRead p.cwd path with
  | error e =>
    rw [readAll_of_error found]
    rfl
  | ok place =>
    let f := openPlace (m.view m.shell) place (.ofMode .read)
    let opened := m.withOpened p (m.view m.shell) f true
    have behind : opened.fileOf? opened.shellProcess p.descriptors.lowestFree =
        some (m.openFiles.size, f) := fileOf?_withOpened own
    show (opened.readToEnd p.descriptors.lowestFree .empty
      (opened.readings p.descriptors.lowestFree)).1 = _
    -- a directory fails at the first reading, a file is read to its end
    rcases ordinary place found with isDirectory | ⟨stored, held⟩
    · have hf : f = .directory place := openPlace_of_isDirectory isDirectory
      rw [hf] at behind
      rw [readAll_of_isDirectory found isDirectory]
      exact readToEnd_directory (readings_pos opened _) behind
    · obtain ⟨content, held⟩ := Option.isSome_iff_exists.1 held
      have hf : f = .regular place 0 (.ofMode .read) := openPlace_of_content? stored held
      rw [hf] at behind
      rw [readAll_of_content? found held]
      have same : opened.disk.nodes = (m.view m.shell).nodes := rfl
      have held : opened.disk.content? place.node = some content :=
        (content?_congr stored same).trans held
      refine readToEnd_regular held rfl behind (Nat.zero_le _) ?_ ?_
      · rw [ByteArray.extract_zero_size, ByteArray.empty_append]
      · exact size_lt_readings behind held

/-! ## Texts -/

/-- The text that bytes are, if they are one. -/
def textOf (bytes : ByteArray) : Except IoError String :=
  match String.fromUTF8? bytes with
  | some text => .ok text
  | none => .error .notText

lemma textOf_toUTF8 (text : String) : textOf text.toUTF8 = .ok text := by
  have valid : text.toUTF8.IsValidUTF8 := text.isValidUTF8
  unfold textOf String.fromUTF8?
  rw [dif_pos valid]
  rfl

lemma readText_fst (m : Machine) (path : String) :
    (m.readText path).1 = (withPath path (m.readFile path).1).bind textOf := by
  unfold readText withPath
  split
  · rfl
  · obtain ⟨result, after⟩ := m.readFile path
    cases result with
    | error e => rfl
    | ok bytes =>
      show _ = textOf bytes
      unfold textOf
      dsimp only
      cases String.fromUTF8? bytes <;> rfl

/-- The shell reads the whole text of what a path leads to. -/
theorem readText_eq (own : m.process? m.shell = some p) (room : HasRoom p)
    (ordinary : (m.view m.shell).IsOrdinary p.cwd path) :
    (m.readText path).1 =
      (withPath path ((m.view m.shell).readAll p.cwd path)).bind textOf := by
  rw [readText_fst, readFile_eq_readAll own room ordinary]

/-! ## Settings -/

/-- The file that the settings are read from: the one that the environment names, or else the usual
one, if there is something of that name. -/
inductive ReadsFrom (m : Machine) (environment : Environment) : String → Prop
  | named {path : String} (named : environment.lookup Config.fileVariable = some path) :
    ReadsFrom m environment path
  | usual {place : Location} (unnamed : environment.lookup Config.fileVariable = none)
    (there : (m.view m.shell).lookup m.shellProcess.cwd Config.defaultFile = .ok place) :
    ReadsFrom m environment Config.defaultFile

lemma source?_eq_some_iff {environment : Environment} :
    Config.source? (environment.lookup Config.fileVariable)
        ((m.view m.shell).pathExists m.shellProcess.cwd) = some path ↔
      m.ReadsFrom environment path := by
  unfold Config.source?
  cases hnamed : environment.lookup Config.fileVariable with
  | some path' =>
    dsimp only
    constructor
    · intro h
      cases h
      exact .named hnamed
    · intro h
      cases h with
      | named named => exact hnamed.symm.trans named
      | usual unnamed _ => cases hnamed.symm.trans unnamed
  | none =>
    dsimp only
    unfold Disk.pathExists
    cases hthere : (m.view m.shell).lookup m.shellProcess.cwd Config.defaultFile with
    | ok place =>
      simp only [if_true, Option.some.injEq]
      constructor
      · rintro rfl
        exact .usual hnamed hthere
      · intro h
        cases h with
        | named named => cases hnamed.symm.trans named
        | usual _ _ => rfl
    | error e =>
      simp only [Bool.false_eq_true, if_false, reduceCtorEq, false_iff]
      intro h
      cases h with
      | named named => cases hnamed.symm.trans named
      | usual _ there => cases hthere.symm.trans there

/-- What the shell of a machine comes to that loads its settings. -/
def settings (m : Machine) (deserialize : String → Except Config.Fault Config)
    (environment : Environment) : Except Config.LoadError Config :=
  (m.loadConfig (environment.lookup Config.fileVariable) deserialize).1

section Settings

variable {deserialize : String → Except Config.Fault Config} {environment : Environment}

lemma settings_eq_load (m : Machine) (deserialize : String → Except Config.Fault Config)
    (environment : Environment) :
    m.settings deserialize environment =
      Config.load deserialize (environment.lookup Config.fileVariable)
        ((m.view m.shell).pathExists m.shellProcess.cwd) fun path => (m.readText path).1 := by
  unfold settings loadConfig Config.load
  split <;> rename_i hsource
  · rw [hsource]
  · rw [hsource]

lemma ReadsFrom.settings_eq (h : m.ReadsFrom environment path) :
    m.settings deserialize environment = Config.ofReading deserialize path (m.readText path).1 := by
  rw [settings_eq_load, Config.load, source?_eq_some_iff.2 h]

lemma settings_of_not_readsFrom (h : ∀ path, ¬ m.ReadsFrom environment path) :
    m.settings deserialize environment = .ok {} := by
  have hsource : Config.source? (environment.lookup Config.fileVariable)
      ((m.view m.shell).pathExists m.shellProcess.cwd) = none :=
    Option.eq_none_iff_forall_ne_some.2 fun path hpath => h path (source?_eq_some_iff.1 hpath)
  rw [settings_eq_load, Config.load, hsource]

/-- Settings that have been loaded are within the limits, whatever the text of a file comes to. -/
lemma not_breaks_settings {config : Config}
    (h : m.settings deserialize environment = .ok config) (violation : Config.Violation) :
    ¬ config.Breaks violation := by
  by_cases hfile : ∃ path, m.ReadsFrom environment path
  · obtain ⟨path, from_⟩ := hfile
    rw [from_.settings_eq] at h
    cases read : (m.readText path).1 with
    | error e =>
      rw [read] at h
      cases h
    | ok text =>
      rw [read] at h
      exact Config.not_breaks_of_ofText h violation
  · rw [settings_of_not_readsFrom (not_exists.1 hfile)] at h
    cases h
    exact Config.not_breaks_default violation

end Settings

/-- The settings are read from a file whose text is a document. -/
def ReadsDocument (m : Machine) (document? : String → Option Toml.Document)
    (environment : Environment) (path : String) (document : Toml.Document) : Prop :=
  m.ReadsFrom environment path ∧
    ∃ text, (m.readText path).1 = .ok text ∧ document? text = some document

section ReadsDocument

variable {d : Config.Deserializer} {environment : Environment} {document : Toml.Document}

lemma ReadsDocument.distinct (h : m.ReadsDocument d.document? environment path document)
    (lawful : d.Lawful) : Toml.Distinct document := by
  obtain ⟨-, text, -, parsed⟩ := h
  exact lawful.distinct parsed

lemma ReadsDocument.verdict (h : m.ReadsDocument d.document? environment path document)
    (lawful : d.Lawful) : Config.Verdict path document (m.settings d.fromText environment) := by
  obtain ⟨from_, text, read, parsed⟩ := h
  rw [from_.settings_eq, read]
  exact lawful.verdict_ofText parsed

end ReadsDocument

end Machine

open Machine

/-- **Settings are what the file says that is read, or the usual ones if none is.** The file is the
one that the environment names, whatever there is else, or the usual one if it is there. If it
cannot be read as text, or the text is no document, that is what is told. If it is a document,
`Config.Verdict` says what comes of it; another order of the same keys gives the same settings. What
can be read is all that is stored in the file. Settings beyond a limit are never loaded. -/
theorem settings_verdict (d : Config.Deserializer) (lawful : d.Lawful) (m : Machine)
    (environment : Environment) :
    ((∀ path, ¬ m.ReadsFrom environment path) → m.settings d.fromText environment = .ok {}) ∧
    (∀ path e, m.ReadsFrom environment path → (m.readText path).1 = .error e →
      m.settings d.fromText environment = .error (.unreadable path e)) ∧
    (∀ path text, m.ReadsFrom environment path → (m.readText path).1 = .ok text →
      d.document? text = none → m.settings d.fromText environment = .error (.malformed path)) ∧
    (∀ path document, m.ReadsDocument d.document? environment path document →
      Config.Verdict path document (m.settings d.fromText environment) ∧
      ∀ (m' : Machine) (environment' : Environment) path' document',
        m'.ReadsDocument d.document? environment' path' document' → document.Perm document' →
        ∀ config, m.settings d.fromText environment = .ok config ↔
          m'.settings d.fromText environment' = .ok config) ∧
    (∀ path p, m.process? m.shell = some p → HasRoom p → (m.view m.shell).IsOrdinary p.cwd path →
      (m.readText path).1 = (withPath path ((m.view m.shell).readAll p.cwd path)).bind textOf) ∧
    ∀ config, m.settings d.fromText environment = .ok config →
      ∀ violation, ¬ config.Breaks violation := by
  refine ⟨settings_of_not_readsFrom, fun path e from_ unread => ?_,
    fun path text from_ read nothing => ?_, fun path document reads => ?_,
    fun path p own room ordinary => readText_eq own room ordinary,
    fun config loaded violation => not_breaks_settings loaded violation⟩
  · rw [from_.settings_eq, unread]
    rfl
  · rw [from_.settings_eq, read, Config.ofReading, Config.ofText, lawful.fromText_malformed nothing]
  · refine ⟨reads.verdict lawful, fun m' environment' path' document' reads' permuted config => ?_⟩
    exact (reads.verdict lawful).ok_iff_of_perm (reads'.verdict lawful) (reads.distinct lawful)
      permuted config

/-! ## A machine with several files -/

/-- A shell on an empty disk. -/
def bareStudio : Machine where
  disk := .empty
  processes := [helper]
  shell := 5

/-- The usual file and some others that could be read in its place. -/
def studioFiles : List (String × Nat) :=
  [("orbit.toml", 1), ("other", 2), ("wrong", 3), ("few", 4), ("raw", 5)]

/-- The same shell in the root of a disk with these files. -/
def studio : Machine where
  disk.nodes := #[
    .directory { entries := studioFiles.map fun (name, number) => (name, .stored number) },
    .file 0o644 "log_file = \"log\"\nmax_args = 8\n".toUTF8,
    .file 0o644 "max_args = 8\nlog_file = \"log\"\n".toUTF8,
    .file 0o644 "max_args = 1\ncolour = true\ncolor = 1\n".toUTF8,
    .file 0o644 "log_file = \"\"\nmax_args = 1\n".toUTF8,
    .file 0o644 ⟨#[255]⟩]
  processes := [helper]
  shell := 5

/-- The usual file of `studio`. -/
def studioDocument : Toml.Document := [("log_file", .string "log"), ("max_args", .integer 8)]

/-- What it gives. -/
def studioConfig : Config where
  logFile := "log"
  maxArgs := 8

/-- The file that is to be read is named in the environment. -/
def naming (path : String) : Environment := [(Config.fileVariable, path)]

lemma lookup_studio :
    (studio.view 5).lookup [] "orbit.toml" = .ok [("orbit.toml", .stored 1)] := by cbv

lemma lookup_bareStudio : (bareStudio.view 5).lookup [] "orbit.toml" = .error .ENOENT := by cbv

lemma openRead_studio (name : String) (number : Nat) (h : (name, number) ∈ studioFiles) :
    (studio.view 5).openRead [] name = .ok [(name, .stored number)] := by
  have all : ∀ file ∈ studioFiles,
      (studio.view 5).openRead [] file.1 = .ok [(file.1, .stored file.2)] := by
    simp only [studioFiles, List.forall_mem_cons]
    exact ⟨by cbv, by cbv, by cbv, by cbv, by cbv, List.forall_mem_nil _⟩
  exact all _ h

section

variable {path : String} {number mode : Nat} {content : ByteArray}

lemma content?_studio (held : studio.disk.nodes[number]? = some (.file mode content)) :
    (studio.view 5).content? (.stored number) = some content := by
  have kind : (studio.view 5).node (.stored number) = .file mode content :=
    Disk.node_of_nodes held
  unfold Disk.content?
  rw [kind]

lemma isOrdinary_studio
    (found : (studio.view 5).openRead [] path = .ok [(path, .stored number)])
    (held : studio.disk.nodes[number]? = some (.file mode content)) :
    (studio.view 5).IsOrdinary [] path := by
  intro place hplace
  cases found.symm.trans hplace
  obtain ⟨small, -⟩ := Array.getElem?_eq_some_iff.1 held
  exact .inr ⟨⟨number, small, rfl⟩, Option.isSome_iff_exists.2 ⟨content, content?_studio held⟩⟩

lemma readText_studio (path : String) (number : Nat) (there : (path, number) ∈ studioFiles)
    (held : studio.disk.nodes[number]? = some (.file mode content))
    (plain : '\x00' ∉ path.toList) : (studio.readText path).1 = textOf content := by
  have own : studio.process? studio.shell = some helper := rfl
  have room : HasRoom helper := by decide
  have found : (studio.view studio.shell).openRead helper.cwd path = .ok [(path, .stored number)] :=
    openRead_studio path number there
  have whole : (studio.view studio.shell).readAll helper.cwd path = .ok content :=
    readAll_of_content? found (content?_studio held)
  have plain : ¬ path.contains '\x00' = true := by simpa [String.contains_char_eq] using plain
  rw [readText_eq own room (isOrdinary_studio found held), whole, withPath, if_neg plain]
  rfl

end

/-- A file of `studio` that the environment names. -/
lemma readsDocument_studio (path : String) (number : Nat) {mode : Nat} {text : String}
    {document : Toml.Document} (there : (path, number) ∈ studioFiles)
    (held : studio.disk.nodes[number]? = some (.file mode text.toUTF8))
    (plain : '\x00' ∉ path.toList) (parsed : Toml.parse text = some document) :
    studio.ReadsDocument Toml.parse (naming path) path document :=
  ⟨.named rfl, text, (readText_studio path number there held plain).trans (textOf_toUTF8 text),
    parsed⟩

theorem settings_verdict_studio :
    Config.Deserializer.ofToml.Lawful ∧
      (studio.settings Config.fromToml [] = .ok studioConfig ∧
        studio.settings Config.fromToml (naming "other") = .ok studioConfig) ∧
      studio.settings Config.fromToml (naming "wrong") =
        .error (.misfit "wrong" (.unknownKey "colour")) ∧
      studio.settings Config.fromToml (naming "few") = .error (.invalid .fewArguments) ∧
      studio.settings Config.fromToml (naming "raw") = .error (.unreadable "raw" .notText) ∧
      bareStudio.settings Config.fromToml [] = .ok {} := by
  have lawful := Config.Deserializer.lawful_ofToml
  have usualReads : studio.ReadsDocument Toml.parse [] "orbit.toml" studioDocument := by
    have read := readText_studio "orbit.toml" 1 (by decide) rfl (by simp)
    exact ⟨.usual rfl lookup_studio, _, read.trans (textOf_toUTF8 _), by cbv⟩
  have otherReads := readsDocument_studio "other" 2 (by decide) rfl (by simp)
    (show Toml.parse _ = some studioDocument.reverse by cbv)
  have wrongReads := readsDocument_studio "wrong" 3 (by decide) rfl (by simp)
    (show Toml.parse _ = some [("max_args", .integer 1), ("colour", .boolean true),
      ("color", .integer 1)] by cbv)
  have fewReads := readsDocument_studio "few" 4 (by decide) rfl (by simp)
    (show Toml.parse _ = some [("log_file", .string ""), ("max_args", .integer 1)] by cbv)
  obtain ⟨-, -, -, usual, -⟩ := settings_verdict .ofToml lawful studio []
  obtain ⟨verdict, sameOrder⟩ := usual _ _ usualReads
  have taken : studio.settings Config.fromToml [] = .ok studioConfig := by
    refine (verdict.ok_iff studioConfig).2 ⟨?_, ?_, ?_⟩
    · exact List.forall_mem_cons.2 ⟨⟨.logFile, rfl, "log", rfl⟩,
        List.forall_mem_singleton.2 ⟨.maxArgs, rfl, 8, rfl⟩⟩
    · intro field
      cases field <;> rfl
    · intro violation
      cases violation <;> decide
  refine ⟨lawful, ⟨taken, ?_⟩, ?_, ?_, ?_, ?_⟩
  · exact (sameOrder studio _ _ _ otherReads (List.reverse_perm _).symm studioConfig).1 taken
  · obtain ⟨-, -, -, named, -⟩ := settings_verdict .ofToml lawful studio (naming "wrong")
    refine ((named _ _ wrongReads).1.misfit_iff _ _).2 ⟨rfl, ?_⟩
    refine ⟨[("max_args", .integer 1)], ("colour", .boolean true), _, rfl, ?_, rfl, ?_⟩
    · exact List.forall_mem_singleton.2 ⟨.maxArgs, rfl, 1, rfl⟩
    · intro field
      cases field <;> decide
  · obtain ⟨-, -, -, named, -⟩ := settings_verdict .ofToml lawful studio (naming "few")
    refine ((named _ _ fewReads).1.invalid_iff _).2 ⟨?_, ?_⟩
    · exact List.forall_mem_cons.2 ⟨⟨.logFile, rfl, "", rfl⟩,
        List.forall_mem_singleton.2 ⟨.maxArgs, rfl, 1, rfl⟩⟩
    · refine ⟨{ logFile := "", maxArgs := 1 }, ?_, rfl⟩
      intro field
      cases field <;> rfl
  · obtain ⟨-, unread, -⟩ := settings_verdict .ofToml lawful studio (naming "raw")
    have read := readText_studio "raw" 5 (by decide) rfl (by simp)
    exact unread _ _ (.named rfl) (read.trans (by cbv))
  · obtain ⟨defaults, -⟩ := settings_verdict .ofToml lawful bareStudio []
    refine defaults fun path from_ => ?_
    cases from_ with
    | named named => cases named
    | usual _ there => cases lookup_bareStudio.symm.trans there

end CommandShell
