import CommandShell.Decimal.Shortest
import CommandShell.Text.Quoted
import CommandShell.Toml.Value
import CommandShell.System.Errno
import CommandShell.Token

/-!
# Configuration

The settings of a shell and how they are loaded from a TOML file. `Config.load` says which file is
read: the one that the environment names, which has to be readable, or else `orbit.toml` if there is
one. What settings are in the text of a file is not decided here, but by a function that
`Config.ofText` is given (such as `Config.fromToml`); the settings that come of it are then checked
as a whole.
-/

namespace CommandShell

/-- The settings of a shell. -/
structure Config where
  /-- What the prompt begins with. -/
  promptSymbol : String := "🚀"
  /-- Colour the prompt, if the shell writes to a terminal. -/
  color : Bool := true
  /-- The longest command line, in bytes. -/
  maxLineLen : Nat := 1024
  /-- How many tokens a line may have, counting the slot after the last one. -/
  maxArgs : Nat := defaultMaxArgs
  /-- The directory of the log file. -/
  logDir : String := "."
  /-- The name of the log file. -/
  logFile : String := "orbit.log"
  /-- Tell when background jobs end. -/
  reportBackgroundCompletion : Bool := true
  deriving DecidableEq, Repr

namespace Config

/-- The file that is read if the environment names none. -/
def defaultFile : String := "orbit.toml"

/-- The environment variable that names the file to read. -/
def fileVariable : String := "ORBIT_CONFIG"

/-! ## What can be wrong with a configuration -/

/-- A setting. -/
inductive Field
  | promptSymbol
  | color
  | maxLineLen
  | maxArgs
  | logDir
  | logFile
  | reportBackgroundCompletion
  deriving DecidableEq, Repr

namespace Field

/-- All settings, in the order in which messages list them. -/
def all : List Field :=
  [.promptSymbol, .color, .maxLineLen, .maxArgs, .logDir, .logFile, .reportBackgroundCompletion]

/-- The key of a setting. -/
def key : Field → String
  | .promptSymbol => "prompt_symbol"
  | .color => "color"
  | .maxLineLen => "max_line_len"
  | .maxArgs => "max_args"
  | .logDir => "log_dir"
  | .logFile => "log_file"
  | .reportBackgroundCompletion => "report_background_completion"

/-- The setting of a key. -/
def ofKey? (key : String) : Option Field :=
  all.find? (·.key == key)

/-- The kind of value a setting takes. -/
def expected : Field → String
  | .promptSymbol | .logFile => "a string"
  | .color | .reportBackgroundCompletion => "a boolean"
  | .maxLineLen | .maxArgs => "usize"
  | .logDir => "path string"

end Field

/-- A limit that the settings as a whole do not keep. -/
inductive Violation
  | fewArguments
  | noLineLength
  | namelessLog
  deriving DecidableEq, Repr

/-- The wording of a broken limit. -/
def Violation.message : Violation → String
  | .fewArguments => "max_args must be at least 2"
  | .noLineLength => "max_line_len must be positive"
  | .namelessLog => "log_file must not be empty"

/-- A value as messages speak of it. -/
def describe : Toml.Value → String
  | .string s => "string " ++ Text.quote s
  | .integer n => "integer `" ++ toString n ++ "`"
  | .float x => "floating point `" ++ Decimal.text x ++ "`"
  | .boolean b => "boolean `" ++ toString b ++ "`"
  | .datetime => "map"
  | .array _ => "sequence"
  | .table _ => "map"

/-- Why a key of a document does not fit. -/
inductive Misfit
  | unknownKey (key : String)
  | wrongType (value : Toml.Value) (field : Field)
  /-- A negative number where a count is wanted. -/
  | wrongValue (value : Toml.Value) (field : Field)

/-- The wording of a key that does not fit. -/
def Misfit.message : Misfit → String
  | .unknownKey key =>
    "unknown field `" ++ key ++ "`, expected one of " ++
      ", ".intercalate (Field.all.map fun f => "`" ++ f.key ++ "`")
  | .wrongType value field =>
    "invalid type: " ++ describe value ++ ", expected " ++ field.expected
  | .wrongValue value field =>
    "invalid value: " ++ describe value ++ ", expected " ++ field.expected

/-- Why there is no configuration. -/
inductive LoadError
  /-- The file cannot be read. -/
  | unreadable (path : String) (error : IoError)
  /-- The file is not TOML. -/
  | malformed (path : String)
  /-- A key of the file does not fit. -/
  | misfit (path : String) (reason : Misfit)
  /-- The settings do not keep a limit. -/
  | invalid (violation : Violation)

/-- The wording of a failed load. What is wrong with a malformed file is not told. -/
def LoadError.message? : LoadError → Option String
  | .unreadable path error => some ("failed to read " ++ path ++ ": " ++ error.message)
  | .malformed _ => none
  | .misfit _ reason => some reason.message
  | .invalid violation => some ("invalid config: " ++ violation.message)

/-- Why a text gives no settings. -/
inductive Fault
  /-- It is not TOML. -/
  | malformed
  /-- A key of it does not fit. -/
  | misfit (reason : Misfit)

/-! ## Settings from a file -/

/-- The first limit that the settings break. -/
def violation? (config : Config) : Option Violation :=
  if config.maxArgs < 2 then some .fewArguments
  else if config.maxLineLen = 0 then some .noLineLength
  else if config.logFile.isEmpty then some .namelessLog
  else none

/-- The settings that the text of a file gives, which `deserialize` makes of it, if they keep the
limits. -/
def ofText (deserialize : String → Except Fault Config) (path text : String) :
    Except LoadError Config :=
  match deserialize text with
  | .error .malformed => .error (.malformed path)
  | .error (.misfit reason) => .error (.misfit path reason)
  | .ok config =>
    match config.violation? with
    | some violation => .error (.invalid violation)
    | none => .ok config

/-- The file that settings are read from, if there is one: the one that the environment names, or
else the usual one. `fileExists` tells whether there is something at a path. -/
def source? (named : Option String) (fileExists : String → Bool) : Option String :=
  match named with
  | some path => some path
  | none => if fileExists defaultFile then some defaultFile else none

/-- The settings of a file, of which reading has come to this. -/
def ofReading (deserialize : String → Except Fault Config) (path : String) :
    Except IoError String → Except LoadError Config
  | .error error => .error (.unreadable path error)
  | .ok text => ofText deserialize path text

/-- Loads the settings. `named` is the file that the environment names, `fileExists` tells whether
there is something at a path, and `read` gives the text of a file. -/
def load (deserialize : String → Except Fault Config) (named : Option String)
    (fileExists : String → Bool) (read : String → Except IoError String) :
    Except LoadError Config :=
  match source? named fileExists with
  | some path => ofReading deserialize path (read path)
  | none => .ok {}

end Config

end CommandShell
