import CommandShell.Config
import CommandShell.Toml.Notation

/-!
# Settings from TOML

`Config.fromToml` makes settings of a TOML text. It goes through the keys of the document in order
and notes what they give (`Config.Given`), until there are no more or one does not fit. Settings
that no key has given are the usual ones.
-/

namespace CommandShell.Config

/-- The settings that some keys have given. -/
structure Given where
  promptSymbol : Option String := none
  color : Option Bool := none
  maxLineLen : Option Nat := none
  maxArgs : Option Nat := none
  logDir : Option String := none
  logFile : Option String := none
  reportBackgroundCompletion : Option Bool := none

namespace Given

/-- Notes the value of a setting, if it is of its kind. -/
def note (given : Given) (field : Field) (value : Toml.Value) : Except Misfit Given :=
  let wrong : Except Misfit Given := .error (.wrongType value field)
  let count (set : Nat → Given) : Except Misfit Given :=
    match value with
    | .integer n => if n < 0 then .error (.wrongValue value field) else .ok (set n.toNat)
    | _ => wrong
  match field, value with
  | .promptSymbol, .string s => .ok { given with promptSymbol := some s }
  | .color, .boolean b => .ok { given with color := some b }
  | .maxLineLen, _ => count fun n => { given with maxLineLen := some n }
  | .maxArgs, _ => count fun n => { given with maxArgs := some n }
  | .logDir, .string s => .ok { given with logDir := some s }
  | .logFile, .string s => .ok { given with logFile := some s }
  | .reportBackgroundCompletion, .boolean b =>
    .ok { given with reportBackgroundCompletion := some b }
  | _, _ => wrong

/-- Takes a key and its value. -/
def take (given : Given) (entry : String × Toml.Value) : Except Misfit Given :=
  match Field.ofKey? entry.1 with
  | none => .error (.unknownKey entry.1)
  | some field => given.note field entry.2

/-- The settings that come of it. -/
def config (given : Given) : Config :=
  let usual : Config := {}
  { promptSymbol := given.promptSymbol.getD usual.promptSymbol
    color := given.color.getD usual.color
    maxLineLen := given.maxLineLen.getD usual.maxLineLen
    maxArgs := given.maxArgs.getD usual.maxArgs
    logDir := given.logDir.getD usual.logDir
    logFile := given.logFile.getD usual.logFile
    reportBackgroundCompletion :=
      given.reportBackgroundCompletion.getD usual.reportBackgroundCompletion }

/-- Takes the keys of a document, one after the other. -/
def visit (given : Given) : Toml.Document → Except Misfit Config
  | [] => .ok given.config
  | entry :: rest => do (← given.take entry).visit rest

end Given

/-- The settings that a TOML text gives. -/
def fromToml (text : String) : Except Fault Config :=
  match Toml.parse text with
  | none => .error .malformed
  | some document => (({} : Given).visit document).mapError .misfit

end CommandShell.Config
