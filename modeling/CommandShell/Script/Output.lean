import CommandShell.Script.Env
import CommandShell.Text.Format

/-!
# What scripts write

The built-in commands that write their arguments: `echo`, which carries out backslash sequences, and
`printf`, which follows a format. A format is used again until there are no arguments left; what it
asks for and does not get is nothing, or zero.
-/

namespace CommandShell

namespace Script

/-! ## Texts -/

/-- Reads what stands after a backslash in a format. Where there is no sequence the backslash stands
for itself. -/
def formatSequences : Format.Sequences
  | [] => .ok (['\\'], [])
  | c :: rest =>
    if Format.isOctal c then
      let (d, rest) := Format.readOctal (c :: rest)
      .ok ([d], rest)
    else
      match Format.escaped? c with
      | some d => .ok ([d], rest)
      | none => .ok (['\\'], c :: rest)

/-- Reads what stands after a backslash in a text: as in a format, but there may be a zero in front
of three octal digits, and a `c` puts an end to all output. -/
def textSequences : Format.Sequences
  | 'c' :: _ => .error .cut
  | '0' :: d :: rest => formatSequences (if Format.isOctal d then d :: rest else '0' :: d :: rest)
  | cs => formatSequences cs

/-- A text with its sequences carried out, and whether all output is to end there. -/
def unescapeText (text : String) : String × Bool :=
  let (cs, stop) := Format.unescape textSequences [] text.toList (text.length + 1)
  (String.ofList cs, stop.isSome)

/-- A text in quotes, so that a script takes it as it stands. -/
def quoteText (text : String) : String :=
  String.ofList (quoteChars text.toList (text.length + 1))
where
  /-- Puts double quotes around single ones, and single quotes around all else. -/
  quoteChars (cs : List Char) : Nat → List Char
    | 0 => []
    | fuel + 1 =>
      let plain := cs.takeWhile (· != '\'')
      let rest := cs.drop plain.length
      let marks := rest.takeWhile (· == '\'')
      let more := rest.drop marks.length
      ['\''] ++ plain ++ ['\''] ++
        (if marks.isEmpty then [] else ['"'] ++ marks ++ ['"'] ++
          (if more.isEmpty then [] else quoteChars more fuel))

/-! ## Writing -/

/-- Writes for a built-in command, and reports if that cannot be done. -/
def emit (text : String) (code : Nat) : Run Nat := do
  match ← writeTo Fd.stdout text with
  | .ok _ => return code
  | .error _ =>
    report (((← get).builtin.getD "") ++ ": I/O error")
    return code ||| 1

/-- The text that `echo` makes of words. -/
def echoText (newline : Bool) : List String → String
  | [] => if newline then "\n" else ""
  | word :: rest =>
    let (text, cut) := unescapeText word
    if cut then text
    else if rest.isEmpty then text ++ if newline then "\n" else ""
    else text ++ " " ++ echoText newline rest

/-- Writes its arguments, with backslash sequences carried out. -/
def echo (arguments : List String) : Run Nat :=
  match arguments with
  | "-n" :: words => emit (echoText false words) 0
  | words => emit (echoText true words) 0

/-! ## Formats -/

/-- How scripts follow a format. -/
def formatDialect : Format.Dialect where
  sequences := formatSequences
  argumentSequences := textSequences
  padsSequences := true
  emptyIsZero := true
  precision := 53
  notNumeric word := word ++ ": expected numeric value"
  notConverted word := word ++ ": not completely converted"
  outOfRange word := word ++ ": Numerical result out of range"
  badConversion written := written ++ ": invalid directive"
  noConversion _ := "missing format character"

/-- Writes its arguments in a format. What has been made before something is wrong is written. -/
def printf (arguments : List String) : Run Nat := do
  match arguments with
  | [] => fault "usage: printf format [arg ...]"
  | template :: rest =>
    let p := Format.apply formatDialect template rest
    for reason in p.complaints.reverse do
      report reason
    match p.stop with
    | some (.broken reason) =>
      report reason
      let _ ← writeTo Fd.stdout p.written
      setStatus 2
      throw .failed
    | _ => emit p.written (if p.complaints.isEmpty then 0 else 1)

end Script

end CommandShell
