import CommandShell.Script.Pattern

/-!
# Splitting words

What a word expands to is split into fields before it becomes arguments of a command. An expanded
word is made of `Stretch`es of `Atom`s: values that stand outside of quotes are split at the
characters that separate fields, the arguments of a script keep the borders between them, and all
else stays in one piece. A blank that separates joins the blanks around it; any other separator ends
a field by itself. `Fields.split` does this, and can be told how many fields there may be.
-/

namespace CommandShell

namespace Script

/-- An element of an expanded word. -/
inductive Atom
  | char (c : Char) (quoted : Bool)
  /-- Quotes stand here, so there is a field even if there is nothing in them. -/
  | mark
  /-- The border between two arguments of the script. -/
  | border
  deriving DecidableEq

/-- How a stretch of an expanded word is split. -/
inductive Zone
  /-- Not at all. -/
  | whole
  /-- At every separator. -/
  | separable
  /-- At borders only. -/
  | bordered
  deriving DecidableEq

/-- A stretch of an expanded word. -/
structure Stretch where
  zone : Zone
  atoms : List Atom

namespace Atom

/-- The characters of a text. -/
def ofText (text : String) (quoted : Bool) : List Atom :=
  text.toList.map (.char · quoted)

/-- The characters among atoms. -/
def marked (atoms : List Atom) : List Marked :=
  atoms.filterMap fun
    | .char c quoted => some (c, quoted)
    | _ => none

/-- The text of atoms. -/
def text (atoms : List Atom) : String :=
  String.ofList ((marked atoms).map (·.1))

/-- An atom as a character that a pattern can be compared with. -/
def toChar : Atom → Char
  | .char c _ => c
  | _ => '\x00'

end Atom

namespace Stretch

/-- The atoms of an expanded word that is not split. -/
def join (stretches : List Stretch) : List Atom :=
  stretches.flatMap (·.atoms)

end Stretch

/-- The fields made so far. -/
structure Fields where
  /-- Those that are complete, the last first. -/
  done : List (List Atom) := []
  /-- The one in the making, backwards. -/
  current : List Atom := []
  /-- A blank has just ended a field. -/
  spacing : Bool := false
  /-- The last stretch had borders. -/
  bordered : Bool := false
  /-- How many fields can still be ended, if there is a limit. -/
  left : Option Nat := none
  /-- Where the last field ends, if what follows are blanks only. -/
  cut : Option Nat := none

namespace Fields

/-- The blanks among the characters that separate fields. -/
def blanks : String := " \t\n"

/-- Adds an atom to the field in the making. -/
def add (f : Fields) (a : Atom) : Fields :=
  { f with current := a :: f.current }

/-- Ends the field in the making. -/
def close (f : Fields) : Fields :=
  { f with done := f.current.reverse :: f.done, current := [] }

/-- Adds an atom to the last field there can be. It ends before the blanks at its end, and before
one separator among them. -/
def addLast (f : Fields) (a : Atom) (separates isBlank : Bool) : Fields :=
  let place := f.current.length
  if isBlank then { f.add a with cut := some (f.cut.getD place) }
  else { f.add a with cut := if separates && f.spacing then f.cut else none, spacing := false }

/-- Adds an atom of a stretch that is split. `afterBorders` tells that the stretch before had
borders. -/
def addSeparable (f : Fields) (a : Atom) (separates isBlank afterBorders : Bool) : Fields :=
  if f.left = some 0 then f.addLast a separates isBlank
  else if f.spacing then
    if isBlank then f
    else if separates then { f with spacing := false }
    else { f.add a with spacing := false }
  else if separates then
    let spacing := !(afterBorders || f.bordered) && isBlank
    if f.current.isEmpty && spacing then f
    else
      match f.left with
      | some 1 => { f.add a with left := some 0, cut := some f.current.length, spacing }
      | left => { f.close with left := left.map (· - 1), spacing }
  else f.add a

/-- Adds a stretch. -/
def addStretch (separators : String) (f : Fields) (s : Stretch) : Fields :=
  match s.zone with
  | .whole => s.atoms.foldl add f
  | zone =>
    let afterBorders := f.bordered
    let f := { f with bordered := zone == .bordered, spacing := false }
    s.atoms.foldl (fun f a =>
      let separates := match a with
        | .border => true
        | .char c _ => zone == .separable && separators.contains c
        | .mark => false
      let isBlank := separates && match a with
        | .char c _ => blanks.contains c
        | _ => true
      f.addSeparable a separates isBlank afterBorders) f

/-- Splits an expanded word into fields, at most so many if `most` is given. -/
def split (separators : String) (most : Option Nat) (stretches : List Stretch) :
    List (List Atom) :=
  let f := stretches.foldl (addStretch separators) { left := most }
  let last := match f.cut with
    | some n => f.current.reverse.take n
    | none => f.current.reverse
  (if last.isEmpty && !f.bordered then f.done else last :: f.done).reverse

end Fields

end Script

end CommandShell
