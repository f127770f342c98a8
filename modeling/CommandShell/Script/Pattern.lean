/-!
# Patterns

The patterns of `case` branches, file names and the ends that are cut off a value. A star stands
for any run of characters, a question mark for any one, and brackets for one of a set, which may
name whole classes of characters; a character that was quoted stands for itself. `fits` says what
fits.
-/

namespace CommandShell

namespace Script

/-- A character of an expanded word, and whether it was quoted. -/
abbrev Marked := Char × Bool

/-- What stands in brackets. -/
inductive SetMember
  /-- The characters between two others, which belong to them. -/
  | range (low high : Char)
  /-- The characters of a class. -/
  | kind (test : Char → Bool)

/-- The character belongs to it. -/
def SetMember.holds (c : Char) : SetMember → Bool
  | .range low high => low ≤ c && c ≤ high
  | .kind test => test c

/-- One element of a pattern. -/
inductive PatternItem
  | one (c : Char)
  | any
  | run
  /-- One character that is in a set, or outside of it. -/
  | set (outside : Bool) (members : List SetMember)

/-- A character that leaves a mark on paper. -/
def isGraphic (c : Char) : Bool :=
  33 ≤ c.toNat && c.toNat ≤ 126

/-- The classes of characters and their names. -/
def characterKinds : List (String × (Char → Bool)) :=
  [("alnum", Char.isAlphanum),
   ("alpha", Char.isAlpha),
   ("blank", fun c => c == ' ' || c == '\t'),
   ("cntrl", fun c => c.toNat < 32 || c.toNat = 127),
   ("digit", Char.isDigit),
   ("graph", isGraphic),
   ("lower", Char.isLower),
   ("print", fun c => c == ' ' || isGraphic c),
   ("punct", fun c => isGraphic c && !c.isAlphanum),
   ("space", fun c => c == ' ' || (9 ≤ c.toNat && c.toNat ≤ 13)),
   ("upper", Char.isUpper),
   ("xdigit", fun c => c.isDigit || "abcdefABCDEF".contains c)]

/-- The class that is named behind an opening bracket, and what comes after it. -/
def readKind? (cs : List Marked) : Option ((Char → Bool) × List Marked) :=
  characterKinds.findSome? fun (name, test) =>
    let written := (":" ++ name ++ ":]").toList.map fun c => (c, false)
    if written.isPrefixOf cs then some (test, cs.drop written.length) else none

/-- Reads the members of a set up to the closing bracket, which cannot be the first of them. There
is none if the bracket is missing. -/
def readMembers (isFirst : Bool) (done : List SetMember) (cs : List Marked) :
    Nat → Option (List SetMember × List Marked)
  | 0 => none
  | fuel + 1 =>
    match cs with
    | [] => none
    | (c, quoted) :: rest =>
      if c = ']' && !quoted && !isFirst then some (done.reverse, rest)
      else
        match if c = '[' && !quoted then readKind? rest else none with
        | some (test, rest) => readMembers false (.kind test :: done) rest fuel
        | none =>
          match rest with
          | ('-', false) :: (high, highQuoted) :: more =>
            if high = ']' && !highQuoted then
              readMembers false (.range c c :: done) rest fuel
            else readMembers false (.range c high :: done) more fuel
          | _ => readMembers false (.range c c :: done) rest fuel

/-- What follows an opening bracket: whether the set is one of characters that do not fit, its
members, and what comes after the closing bracket. -/
def readSet? (cs : List Marked) : Option (Bool × List SetMember × List Marked) := do
  let outside := cs.head?.any fun (c, quoted) => c = '!' && !quoted
  let cs := if outside then cs.drop 1 else cs
  let (members, rest) ← readMembers true [] cs (cs.length + 1)
  return (outside, members, rest)

/-- Reads the items of a pattern. -/
def readItems (cs : List Marked) : Nat → List PatternItem
  | 0 => []
  | fuel + 1 =>
    match cs with
    | [] => []
    | ('*', false) :: rest => .run :: readItems rest fuel
    | ('?', false) :: rest => .any :: readItems rest fuel
    | ('[', false) :: rest =>
      match readSet? rest with
      | some (outside, members, rest) => .set outside members :: readItems rest fuel
      | none => .one '[' :: readItems rest fuel
    | (c, _) :: rest => .one c :: readItems rest fuel

/-- Lets a backslash that was not quoted quote the character after it. Such a backslash has come
from the value of a parameter. -/
def applyBackslashes : List Marked → List Marked
  | ('\\', false) :: (c, _) :: rest => (c, true) :: applyBackslashes rest
  | ('\\', false) :: [] => [('\\', true)]
  | m :: rest => m :: applyBackslashes rest
  | [] => []

/-- The items of a pattern. -/
def readPattern (cs : List Marked) : List PatternItem :=
  let cs := applyBackslashes cs
  readItems cs (cs.length + 1)

/-- A text fits a pattern. -/
def fits : List PatternItem → List Char → Bool
  | [], cs => cs.isEmpty
  | .one c :: rest, d :: ds => c == d && fits rest ds
  | .any :: rest, _ :: ds => fits rest ds
  | .set outside members :: rest, d :: ds =>
    members.any (·.holds d) != outside && fits rest ds
  | .run :: rest, ds => fitsRun rest ds
  | _ :: _, [] => false
where
  /-- Some end of a text fits a pattern. -/
  fitsRun (items : List PatternItem) : List Char → Bool
    | [] => fits items []
    | d :: ds => fits items (d :: ds) || fitsRun items ds

/-- The text without a beginning that fits, the longest or the shortest there is. -/
def dropFront (items : List PatternItem) (longest : Bool) (cs : List Char) : List Char :=
  let lengths := List.range (cs.length + 1)
  match (if longest then lengths.reverse else lengths).find? fun n => fits items (cs.take n) with
  | some n => cs.drop n
  | none => cs

/-- The text without an end that fits, the longest or the shortest there is. -/
def dropBack (items : List PatternItem) (longest : Bool) (cs : List Char) : List Char :=
  let lengths := List.range (cs.length + 1)
  match (if longest then lengths else lengths.reverse).find? fun n => fits items (cs.drop n) with
  | some n => cs.take n
  | none => cs

end Script

end CommandShell
