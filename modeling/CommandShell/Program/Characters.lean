import CommandShell.Program.Basic
import CommandShell.Text.Format

/-!
# Replacing characters

`tr`, which goes through its standard input byte by byte. Its operands are sets of bytes: listed,
from one to another, by the name of a class, or repeated.
-/

namespace CommandShell

namespace Program

/-- A part of a set. -/
inductive SetPart
  | bytes (list : List UInt8)
  /-- A class by its name. -/
  | kind (name : String) (list : List UInt8)
  /-- A byte so many times; zero stands for as many times as are needed. -/
  | again (b : UInt8) (count : Nat)

/-- What is wrong with a set. -/
inductive SetError
  | decreasing (first last : UInt8)
  | unknownClass (name : String)

/-- A byte as messages show it. -/
def shownByte (b : UInt8) : String :=
  match escape? b with
  | some cs => String.ofList cs
  | none => (Char.ofNat b.toNat).toString

/-- The wording of a wrong set. -/
def SetError.message : SetError → String
  | .decreasing a b =>
    "range-endpoints of '" ++ shownByte a ++ "-" ++ shownByte b ++
      "' are in reverse collating sequence order"
  | .unknownClass name => "invalid character class " ++ cite name

/-- The bytes of a class. -/
def classBytes? (name : String) : Option (List UInt8) :=
  let among (test : Nat → Bool) : Option (List UInt8) :=
    some (((List.range 128).filter test).map UInt8.ofNat)
  let char (test : Char → Bool) (n : Nat) : Bool := test (Char.ofNat n)
  let isShown (n : Nat) : Bool := 32 < n && n < 127
  match name with
  | "lower" => among (char Char.isLower)
  | "upper" => among (char Char.isUpper)
  | "alpha" => among (char Char.isAlpha)
  | "digit" => among (char Char.isDigit)
  | "alnum" => among (char Char.isAlphanum)
  | "space" => some [9, 10, 11, 12, 13, 32]
  | "blank" => some [9, 32]
  | "punct" => among fun n => isShown n && !char Char.isAlphanum n
  | "graph" => among isShown
  | "print" => among fun n => isShown n || n == 32
  | "cntrl" => among fun n => n < 32 || n == 127
  | "xdigit" => among (char fun c => c.isDigit || ('a' ≤ c.toLower && c.toLower ≤ 'f'))
  | _ => none

/-- The bytes of a set with its backslashes carried out; a byte that a backslash stands in front of
means nothing but itself. -/
def plainBytes (cs : List Char) : Nat → List (UInt8 × Bool)
  | 0 => []
  | fuel + 1 =>
    match cs with
    | [] => []
    | '\\' :: c :: rest =>
      if Format.isOctal c then
        let (d, rest) := Format.readOctal (c :: rest)
        (UInt8.ofNat d.toNat, true) :: plainBytes rest fuel
      else
        let d := if c = 'e' then c else (Format.escaped? c).getD c
        (UInt8.ofNat d.toNat, true) :: plainBytes rest fuel
    | c :: rest => (UInt8.ofNat c.toNat, false) :: plainBytes rest fuel

/-- What stands between two signs and a bracket that closes, as in `[:digit:]`, and what follows. -/
def readBracket (sign : UInt8) (done : List UInt8) :
    List (UInt8 × Bool) → Option (List UInt8 × List (UInt8 × Bool))
  | (a, false) :: (93, false) :: rest =>
    if a = sign then some (done.reverse, rest)
    else readBracket sign (a :: done) ((93, false) :: rest)
  | (a, _) :: rest => readBracket sign (a :: done) rest
  | [] => none

/-- Reads a repetition after its byte and its star: the count, and what follows the bracket. -/
def readCount? (bytes : List (UInt8 × Bool)) : Option (Nat × List (UInt8 × Bool)) :=
  let isDigit (p : UInt8 × Bool) : Bool := 48 ≤ p.1 && p.1 ≤ 57
  let digits := bytes.takeWhile isDigit
  let base := if digits.head?.any (·.1 = 48) then 8 else 10
  match bytes.drop digits.length with
  | (93, false) :: rest => some (digits.foldl (fun n p => n * base + (p.1.toNat - 48)) 0, rest)
  | _ => none

/-- Reads the parts of a set. -/
def readSet (bytes : List (UInt8 × Bool)) : Nat → Except SetError (List SetPart)
  | 0 => .ok []
  | fuel + 1 =>
    let list (bytes : List UInt8) (rest : List (UInt8 × Bool)) :
        Except SetError (List SetPart) := do
      return .bytes bytes :: (← readSet rest fuel)
    let single (bytes : List (UInt8 × Bool)) : Except SetError (List SetPart) :=
      match bytes with
      | (a, _) :: (45, false) :: (b, _) :: rest =>
        if b < a then .error (.decreasing a b)
        else list ((List.range (b.toNat + 1 - a.toNat)).map fun i => UInt8.ofNat (a.toNat + i)) rest
      | (a, _) :: rest => list [a] rest
      | [] => .ok []
    match bytes with
    | (91, false) :: (58, false) :: rest =>
      match readBracket 58 [] rest with
      | none => single bytes
      | some (name, rest) => do
        let name := String.ofList (name.map fun b => Char.ofNat b.toNat)
        match classBytes? name with
        | some known => return .kind name known :: (← readSet rest fuel)
        | none => .error (.unknownClass name)
    | (91, false) :: (61, false) :: rest =>
      match readBracket 61 [] rest with
      | some ([b], rest) => list [b] rest
      | _ => single bytes
    | (91, false) :: (b, _) :: (42, false) :: rest =>
      match readCount? rest with
      | some (count, rest) => do return .again b count :: (← readSet rest fuel)
      | none => single bytes
    | bytes => single bytes

/-- The set that a word lists. -/
def setOf (word : String) : Except SetError (List SetPart) :=
  let cs := (Bytewise.encode word).toList
  readSet (plainBytes cs (cs.length + 1)) (cs.length + 1)

/-- The bytes of a set in order. A repetition without a count makes it `size` bytes long. -/
def expand (size : Nat) (parts : List SetPart) : List UInt8 :=
  let fixed := parts.foldl (fun count part =>
    match part with
    | .bytes l | .kind _ l => count + l.length
    | .again _ n => count + n) 0
  parts.flatMap fun
    | .bytes l | .kind _ l => l
    | .again b 0 => List.replicate (size - fixed) b
    | .again b n => List.replicate n b

/-- Leaves one of each run of equal bytes that are in the set. `last` is the byte in front. -/
def squeeze (isMember : UInt8 → Bool) (last : Option UInt8) : List UInt8 → List UInt8
  | [] => []
  | b :: rest =>
    if last = some b && isMember b then squeeze isMember last rest
    else b :: squeeze isMember (some b) rest

/-- What the operands of `tr` do not fit together. -/
def mismatch? (o : Options) : Option String :=
  let deletes := o.has 'd'
  let squeezes := o.has 's'
  let least := if deletes == squeezes then 2 else 1
  let most := if deletes && !squeezes then 1 else 2
  match o.operands with
  | [] => some "missing operand"
  | [first] =>
    if least ≤ 1 then none
    else
      some ("missing operand after " ++ cite first ++ "\n" ++
        if squeezes then "Two strings must be given when both deleting and squeezing repeats."
        else "Two strings must be given when translating.")
  | operands =>
    if operands.length ≤ most then none
    else
      some ("extra operand " ++ cite (operands.getD most "") ++
        if operands.length = 2 then
          "\nOnly one string may be given when deleting without squeezing repeats."
        else "")

/-- What `tr` does to bytes. -/
structure ByteRule where
  isDropped : UInt8 → Bool
  image : UInt8 → UInt8
  isSqueezed : UInt8 → Bool

/-- The rule that options and sets ask for. -/
def ByteRule.of (o : Options) (firstParts secondParts : List SetPart) : ByteRule :=
  let listed := expand 0 firstParts
  let every := (List.range 256).map UInt8.ofNat
  let first := if o.has 'c' || o.has 'C' then every.filter fun b => !listed.contains b else listed
  let second := expand first.length secondParts
  let first := if o.has 't' then first.take second.length else first
  let pairs := first.zipIdx.reverse
  let imageOf (b : UInt8) : UInt8 :=
    match pairs.find? (·.1 == b) with
    | some (_, i) => second.getD i (second.getLast?.getD b)
    | none => b
  let table := (every.map imageOf).toArray
  let isPair := o.operands.length = 2
  { isDropped := fun b => o.has 'd' && first.contains b
    image := fun b => if isPair && !o.has 'd' then table.getD b.toNat b else b
    isSqueezed := fun b => o.has 's' && (if isPair then second.contains b else first.contains b) }

/-- Carries out a rule on all that is read. `last` is the byte that was written last. -/
def rewriteInput (name : String) (r : ByteRule) (last : Option UInt8) : Nat → Step Nat
  | 0 => .done 0
  | n + 1 => do
    match ← call (.read Fd.stdin blockSize) with
    | .error e =>
      complain (name ++ ": read error: " ++ e.text ++ "\n")
      return 1
    | .ok bytes =>
      if bytes.isEmpty then return 0
      else
        let kept := (bytes.toList.filter fun b => !r.isDropped b).map r.image
        let squeezed := squeeze r.isSqueezed last kept
        match ← writeBytes Fd.stdout ⟨squeezed.toArray⟩ with
        | .error e => fail name "write error" e.text
        | .ok _ => rewriteInput name r (squeezed.getLast?.or last) n

/-- Replaces or removes characters of its standard input. -/
def tr : Program := fun argv _ =>
  let name := argv.headD ""
  let known : OptionSet :=
    { flags := "cCdst", leading := true
      long := [("complement", 'c'), ("delete", 'd'), ("squeeze-repeats", 's'),
        ("truncate-set1", 't')] }
  withOptions name known argv 1 fun o =>
    match mismatch? o with
    | some reason => misuse name reason 1
    | none =>
      match setOf (o.operands.headD ""), setOf (o.operands.getD 1 "") with
      | .error e, _ | _, .error e => do
        complain (name ++ ": " ++ e.message ++ "\n")
        return 1
      | .ok first, .ok second => do
        let replaces := !o.has 'd' && o.operands.length = 2
        if replaces && !o.has 't' && (expand 1 second).isEmpty then
          complain (name ++ ": when not truncating set1, string2 must be non-empty\n")
          return 1
        else rewriteInput name (ByteRule.of o first second) none patience

end Program

end CommandShell
