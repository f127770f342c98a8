import CommandShell.Program.Ends

/-!
# Comparing files

`cmp`, which tells the first byte in which two files differ, or all of them.
-/

namespace CommandShell

namespace Program

/-- A number in a column. -/
def column (width : Nat) (digits : List Char) : String :=
  String.ofList (List.replicate (width - digits.length) ' ' ++ digits)

/-- Where the shorter of two files ends: after which byte, and in which line. -/
def endOfFile (path : String) (text : ByteArray) (withLine : Bool) : String :=
  if text.isEmpty then "EOF on " ++ path ++ " which is empty\n"
  else
    let ends := endsOfLines text
    let ended := text.get! (text.size - 1) = 10
    let line :=
      if !withLine then ""
      else if ended then ", line " ++ toString ends
      else ", in line " ++ toString (ends + 1)
    "EOF on " ++ path ++ " after byte " ++ toString text.size ++ line ++ "\n"

/-- Compares two files. -/
def cmp : Program := fun argv _ =>
  let name := argv.headD ""
  let known : OptionSet :=
    { flags := "bls", valued := "ni", long := [("silent", 's'), ("quiet", 's'), ("verbose", 'l')] }
  let wrong (reason : String) : Step Nat := do
    complain (name ++ ": " ++ reason ++ "\n" ++ name ++ ": Try '" ++ name ++
      " --help' for more information.\n")
    return 2
  match known.read (argv.drop 1) with
  | .error e => wrong e.message
  | .ok o =>
    match o.operands with
    | [] => wrong ("missing operand after '" ++ name ++ "'")
    | a :: rest => do
      let b := rest.headD "-"
      let skips := rest.drop 1
      if let some word := skips.find? fun w => (size? w).isNone then
        return ← wrong ("invalid --ignore-initial value '" ++ word ++ "'")
      if let some extra := skips[2]? then
        return ← wrong ("extra operand '" ++ extra ++ "'")
      let skip (i : Nat) : Nat := (skips[i]?.bind size?).getD 0
      let unreadable (path : String) (e : Errno) : Step Nat := do
        let _ ← fail name path e.text
        return 2
      match ← readFile a with
      | .error e => unreadable a e
      | .ok x =>
        match ← readFile b with
        | .error e => unreadable b e
        | .ok y =>
          let cutTo (skipped : Nat) (t : ByteArray) : ByteArray :=
            let t := t.extract skipped t.size
            match (o.value? 'n').bind size? with
            | some n => t.extract 0 n
            | none => t
          let x := cutTo (skip 0) x
          let y := cutTo (skip 1) y
          let shared := min x.size y.size
          let differs (i : Nat) : Bool := x.get! i != y.get! i
          let positions := List.range shared
          let shorter :=
            if x.size < y.size then endOfFile a x (!o.has 'l') else endOfFile b y (!o.has 'l')
          if o.has 's' then
            return if x.size ≠ y.size || positions.any differs then 1 else 0
          else if o.has 'l' then
            let width := (toString (max x.size y.size)).length
            let octal (b : UInt8) : String := column 3 (Nat.toDigits 8 b.toNat)
            let lines := (positions.filter differs).map fun i =>
              column width (Nat.toDigits 10 (i + 1)) ++ " " ++ octal (x.get! i) ++ " " ++
                octal (y.get! i) ++ "\n"
            let _ ← writeBytes Fd.stdout (Text.bytes ("".intercalate lines))
            if x.size ≠ y.size then complain (name ++ ": " ++ shorter)
            return if x.size ≠ y.size || !lines.isEmpty then 1 else 0
          else
            match positions.find? differs with
            | some i =>
              let line := lineCount ((x.extract 0 i).push 0)
              let text := a ++ " " ++ b ++ " differ: byte " ++ toString (i + 1) ++ ", line " ++
                toString line ++ "\n"
              finish name (Text.bytes text) 1
            | none =>
              if x.size = y.size then return 0
              else
                complain (name ++ ": " ++ shorter)
                return 1

end Program

end CommandShell
