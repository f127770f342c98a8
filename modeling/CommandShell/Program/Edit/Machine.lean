import CommandShell.Program.Edit.Rule

/-!
# Carrying out rules

A `Machine` takes lines through rules, one at a time: `Machine.feed` gives it the next line, and it
goes on until it needs another. It may need one in the middle of the rules, where it goes on then.
What it writes is collected in `Machine.written`.
-/

namespace CommandShell

namespace Edit

/-- Something that is written: a text, or all that a file holds. -/
inductive Outlet
  | text (bytes : List Char)
  | file (path : String)

/-- A line as it has been read. -/
structure Input where
  line : List Char
  isLast : Bool
  /-- It has an end. -/
  ended : Bool

/-- What lines are taken through rules by. -/
structure Machine where
  rules : Array Rule
  /-- Lines are written only if a rule does it. -/
  quiet : Bool
  pattern : List Char := []
  held : List Char := []
  number : Nat := 0
  isLast : Bool := false
  ended : Bool := true
  /-- Something has been replaced. -/
  changed : Bool := false
  /-- What is to be written when the rules have been gone through, the last thing first. -/
  queue : List Outlet := []
  /-- Where to go on with the next line, and whether it is added to what is there. -/
  resume : Option (Nat × Bool) := none
  /-- The end of the last line that was written is still to come. -/
  owesEnd : Bool := false
  /-- What has been written, the last thing first. -/
  written : List Outlet := []
  /-- The code to end with. -/
  quitting : Option Nat := none

namespace Machine

/-! ## Writing -/

/-- Writes something. -/
def put (m : Machine) (o : Outlet) : Machine :=
  let written := if m.owesEnd then .text ['\n'] :: m.written else m.written
  { m with written := o :: written, owesEnd := false }

/-- Writes a text as a line. The last line has an end only if it was read with one. -/
def putLine (m : Machine) (cs : List Char) : Machine :=
  if m.isLast && !m.ended then { m.put (.text cs) with owesEnd := true }
  else m.put (.text (cs ++ ['\n']))

/-- Writes what waits for the end of the rules. -/
def flush (m : Machine) : Machine :=
  { m.queue.reverse.foldl put m with queue := [] }

/-- Goes through the end of the rules. -/
def finish (m : Machine) : Machine :=
  (if m.quiet then m else m.putLine m.pattern).flush

/-! ## Places -/

/-- A place is this line. -/
def isAt (m : Machine) : Place → Bool
  | .line number => number == m.number
  | .final => m.isLast
  | .containing r => r.occursIn m.pattern
  | .every first step => first ≤ m.number && (m.number - first) % step == 0
  | .later _ | .multiple _ => false

/-- The line that a stretch ends at which begins here, if that is known. -/
def stopOf (m : Machine) : Place → Option Nat
  | .line number => some number
  | .later count => some (m.number + count)
  | .multiple factor =>
    some (if factor = 0 then m.number else (m.number + factor - 1) / factor * factor)
  | _ => none

/-- The extent holds this line, and the extent for the lines after it. -/
def enter (m : Machine) : Extent → Bool × Extent
  | .all => (true, .all)
  | .only place => (m.isAt place, .only place)
  | .stretch first last phase =>
    let (here, phase) : Bool × Phase := match phase with
      | .outside =>
        if !m.isAt first then (false, .outside)
        else
          match m.stopOf last with
          | some stop => (true, if stop ≤ m.number then .outside else .inside (some stop))
          | none => (true, .inside none)
      | .inside (some stop) =>
        if m.number < stop then (true, .inside (some stop))
        else (m.number = stop || m.isAt first, .outside)
      | .inside none => (true, if m.isAt last then .outside else .inside none)
    (here, .stretch first last phase)

/-! ## Replacing -/

/-- A letter in a case. -/
def inCase (wanted : Option LetterCase) (c : Char) : Char :=
  match wanted with
  | some .upper => c.toUpper
  | some .lower => c.toLower
  | none => c

/-- What a replacement comes to. `next` is for the next letter only. -/
def replacementText (fit : Nat → List Char) (every next : Option LetterCase) :
    List Piece → List Char
  | [] => []
  | .case wanted :: rest => replacementText fit wanted none rest
  | .nextCase wanted :: rest => replacementText fit every (some wanted) rest
  | piece :: rest =>
    let cs := match piece with
      | .text c => [c]
      | .fit n => fit n
      | _ => []
    match cs with
    | [] => replacementText fit every next rest
    | c :: more =>
      inCase (next.or every) c :: more.map (inCase every) ++ replacementText fit every none rest

/-- A text with the places that fit replaced, and whether any were. `seen` counts those in front,
and `touching` tells that one of them ends here, so that nothing at all does not fit here again. -/
def replace (s : Substitution) (before : Option Char) (seen : Nat) (touching : Bool)
    (cs : List Char) : Nat → List Char × Bool
  | 0 => (cs, false)
  | fuel + 1 =>
    match s.expression.findFrom before cs with
    | none => (cs, false)
    | some f =>
      if f.found.isEmpty && f.before.isEmpty && touching then
        match cs with
        | [] => ([], false)
        | c :: rest =>
          let (text, changed) := replace s (some c) seen false rest fuel
          (c :: text, changed)
      else
        let seen := seen + 1
        let isWanted := seen = s.number || (s.everywhere && s.number < seen)
        let fit (n : Nat) : List Char :=
          if n = 0 then f.found else (f.after.groups.lookup n).getD []
        let put := if isWanted then replacementText fit none none s.replacement else f.found
        let (text, changed) :=
          if isWanted && !s.everywhere then (f.after.rest, false)
          else if !f.found.isEmpty then replace s f.after.before seen true f.after.rest fuel
          else
            match f.after.rest with
            | [] => ([], false)
            | c :: rest =>
              let (text, changed) := replace s (some c) seen false rest fuel
              (c :: text, changed)
        (f.before ++ put ++ text, isWanted || changed)

/-! ## Showing -/

/-- A character as it is shown without doubt. -/
def shown (c : Char) : List Char :=
  match c with
  | '\\' => ['\\', '\\']
  | '\x07' => ['\\', 'a']
  | '\x08' => ['\\', 'b']
  | '\x0c' => ['\\', 'f']
  | '\n' => ['\\', 'n']
  | '\r' => ['\\', 'r']
  | '\t' => ['\\', 't']
  | '\x0b' => ['\\', 'v']
  | c =>
    if 32 ≤ c.toNat && c.toNat < 127 then [c]
    else '\\' :: [c.toNat / 64, c.toNat / 8 % 8, c.toNat % 8].map fun d => Char.ofNat (48 + d)

/-- A text as it is shown without doubt, in lines that are not too long. -/
def showText (column : Nat) : List Char → List Char
  | [] => ['$', '\n']
  | c :: rest =>
    let cs := shown c
    if column + cs.length > 69 then ['\\', '\n'] ++ cs ++ showText cs.length rest
    else cs ++ showText (column + cs.length) rest

/-! ## Running -/

/-- The position of a label, or behind all rules for an empty one. -/
def target (m : Machine) (label : String) : Nat :=
  if label.isEmpty then m.rules.size else (m.rules.findIdx? (·.isLabel label)).getD m.rules.size

/-- Goes through the rules from a position on. -/
def run (m : Machine) (position : Nat) : Nat → Machine
  | 0 => { m with quitting := some 0 }
  | fuel + 1 =>
    match m.rules[position]? with
    | none => m.finish
    | some rule =>
      let (here, extent) := m.enter rule.extent
      let m := { m with rules := m.rules.modify position fun r => { r with extent } }
      let goOn (m : Machine) : Machine := run m (position + 1) fuel
      let leaves (m : Machine) : Machine := m.flush
      let jump (m : Machine) (label : String) : Machine := run m (m.target label) fuel
      if here == rule.negated then
        match rule.action with
        | .block stop => run m stop fuel
        | _ => goOn m
      else
        match rule.action with
        | .block _ | .label _ => goOn m
        | .jump label => jump m label
        | .jumpIfChanged label =>
          if m.changed then jump { m with changed := false } label else goOn m
        | .print => goOn (m.putLine m.pattern)
        | .printFirst => goOn (m.put (.text (m.pattern.takeWhile (· != '\n') ++ ['\n'])))
        | .delete => leaves m
        | .deleteFirst =>
          if m.pattern.contains '\n' then
            let rest := (m.pattern.dropWhile (· != '\n')).drop 1
            run { leaves m with pattern := rest, changed := false } 0 fuel
          else leaves m
        | .quit code printing =>
          let m := if printing then m.finish else m
          { m with quitting := some code }
        | .number => goOn (m.put (.text ((toString m.number).toList ++ ['\n'])))
        | .next =>
          if m.isLast then { m.finish with quitting := some 0 }
          else
            { (if m.quiet then m else m.putLine m.pattern).flush with
              resume := some (position + 1, false) }
        | .append =>
          if m.isLast then { m.finish with quitting := some 0 }
          else { m.flush with resume := some (position + 1, true) }
        | .hold appending =>
          goOn { m with held := if appending then m.held ++ '\n' :: m.pattern else m.pattern }
        | .recall appending =>
          goOn { m with pattern := if appending then m.pattern ++ '\n' :: m.held else m.held }
        | .exchange => goOn { m with pattern := m.held, held := m.pattern }
        | .insert text => goOn (m.put (.text text))
        | .appendText text => goOn { m with queue := .text text :: m.queue }
        | .appendFile path => goOn { m with queue := .file path :: m.queue }
        | .change text =>
          let isInside := match extent with
            | .stretch _ _ (.inside _) => !rule.negated
            | _ => false
          leaves (if isInside then m else m.put (.text text))
        | .exchangeLetters table =>
          goOn { m with pattern := m.pattern.map fun c => (table.lookup c).getD c }
        | .show => goOn (m.put (.text (showText 0 m.pattern)))
        | .substitute s =>
          let (pattern, changed) := replace s none 0 false m.pattern (2 * m.pattern.length + 2)
          let m := { m with pattern, changed := m.changed || changed }
          goOn (if changed && s.printing then m.putLine pattern else m)

/-- Takes the next line through the rules, with a bound on how many are gone through. -/
def feed (m : Machine) (i : Input) (bound : Nat) : Machine :=
  let m := { m with number := m.number + 1, isLast := i.isLast, ended := i.ended }
  match m.resume with
  | some (position, true) =>
    run { m with pattern := m.pattern ++ '\n' :: i.line, resume := none } position bound
  | some (position, false) => run { m with pattern := i.line, resume := none } position bound
  | none => run { m with pattern := i.line, changed := false } 0 bound

end Machine

end Edit

end CommandShell
