import Sieve.Config.Toml.Moment
import Sieve.Config.Toml.Number
import Sieve.Config.Toml.Text

/-!
Flat TOML files: keys with their values, one after another on lines of their own. A dotted key is a
path. Lists and inline tables are read through, but of what is in them only the form matters.
-/

namespace Sieve.Toml

/-- The parts of a key between its dots. -/
abbrev Path := List String

/-- A part of a key, bare or quoted, and what follows it. -/
def key? : List Char → Option (String × List Char)
  | '"' :: rest => (basicText? rest).map fun (key, rest) => (String.ofList key, rest)
  | '\'' :: rest => (literalText? rest).map fun (key, rest) => (String.ofList key, rest)
  | cs =>
    let key := cs.takeWhile isBare
    if key.isEmpty then none else some (String.ofList key, cs.dropWhile isBare)

/-- A key and what follows it and the blanks after it. The first argument bounds the parts. -/
def path? : Nat → List Char → Option (Path × List Char)
  | 0, _ => none
  | steps + 1, cs => do
    let (key, rest) ← key? cs
    match skipSpace rest with
    | '.' :: rest => do
      let (more, rest) ← path? steps (skipSpace rest)
      return (key :: more, rest)
    | rest => return ([key], rest)

/-- A path that is given twice, or both a value and parts. -/
def clash? : List Path → Option Path
  | [] => none
  | path :: more =>
    if more.any fun other => path.isPrefixOf other || other.isPrefixOf path then some path
    else clash? more

/-- A value that is neither text, list nor table goes up to one of these. -/
def endsPlain (c : Char) : Bool :=
  isSpace c || c == '\n' || c == '#' || c == ',' || c == ']' || c == '\x7d'

/-- Such a value, and what follows it. A time may follow a date after one space. -/
def plain (cs : List Char) : List Char × List Char :=
  let first := cs.takeWhile (!endsPlain ·)
  match cs.dropWhile (!endsPlain ·) with
  | ' ' :: digit :: rest =>
    if isDate first && digit.isDigit then
      (first ++ ' ' :: digit :: rest.takeWhile (!endsPlain ·), rest.dropWhile (!endsPlain ·))
    else (first, ' ' :: digit :: rest)
  | rest => (first, rest)

def plainValue? (cs : List Char) : Option Value :=
  if cs = ['t', 'r', 'u', 'e'] then some (.flag true)
  else if cs = ['f', 'a', 'l', 's', 'e'] then some (.flag false)
  else if isMoment cs then some .other
  else number? cs

/-- How deep lists and inline tables may stand in each other. -/
def depthLimit : Nat := 80

mutual

/-- A value and what follows it. The first argument bounds the steps, the second the depth. -/
def value? : (steps depth : Nat) → List Char → Option (Value × List Char)
  | 0, _, _ => none
  | steps + 1, depth, cs =>
    match cs with
    | '"' :: '"' :: '"' :: rest => (longText? rest).map fun rest => (.other, rest)
    | '\'' :: '\'' :: '\'' :: rest => (longLiteral? rest).map fun rest => (.other, rest)
    | '"' :: rest => (basicText? rest).map fun (_, rest) => (.other, rest)
    | '\'' :: rest => (literalText? rest).map fun (_, rest) => (.other, rest)
    | '[' :: rest =>
      match depth with
      | 0 => none
      | depth + 1 => (items? steps depth rest).map fun rest => (.other, rest)
    | '\x7b' :: rest =>
      match depth with
      | 0 => none
      | depth + 1 => do
        let (paths, rest) ← fields? steps depth rest
        guard (clash? paths).isNone
        return (.other, rest)
    | cs => do
      let (token, rest) := plain cs
      return (← plainValue? token, rest)

/-- What follows a list, after its opening bracket or one of its commas. -/
def items? : (steps depth : Nat) → List Char → Option (List Char)
  | 0, _, _ => none
  | steps + 1, depth, cs => do
    match ← skipGaps false cs with
    | ']' :: rest => return rest
    | cs => do
      let (_, rest) ← value? steps depth cs
      match ← skipGaps false rest with
      | ',' :: rest => items? steps depth rest
      | ']' :: rest => return rest
      | _ => none

/-- The keys of an inline table, after its opening brace or one of its commas, and what follows it.
Lines may end everywhere but inside a key. -/
def fields? : (steps depth : Nat) → List Char → Option (List Path × List Char)
  | 0, _, _ => none
  | steps + 1, depth, cs => do
    match ← skipGaps false cs with
    | '\x7d' :: rest => return ([], rest)
    | cs => do
      let (path, rest) ← path? steps cs
      let '=' :: rest ← skipGaps false rest | none
      let (_, rest) ← value? steps depth (← skipGaps false rest)
      match ← skipGaps false rest with
      | ',' :: rest => do
        let (more, rest) ← fields? steps depth rest
        return (path :: more, rest)
      | '\x7d' :: rest => return ([path], rest)
      | _ => none

end

/-- The keys and values up to the end. A value begins on the line of its key. -/
def entriesOf? : (steps : Nat) → List Char → Option (List (Path × Value))
  | 0, _ => none
  | steps + 1, cs => do
    match ← skipGaps false cs with
    | [] => return []
    | cs => do
      let (path, rest) ← path? steps cs
      let '=' :: rest := rest | none
      let (value, rest) ← value? steps depthLimit (skipSpace rest)
      guard (atLineEnd rest)
      return (path, value) :: (← entriesOf? steps rest)

/-- Without the carriage returns that stand before line feeds. -/
def dropReturns : List Char → List Char
  | [] => []
  | '\r' :: '\n' :: rest => '\n' :: dropReturns rest
  | c :: rest => c :: dropReturns rest

/-- Without a byte order mark at the start. -/
def dropMark : List Char → List Char
  | '\ufeff' :: rest => rest
  | cs => cs

/-- The entries of a file in order. No two steps are taken at one character. -/
def entries? (text : String) : Option (List (Path × Value)) :=
  let cs := dropReturns (dropMark text.toList)
  entriesOf? (2 * cs.length + 2) cs

end Sieve.Toml
