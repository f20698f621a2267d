import Mooring.Record
import Mooring.Text.Blank
import Mooring.Text.Cut
import Mooring.Text.Line

/-! A file of settings: lines of `KEY=value`, with an optional `export` in front. A value may stand
in quotes, where it may go over several lines; without them it ends at the line or at a comment. A
key alone unsets what was set under it before. A line that fits none of this is skipped from where
it stops to fit. `$` with a name in braces stands for a value set before. -/

namespace Mooring.SettingsFile

open Text

/-- A blank that does not end a line. -/
def isInlineBlank (c : Char) : Bool := isBlank c && c ≠ '\n' && c ≠ '\r'

def isLineEnd (c : Char) : Bool := c == '\n' || c == '\r'

/-- The rest of a text after its current line. -/
def skipLine (cs : List Char) : List Char :=
  match cs.dropWhile (fun c => !isLineEnd c) with
  | [] => []
  | _ :: rest => rest

def skipExport (cs : List Char) : List Char :=
  let word := "export".toList
  if word.isPrefixOf cs then
    match cs.drop word.length with
    | c :: rest => if isInlineBlank c then rest.dropWhile isInlineBlank else cs
    | [] => cs
  else cs

/-- A key: in single quotes, or up to a blank, `=` or `#`. -/
def takeKey? (cs : List Char) : Option (List Char × List Char) :=
  match cs with
  | '\'' :: rest =>
    match cutFirst '\'' rest with
    | some (key, rest) => if key.isEmpty then none else some (key, rest)
    | none => none
  | _ =>
    let isKeyChar (c : Char) : Bool := c ≠ '=' && c ≠ '#' && !isBlank c
    let key := cs.takeWhile isKeyChar
    if key.isEmpty then none else some (key, cs.dropWhile isKeyChar)

/-- The characters up to a closing quote, with the escapes in them still as written; a backslash
never leaves the character behind it to close the quote. -/
def takeQuoted? (quote : Char) : List Char → Option (List Char × List Char)
  | [] => none
  | '\\' :: c :: rest =>
    (takeQuoted? quote rest).map (fun (value, rest) => ('\\' :: c :: value, rest))
  | c :: rest =>
    if c = quote then some ([], rest)
    else if c = '\\' then none
    else (takeQuoted? quote rest).map (fun (value, rest) => (c :: value, rest))

/-- Reads the escapes of a quoted value; between single quotes only the quote and the backslash
can be escaped. -/
def readEscapes (quote : Char) : List Char → List Char
  | '\\' :: c :: rest =>
    if c = '\\' ∨ c = '\'' then c :: readEscapes quote rest
    else if quote = '\'' then '\\' :: readEscapes quote (c :: rest)
    else
      match c with
      | '"' => '"' :: readEscapes quote rest
      | 'a' => '\x07' :: readEscapes quote rest
      | 'b' => '\x08' :: readEscapes quote rest
      | 'f' => '\x0c' :: readEscapes quote rest
      | 'n' => '\n' :: readEscapes quote rest
      | 'r' => '\r' :: readEscapes quote rest
      | 't' => '\t' :: readEscapes quote rest
      | 'v' => '\x0b' :: readEscapes quote rest
      | _ => '\\' :: readEscapes quote (c :: rest)
  | c :: rest => c :: readEscapes quote rest
  | [] => []

/-- A line without the comment that blanks set off from it. -/
def dropComment : List Char → List Char
  | [] => []
  | c :: rest =>
    if isBlank c && ((rest.dropWhile isBlank).head? == some '#') then []
    else c :: dropComment rest

/-- A value behind the `=`, and what follows it. A comment needs a blank in front of it, which may
be one of those between the `=` and the value. -/
def takeValue? (cs : List Char) : Option (List Char × List Char) :=
  match cs.dropWhile isInlineBlank with
  | '\'' :: rest =>
    (takeQuoted? '\'' rest).map (fun (value, rest) => (readEscapes '\'' value, rest))
  | '"' :: rest =>
    (takeQuoted? '"' rest).map (fun (value, rest) => (readEscapes '"' value, rest))
  | _ =>
    let line := cs.takeWhile (fun c => !isLineEnd c)
    some ((trimRight (dropComment line)).dropWhile isBlank,
      cs.dropWhile (fun c => !isLineEnd c))

/-- Blanks and a comment up to the end of the line, and what follows that line. -/
def finishLine? (cs : List Char) : Option (List Char) :=
  let rest := cs.dropWhile isInlineBlank
  let rest := if rest.head? = some '#' then rest.dropWhile (fun c => !isLineEnd c) else rest
  match rest with
  | [] => some []
  | c :: rest => if isLineEnd c then some rest else none

/-- What a line sets: a key to a value, or a key to nothing. -/
abbrev Binding := List Char × Option (List Char)

/-- What the line at the front of a text sets, if anything, and what follows that line. Where a line
does not fit, the rest of the line at that place is dropped with it. -/
def takeBinding (cs : List Char) : Option Binding × List Char :=
  let cs := skipExport cs
  let finish (binding : Option Binding) (rest : List Char) : Option Binding × List Char :=
    match finishLine? rest with
    | some rest => (binding, rest)
    | none => (none, skipLine rest)
  if cs.head? = some '#' then finish none cs
  else
    match takeKey? cs with
    | none => (none, skipLine cs)
    | some (key, rest) =>
      match rest.dropWhile isInlineBlank with
      | '=' :: rest =>
        match takeValue? rest with
        | some (value, rest) => finish (some (key, some value)) rest
        | none => (none, skipLine rest)
      | rest => finish (some (key, none)) rest

/-- What the lines of a file set, in order. -/
def bindings : (budget : Nat) → List Char → List Binding
  | 0, _ => []
  | budget + 1, cs =>
    match cs.dropWhile isBlank with
    | [] => []
    | cs =>
      match takeBinding cs with
      | (some binding, rest) => binding :: bindings budget rest
      | (none, rest) => bindings budget rest

/-- A reference in braces: its name, its fallback, and what follows it. -/
def takeReference? (cs : List Char) : Option (List Char × List Char × List Char) := do
  let (inside, rest) ← cutFirst '\x7d' cs
  let name := inside.takeWhile (· ≠ ':')
  match inside.dropWhile (· ≠ ':') with
  | [] => return (name, [], rest)
  | ':' :: '-' :: fallback => return (name, fallback, rest)
  | _ => none

/-- A value with its references replaced. One to a key that is set to nothing leaves nothing. -/
def expand (known : Record (Option String)) : (budget : Nat) → List Char → List Char
  | 0, cs => cs
  | _, [] => []
  | budget + 1, '$' :: '\x7b' :: cs =>
    match takeReference? cs with
    | some (name, fallback, rest) =>
      let value := match known.get? (String.ofList name) with
        | some value => (value.getD "").toList
        | none => fallback
      value ++ expand known budget rest
    | none => '$' :: expand known budget ('\x7b' :: cs)
  | budget + 1, c :: cs => c :: expand known budget cs

/-- The settings of a file, read while an environment is in force. -/
def read (environment : Record String) (file : List Char) : Record (Option String) :=
  let text := (joinReturns file).map (fun c => if c = '\r' then '\n' else c)
  let outside : Record (Option String) := environment.map (fun (key, value) => (key, some value))
  (bindings (text.length + 1) text).foldl
    (fun known (key, value) =>
      let seen := outside.putAll known
      known.put (String.ofList key)
        (value.map (fun value => String.ofList (expand seen (value.length + 1) value))))
    []

end Mooring.SettingsFile
