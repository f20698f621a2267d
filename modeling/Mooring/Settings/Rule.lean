import Mooring.Complaint
import Mooring.Text.Blank
import Mooring.Text.Case
import Mooring.Text.Digit
import Mooring.Value

/-! What a setting accepts. Numbers and flags may arrive as text, since an environment holds nothing
else; texts are taken only as texts. -/

namespace Mooring.Rule

open Text

def text : Value → Except Complaint String
  | .text s => .ok s
  | _ => .error .notAText

def optionalText : Value → Except Complaint (Option String)
  | .null => .ok none
  | v => (text v).map some

def trueWords : List String := ["1", "on", "t", "true", "y", "yes"]

def falseWords : List String := ["0", "off", "f", "false", "n", "no"]

/-- A flag written as a word, in any case of ASCII and without blanks around it. -/
def flagWord (s : String) : Except Complaint Bool :=
  let word := String.ofList (asciiLower s.toList)
  if trueWords.contains word then .ok true
  else if falseWords.contains word then .ok false
  else .error .boolUnreadable

/-- Whether a number fits in a signed word of 64 bits. -/
def fitsWord (n : Int) : Bool := -Nat.pow 2 63 ≤ n && n < Nat.pow 2 63

def flagNumber (n : Int) : Except Complaint Bool :=
  if n = 0 then .ok false else if n = 1 then .ok true else .error .boolUnreadable

/-- A whole double strictly inside the range of a signed word of 64 bits. -/
def wholeNumber (x : Binary64) : Except Complaint Int :=
  if !x.isWhole then .error .intHasFraction
  else if -Nat.pow 2 63 < x.truncate ∧ x.truncate < Nat.pow 2 63 then .ok x.truncate
  else .error .intTooLarge

def flag : Value → Except Complaint Bool
  | .bool b => .ok b
  | .int n => if fitsWord n then flagNumber n else .error .notABool
  | .float x =>
    match wholeNumber x with
    | .ok n => flagNumber n
    | .error _ => .error .notABool
  | .text s => flagWord s
  | _ => .error .notABool

/-- A flag that a blank text switches off. -/
def switch : Value → Except Complaint Bool
  | .text s => if s.toList.all isBlank then .ok false else flagWord s
  | v => flag v

/-- Blanks that may surround a number; the ASCII separators are not among them. -/
def isMargin (c : Char) : Bool := isBlank c && !(28 ≤ c.toNat && c.toNat ≤ 31)

def isAsciiDigit (c : Char) : Bool := '0' ≤ c && c ≤ '9'

/-- Drops a decimal point with nothing but zeros behind it, and at least one. -/
def dropZeroFraction (cs : List Char) : List Char :=
  match cs.dropWhile (· ≠ '.') with
  | '.' :: '0' :: zeros => if zeros.all (· == '0') then cs.takeWhile (· ≠ '.') else cs
  | _ => cs

/-- Drops the zeros at the front, and the underscores among them; of nothing but such, the last
character stays. What follows them may have a sign of its own. -/
def dropLeadingZeros? (cs : List Char) : Option (List Char) :=
  let startsNumber (c : Char) : Bool := ('1' ≤ c && c ≤ '9') || c == '-'
  match cs with
  | '0' :: rest =>
    match rest.dropWhile (fun c => c == '0' || c == '_') with
    | [] => cs.getLast?.map ([·])
    | c :: rest => if startsNumber c then some (c :: rest) else none
  | c :: rest => if startsNumber c then some (c :: rest) else none
  | [] => none

/-- Whether two underscores stand side by side. -/
def hasDoubledUnderscore : List Char → Bool
  | '_' :: '_' :: _ => true
  | _ :: cs => hasDoubledUnderscore cs
  | [] => false

/-- Drops the underscores that group digits: single ones, and none at the end. -/
def dropUnderscores? (cs : List Char) : Option (List Char) :=
  if cs.getLast? = some '_' || hasDoubledUnderscore cs then none
  else some (cs.filter (· ≠ '_'))

/-- The longest number that is read, with its sign. -/
def longestNumber : Nat := 4300

/-- A number in plain notation: a minus, and digits without a zero in front of them. -/
def plainNumber (cs : List Char) : Except Complaint Int :=
  let (negative, body) := match cs with
    | '-' :: cs => (true, cs)
    | cs => (false, cs)
  let digits := body.takeWhile isAsciiDigit
  let isWhole := digits.length == body.length
  match digits with
  | [] => .error .intUnreadable
  | '0' :: more => if isWhole && more.isEmpty then .ok 0 else .error .intUnreadable
  | digits =>
    if longestNumber < digits.length + (if negative then 1 else 0) then .error .intTooLarge
    else if isWhole then .ok (if negative then -digitsValue digits else digitsValue digits)
    else .error .intUnreadable

/-- Brings a number into plain notation: no blanks around it, no plus, no zeros at its ends that say
nothing, no underscores. -/
def toPlain? (cs : List Char) : Option (List Char) := do
  let core := ((cs.dropWhile isMargin).reverse.dropWhile isMargin).reverse
  let unsigned ← match core with
    | '+' :: '-' :: _ => none
    | '+' :: cs => some cs
    | cs => some cs
  dropUnderscores? (← dropLeadingZeros? (dropZeroFraction unsigned))

def numberText (s : String) : Except Complaint Int :=
  match toPlain? s.toList with
  | some cs => plainNumber cs
  | none => .error .intUnreadable

def number : Value → Except Complaint Int
  | .bool b => .ok (if b then 1 else 0)
  | .int n => .ok n
  | .float x => wholeNumber x
  | .text s => numberText s
  | _ => .error .notAnInt

/-- A number of at least `bound`. -/
def numberFrom (bound : Int) (v : Value) : Except Complaint Int := do
  let n ← number v
  if n < bound then throw (.lessThan bound) else return n

/-- Groups of digits of any script, joined by single points. One line end may follow. -/
def isDottedNumber (cs : List Char) : Bool :=
  let body := match cs.reverse with
    | '\n' :: rest => rest.reverse
    | _ => cs
  (splitAt (· == '.') body).all (fun group => !group.isEmpty && group.all isDigit)

def dottedVersion (v : Value) : Except Complaint String := do
  let s ← text v
  if isDottedNumber s.toList then return s
  else throw (.rejected "minimum_docker_version must be a dotted numeric version, e.g. 1.6.0")

/-- How the address of a daemon may begin. -/
def daemonSchemes : List String :=
  ["unix://", "tcp://", "npipe://", "http://", "https://", "ssh://"]

/-- The address of a daemon; an empty one is none. -/
def daemonAddress (v : Value) : Except Complaint (Option String) := do
  match ← optionalText v with
  | none => return none
  | some s =>
    if s = "" then return none
    else if daemonSchemes.any (fun scheme => scheme.toList.isPrefixOf s.toList) then
      return some s
    else throw (.rejected
      ("docker_host must start with one of " ++ ", ".intercalate daemonSchemes))

end Mooring.Rule
