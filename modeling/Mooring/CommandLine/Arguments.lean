import Mooring.Text.Cut
import Mooring.Text.Digit
import Mooring.Value.Print

/-! The arguments of a command line. A grammar names the options that take a value and what may
stand besides options; help can always be asked for. An option may be cut short while it stays
clear which one is meant, and its value may follow it or be joined to it by `=`. After `--`
nothing is an option. -/

namespace Mooring.CommandLine

/-- What may stand on a command line besides options. -/
inductive Operand where
  | absent
  | single (name : String)
  /-- The name of a command and everything after it. -/
  | command (name : String)
  | everything
  deriving DecidableEq, Repr

/-- An option that takes a value, and why it may refuse one. -/
structure ValueOption where
  name : String
  refusal : String → Option String

structure Grammar where
  options : List ValueOption
  operand : Operand
  help : String

inductive UsageFault where
  | ambiguous (text : String) (readings : List String)
  /-- A value for the option that asks for help. -/
  | valueForHelp (value : String)
  | valueMissing (option : String)
  | valueRefused (option reason : String)
  | operandMissing (name : String)
  | unknownCommand (operand text : String) (known : List String)
  | unrecognized (arguments : List String)
  | nothingToRun
  | noLabel
  deriving DecidableEq, Repr

/-- Why a command line asks for nothing to be done. -/
inductive Halt where
  | help (text : String)
  | usage (fault : UsageFault)
  deriving DecidableEq, Repr

def UsageFault.message : UsageFault → String
  | .ambiguous text readings =>
    "ambiguous option: " ++ text ++ " could match " ++ ", ".intercalate readings
  | .valueForHelp value =>
    "argument -h/--help: ignored explicit argument " ++ Value.quote value
  | .valueMissing option => "argument " ++ option ++ ": expected one argument"
  | .valueRefused option reason => "argument " ++ option ++ ": " ++ reason
  | .operandMissing name => "the following arguments are required: " ++ name
  | .unknownCommand operand text known =>
    "argument " ++ operand ++ ": invalid choice: " ++ Value.quote text ++ " (choose from " ++
      ", ".intercalate (known.map Value.quote) ++ ")"
  | .unrecognized arguments => "unrecognized arguments: " ++ " ".intercalate arguments
  | .nothingToRun => "run requires a command"
  | .noLabel => "at least one --label is required"

/-! ### Words -/

/-- What stands behind the name of an option in the same argument. -/
inductive Tail where
  | absent
  /-- Behind an `=`. -/
  | assigned (value : String)
  /-- Behind a short name, with or without an `=`. -/
  | joined (cs : List Char)
  deriving DecidableEq, Repr

inductive Role where
  | plain
  | separator
  /-- It looks like an option and is none. -/
  | unknown
  | help (tail : Tail)
  | valued (option : ValueOption) (tail : Tail)

structure Word where
  text : String
  role : Role

def shortHelp : List Char := ['-', 'h']

def spellings (g : Grammar) : List String :=
  String.ofList shortHelp :: "--help" :: g.options.map (·.name)

/-- The option that a full spelling stands for. -/
def roleOf (g : Grammar) (spelling : String) (tail : Tail) : Role :=
  match g.options.find? (fun option => option.name == spelling) with
  | some option => .valued option tail
  | none => .help tail

/-- A minus and digits, with at most one point in front of the last of them. -/
def isNegativeNumber (cs : List Char) : Bool :=
  match cs with
  | '-' :: cs =>
    let body := match cs.reverse with
      | '\n' :: rest => rest.reverse
      | _ => cs
    match Text.cutFirst '.' body with
    | some (whole, fraction) =>
      whole.all Text.isDigit && !fraction.isEmpty && fraction.all Text.isDigit
    | none => !body.isEmpty && body.all Text.isDigit
  | _ => false

/-- The spellings that a text may be short for, and what follows it. -/
def readings (g : Grammar) (text : List Char) : List (String × Tail) :=
  match text with
  | '-' :: '-' :: _ =>
    let (start, tail) := match Text.cutFirst '=' text with
      | some (start, value) => (start, Tail.assigned (String.ofList value))
      | none => (text, Tail.absent)
    let meant := (spellings g).filter (fun spelling => start.isPrefixOf spelling.toList)
    meant.map (fun spelling => (spelling, tail))
  | _ =>
    if shortHelp.isPrefixOf text then [(String.ofList shortHelp, .joined (text.drop 2))] else []

/-- The role of an argument that starts like an option and is none by its full name. -/
def shortenedRole (g : Grammar) (text : String) : Except UsageFault Role :=
  match readings g text.toList with
  | [(spelling, tail)] => .ok (roleOf g spelling tail)
  | [] =>
    if isNegativeNumber text.toList || text.toList.contains ' ' then .ok .plain else .ok .unknown
  | several => .error (.ambiguous text (several.map (·.1)))

/-- The full name of an option in front of an `=`, and the tail with the value behind it. -/
def assignment? (g : Grammar) (text : String) : Option (String × Tail) :=
  match Text.cutFirst '=' text.toList with
  | some (name, value) =>
    if name = shortHelp then some (String.ofList name, .joined value)
    else if (spellings g).contains (String.ofList name) then
      some (String.ofList name, .assigned (String.ofList value))
    else none
  | none => none

def readRole (g : Grammar) (text : String) : Except UsageFault Role :=
  match text.toList with
  | '-' :: _ :: _ =>
    if (spellings g).contains text then .ok (roleOf g text .absent)
    else
      match assignment? g text with
      | some (name, tail) => .ok (roleOf g name tail)
      | none => shortenedRole g text
  | _ => .ok .plain

def readWords (g : Grammar) : List String → Except UsageFault (List Word)
  | [] => .ok []
  | text :: texts =>
    if text = "--" then .ok (⟨text, .separator⟩ :: texts.map (fun text => ⟨text, .plain⟩))
    else do
      let role ← readRole g text
      let words ← readWords g texts
      return ⟨text, role⟩ :: words

/-! ### Reading -/

/-- What a command line holds. -/
structure Arguments where
  /-- Every option that was given, with its value. -/
  values : List (String × String) := []
  /-- The operand, once it is found. -/
  operand : Option (List String) := none
  unrecognized : List String := []
  deriving DecidableEq, Repr

def texts (words : List Word) : List String := words.map (·.text)

def startsPlain : List Word → Bool
  | ⟨_, .plain⟩ :: _ => true
  | _ => false

/-- The operand at the front of some words, and the words after it. -/
def takeOperand : Operand → List Word → Option (List String × List Word)
  | .single _, ⟨text, .plain⟩ :: ⟨_, .separator⟩ :: words => some ([text], words)
  | .single _, ⟨text, .plain⟩ :: words => some ([text], words)
  | .single _, ⟨_, .separator⟩ :: ⟨text, .plain⟩ :: words => some ([text], words)
  | .command _, ⟨text, .separator⟩ :: words =>
    if startsPlain words then some (text :: texts words, []) else none
  | .command _, words => if startsPlain words then some (texts words, []) else none
  | .everything, words => some (texts words, [])
  | _, _ => none

theorem length_of_takeOperand {operand : Operand} {word : Word} {words rest : List Word}
    {taken : List String} (h : takeOperand operand (word :: words) = some (taken, rest)) :
    rest.length ≤ words.length := by
  unfold takeOperand at h
  split at h <;> grind

/-- The operand at the front of some words, unless there is one already. -/
def Arguments.takeOperand? (arguments : Arguments) (operand : Operand) (words : List Word) :
    Option (List String × List Word) :=
  if arguments.operand.isSome then none else takeOperand operand words

theorem Arguments.length_of_takeOperand? {arguments : Arguments} {operand : Operand} {word : Word}
    {words rest : List Word} {taken : List String}
    (h : arguments.takeOperand? operand (word :: words) = some (taken, rest)) :
    rest.length ≤ words.length := by
  unfold Arguments.takeOperand? at h
  split at h
  · exact absurd h (by simp)
  · exact length_of_takeOperand h

/-- Short names may be run together: what stands behind one asks for help if it is made of more of
them, and is a value that help does not take otherwise. -/
def helpOr (g : Grammar) : List Char → Halt
  | ['h'] => .help g.help
  | 'h' :: cs => helpOr g cs
  | value => .usage (.valueForHelp (String.ofList value))

/-- Where an option asks for help. -/
def helpHalt (g : Grammar) : Tail → Halt
  | .absent => .help g.help
  | .assigned value => .usage (.valueForHelp value)
  | .joined cs => helpOr g cs

/-- Takes a value for an option. -/
def Arguments.give (arguments : Arguments) (option : ValueOption) (value : String) :
    Except Halt Arguments :=
  match option.refusal value with
  | some reason => .error (.usage (.valueRefused option.name reason))
  | none => .ok { arguments with values := arguments.values ++ [(option.name, value)] }

def Arguments.extra (arguments : Arguments) (text : String) : Arguments :=
  { arguments with unrecognized := arguments.unrecognized ++ [text] }

/-- Reads words from left to right. -/
def collect (g : Grammar) (arguments : Arguments) (words : List Word) : Except Halt Arguments :=
  match words with
  | [] => .ok arguments
  | word :: words =>
    match word.role with
    | .unknown => collect g (arguments.extra word.text) words
    | .help tail => .error (helpHalt g tail)
    | .valued option (.assigned value) => do
      let arguments ← arguments.give option value
      collect g arguments words
    | .valued option _ =>
      match words with
      | ⟨value, .plain⟩ :: words => do
        let arguments ← arguments.give option value
        collect g arguments words
      | _ => .error (.usage (.valueMissing option.name))
    | _ =>
      match _taken : arguments.takeOperand? g.operand (word :: words) with
      | some (operand, rest) => collect g { arguments with operand := some operand } rest
      | none => collect g (arguments.extra word.text) words
  termination_by words.length
  decreasing_by
    · exact Nat.lt_succ_self _
    · exact Nat.lt_succ_self _
    · exact Nat.lt_succ_of_lt (Nat.lt_succ_self _)
    · exact Nat.lt_succ_of_le (Arguments.length_of_takeOperand? _taken)
    · exact Nat.lt_succ_self _

/-- An operand has to be there, unless it may be empty. -/
def requireOperand (g : Grammar) (arguments : Arguments) : Except Halt Arguments :=
  match arguments.operand, g.operand with
  | some _, _ => .ok arguments
  | none, .absent => .ok arguments
  | none, .everything => .ok { arguments with operand := some [] }
  | none, .single name => .error (.usage (.operandMissing name))
  | none, .command name => .error (.usage (.operandMissing name))

/-- Reads arguments by a grammar. -/
def readArguments (g : Grammar) (arguments : List String) : Except Halt Arguments := do
  let words ← (readWords g arguments).mapError .usage
  let found ← collect g {} words
  requireOperand g found

end Mooring.CommandLine
