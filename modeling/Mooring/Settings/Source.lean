import Mooring.Complaint
import Mooring.Text.Blank
import Mooring.Text.Case
import Mooring.Value

/-! Where settings come from. A field takes the first of: the value given for it, the environment, a
file of settings, its default. Names match in any case. Of several values given for a field the
first counts, of several variables or lines the last. All fields are read even where some are
refused, so that every complaint is reported, in the order of the fields. -/

namespace Mooring

structure Sources where
  given : Record Value := []
  environment : Record String := []
  /-- Keys that the file leaves without a value count as not set. -/
  file : Record (Option String) := []

namespace Sources

def namesField (field name : String) : Bool :=
  Text.lower name.toList == field.toList

/-- The last entry under a name. -/
def lookUp {α : Type} (field : String) (entries : Record α) : Option α :=
  (entries.reverse.find? (fun entry => namesField field entry.1)).map (·.2)

/-- The value given for a field: the first entry under its name. -/
def givenFor (field : String) (given : Record Value) : Option Value :=
  (given.find? (fun entry => namesField field entry.1)).map (·.2)

/-- What the sources say about a field. -/
def find? (s : Sources) (field : String) : Option Value :=
  match givenFor field s.given with
  | some value => some value
  | none =>
    match lookUp field s.environment with
    | some text => some (.text text)
    | none => (lookUp field s.file).join.map .text

/-- The sources without empty environment variables. -/
def withoutEmpty (s : Sources) : Sources :=
  { s with environment := s.environment.filter (fun entry => entry.2 != "") }

end Sources

/-- The outcome of reading fields: a value, or what is wrong with each refused field. -/
def Reading (α : Type) : Type := Except (List Issue) α

namespace Reading

variable {α β : Type}

instance : Applicative Reading where
  pure a := Except.ok a
  seq f x := match f, x () with
    | .ok f, .ok a => .ok (f a)
    | .error issues, .ok _ => .error issues
    | .ok _, .error issues => .error issues
    | .error issues, .error more => .error (issues ++ more)

/-- Reads one field; the default is not put to the rule. -/
def field (sources : Sources) (name : String) (fallback : α)
    (rule : Value → Except Complaint α) : Reading α :=
  match sources.find? name with
  | none => .ok fallback
  | some value =>
    match rule value with
    | .ok a => .ok a
    | .error complaint => .error [⟨name, complaint⟩]

end Reading

end Mooring
