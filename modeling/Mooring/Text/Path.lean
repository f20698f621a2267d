import Mooring.Text.Blank
import Mooring.Text.Cut

/-! Paths below the working directory. -/

namespace Mooring.Text

/-- The names on a path, with every `..` carried out that has a name in front of it; `done` holds
the names so far, the last one first. -/
def pathNames (done : List (List Char)) : List (List Char) → List (List Char)
  | [] => done.reverse
  | name :: names =>
    if name = [] ∨ name = ['.'] then pathNames done names
    else if name = ['.', '.'] then
      match done with
      | [] => pathNames [name] names
      | last :: before =>
        if last = ['.', '.'] then pathNames (name :: done) names else pathNames before names
    else pathNames (name :: done) names

/-- The shortest form of a relative path. -/
def plainPath (path : List Char) : List Char :=
  joinWith ['/'] (pathNames [] (splitAt (· == '/') path))

/-- The names on the way to the place of a path, without its own. -/
def namesAbove (path : List Char) : List (List Char) :=
  ((splitAt (· == '/') path).filter (fun name => name ≠ [] ∧ name ≠ ['.'])).dropLast

/-- Whether a path ends in a name, as the path of a file has to. -/
def endsInName (path : List Char) : Bool :=
  match (splitAt (· == '/') path).getLast? with
  | some name => name ≠ [] && name ≠ ['.']
  | none => false

end Mooring.Text
