import Mooring.Session
import Mooring.Text.Cut

/-! What a helper container is created from. Image and labels always come from their own fields;
options of the same names give way. -/

namespace Mooring

structure HelperSpec where
  image : String
  /-- Null for the image's own command. -/
  command : Value := .null
  labels : Record Value
  options : Record Value := []
  deriving Repr

/-- A helper from an image, carrying the labels of a session. -/
def HelperSpec.ofImage (session image : String) : HelperSpec :=
  { image, labels := Session.labels session }

/-- The creation request that a spec stands for. -/
def HelperSpec.request (spec : HelperSpec) : Record Value :=
  let request := (spec.options.put "image" (.text spec.image)).put "labels" (.object spec.labels)
  match spec.command with
  | .null => request
  | command => request.put "command" command

/-- Repository and tag of an image name; a digest takes the place of the tag. A colon in front of
a slash belongs to a registry's port and starts no tag. -/
def cutImageName (name : List Char) : List Char × List Char :=
  match Text.cutLast '@' name with
  | some cut => cut
  | none =>
    match Text.cutLast ':' name with
    | some (repository, tag) => if tag.contains '/' then (name, []) else (repository, tag)
    | none => (name, [])

/-- Repository and tag to pull an image by. -/
def pullTarget (image : String) : String × String :=
  let (repository, tag) := cutImageName image.toList
  (String.ofList repository, if tag.isEmpty then "latest" else String.ofList tag)

end Mooring
