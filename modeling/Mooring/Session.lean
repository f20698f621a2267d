import Mooring.Record
import Mooring.Text.Cut
import Mooring.Value.Print

/-! The marks that tell the resources of this session apart from those of others on the same
daemon. -/

namespace Mooring.Session

def ownerLabel : String := "org.dockerlink"

def sessionLabel : String := ownerLabel ++ ".sessionId"

/-- The labels of a session. -/
def labels (session : String) : Record Value :=
  [(ownerLabel, .text "true"), (sessionLabel, .text session)]

/-- The filter of one label, as the daemon takes it. -/
def labelFilter (key : String) (value : Value) : String := key ++ "=" ++ value.display

/-- The filters that match every given label. -/
def labelFilters (labels : Record Value) : List String :=
  labels.map (fun (key, value) => labelFilter key value)

/-- A label cut at its first `=`; none without a key or without `=`. -/
def readLabel (text : String) : Option (String × String) :=
  match Text.cutFirst '=' text.toList with
  | some ([], _) => none
  | some (key, value) => some (String.ofList key, String.ofList value)
  | none => none

end Mooring.Session
