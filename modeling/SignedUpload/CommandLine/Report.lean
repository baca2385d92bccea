import SignedUpload.PendingFile
import SignedUpload.UploadedObject

/-! What the command line prints: rows of the file list, and stored objects as indented JSON. -/
namespace SignedUpload.CommandLine

def padLeft (width : Nat) (s : String) : String :=
  String.ofList (List.replicate (width - s.toList.length) ' ') ++ s

def padRight (width : Nat) (s : String) : String :=
  s ++ String.ofList (List.replicate (width - s.toList.length) ' ')

def rowLine (row : FileRow) : String :=
  padLeft 4 (Decimal.natText row.id) ++ "  " ++ padRight 40 row.name ++ " " ++
    padLeft 12 row.size ++ "  " ++ row.status ++ "\n"

def rowLines (rows : List FileRow) : String := String.join (rows.map rowLine)

def objectLines (o : UploadedObject) : String :=
  let line := fun (m : String × Json.Value) =>
    "    " ++ Json.quoted m.1 ++ ": " ++ m.2.text
  "  \x7b\n" ++ ",\n".intercalate (o.members.map line) ++ "\n  \x7d"

def objectsText (objects : List UploadedObject) : String :=
  if objects = [] then "[]\n"
  else "[\n" ++ ",\n".intercalate (objects.map objectLines) ++ "\n]\n"

end SignedUpload.CommandLine
