import DaemonMesh.Json.Tree

namespace DaemonMesh

namespace Json

/-- The values of all members with one name. -/
def valuesOf (name : String) (members : List (String × Json)) : List Json :=
  (members.filter fun member => member.1 == name).map Prod.snd

/-- A field may be left out but not be given twice. -/
def field? (members : List (String × Json)) (name : String) : Option (Option Json) :=
  match valuesOf name members with
  | [] => some none
  | [value] => some (some value)
  | _ => none

/-- The members with their keys as texts, if every key is one. -/
def namedMembers? (members : List (List StringPiece × Json)) : Option (List (String × Json)) :=
  members.mapM fun member => (·, member.2) <$> pieceText? member.1

/-- Reads a record: an object, whose other members are ignored, or an array of the fields in
order, which may stop early. Each field comes out as its value or as left out. -/
def fields? (names : List String) : Json → Option (List (Option Json))
  | object members => do
    let members ← namedMembers? members
    names.mapM (field? members)
  | array items =>
    if items.length ≤ names.length then
      some (items.map some ++ List.replicate (names.length - items.length) none)
    else none
  | _ => none

/-- Reads a bare name, or an object with that name as its only key and nothing under it. -/
def variant? : Json → Option String
  | string pieces => pieceText? pieces
  | object [(key, null)] => pieceText? key
  | _ => none

end Json

end DaemonMesh
