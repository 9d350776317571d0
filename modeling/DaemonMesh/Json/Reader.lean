import DaemonMesh.Json.Token

namespace DaemonMesh

/-- A container whose end has not come yet, with what it holds so far, newest first. -/
inductive OpenContainer
  | array (items : List Json)
  | object (members : List (List StringPiece × Json)) (key : List StringPiece)

/-- What may come next. -/
inductive Expected
  | value
  | firstItem
  | firstKey
  | key
  | colon
  | separator
  | nothing (document : Json)

/-- A reader between two tokens. Open containers stand on a stack of the reader's own, so that
depth of nesting costs no depth of calls. In an open object whose member is not yet begun, the
stored key is a leftover that the next key replaces. -/
structure JsonReader where
  containers : List OpenContainer
  expected : Expected

namespace JsonReader

def start : JsonReader := ⟨[], .value⟩

/-- A value has ended: it goes into the innermost open container, or is the document. -/
def accept (value : Json) : List OpenContainer → JsonReader
  | [] => ⟨[], .nothing value⟩
  | .array items :: rest => ⟨.array (value :: items) :: rest, .separator⟩
  | .object members key :: rest => ⟨.object ((key, value) :: members) key :: rest, .separator⟩

def beginValue (containers : List OpenContainer) : Token → Option JsonReader
  | .openObject => some ⟨.object [] [] :: containers, .firstKey⟩
  | .openArray => some ⟨.array [] :: containers, .firstItem⟩
  | .scalar value => some (accept value containers)
  | _ => none

def close : List OpenContainer → Token → Option JsonReader
  | .array items :: rest, .closeArray => some (accept (.array items.reverse) rest)
  | .object members _ :: rest, .closeObject => some (accept (.object members.reverse) rest)
  | _, _ => none

def takeKey : List OpenContainer → Token → Option JsonReader
  | .object members _ :: rest, .scalar (.string key) => some ⟨.object members key :: rest, .colon⟩
  | _, _ => none

/-- A comma asks for another item or another key, never for the end. -/
def continue? : List OpenContainer → Option JsonReader
  | .array items :: rest => some ⟨.array items :: rest, .value⟩
  | .object members key :: rest => some ⟨.object members key :: rest, .key⟩
  | [] => none

def step (reader : JsonReader) (token : Token) : Option JsonReader :=
  match reader.expected with
  | .value => beginValue reader.containers token
  | .firstItem =>
    match token with
    | .closeArray => close reader.containers token
    | _ => beginValue reader.containers token
  | .firstKey =>
    match token with
    | .closeObject => close reader.containers token
    | _ => takeKey reader.containers token
  | .key => takeKey reader.containers token
  | .colon =>
    match token with
    | .colon => some ⟨reader.containers, .value⟩
    | _ => none
  | .separator =>
    match token with
    | .comma => continue? reader.containers
    | _ => close reader.containers token
  | .nothing _ => none

def finish (reader : JsonReader) : Option Json :=
  match reader.expected with
  | .nothing document => some document
  | _ => none

end JsonReader

/-- Reads one document that fills the whole text, blanks aside. -/
def Json.read? (text : String) : Option Json := do
  let tokens ← tokens? text.toList
  let reader ← tokens.foldlM JsonReader.step .start
  reader.finish

end DaemonMesh
