import DaemonMesh.Proofs.DocumentTokens
import DaemonMesh.Proofs.WrittenScalars

namespace DaemonMesh

namespace Json

mutual

/-- What reading makes of a written document: strings may come back with other escapes. -/
def reread : Json → Json
  | string pieces => string (pieces.map .reread)
  | array items => array (rereadItems items)
  | object members => object (rereadMembers members)
  | scalar => scalar

def rereadItems : List Json → List Json
  | [] => []
  | item :: rest => item.reread :: rereadItems rest

def rereadMembers : List (List StringPiece × Json) → List (List StringPiece × Json)
  | [] => []
  | (key, value) :: rest => (key.map .reread, value.reread) :: rereadMembers rest

end

mutual

/-- All numbers in the document are natural. -/
def Whole : Json → Prop
  | number _ => False
  | array items => WholeItems items
  | object members => WholeMembers members
  | _ => True

def WholeItems : List Json → Prop
  | [] => True
  | item :: rest => item.Whole ∧ WholeItems rest

def WholeMembers : List (List StringPiece × Json) → Prop
  | [] => True
  | (_, value) :: rest => value.Whole ∧ WholeMembers rest

end

end Json

section Documents

variable {tokens : List Token} {text : List Char}

/-- A line break and the indentation behind it are blanks, which may stand before any token. -/
theorem Spelled.lineAt (later : Spelled tokens text) (depth : Nat) :
    Spelled tokens ((Json.lineAt depth).toList ++ text) := by
  have shape : (Json.lineAt depth).toList ++ text =
      '\n' :: (List.replicate (2 * depth) ' ' ++ text) := by
    simp [Json.lineAt]
  rw [shape]
  refine .blank rfl ?_
  induction 2 * depth with
  | zero => exact later
  | succ width ih => exact .blank rfl ih

/-- The name of a member with its colon is spelled in front of whatever its value is spelled like.
-/
theorem Spelled.written (later : Spelled tokens text) (key : List StringPiece) :
    Spelled (.scalar (.string (key.map .reread)) :: .colon :: tokens)
      ((writtenString key).toList ++ ':' :: ' ' :: text) :=
  .token (writtenString_spelled key) (.token .colon (.blank rfl later))

-- The recursion is the writer's. What stands behind a value comes first, so each lemma goes from
-- the rest of the text to the text with one more value in front.
mutual

/-- A written value spells the tokens of what is read again. -/
theorem spelled_indented (json : Json) (whole : json.Whole) (depth : Nat) {tokens : List Token}
    {text : List Char} (later : Spelled tokens text) :
    Spelled (json.reread.tokens ++ tokens) ((json.indented depth).toList ++ text) := by
  match json with
  | .null =>
    simp only [Json.indented, Json.writtenScalar]
    exact .token .wordNull later
  | .bool true =>
    simp only [Json.indented, Json.writtenScalar]
    exact .token .wordTrue later
  | .bool false =>
    simp only [Json.indented, Json.writtenScalar]
    exact .token .wordFalse later
  | .natural value =>
    have written : (Token.scalar (.natural value)).Spelled (toString value).toList := by
      rw [Nat.toString_eq_ofList_toDigits, String.toList_ofList]
      exact .number (numeral_written value)
    exact .token written later
  | .number written => exact whole.elim
  | .string pieces => exact .token (writtenString_spelled pieces) later
  | .array [] =>
    simp only [Json.indented, Json.writtenScalar]
    show Spelled (.openArray :: .closeArray :: tokens) (['['] ++ ([']'] ++ text))
    exact .token .openArray (.token .closeArray later)
  | .array (item :: items) =>
    have closed : Spelled (.closeArray :: tokens) (']' :: text) := .token .closeArray later
    have filled := spelled_indentedItems (item :: items) whole (depth + 1) (List.cons_ne_nil _ _)
      (closed.lineAt depth)
    have opened := Spelled.token .openArray filled
    simpa [Json.indented, Json.reread, Json.rereadItems, Json.tokens] using opened
  | .object [] =>
    simp only [Json.indented, Json.writtenScalar]
    show Spelled (.openObject :: .closeObject :: tokens) (['\x7b'] ++ (['\x7d'] ++ text))
    exact .token .openObject (.token .closeObject later)
  | .object (member :: members) =>
    have closed : Spelled (.closeObject :: tokens) ('\x7d' :: text) := .token .closeObject later
    have filled := spelled_indentedMembers (member :: members) whole (depth + 1)
      (List.cons_ne_nil _ _) (closed.lineAt depth)
    have opened := Spelled.token .openObject filled
    simpa [Json.indented, Json.reread, Json.rereadMembers, Json.tokens] using opened

/-- The items of an array, each on a line of its own, are spelled as the tokens of what is read
back. By induction along with the documents in them. -/
theorem spelled_indentedItems (items : List Json) (whole : Json.WholeItems items) (depth : Nat)
    (filled : items ≠ []) {tokens : List Token} {text : List Char} (later : Spelled tokens text) :
    Spelled (separated (itemTokens (Json.rereadItems items)) ++ tokens)
      ((Json.indentedItems depth items).toList ++ text) := by
  match items with
  | [] => exact absurd rfl filled
  | [item] =>
    have last := (spelled_indented item whole.1 depth later).lineAt depth
    simpa [Json.indentedItems, Json.rereadItems, itemTokens, separated] using last
  | item :: next :: items =>
    have rest := spelled_indentedItems (next :: items) whole.2 depth (List.cons_ne_nil _ _) later
    have first := (spelled_indented item whole.1 depth (.token .comma rest)).lineAt depth
    simpa [Json.indentedItems, Json.rereadItems, itemTokens, separated] using first

/-- The same for the members of an object. -/
theorem spelled_indentedMembers (members : List (List StringPiece × Json))
    (whole : Json.WholeMembers members) (depth : Nat) (filled : members ≠ [])
    {tokens : List Token} {text : List Char} (later : Spelled tokens text) :
    Spelled (separated (memberTokens (Json.rereadMembers members)) ++ tokens)
      ((Json.indentedMembers depth members).toList ++ text) := by
  match members with
  | [] => exact absurd rfl filled
  | [(key, value)] =>
    have last := ((spelled_indented value whole.1 depth later).written key).lineAt depth
    simpa [Json.indentedMembers, Json.indentedMember, Json.rereadMembers, memberTokens, separated]
      using last
  | (key, value) :: next :: members =>
    have rest :=
      spelled_indentedMembers (next :: members) whole.2 depth (List.cons_ne_nil _ _) later
    have first :=
      ((spelled_indented value whole.1 depth (.token .comma rest)).written key).lineAt depth
    simpa [Json.indentedMembers, Json.indentedMember, Json.rereadMembers, memberTokens, separated]
      using first

end

/-- Written documents without fractions are read again, up to the escapes of their strings. -/
theorem read?_indented {json : Json} (whole : json.Whole) :
    Json.read? (json.indented 0) = some json.reread := by
  have spelled := spelled_indented json whole 0 Spelled.done
  rw [List.append_nil, List.append_nil] at spelled
  exact Json.read?_eq_some_iff.mpr spelled

end Documents

end DaemonMesh
