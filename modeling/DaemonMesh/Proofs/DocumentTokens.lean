import DaemonMesh.Proofs.SpelledTokens

namespace DaemonMesh

/-- Parts with a comma between each two of them. -/
def separated : List (List Token) → List Token
  | [] => []
  | [part] => part
  | part :: rest => part ++ .comma :: separated rest

/-- Parts with a comma behind each of them. -/
def ahead (parts : List (List Token)) : List Token := parts.flatMap (· ++ [.comma])

/-- A part in front of others is followed by a comma. -/
theorem separated_cons (part : List Token) {rest : List (List Token)} (more : rest ≠ []) :
    separated (part :: rest) = part ++ .comma :: separated rest := by
  cases rest with
  | nil => exact absurd rfl more
  | cons => rfl

/-- Seen from the end, every part but the last has its comma. -/
theorem separated_concat (parts : List (List Token)) (last : List Token) :
    separated (parts ++ [last]) = ahead parts ++ last := by
  induction parts with
  | nil => rfl
  | cons first rest ih =>
    rw [List.cons_append, separated_cons first (by simp), ih]
    simp [ahead]

/-- Parts that are followed by one more comma are just the parts ahead of something. -/
theorem separated_comma {parts : List (List Token)} (filled : parts ≠ []) :
    separated parts ++ [.comma] = ahead parts := by
  obtain ⟨front, last, rfl⟩ := parts.eq_nil_or_concat.resolve_left filled
  rw [List.concat_eq_append, separated_concat]
  simp [ahead]

mutual

/-- The tokens of a document, in order. -/
def Json.tokens : Json → List Token
  | .array items => .openArray :: (separated (itemTokens items) ++ [.closeArray])
  | .object members => .openObject :: (separated (memberTokens members) ++ [.closeObject])
  | scalar => [.scalar scalar]

def itemTokens : List Json → List (List Token)
  | [] => []
  | item :: rest => item.tokens :: itemTokens rest

def memberTokens : List (List StringPiece × Json) → List (List Token)
  | [] => []
  | (key, value) :: rest =>
    (.scalar (.string key) :: .colon :: value.tokens) :: memberTokens rest

end

/-- The recursion over items is a map, which says where the tokens of one item stand among the
others. -/
theorem itemTokens_eq_map (items : List Json) : itemTokens items = items.map Json.tokens := by
  induction items with
  | nil => rfl
  | cons item rest ih => rw [itemTokens, ih, List.map_cons]

/-- A member is its name, a colon and the tokens of its value, in the order of the members. -/
theorem memberTokens_eq_map (members : List (List StringPiece × Json)) :
    memberTokens members =
      members.map fun member => .scalar (.string member.1) :: .colon :: member.2.tokens := by
  induction members with
  | nil => rfl
  | cons member rest ih => rw [memberTokens, ih, List.map_cons]

/-- A value that is one token stands for itself. -/
def Token.Flat (token : Token) : Prop := ∀ value, token = .scalar value → value.tokens = [token]

/-- The grammar spells single values only as scalars, never as arrays or objects. -/
theorem Token.Spelled.flat {token : Token} {word : List Char} (spelled : token.Spelled word) :
    token.Flat := by
  rintro value rfl
  cases spelled with
  | number numeral => cases numeral <;> rfl
  | _ => rfl

/-- So no token of a text that was read carries a whole document. -/
theorem Spelled.flat {tokens : List Token} {text : List Char} (spelled : Spelled tokens text) :
    ∀ token ∈ tokens, token.Flat := by
  induction spelled with
  | done => exact nofun
  | blank _ _ ih => exact ih
  | token first _ ih => exact List.forall_mem_cons.mpr ⟨first.flat, ih⟩

/-- Of an open container, what stands in front of the value that is awaited in it. -/
def OpenContainer.front : OpenContainer → List Token
  | .array items => .openArray :: ahead (itemTokens items.reverse)
  | .object members key =>
    .openObject :: (ahead (memberTokens members.reverse) ++ [.scalar (.string key), .colon])

namespace JsonReader

/-- Between tokens that lie behind and ones that lie ahead a reader stands somewhere. -/
theorem foldlM_append {first later : List Token} {reader next : JsonReader}
    (run : first.foldlM step reader = some next) :
    (first ++ later).foldlM step reader = later.foldlM step next := by
  rw [List.foldlM_append, run]
  rfl

-- The recursion is the document's; in a container it goes on from what was read before.
mutual

/-- The tokens of a value take a reader from where a value may come to behind that value. -/
theorem run_tokens (json : Json) (containers : List OpenContainer) {expected : Expected}
    (ready : expected = .value ∨ expected = .firstItem) :
    json.tokens.foldlM step ⟨containers, expected⟩ = some (accept json containers) := by
  match json with
  | .null | .bool _ | .natural _ | .number _ | .string _ => rcases ready with rfl | rfl <;> rfl
  | .array [] => rcases ready with rfl | rfl <;> rfl
  | .array (item :: items) =>
    have filled := run_itemTokens (item :: items) [] containers (Or.inr rfl) (List.cons_ne_nil _ _)
    have opened : (⟨containers, expected⟩ : JsonReader).step .openArray =
        some ⟨.array [] :: containers, .firstItem⟩ := by rcases ready with rfl | rfl <;> rfl
    rw [Json.tokens, List.foldlM_cons, opened]
    show (separated (itemTokens (item :: items)) ++ [Token.closeArray]).foldlM step _ = _
    rw [foldlM_append filled, List.append_nil]
    show some (accept (.array (item :: items).reverse.reverse) containers) = _
    rw [List.reverse_reverse]
  | .object [] => rcases ready with rfl | rfl <;> rfl
  | .object (member :: members) =>
    obtain ⟨key, filled⟩ := run_memberTokens (member :: members) [] [] containers (Or.inr rfl)
      (List.cons_ne_nil _ _)
    have opened : (⟨containers, expected⟩ : JsonReader).step .openObject =
        some ⟨.object [] [] :: containers, .firstKey⟩ := by rcases ready with rfl | rfl <;> rfl
    rw [Json.tokens, List.foldlM_cons, opened]
    show (separated (memberTokens (member :: members)) ++ [Token.closeObject]).foldlM step _ = _
    rw [foldlM_append filled, List.append_nil]
    show some (accept (.object (member :: members).reverse.reverse) containers) = _
    rw [List.reverse_reverse]

/-- The reader takes the tokens of further items one item after the other and then waits for a
separator. The items it has read before stay behind them. -/
theorem run_itemTokens (items read : List Json) (containers : List OpenContainer)
    {expected : Expected} (ready : expected = .value ∨ expected = .firstItem)
    (filled : items ≠ []) :
    (separated (itemTokens items)).foldlM step ⟨.array read :: containers, expected⟩ =
      some ⟨.array (items.reverse ++ read) :: containers, .separator⟩ := by
  match items with
  | [] => exact absurd rfl filled
  | [item] => exact run_tokens item (.array read :: containers) ready
  | item :: next :: items =>
    have first := run_tokens item (.array read :: containers) ready
    have later := run_itemTokens (next :: items) (item :: read) containers (Or.inl rfl)
      (List.cons_ne_nil _ _)
    rw [itemTokens, separated_cons _ (by simp [itemTokens]), foldlM_append first,
      List.foldlM_cons]
    show (separated (itemTokens (next :: items))).foldlM step _ = _
    rw [later]
    simp

/-- The same for members, where each name is kept until its value has been read. -/
theorem run_memberTokens (members read : List (List StringPiece × Json)) (old : List StringPiece)
    (containers : List OpenContainer) {expected : Expected}
    (ready : expected = .key ∨ expected = .firstKey) (filled : members ≠ []) :
    ∃ key, (separated (memberTokens members)).foldlM step
        ⟨.object read old :: containers, expected⟩ =
      some ⟨.object (members.reverse ++ read) key :: containers, .separator⟩ := by
  match members with
  | [] => exact absurd rfl filled
  | [(key, value)] =>
    have run := run_tokens value (.object read key :: containers) (Or.inl rfl)
    have begun : (⟨.object read old :: containers, expected⟩ : JsonReader).step
        (.scalar (.string key)) = some ⟨.object read key :: containers, .colon⟩ := by
      rcases ready with rfl | rfl <;> rfl
    refine ⟨key, ?_⟩
    show (Token.scalar (.string key) :: .colon :: value.tokens).foldlM step _ = _
    rw [List.foldlM_cons, begun]
    exact run
  | (key, value) :: next :: members =>
    have run := run_tokens value (.object read key :: containers) (Or.inl rfl)
    have begun : (⟨.object read old :: containers, expected⟩ : JsonReader).step
        (.scalar (.string key)) = some ⟨.object read key :: containers, .colon⟩ := by
      rcases ready with rfl | rfl <;> rfl
    have first : (Token.scalar (.string key) :: .colon :: value.tokens).foldlM step
        ⟨.object read old :: containers, expected⟩ =
          some (accept value (.object read key :: containers)) := by
      rw [List.foldlM_cons, begun]
      exact run
    obtain ⟨last, later⟩ := run_memberTokens (next :: members) ((key, value) :: read) key containers
      (Or.inl rfl) (List.cons_ne_nil _ _)
    refine ⟨last, ?_⟩
    rw [memberTokens, separated_cons _ (by simp [memberTokens]), foldlM_append first,
      List.foldlM_cons]
    show (separated (memberTokens (next :: members))).foldlM step _ = _
    rw [later]
    simp

end

def fronts : List OpenContainer → List Token
  | [] => []
  | container :: rest => fronts rest ++ container.front

/-- What a reader has behind it, told from where it stands. -/
inductive Behind : JsonReader → List Token → Prop
  | awaitsValue (containers : List OpenContainer) : Behind ⟨containers, .value⟩ (fronts containers)
  | opensArray (rest : List OpenContainer) :
      Behind ⟨.array [] :: rest, .firstItem⟩ (fronts rest ++ [.openArray])
  | opensObject (rest : List OpenContainer) (old : List StringPiece) :
      Behind ⟨.object [] old :: rest, .firstKey⟩ (fronts rest ++ [.openObject])
  | awaitsKey (rest : List OpenContainer) (members : List (List StringPiece × Json))
      (old : List StringPiece) : Behind ⟨.object members old :: rest, .key⟩
        (fronts rest ++ .openObject :: ahead (memberTokens members.reverse))
  | awaitsColon (rest : List OpenContainer) (members : List (List StringPiece × Json))
      (key : List StringPiece) : Behind ⟨.object members key :: rest, .colon⟩
        (fronts rest ++ .openObject :: (ahead (memberTokens members.reverse)
          ++ [.scalar (.string key)]))
  | afterItems (rest : List OpenContainer) {items : List Json} (filled : items ≠ []) :
      Behind ⟨.array items :: rest, .separator⟩
        (fronts rest ++ .openArray :: separated (itemTokens items.reverse))
  | afterMembers (rest : List OpenContainer) {members : List (List StringPiece × Json)}
      (key : List StringPiece) (filled : members ≠ []) :
      Behind ⟨.object members key :: rest, .separator⟩
        (fronts rest ++ .openObject :: separated (memberTokens members.reverse))
  | ended (document : Json) : Behind ⟨[], .nothing document⟩ document.tokens

/-- A value that is accepted goes where the innermost container waits for it, so the tokens behind
the reader are those of the containers and of the value. -/
theorem Behind.accepted (value : Json) (containers : List OpenContainer) :
    Behind (accept value containers) (fronts containers ++ value.tokens) := by
  match containers with
  | [] => exact .ended value
  | .array items :: rest =>
    have behind := Behind.afterItems rest (List.cons_ne_nil value items)
    rw [List.reverse_cons, itemTokens_eq_map, List.map_append, List.map_singleton,
      separated_concat, ← itemTokens_eq_map] at behind
    simpa [accept, fronts, OpenContainer.front] using behind
  | .object members key :: rest =>
    have behind := Behind.afterMembers rest key (List.cons_ne_nil (key, value) members)
    rw [List.reverse_cons, memberTokens_eq_map, List.map_append, List.map_singleton,
      separated_concat, ← memberTokens_eq_map] at behind
    simpa [accept, fronts, OpenContainer.front] using behind

/-- A token that begins a value either is that value or opens a container of its own. -/
theorem Behind.begun {containers : List OpenContainer} {token : Token} {next : JsonReader}
    (flat : token.Flat) (begun : beginValue containers token = some next) :
    Behind next (fronts containers ++ [token]) := by
  cases token with
  | openObject => cases begun; exact .opensObject containers []
  | openArray => cases begun; exact .opensArray containers
  | scalar value =>
    cases begun
    rw [← flat value rfl]
    exact .accepted value containers
  | _ => cases begun

/-- Closing an array makes a value of what it held, items and commas included. -/
theorem Behind.closedArray {items : List Json} {rest : List OpenContainer} {past : List Token}
    (read : past = fronts rest ++ .openArray :: separated (itemTokens items.reverse)) :
    Behind (accept (.array items.reverse) rest) (past ++ [.closeArray]) := by
  have whole := Behind.accepted (.array items.reverse) rest
  rw [Json.tokens] at whole
  rw [read, List.append_assoc]
  exact whole

/-- Closing an object makes a value of its members, in the order they came. -/
theorem Behind.closedObject {members : List (List StringPiece × Json)} {rest : List OpenContainer}
    {past : List Token}
    (read : past = fronts rest ++ .openObject :: separated (memberTokens members.reverse)) :
    Behind (accept (.object members.reverse) rest) (past ++ [.closeObject]) := by
  have whole := Behind.accepted (.object members.reverse) rest
  rw [Json.tokens] at whole
  rw [read, List.append_assoc]
  exact whole

/-- A name that is taken is put behind the members that the object has, to wait for its value. -/
theorem Behind.keyed {rest : List OpenContainer} {members : List (List StringPiece × Json)}
    {old : List StringPiece} {past : List Token} {token : Token} {next : JsonReader}
    (read : past = fronts rest ++ .openObject :: ahead (memberTokens members.reverse))
    (taken : takeKey (.object members old :: rest) token = some next) :
    Behind next (past ++ [token]) := by
  unfold takeKey at taken
  split at taken
  · next same =>
    cases same
    cases taken
    have behind := Behind.awaitsColon rest members ‹List StringPiece›
    rw [read, List.append_assoc]
    exact behind
  · cases taken

/-- What one token does to the reader, in each of the states it can be in. What lies behind grows by
just this token. -/
theorem Behind.step {reader next : JsonReader} {past : List Token} {token : Token}
    (behind : Behind reader past) (flat : token.Flat) (step : reader.step token = some next) :
    Behind next (past ++ [token]) := by
  cases behind with
  | awaitsValue containers => exact .begun flat step
  | opensArray rest =>
    cases token with
    | closeArray =>
      cases step
      exact @Behind.closedArray [] rest _ rfl
    | _ => exact @Behind.begun (.array [] :: rest) _ _ flat step
  | opensObject rest old =>
    cases token with
    | closeObject =>
      cases step
      exact @Behind.closedObject [] rest _ rfl
    | _ => exact @Behind.keyed rest [] old _ _ _ rfl step
  | awaitsKey rest members old => exact .keyed rfl step
  | awaitsColon rest members key =>
    cases token with
    | colon =>
      cases step
      have behind := Behind.awaitsValue (.object members key :: rest)
      simpa [fronts, OpenContainer.front] using behind
    | _ => cases step
  | @afterItems rest items filled =>
    cases token with
    | comma =>
      cases step
      have behind := Behind.awaitsValue (.array items :: rest)
      -- The reader takes a comma only after an item, and so it is a separator.
      have more : itemTokens items.reverse ≠ [] := by simp [itemTokens_eq_map, filled]
      rw [fronts, OpenContainer.front, ← separated_comma more] at behind
      simpa using behind
    | closeArray =>
      cases step
      exact .closedArray rfl
    | _ => cases step
  | @afterMembers rest members key filled =>
    cases token with
    | comma =>
      cases step
      have behind := Behind.awaitsKey rest members key
      have more : memberTokens members.reverse ≠ [] := by simp [memberTokens_eq_map, filled]
      rw [← separated_comma more] at behind
      simpa using behind
    | closeObject =>
      cases step
      exact .closedObject rfl
    | _ => cases step
  | ended document => cases step

/-- From the step by induction: after any run the tokens behind the reader are those it was given.
-/
theorem Behind.run {reader last : JsonReader} {past tokens : List Token}
    (behind : Behind reader past) (flat : ∀ token ∈ tokens, token.Flat)
    (run : tokens.foldlM JsonReader.step reader = some last) : Behind last (past ++ tokens) := by
  induction tokens generalizing reader past with
  | nil =>
    cases run
    rwa [List.append_nil]
  | cons token rest ih =>
    rw [List.foldlM_cons] at run
    obtain ⟨next, step, run⟩ := Option.bind_eq_some_iff.mp run
    have stepped := behind.step (flat token List.mem_cons_self) step
    rw [List.append_cons]
    exact ih stepped (fun token later => flat token (List.mem_cons_of_mem _ later)) run

/-- Behind one value no other can come at once. -/
theorem step_scalar {reader next : JsonReader} {first second : Json}
    (step : reader.step (.scalar first) = some next) : next.step (.scalar second) = none := by
  obtain ⟨containers, expected⟩ := reader
  have accepted : (accept first containers).step (.scalar second) = none := by
    match containers with
    | [] | .array _ :: _ | .object _ _ :: _ => rfl
  have keyed (taken : takeKey containers (.scalar first) = some next) :
      next.step (.scalar second) = none := by
    unfold takeKey at taken
    split at taken
    · cases taken
      rfl
    · cases taken
  cases expected with
  | value | firstItem =>
    cases step
    exact accepted
  | firstKey | key => exact keyed step
  | colon | nothing => cases step
  | separator =>
    match containers with
    | [] | .array _ :: _ | .object _ _ :: _ => cases step

/-- No run accepts two scalars in a row: after the first the reader waits for
a colon or a separator. -/
theorem valuesApart_of_run {reader last : JsonReader} {tokens : List Token}
    (run : tokens.foldlM JsonReader.step reader = some last) : ValuesApart tokens := by
  match tokens with
  | [] | [_] => trivial
  | first :: second :: rest =>
    rw [List.foldlM_cons] at run
    obtain ⟨next, step, later⟩ := Option.bind_eq_some_iff.mp run
    refine ⟨?_, valuesApart_of_run later⟩
    rintro ⟨scalar, also⟩
    cases first with
    | scalar value =>
      cases second with
      | scalar other =>
        rw [List.foldlM_cons, step_scalar step] at later
        cases later
      | _ => cases also
    | _ => cases scalar

end JsonReader

/-- A text is read as a document just when it spells the document's tokens. -/
theorem Json.read?_eq_some_iff {text : String} {json : Json} :
    Json.read? text = some json ↔ Spelled json.tokens text.toList := by
  constructor
  · intro read
    obtain ⟨tokens, found, read⟩ := Option.bind_eq_some_iff.mp read
    obtain ⟨reader, run, finished⟩ := Option.bind_eq_some_iff.mp read
    have spelled := readTokens_some found
    have behind := (JsonReader.Behind.awaitsValue []).run spelled.flat run
    obtain ⟨containers, expected⟩ := reader
    cases behind with
    | ended document =>
      cases finished
      exact spelled
    | _ => cases finished
  · intro spelled
    have run := JsonReader.run_tokens json [] (Or.inl rfl)
    unfold Json.read? tokens?
    rw [spelled.read (JsonReader.valuesApart_of_run run) (Nat.le_refl _)]
    show (json.tokens.foldlM JsonReader.step .start).bind JsonReader.finish = _
    rw [show json.tokens.foldlM JsonReader.step .start = _ from run]
    rfl

end DaemonMesh
