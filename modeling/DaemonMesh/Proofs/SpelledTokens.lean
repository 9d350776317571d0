import DaemonMesh.Proofs.SpelledScalars

namespace DaemonMesh

inductive Token.Spelled : Token → List Char → Prop
  | openObject : Spelled .openObject ['\x7b']
  | closeObject : Spelled .closeObject ['\x7d']
  | openArray : Spelled .openArray ['[']
  | closeArray : Spelled .closeArray [']']
  | colon : Spelled .colon [':']
  | comma : Spelled .comma [',']
  | wordNull : Spelled (.scalar .null) ['n', 'u', 'l', 'l']
  | wordTrue : Spelled (.scalar (.bool true)) ['t', 'r', 'u', 'e']
  | wordFalse : Spelled (.scalar (.bool false)) ['f', 'a', 'l', 's', 'e']
  | string {pieces : List StringPiece} {word : List Char} (spelled : PiecesSpelled pieces word) :
      Spelled (.scalar (.string pieces)) ('"' :: (word ++ ['"']))
  | number {value : Json} {word : List Char} (numeral : Numeral value word) :
      Spelled (.scalar value) word

/-- Tokens one after the other, with blanks wherever they like to be. -/
inductive Spelled : List Token → List Char → Prop
  | done : Spelled [] []
  | blank {c : Char} {tokens : List Token} {text : List Char} (skipped : isJsonBlank c = true)
      (later : Spelled tokens text) : Spelled tokens (c :: text)
  | token {token : Token} {tokens : List Token} {word text : List Char}
      (first : token.Spelled word) (later : Spelled tokens text) :
      Spelled (token :: tokens) (word ++ text)

/-- Tokens that stand for a whole value. Between two of them some sign must stand. -/
def Token.isScalar : Token → Bool
  | .scalar _ => true
  | _ => false

section Tokens

variable {rest word text : List Char} {token : Token} {tokens : List Token}

/-- A token that was read stands at the front of the text in one of its spellings. -/
theorem readToken?_some (read : readToken? text = some (token, rest)) :
    ∃ word, text = word ++ rest ∧ token.Spelled word := by
  unfold readToken? at read
  split at read
  case h_10 =>
    obtain ⟨⟨pieces, behind⟩, found, read⟩ := Option.bind_eq_some_iff.mp read
    obtain ⟨rfl, rfl⟩ := Prod.mk.inj (Option.some.inj read)
    obtain ⟨word, shape, spelled⟩ := readString_some found
    exact ⟨'"' :: (word ++ ['"']), by rw [shape]; simp, .string spelled⟩
  case h_11 =>
    obtain ⟨⟨value, behind⟩, found, read⟩ := Option.bind_eq_some_iff.mp read
    obtain ⟨rfl, rfl⟩ := Prod.mk.inj (Option.some.inj read)
    obtain ⟨word, shape, numeral⟩ := readNumber?_some found
    exact ⟨word, shape, .number numeral⟩
  all_goals
    obtain ⟨rfl, rfl⟩ := Prod.mk.inj (Option.some.inj read)
    exact ⟨_, rfl, by constructor⟩

/-- Whatever the tokenizer makes of a text, the grammar says the same of it. The induction follows
its steps. -/
theorem readTokens_some {steps : Nat}
    (read : readTokens steps text = some tokens) : Spelled tokens text := by
  induction steps generalizing text tokens with
  | zero =>
    cases text with
    | nil => rw [← Option.some.inj read]; exact .done
    | cons => cases read
  | succ steps ih =>
    cases text with
    | nil => rw [← Option.some.inj read]; exact .done
    | cons c rest =>
      rw [readTokens] at read
      split at read
      · next skipped => exact .blank skipped (ih read)
      · obtain ⟨⟨token, behind⟩, foundToken, read⟩ := Option.bind_eq_some_iff.mp read
        obtain ⟨later, found, read⟩ := Option.bind_eq_some_iff.mp read
        obtain ⟨word, shape, spelled⟩ := readToken?_some foundToken
        rw [← Option.some.inj read, shape]
        exact .token spelled (ih found)

/-- Where a digit or a minus stands, a number is read. -/
theorem readToken?_number {c : Char} (begins : c.isDigit = true ∨ c = '-') :
    readToken? (c :: rest) =
      (readNumber? (c :: rest)).map fun read => (.scalar read.1, read.2) := by
  unfold readToken?
  split
  case h_11 => cases readNumber? (c :: rest) <;> rfl
  all_goals
    rename_i same
    obtain ⟨rfl, _⟩ := List.cons.inj same
    exact absurd begins (by decide)

/-- A spelled token is read back. Only a scalar needs something behind it that ends numbers, as no
other token can grow. -/
theorem readToken?_append (spelled : token.Spelled word)
    (ends : token.isScalar = true → EndsNumber rest) :
    readToken? (word ++ rest) = some (token, rest) := by
  cases spelled with
  | @string pieces word spelled =>
    have read := readString_append rest spelled
    show readToken? ('"' :: (word ++ ['"'] ++ rest)) = _
    rw [List.append_assoc]
    show (readString (word ++ '"' :: rest)).bind _ = _
    rw [read]
    rfl
  | number numeral =>
    obtain ⟨c, others, rfl, begins⟩ := numeral.begins
    have read := readNumber?_append numeral (ends rfl)
    rw [List.cons_append] at read ⊢
    rw [readToken?_number begins, read]
    rfl
  | _ => rfl

/-- No numeral begins with a blank, so blanks before a token are never part of it. -/
theorem isJsonBlank_number {c : Char} (begins : c.isDigit = true ∨ c = '-') :
    isJsonBlank c = false := by
  rw [← Bool.not_eq_true]
  intro blank
  simp only [isJsonBlank, Bool.or_eq_true, beq_iff_eq] at blank
  rcases blank with ((rfl | rfl) | rfl) | rfl <;> exact absurd begins (by decide)

/-- Every token begins with something that is no blank, so that skipping blanks stops right before
it. -/
theorem Token.Spelled.shown (spelled : token.Spelled word) :
    ∃ c others, word = c :: others ∧ isJsonBlank c = false := by
  cases spelled with
  | number numeral =>
    obtain ⟨c, others, shape, begins⟩ := numeral.begins
    exact ⟨c, others, shape, isJsonBlank_number begins⟩
  | _ => exact ⟨_, _, rfl, rfl⟩

/-- Between two values stands some sign. -/
def ValuesApart : List Token → Prop
  | first :: second :: rest =>
    ¬(first.isScalar = true ∧ second.isScalar = true) ∧ ValuesApart (second :: rest)
  | _ => True

/-- Values that stand apart do so in the rest of the tokens as well. -/
theorem ValuesApart.later (apart : ValuesApart (token :: tokens)) : ValuesApart tokens := by
  cases tokens with
  | nil => trivial
  | cons => exact apart.2

/-- Behind a scalar comes the end or a token that is none. -/
theorem ValuesApart.sign (apart : ValuesApart (token :: tokens)) (scalar : token.isScalar = true) :
    ∀ next ∈ tokens.head?, next.isScalar = false := by
  cases tokens with
  | nil => exact nofun
  | cons second rest =>
    rintro _ ⟨⟩
    exact Bool.eq_false_iff.mpr fun also => apart.1 ⟨scalar, also⟩

/-- Where the next token is no scalar, the text begins with a blank, with punctuation or not at all,
so a number in front of it ends there. -/
theorem Spelled.endsNumber (spelled : Spelled tokens text)
    (sign : ∀ token ∈ tokens.head?, token.isScalar = false) : EndsNumber text := by
  cases spelled with
  | done => exact nofun
  | @blank c tokens text skipped later =>
    rintro _ ⟨⟩
    simp only [isJsonBlank, Bool.or_eq_true, beq_iff_eq] at skipped
    rcases skipped with ((rfl | rfl) | rfl) | rfl <;> decide
  | @token token tokens word text first later =>
    have unscalar := sign token rfl
    cases first with
    | openObject | closeObject | openArray | closeArray | colon | comma =>
      rintro _ ⟨⟩
      decide
    | _ => cases unscalar

/-- Reading finds the tokens that a text spells, as long as no two values touch. -/
theorem Spelled.read (spelled : Spelled tokens text) (apart : ValuesApart tokens) {steps : Nat}
    (enough : text.length ≤ steps) : readTokens steps text = some tokens := by
  induction spelled generalizing steps with
  | done => cases steps <;> rfl
  | blank skipped later ih =>
    cases steps with
    | zero => exact absurd enough (Nat.not_succ_le_zero _)
    | succ steps =>
      rw [readTokens, if_pos skipped]
      exact ih apart (Nat.le_of_succ_le_succ enough)
  | @token token tokens word text first later ih =>
    obtain ⟨c, others, rfl, shown⟩ := first.shown
    have read := readToken?_append first fun scalar => later.endsNumber (apart.sign scalar)
    cases steps with
    | zero => exact absurd enough (Nat.not_succ_le_zero _)
    | succ steps =>
      have fits : text.length ≤ steps := by
        rw [List.length_append, List.length_cons] at enough
        omega
      rw [List.cons_append] at read ⊢
      rw [readTokens, shown, read]
      show (readTokens steps text).bind _ = _
      rw [ih apart.later fits]
      rfl

end Tokens

end DaemonMesh
