import DaemonMesh.Json.Reader

namespace DaemonMesh

/-- Decimal digits, at least one. -/
structure Digits (word : List Char) : Prop where
  filled : word ≠ []
  decimal : ∀ c ∈ word, c.isDigit = true

/-- Digits that begin with a zero only where the zero is all there is. -/
structure WholeDigits (word : List Char) : Prop extends Digits word where
  needed : word.head? = some '0' → word = ['0']

inductive Fraction : List Char → Prop
  | absent : Fraction []
  | given {digits : List Char} (all : Digits digits) : Fraction ('.' :: digits)

/-- An exponent as it is written, and as it is kept. -/
inductive Exponent : List Char → List Char → Prop
  | absent : Exponent [] []
  | given {letter : Char} {sign digits : List Char} (marked : letter = 'e' ∨ letter = 'E')
      (signed : sign = [] ∨ sign = ['+'] ∨ sign = ['-']) (all : Digits digits) :
      Exponent (letter :: (sign ++ digits)) ('e' :: (sign ++ digits))

/-- How a number is written. -/
inductive Numeral : Json → List Char → Prop
  | natural {word : List Char} (whole : WholeDigits word) :
      Numeral (.natural (digitsValue word)) word
  | number {sign whole fraction exponent kept : List Char} (signed : sign = [] ∨ sign = ['-'])
      (digits : WholeDigits whole) (fractional : Fraction fraction)
      (scaled : Exponent exponent kept)
      (other : ¬(sign = [] ∧ fraction = [] ∧ exponent = [])) :
      Numeral (.number (String.ofList (sign ++ whole ++ fraction ++ kept)))
        (sign ++ (whole ++ (fraction ++ exponent)))

/-- How one piece of a string is written. -/
inductive PieceSpelled : StringPiece → List Char → Prop
  | plain {c : Char} (printed : 0x20 ≤ c.toNat) (quote : c ≠ '"') (backslash : c ≠ '\\') :
      PieceSpelled (.char c) [c]
  | escaped {escape c : Char} (means : escapedChar? escape = some c) :
      PieceSpelled (.char c) ['\\', escape]
  | unit {a b c d : Char} {piece : StringPiece} (means : unit? a b c d = some piece) :
      PieceSpelled piece ['\\', 'u', a, b, c, d]

/-- What stands between the quotes of a string. -/
inductive PiecesSpelled : List StringPiece → List Char → Prop
  | nil : PiecesSpelled [] []
  | cons {piece : StringPiece} {pieces : List StringPiece} {word rest : List Char}
      (first : PieceSpelled piece word) (later : PiecesSpelled pieces rest) :
      PiecesSpelled (piece :: pieces) (word ++ rest)

section Reading

variable {text rest word : List Char}

/-- What the reader takes for digits it takes from the front of the text, all of them decimal and at
least one. -/
theorem readDigits?_some {digits : List Char} (read : readDigits? text = some (digits, rest)) :
    text = digits ++ rest ∧ Digits digits := by
  unfold readDigits? at read
  split at read
  · cases read
  · next taken filled =>
    obtain ⟨rfl, rfl⟩ := Prod.mk.inj (Option.some.inj read)
    refine ⟨(List.takeWhile_append_dropWhile ..).symm, filled, fun c member => ?_⟩
    exact List.all_eq_true.mp List.all_takeWhile c member

/-- A whole part is refused for a zero in front of further digits, so what is read has none. -/
theorem readWhole?_some (read : readWhole? text = some (word, rest)) :
    text = word ++ rest ∧ WholeDigits word := by
  unfold readWhole? at read
  obtain ⟨⟨digits, behind⟩, found, read⟩ := Option.bind_eq_some_iff.mp read
  obtain ⟨shape, all⟩ := readDigits?_some found
  dsimp only at read
  split at read
  · cases read
  · next lean =>
    obtain ⟨rfl, rfl⟩ := Prod.mk.inj (Option.some.inj read)
    refine ⟨shape, all, fun zero => ?_⟩
    match digits with
    | [] => cases zero
    | [c] => rw [Option.some.inj zero]
    | c :: next :: others => exact absurd (by simp [Option.some.inj zero]) lean

/-- A text without a point has an empty fraction; behind a point at least one digit has to stand. -/
theorem readFraction?_some (read : readFraction? text = some (word, rest)) :
    text = word ++ rest ∧ Fraction word := by
  unfold readFraction? at read
  split at read
  · obtain ⟨⟨digits, behind⟩, found, read⟩ := Option.bind_eq_some_iff.mp read
    obtain ⟨shape, all⟩ := readDigits?_some found
    obtain ⟨rfl, rfl⟩ := Prod.mk.inj (Option.some.inj read)
    exact ⟨by rw [shape]; rfl, .given all⟩
  · obtain ⟨rfl, rfl⟩ := Prod.mk.inj (Option.some.inj read)
    exact ⟨rfl, .absent⟩

/-- What is read of an exponent behind its letter. -/
def scaleAfter? (text : List Char) : Option (List Char × List Char) :=
  let (sign, rest) := match text with
    | '+' :: rest => (['+'], rest)
    | '-' :: rest => (['-'], rest)
    | rest => ([], rest)
  do
    let (digits, rest) ← readDigits? rest
    some ('e' :: sign ++ digits, rest)

/-- The letter of an exponent is kept in lower case, whichever it was, and the sign stays as it is
written. -/
theorem scaleAfter?_some {kept : List Char} (read : scaleAfter? text = some (kept, rest)) :
    ∃ sign digits, text = sign ++ (digits ++ rest) ∧ (sign = [] ∨ sign = ['+'] ∨ sign = ['-']) ∧
      Digits digits ∧ kept = 'e' :: (sign ++ digits) := by
  unfold scaleAfter? at read
  split at read
  next sign behind same =>
  obtain ⟨⟨digits, left⟩, found, read⟩ := Option.bind_eq_some_iff.mp read
  obtain ⟨shape, all⟩ := readDigits?_some found
  obtain ⟨rfl, rfl⟩ := Prod.mk.inj (Option.some.inj read)
  split at same
  all_goals
    obtain ⟨rfl, rfl⟩ := Prod.mk.inj same
    exact ⟨_, digits, by rw [shape]; rfl, by simp, all, rfl⟩

/-- Reading an exponent is sound for both letters, which differ in nothing but what the word begins
with. -/
theorem readExponent?_some {kept : List Char} (read : readExponent? text = some (kept, rest)) :
    ∃ exponent, text = exponent ++ rest ∧ Exponent exponent kept := by
  unfold readExponent? at read
  split at read
  · obtain ⟨sign, digits, rfl, signed, all, rfl⟩ := scaleAfter?_some read
    exact ⟨_, by simp, .given (Or.inl rfl) signed all⟩
  · obtain ⟨sign, digits, rfl, signed, all, rfl⟩ := scaleAfter?_some read
    exact ⟨_, by simp, .given (Or.inr rfl) signed all⟩
  · obtain ⟨rfl, rfl⟩ := Prod.mk.inj (Option.some.inj read)
    exact ⟨[], rfl, .absent⟩

/-- What is read of a number behind its sign. -/
def numberAfter? (sign text : List Char) : Option (Json × List Char) := do
  let (whole, text) ← readWhole? text
  let (fraction, text) ← readFraction? text
  let (exponent, text) ← readExponent? text
  if sign.isEmpty && fraction.isEmpty && exponent.isEmpty then
    some (.natural (digitsValue whole), text)
  else some (.number (String.ofList (sign ++ whole ++ fraction ++ exponent)), text)

/-- The sign is the only difference between the two ways into a number, so what lies behind it is
shared. -/
theorem readNumber?_signed : readNumber? ('-' :: text) = numberAfter? ['-'] text := rfl

theorem readNumber?_unsigned (unsigned : text.head? ≠ some '-') :
    readNumber? text = numberAfter? [] text := by
  unfold readNumber?
  split
  next sign behind same =>
  split at same
  · exact absurd rfl unsigned
  · obtain ⟨rfl, rfl⟩ := Prod.mk.inj same
    rfl

/-- The kept form of an exponent is empty only where none was written, so testing one tests the
other. -/
theorem Exponent.kept_eq_nil_iff {exponent kept : List Char} (scaled : Exponent exponent kept) :
    kept = [] ↔ exponent = [] := by
  cases scaled <;> simp

/-- Behind its sign a number is read part by part; without sign, fraction and exponent it is a
natural number, and otherwise it is kept as it is spelled. -/
theorem numberAfter?_some {sign : List Char} {value : Json} (signed : sign = [] ∨ sign = ['-'])
    (read : numberAfter? sign text = some (value, rest)) :
    ∃ word, text = word ++ rest ∧ Numeral value (sign ++ word) := by
  unfold numberAfter? at read
  obtain ⟨⟨whole, behindWhole⟩, foundWhole, read⟩ := Option.bind_eq_some_iff.mp read
  obtain ⟨⟨fraction, behindPoint⟩, foundFraction, read⟩ := Option.bind_eq_some_iff.mp read
  obtain ⟨⟨kept, behind⟩, foundExponent, read⟩ := Option.bind_eq_some_iff.mp read
  obtain ⟨shape, digits⟩ := readWhole?_some foundWhole
  obtain ⟨shapePoint, fractional⟩ := readFraction?_some foundFraction
  obtain ⟨exponent, shapeExponent, scaled⟩ := readExponent?_some foundExponent
  rw [shape, shapePoint, shapeExponent]
  dsimp only at read
  split at read
  · next natural =>
    obtain ⟨rfl, rfl⟩ := Prod.mk.inj (Option.some.inj read)
    simp only [Bool.and_eq_true, List.isEmpty_iff, scaled.kept_eq_nil_iff] at natural
    obtain ⟨⟨rfl, rfl⟩, rfl⟩ := natural
    exact ⟨whole, rfl, .natural digits⟩
  · next other =>
    obtain ⟨rfl, rfl⟩ := Prod.mk.inj (Option.some.inj read)
    refine ⟨whole ++ (fraction ++ exponent), by simp, .number signed digits fractional scaled ?_⟩
    simpa only [Bool.and_eq_true, List.isEmpty_iff, scaled.kept_eq_nil_iff, and_assoc] using other

/-- Soundness of the number reader: what it takes from the text is a numeral of the value that it
gives. -/
theorem readNumber?_some {value : Json} (read : readNumber? text = some (value, rest)) :
    ∃ word, text = word ++ rest ∧ Numeral value word := by
  by_cases signed : text.head? = some '-'
  · obtain ⟨behind, rfl⟩ := List.head?_eq_some_iff.mp signed
    obtain ⟨word, rfl, numeral⟩ := numberAfter?_some (Or.inr rfl) (readNumber?_signed ▸ read)
    exact ⟨_, rfl, numeral⟩
  · rw [readNumber?_unsigned signed] at read
    exact numberAfter?_some (Or.inl rfl) read

/-- What is read of a string ends at its closing quote, and every piece of it is spelled as the
grammar allows. The induction is the reader's own recursion over the text. -/
theorem readString_some {pieces : List StringPiece} (read : readString text = some (pieces, rest)) :
    ∃ word, text = word ++ '"' :: rest ∧ PiecesSpelled pieces word := by
  fun_induction readString text generalizing pieces with
  | case1 => cases read
  | case2 rest =>
    obtain ⟨rfl, rfl⟩ := Prod.mk.inj (Option.some.inj read)
    exact ⟨[], rfl, .nil⟩
  | case3 a b c d behind ih =>
    obtain ⟨piece, means, read⟩ := Option.bind_eq_some_iff.mp read
    obtain ⟨⟨later, left⟩, found, read⟩ := Option.bind_eq_some_iff.mp read
    obtain ⟨rfl, rfl⟩ := Prod.mk.inj (Option.some.inj read)
    obtain ⟨word, rfl, spelled⟩ := ih found
    exact ⟨_, rfl, .cons (.unit means) spelled⟩
  | case4 escape behind other ih =>
    obtain ⟨c, means, read⟩ := Option.bind_eq_some_iff.mp read
    obtain ⟨⟨later, left⟩, found, read⟩ := Option.bind_eq_some_iff.mp read
    obtain ⟨rfl, rfl⟩ := Prod.mk.inj (Option.some.inj read)
    obtain ⟨word, rfl, spelled⟩ := ih found
    exact ⟨_, rfl, .cons (.escaped means) spelled⟩
  | case5 => cases read
  | case6 c behind quote number escape printed ih =>
    obtain ⟨⟨later, left⟩, found, read⟩ := Option.bind_eq_some_iff.mp read
    obtain ⟨rfl, rfl⟩ := Prod.mk.inj (Option.some.inj read)
    obtain ⟨word, shape, spelled⟩ := ih found
    rw [shape]
    refine ⟨_, rfl, .cons (.plain (Nat.not_lt.mp printed) quote fun same => ?_) spelled⟩
    cases behind with
    | nil => exact absurd shape (by simp)
    | cons next others => exact escape next others same rfl

end Reading

/-- A digit, a point or an exponent's letter would go on with a number. -/
def EndsNumber (rest : List Char) : Prop :=
  ∀ c ∈ rest.head?, c.isDigit = false ∧ c ≠ '.' ∧ c ≠ 'e' ∧ c ≠ 'E'

section Numbers

variable {word rest : List Char}

/-- Digits are read to the last one if no further digit stands behind them. -/
theorem readDigits?_append (all : Digits word) (stops : ∀ c ∈ rest.head?, c.isDigit = false) :
    readDigits? (word ++ rest) = some (word, rest) := by
  have stopped : rest.takeWhile Char.isDigit = [] ∧ rest.dropWhile Char.isDigit = rest := by
    cases rest with
    | nil => exact ⟨rfl, rfl⟩
    | cons c rest =>
      have stop := stops c rfl
      exact ⟨List.takeWhile_cons_of_neg (by simp [stop]),
        List.dropWhile_cons_of_neg (by simp [stop])⟩
  unfold readDigits?
  rw [List.takeWhile_append_of_pos all.decimal, List.dropWhile_append_of_pos all.decimal,
    stopped.1, stopped.2, List.append_nil]
  cases word with
  | nil => exact absurd rfl all.filled
  | cons digit digits => rfl

/-- Completeness for the whole part: every word of the grammar is read back whole, a single zero
included. -/
theorem readWhole?_append (whole : WholeDigits word)
    (stops : ∀ c ∈ rest.head?, c.isDigit = false) :
    readWhole? (word ++ rest) = some (word, rest) := by
  have lean : (word.head? == some '0' && decide (1 < word.length)) = false := by
    rw [Bool.and_eq_false_iff]
    by_cases zero : word.head? = some '0'
    · exact Or.inr (by rw [whole.needed zero]; rfl)
    · exact Or.inl (beq_eq_false_iff_ne.mpr zero)
  unfold readWhole?
  rw [readDigits?_append whole.toDigits stops]
  show (if (word.head? == some '0' && decide (1 < word.length)) = true then _ else _) = _
  rw [lean]
  rfl

/-- What follows must not begin with a point either, as an absent fraction would then be mistaken
for one. -/
theorem readFraction?_append (fractional : Fraction word)
    (stops : ∀ c ∈ rest.head?, c.isDigit = false ∧ c ≠ '.') :
    readFraction? (word ++ rest) = some (word, rest) := by
  cases fractional with
  | absent =>
    rw [List.nil_append]
    unfold readFraction?
    split
    · exact absurd rfl (stops '.' rfl).2
    · rfl
  | given all =>
    show (readDigits? (_ ++ rest)).bind _ = _
    rw [readDigits?_append all fun c first => (stops c first).1]
    rfl

/-- Behind the letter, sign and digits are read back as they were written; no digit can be mistaken
for a sign. -/
theorem scaleAfter?_append {sign digits : List Char}
    (signed : sign = [] ∨ sign = ['+'] ∨ sign = ['-']) (all : Digits digits)
    (stops : ∀ c ∈ rest.head?, c.isDigit = false) :
    scaleAfter? (sign ++ (digits ++ rest)) = some ('e' :: (sign ++ digits), rest) := by
  have read := readDigits?_append all stops
  have digit : ∀ c ∈ (digits ++ rest).head?, c.isDigit = true := by
    intro c first
    cases digits with
    | nil => exact absurd rfl all.filled
    | cons digit others =>
      rw [← Option.some.inj first]
      exact all.decimal digit List.mem_cons_self
  unfold scaleAfter?
  rcases signed with rfl | rfl | rfl
  · rw [List.nil_append]
    split
    next sign behind same =>
    split at same
    · exact absurd (digit '+' (by simp_all)) (by decide)
    · exact absurd (digit '-' (by simp_all)) (by decide)
    · obtain ⟨rfl, rfl⟩ := Prod.mk.inj same
      rw [read]
      rfl
  · simp [read]
  · simp [read]

/-- Completeness for the exponent. A text that ends a number begins with neither of the letters, so
an absent exponent stays absent. -/
theorem readExponent?_append {kept : List Char} (scaled : Exponent word kept)
    (ends : EndsNumber rest) : readExponent? (word ++ rest) = some (kept, rest) := by
  cases scaled with
  | absent =>
    rw [List.nil_append]
    unfold readExponent?
    split
    · exact absurd rfl (ends 'e' rfl).2.2.1
    · exact absurd rfl (ends 'E' rfl).2.2.2
    · rfl
  | @given letter sign digits marked signed all =>
    have read := scaleAfter?_append signed all fun c first => (ends c first).1
    rw [← List.append_assoc] at read
    rcases marked with rfl | rfl
    · exact read
    · exact read

/-- The first of some digits is one of them: enough to tell a number from what else a token begins
with. -/
theorem Digits.first {c : Char} {digits : List Char} (all : Digits (c :: digits)) :
    c.isDigit = true := all.decimal c List.mem_cons_self

/-- Whether an exponent is there or not, what begins with it cannot go on as the fraction before it.
-/
theorem Exponent.stops {kept : List Char} (scaled : Exponent word kept) (ends : EndsNumber rest) :
    ∀ c ∈ (word ++ rest).head?, c.isDigit = false ∧ c ≠ '.' := by
  cases scaled with
  | absent => exact fun c first => ⟨(ends c first).1, (ends c first).2.1⟩
  | given marked signed all =>
    rintro c ⟨⟩
    rcases marked with rfl | rfl <;> decide

/-- Likewise the whole part ends where the fraction begins, or where what follows the number does.
-/
theorem Fraction.stops (fractional : Fraction word)
    (stops : ∀ c ∈ rest.head?, c.isDigit = false ∧ c ≠ '.') :
    ∀ c ∈ (word ++ rest).head?, c.isDigit = false := by
  cases fractional with
  | absent => exact fun c first => (stops c first).1
  | given all =>
    rintro c ⟨⟩
    decide

/-- The parts of a numeral are read back in turn, each ending where the next begins. -/
theorem numberAfter?_append (sign : List Char) {whole fraction exponent kept : List Char}
    (digits : WholeDigits whole) (fractional : Fraction fraction)
    (scaled : Exponent exponent kept) (ends : EndsNumber rest) :
    numberAfter? sign (whole ++ (fraction ++ exponent) ++ rest) =
      if sign = [] ∧ fraction = [] ∧ exponent = [] then some (.natural (digitsValue whole), rest)
      else some (.number (String.ofList (sign ++ whole ++ fraction ++ kept)), rest) := by
  have stopsPoint := scaled.stops ends
  have stopsWhole := fractional.stops stopsPoint
  unfold numberAfter?
  rw [List.append_assoc, List.append_assoc, readWhole?_append digits stopsWhole]
  show (readFraction? (fraction ++ (exponent ++ rest))).bind _ = _
  rw [readFraction?_append fractional stopsPoint]
  show (readExponent? (exponent ++ rest)).bind _ = _
  rw [readExponent?_append scaled ends]
  simp only [Option.bind_some, Bool.and_eq_true, List.isEmpty_iff, scaled.kept_eq_nil_iff,
    and_assoc]

/-- A numeral shows by its first character that it is one: a digit or the sign. -/
theorem Numeral.begins {value : Json} (numeral : Numeral value word) :
    ∃ c others, word = c :: others ∧ (c.isDigit = true ∨ c = '-') := by
  have begins {whole : List Char} (digits : WholeDigits whole) :
      ∃ c others, whole = c :: others ∧ c.isDigit = true := by
    cases whole with
    | nil => exact absurd rfl digits.filled
    | cons c others => exact ⟨c, others, rfl, digits.toDigits.first⟩
  cases numeral with
  | natural whole =>
    obtain ⟨c, others, shape, digit⟩ := begins whole
    exact ⟨c, others, shape, Or.inl digit⟩
  | number signed digits fractional scaled other =>
    obtain ⟨c, others, rfl, digit⟩ := begins digits
    rcases signed with rfl | rfl
    · exact ⟨c, _, rfl, Or.inl digit⟩
    · exact ⟨'-', _, rfl, Or.inr rfl⟩

/-- Completeness of the number reader: every numeral in front of something that ends numbers is read
as its value, and nothing beyond it is taken. -/
theorem readNumber?_append {value : Json} (numeral : Numeral value word) (ends : EndsNumber rest) :
    readNumber? (word ++ rest) = some (value, rest) := by
  have unsigned {whole : List Char} (digits : WholeDigits whole) (behind : List Char) :
      (whole ++ behind).head? ≠ some '-' := by
    cases whole with
    | nil => exact absurd rfl digits.filled
    | cons c others =>
      rintro ⟨⟩
      exact absurd digits.toDigits.first (by decide)
  cases numeral with
  | natural whole =>
    have read := numberAfter?_append [] whole .absent .absent ends
    rw [readNumber?_unsigned (unsigned whole rest)]
    simpa using read
  | @number _ whole fraction exponent _ signed digits fractional scaled other =>
    rcases signed with rfl | rfl
    · have behind := unsigned digits (fraction ++ exponent ++ rest)
      rw [← List.append_assoc] at behind
      rw [List.nil_append, readNumber?_unsigned behind,
        numberAfter?_append [] digits fractional scaled ends, if_neg other]
    · show numberAfter? ['-'] (whole ++ (fraction ++ exponent) ++ rest) = _
      rw [numberAfter?_append ['-'] digits fractional scaled ends, if_neg other]

end Numbers

section Strings

variable {rest word : List Char}

/-- A piece in front is read as that piece, whatever the rest of the string is like. -/
theorem readString_piece {piece : StringPiece} (spelled : PieceSpelled piece word) :
    readString (word ++ rest) =
      (readString rest).map fun read => (piece :: read.1, read.2) := by
  cases spelled with
  | @plain c printed quote backslash =>
    show readString (c :: rest) = _
    rw [readString, if_neg (Nat.not_lt.mpr printed)]
    · cases readString rest <;> rfl
    · exact quote
    · exact fun _ _ _ _ _ same => absurd same backslash
    · exact fun _ _ same => absurd same backslash
  | @escaped escape c means =>
    show readString ('\\' :: escape :: rest) = _
    rw [readString, means]
    · cases readString rest <;> rfl
    · rintro _ _ _ _ _ rfl
      cases means
  | @unit a b c d _ means =>
    show readString ('\\' :: 'u' :: a :: b :: c :: d :: rest) = _
    rw [readString, means]
    cases readString rest <;> rfl

/-- Completeness of the string reader: pieces in front of a closing quote are read as they are
spelled, up to that quote. -/
theorem readString_append (rest : List Char) {pieces : List StringPiece}
    (spelled : PiecesSpelled pieces word) :
    readString (word ++ '"' :: rest) = some (pieces, rest) := by
  induction spelled with
  | nil => rfl
  | cons first later ih =>
    rw [List.append_assoc, readString_piece first, ih]
    rfl

end Strings

end DaemonMesh
