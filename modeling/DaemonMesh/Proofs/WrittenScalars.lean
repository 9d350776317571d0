import DaemonMesh.Json.Writer
import DaemonMesh.Proofs.LoneSurrogates
import DaemonMesh.Proofs.SpelledTokens

namespace DaemonMesh

/-- Hexadecimal digits are written in lower case and read back as their value. -/
theorem hexValue?_digitChar {digit : Nat} (below : digit < 16) :
    hexValue? (Nat.digitChar digit) = some digit := by
  have all : ∀ digit < 16, hexValue? (Nat.digitChar digit) = some digit := by decide
  exact all digit below

/-- Four digits are enough for a code unit, and it is read back from them. -/
theorem unit?_writtenUnit (unit : UInt16) :
    unit? (Nat.digitChar (unit.toNat / 4096)) (Nat.digitChar (unit.toNat / 256 % 16))
      (Nat.digitChar (unit.toNat / 16 % 16)) (Nat.digitChar (unit.toNat % 16)) =
        some (.unit unit) := by
  have below := unit.toNat_lt
  have digits : ((unit.toNat / 4096 * 16 + unit.toNat / 256 % 16) * 16 + unit.toNat / 16 % 16) * 16
      + unit.toNat % 16 = unit.toNat := by omega
  unfold unit?
  rw [hexValue?_digitChar (by omega), hexValue?_digitChar (Nat.mod_lt _ (by decide)),
    hexValue?_digitChar (Nat.mod_lt _ (by decide)), hexValue?_digitChar (Nat.mod_lt _ (by decide))]
  show some (StringPiece.unit (UInt16.ofNat _)) = _
  rw [digits, UInt16.ofNat_toNat]

/-- The characters that are written behind a backslash by a letter or by themselves. -/
def shortEscaped : List Char := ['"', '\\', '\x08', '\x0c', '\n', '\r', '\t']

/-- Control characters without a short form come back by number. -/
def rereadChar (c : Char) : StringPiece :=
  if c.toNat < 0x20 ∧ c ∉ shortEscaped then .unit (UInt16.ofNat c.toNat) else .char c

/-- What reading makes of a written piece. -/
def StringPiece.reread : StringPiece → StringPiece
  | .char c => rereadChar c
  | .unit value => .unit value

section Strings

variable {c : Char}

/-- The characters with an escape of their own are written by it. -/
theorem writtenChar_short (short : c ∈ shortEscaped) : ∃ escape,
    escapedChar? escape = some c ∧ writtenChar c = ['\\', escape] := by
  simp only [shortEscaped, List.mem_cons, List.not_mem_nil, or_false] at short
  rcases short with rfl | rfl | rfl | rfl | rfl | rfl | rfl
  · exact ⟨'"', rfl, rfl⟩
  · exact ⟨'\\', rfl, rfl⟩
  · exact ⟨'b', rfl, rfl⟩
  · exact ⟨'f', rfl, rfl⟩
  · exact ⟨'n', rfl, rfl⟩
  · exact ⟨'r', rfl, rfl⟩
  · exact ⟨'t', rfl, rfl⟩

/-- Other control characters are written by their number. -/
theorem writtenChar_control (control : c.toNat < 0x20) (long : c ∉ shortEscaped) :
    writtenChar c = writtenUnit (UInt16.ofNat c.toNat) := by
  have number : (UInt16.ofNat c.toNat).toNat = c.toNat :=
    UInt16.toNat_ofNat_of_lt' (Nat.lt_trans control (by decide))
  have leading : c.toNat / 4096 = 0 ∧ c.toNat / 256 % 16 = 0 ∧
      c.toNat / 16 % 16 = c.toNat / 16 := by omega
  simp only [shortEscaped, List.mem_cons, List.not_mem_nil, or_false, not_or] at long
  simp only [writtenChar, long, if_false, control, if_true, writtenUnit, number, leading]
  rfl

/-- All that is left is written as it is. -/
theorem writtenChar_plain (printed : ¬c.toNat < 0x20) (long : c ∉ shortEscaped) :
    writtenChar c = [c] := by
  simp only [shortEscaped, List.mem_cons, List.not_mem_nil, or_false, not_or] at long
  simp only [writtenChar, long, if_false, printed]

/-- A code unit written by its number is in the grammar. -/
theorem writtenUnit_spelled (unit : UInt16) : PieceSpelled (.unit unit) (writtenUnit unit) :=
  .unit (unit?_writtenUnit unit)

/-- Each written piece spells what reading makes of it. -/
theorem writtenPiece_spelled (piece : StringPiece) :
    PieceSpelled piece.reread (writtenPiece piece) := by
  cases piece with
  | unit value => exact writtenUnit_spelled value
  | char c =>
    show PieceSpelled (rereadChar c) (writtenChar c)
    unfold rereadChar
    by_cases short : c ∈ shortEscaped
    · obtain ⟨escape, means, written⟩ := writtenChar_short short
      rw [if_neg fun both => both.2 short, written]
      exact .escaped means
    · by_cases control : c.toNat < 0x20
      · rw [if_pos ⟨control, short⟩, writtenChar_control control short]
        exact writtenUnit_spelled _
      · rw [if_neg fun both => control both.1, writtenChar_plain control short]
        exact .plain (Nat.not_lt.mp control) (fun same => short (same ▸ by decide))
          (fun same => short (same ▸ by decide))

/-- So is every string, piece by piece. -/
theorem writtenPieces_spelled (pieces : List StringPiece) :
    PiecesSpelled (pieces.map .reread) (pieces.flatMap writtenPiece) := by
  induction pieces with
  | nil => exact .nil
  | cons piece rest ih => exact .cons (writtenPiece_spelled piece) ih

/-- With its quotes a written string is a token of the grammar. -/
theorem writtenString_spelled (pieces : List StringPiece) :
    (Token.scalar (.string (pieces.map .reread))).Spelled (writtenString pieces).toList := by
  unfold writtenString
  rw [String.toList_ofList]
  exact .string (writtenPieces_spelled pieces)

end Strings

section Spelling

variable {unit : UInt16} (rest : List StringPiece)

/-- A unit that is no surrogate is a character by itself. -/
theorem pieceChars?_unit (high : isHighSurrogate unit = false) (low : isLowSurrogate unit = false) :
    pieceChars? (.unit unit :: rest) = (Char.ofNat unit.toNat :: ·) <$> pieceChars? rest := by
  match rest with
  | [] | .char _ :: _ | .unit _ :: _ => simp [pieceChars?, high, low]

/-- Control characters lie far below the surrogates, so that writing them by number does no harm. -/
theorem surrogate_control {c : Char} (control : c.toNat < 0x20) :
    isHighSurrogate (UInt16.ofNat c.toNat) = false ∧
      isLowSurrogate (UInt16.ofNat c.toNat) = false ∧ (UInt16.ofNat c.toNat).toNat = c.toNat := by
  have number : (UInt16.ofNat c.toNat).toNat = c.toNat :=
    UInt16.toNat_ofNat_of_lt' (Nat.lt_trans control (by decide))
  have high : ¬(0xD800 : UInt16) ≤ UInt16.ofNat c.toNat := by
    rw [UInt16.le_iff_toNat_le, number]
    exact Nat.not_le.mpr (Nat.lt_trans control (by decide))
  have low : ¬(0xDC00 : UInt16) ≤ UInt16.ofNat c.toNat := by
    rw [UInt16.le_iff_toNat_le, number]
    exact Nat.not_le.mpr (Nat.lt_trans control (by decide))
  exact ⟨by simp [isHighSurrogate, high], by simp [isLowSurrogate, low], number⟩

/-- A character comes back from what was written for it, whether it was escaped or not. -/
theorem pieceChars?_rereadChar (c : Char) :
    pieceChars? (rereadChar c :: rest) = (c :: ·) <$> pieceChars? rest := by
  unfold rereadChar
  split
  · next control =>
    obtain ⟨high, low, number⟩ := surrogate_control control.1
    rw [pieceChars?_unit rest high low, number, Char.ofNat_toNat]
  · rfl

/-- Half a pair with no unit behind it spells nothing, however the next character is written. -/
theorem pieceChars?_lone (half : (isHighSurrogate unit || isLowSurrogate unit) = true)
    (alone : ∀ next after, rest = .unit next :: after → False) :
    pieceChars? (.unit unit :: rest.map .reread) = none := by
  match rest with
  | [] => exact if_pos half
  | .unit next :: after => exact (alone next after rfl).elim
  | .char c :: after =>
    show pieceChars? (.unit unit :: rereadChar c :: _) = none
    unfold rereadChar
    split
    · next control =>
      have low := (surrogate_control control.1).2.1
      cases high : isHighSurrogate unit with
      | true => simp [pieceChars?, high, low]
      | false =>
        rw [high, Bool.false_or] at half
        simp [pieceChars?, high, half]
    · simp [pieceChars?, half]

/-- Written strings spell when read what they spelled before. -/
theorem pieceChars?_reread (pieces : List StringPiece) :
    pieceChars? (pieces.map .reread) = pieceChars? pieces := by
  fun_induction pieceChars? pieces with
  | case1 => rfl
  | case2 c rest ih => exact (pieceChars?_rereadChar _ c).trans (by rw [ih])
  | case3 high low rest isHigh isLow ih =>
    show pieceChars? (.unit high :: .unit low :: rest.map .reread) = _
    rw [pieceChars?, if_pos isHigh, if_pos isLow, ih]
  | case4 high low rest isHigh notLow =>
    show pieceChars? (.unit high :: .unit low :: rest.map .reread) = _
    rw [pieceChars?, if_pos isHigh, if_neg notLow]
  | case5 high low rest notHigh isLow =>
    show pieceChars? (.unit high :: .unit low :: rest.map .reread) = _
    rw [pieceChars?, if_neg notHigh, if_pos isLow]
  | case6 high low rest notHigh notLow ih =>
    rw [← ih]
    exact pieceChars?_unit _ (Bool.eq_false_iff.mpr notHigh) (Bool.eq_false_iff.mpr notLow)
  | case7 value rest alone half => exact pieceChars?_lone rest half alone
  | case8 value rest alone whole ih =>
    obtain ⟨high, low⟩ := Bool.or_eq_false_iff.mp (Bool.eq_false_iff.mpr whole)
    rw [← ih]
    exact pieceChars?_unit _ high low

/-- The text of a string does not change by writing and reading, although its pieces may. -/
theorem pieceText?_reread (pieces : List StringPiece) :
    pieceText? (pieces.map .reread) = pieceText? pieces :=
  congrArg (String.ofList <$> ·) (pieceChars?_reread pieces)

end Spelling

section Naturals

/-- Only the number zero is written with a zero in front. -/
theorem head?_toDigits (number : Nat) (zero : (Nat.toDigits 10 number).head? = some '0') :
    number = 0 := by
  induction number using Nat.strongRecOn with
  | ind number ih =>
    rw [Nat.toDigits_eq_if (by decide)] at zero
    split at zero
    · exact Nat.digitChar_eq_zero.mp (Option.some.inj zero)
    · next large =>
      rw [List.head?_append, Option.or_of_isSome (List.isSome_head?.mpr Nat.toDigits_ne_nil)]
        at zero
      have front := ih (number / 10) (by omega) zero
      omega

/-- The decimal digits of a number have its value. -/
theorem digitsValue_toDigits (number : Nat) : digitsValue (Nat.toDigits 10 number) = number := by
  have same : digitsValue (Nat.toDigits 10 number) =
      Nat.ofDigitChars 10 (Nat.toDigits 10 number) 0 := by
    unfold digitsValue Nat.ofDigitChars
    simp only [Nat.mul_comm]
  rw [same, Nat.ofDigitChars_ten_toDigits]

/-- Written in decimal, a number is a numeral of itself: only zero begins with a zero. -/
theorem numeral_written (number : Nat) : Numeral (.natural number) (Nat.toDigits 10 number) := by
  have whole : WholeDigits (Nat.toDigits 10 number) := by
    refine ⟨⟨Nat.toDigits_ne_nil, fun c digit => ?_⟩, fun zero => ?_⟩
    · exact Nat.isDigit_of_mem_toDigits (by decide) (by decide) digit
    · rw [head?_toDigits number zero]
      rfl
  have numeral := Numeral.natural whole
  rwa [digitsValue_toDigits] at numeral

end Naturals

end DaemonMesh
