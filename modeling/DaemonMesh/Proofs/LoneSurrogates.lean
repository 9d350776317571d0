import DaemonMesh.Json.Tree

namespace DaemonMesh

namespace StringPiece

def isHigh : StringPiece → Bool
  | unit value => isHighSurrogate value
  | char _ => false

def isLow : StringPiece → Bool
  | unit value => isLowSurrogate value
  | char _ => false

/-- The two ranges of surrogates do not meet. -/
theorem isLow_of_isHigh {piece : StringPiece} (high : piece.isHigh = true) :
    piece.isLow = false := by
  cases piece with
  | char => cases high
  | unit value =>
    simp only [isHigh, isHighSurrogate, Bool.and_eq_true, decide_eq_true_eq] at high
    simp only [isLow, isLowSurrogate, Bool.and_eq_false_iff, decide_eq_false_iff_not]
    exact Or.inl (UInt16.not_le.mpr high.2)

end StringPiece

/-- Somewhere a half of a pair has no other half on the side where that would have to stand. -/
def LoneSurrogate (pieces : List StringPiece) : Prop :=
  ∃ before half after, pieces = before ++ half :: after ∧
    (half.isHigh = true ∧ (∀ next ∈ after.head?, next.isLow = false) ∨
      half.isLow = true ∧ ∀ last ∈ before.getLast?, last.isHigh = false)

section

variable {piece high low : StringPiece} {rest : List StringPiece}

/-- Without pieces there is no surrogate. -/
theorem not_loneSurrogate_nil : ¬LoneSurrogate [] := by
  rintro ⟨before, half, after, shape, _⟩
  cases before <;> cases shape

/-- A piece that is no high surrogate does not change how a string ends. -/
theorem getLast?_unpaired (single : piece.isHigh = false) :
    (∀ last ∈ (piece :: rest).getLast?, last.isHigh = false) ↔
      ∀ last ∈ rest.getLast?, last.isHigh = false := by
  cases rest with
  | nil => simp [single]
  | cons => rw [List.getLast?_cons_cons]

/-- A piece that is no high surrogate is alone if it is a low one; whatever follows is judged by
itself. -/
theorem loneSurrogate_cons (single : piece.isHigh = false) :
    LoneSurrogate (piece :: rest) ↔ piece.isLow = true ∨ LoneSurrogate rest := by
  constructor
  · rintro ⟨before, half, after, shape, lone⟩
    cases before with
    | nil =>
      cases shape
      rcases lone with ⟨isHigh, _⟩ | ⟨isLow, _⟩
      · exact absurd (isHigh.symm.trans single) (by decide)
      · exact Or.inl isLow
    | cons first before =>
      cases shape
      rw [getLast?_unpaired single] at lone
      exact Or.inr ⟨before, half, after, rfl, lone⟩
  · rintro (isLow | ⟨before, half, after, rfl, lone⟩)
    · exact ⟨[], piece, rest, rfl, Or.inr ⟨isLow, nofun⟩⟩
    · rw [← getLast?_unpaired single] at lone
      exact ⟨piece :: before, half, after, rfl, lone⟩

/-- A high surrogate is alone unless a low one follows at once. -/
theorem loneSurrogate_high (isHigh : high.isHigh = true)
    (alone : ∀ next ∈ rest.head?, next.isLow = false) : LoneSurrogate (high :: rest) :=
  ⟨[], high, rest, rfl, Or.inl ⟨isHigh, alone⟩⟩

/-- A high surrogate and the low one behind it make up one character and leave the rest as it is. -/
theorem loneSurrogate_pair (isHigh : high.isHigh = true) (isLow : low.isLow = true) :
    LoneSurrogate (high :: low :: rest) ↔ LoneSurrogate rest := by
  have single : low.isHigh = false := by
    refine Bool.eq_false_iff.mpr fun also => ?_
    exact absurd (isLow.symm.trans (StringPiece.isLow_of_isHigh also)) (by decide)
  constructor
  · rintro ⟨before, half, after, shape, lone⟩
    match before with
    | [] =>
      cases shape
      rcases lone with ⟨_, alone⟩ | ⟨also, _⟩
      · exact absurd (isLow.symm.trans (alone low rfl)) (by decide)
      · exact absurd (also.symm.trans (StringPiece.isLow_of_isHigh isHigh)) (by decide)
    | [first] =>
      cases shape
      rcases lone with ⟨also, _⟩ | ⟨_, alone⟩
      · exact absurd (also.symm.trans single) (by decide)
      · exact absurd (isHigh.symm.trans (alone high rfl)) (by decide)
    | first :: second :: before =>
      cases shape
      rw [List.getLast?_cons_cons, getLast?_unpaired single] at lone
      exact ⟨before, half, after, rfl, lone⟩
  · rintro ⟨before, half, after, rfl, lone⟩
    rw [← getLast?_unpaired single, ← @List.getLast?_cons_cons _ high] at lone
    exact ⟨high :: low :: before, half, after, rfl, lone⟩

end

/-- A string spells no text just when a half of a pair stands alone in it. -/
theorem pieceChars?_eq_none_iff (pieces : List StringPiece) :
    pieceChars? pieces = none ↔ LoneSurrogate pieces := by
  fun_induction pieceChars? pieces with
  | case1 => simp [not_loneSurrogate_nil]
  | case2 c rest ih =>
    rw [loneSurrogate_cons rfl, ← ih]
    simp [StringPiece.isLow]
  | case3 high low rest isHigh isLow ih =>
    have pair := @loneSurrogate_pair (.unit high) (.unit low) rest isHigh isLow
    rw [pair, ← ih]
    simp
  | case4 high low rest isHigh notLow =>
    refine iff_of_true rfl (@loneSurrogate_high (.unit high) _ isHigh ?_)
    rintro _ ⟨⟩
    exact Bool.eq_false_iff.mpr notLow
  | case5 high low rest notHigh isLow =>
    have first := @loneSurrogate_cons (.unit high) (.unit low :: rest)
      (Bool.eq_false_iff.mpr notHigh)
    exact iff_of_true rfl (first.mpr (Or.inl isLow))
  | case6 high low rest notHigh notLow ih =>
    have first := @loneSurrogate_cons (.unit high) (.unit low :: rest)
      (Bool.eq_false_iff.mpr notHigh)
    rw [first, ← ih]
    simp [StringPiece.isLow, notLow]
  | case7 value rest alone half =>
    refine iff_of_true rfl ?_
    cases isHigh : isHighSurrogate value with
    | true =>
      refine @loneSurrogate_high (.unit value) _ isHigh fun next first => ?_
      match rest with
      | .char _ :: _ =>
        cases first
        rfl
      | .unit low :: after => exact (alone low after rfl).elim
    | false =>
      rw [isHigh, Bool.false_or] at half
      exact (@loneSurrogate_cons (.unit value) rest isHigh).mpr (Or.inl half)
  | case8 value rest alone whole ih =>
    obtain ⟨notHigh, notLow⟩ := Bool.or_eq_false_iff.mp (Bool.eq_false_iff.mpr whole)
    rw [@loneSurrogate_cons (.unit value) rest notHigh, ← ih]
    simp [StringPiece.isLow, notLow]

/-- The text of a string is missing just if some surrogate in it is alone. The induction follows the
function, which takes one or two pieces at a time. -/
theorem pieceText?_eq_none_iff (pieces : List StringPiece) :
    pieceText? pieces = none ↔ LoneSurrogate pieces := by
  rw [← pieceChars?_eq_none_iff, pieceText?]
  simp

end DaemonMesh
