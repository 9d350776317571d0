import DaemonMesh.Pattern.Class
import DaemonMesh.Pattern.Group

namespace DaemonMesh

/-- What has been read of a group: the mode that is set, the alternatives before, the row of the
alternative that is being read, and the names of all groups of the pattern so far. -/
structure PatternState where
  mode : PatternMode
  alternatives : PatternRow
  row : PatternRow
  names : List (List Char)

namespace PatternState

def initial : PatternState := ⟨.initial, .empty, .empty, []⟩

def push (state : PatternState) (depth : Nat) : PatternState :=
  { state with row := state.row.push depth }

/-- Ends an alternative. -/
def divide (state : PatternState) : PatternState :=
  { state with alternatives := state.alternatives.push state.row.nested, row := .empty }

def depth (state : PatternState) : Nat := state.divide.alternatives.nested

/-- Begins a group. Names are not given twice. -/
def enter? (state : PatternState) (mode : PatternMode) : Option (List Char) → Option PatternState
  | none => some ⟨mode, .empty, .empty, state.names⟩
  | some name =>
    if state.names.contains name then none
    else some ⟨mode, .empty, .empty, name :: state.names⟩

/-- Ends a group. What was switched in it does not last. -/
def leave (outer inner : PatternState) : PatternState :=
  { outer.push (inner.depth + 1) with names := inner.names }

/-- A question mark behind a repetition makes it shorter, and belongs to it. -/
def skipQuestion : List Char → List Char
  | '?' :: rest => rest
  | text => text

/-- Reads a pattern up to the end or to a parenthesis that closes nothing in it. An opening brace
would begin a count, and it does not close in a wished value. Each call takes a sign. -/
def read : Nat → PatternState → List Char → Option (PatternState × List Char)
  | 0, _, _ => none
  | fuel + 1, state, text =>
    match state.mode.skip text with
    | [] => some (state, [])
    | ')' :: rest => some (state, ')' :: rest)
    | '|' :: rest => read fuel state.divide rest
    | '(' :: rest => do
      match ← PatternOpening.read state.mode rest with
      | (.switches mode, rest) =>
        read fuel { state with mode := mode, row := state.row.pushSwitch } rest
      | (.group mode name, rest) =>
        let (inner, rest) ← read fuel (← state.enter? mode name) rest
        match rest with
        | [] => none
        | _ :: rest => read fuel (state.leave inner) rest
    | '[' :: rest => do
      let (depth, rest) ← PatternClass.read state.mode fuel rest
      read fuel (state.push depth) rest
    | '*' :: rest | '+' :: rest | '?' :: rest => do
      read fuel { state with row := ← state.row.repeat? } (skipQuestion rest)
    | '\x7b' :: _ => none
    | text => do
      let (atom, rest) ← PatternAtom.read state.mode text
      if atom.fits state.mode then read fuel (state.push 0) rest else none

end PatternState

/-- Patterns are not nested more deeply than this. -/
def patternDepth : Nat := 250

/-- Whether a text is a pattern for values. -/
def isPattern (text : List Char) : Bool :=
  match PatternState.initial.read (text.length + 1) text with
  | some (state, []) => state.depth ≤ patternDepth
  | _ => false

end DaemonMesh
