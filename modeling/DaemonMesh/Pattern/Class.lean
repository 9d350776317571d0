import DaemonMesh.Pattern.Atom

namespace DaemonMesh

/-- How many members a row has, and how deeply things are nested in them: in the deepest one, and in
the last one if it can be repeated. -/
structure PatternRow where
  count : Nat
  depth : Nat
  last : Option Nat
deriving DecidableEq, Repr

namespace PatternRow

def empty : PatternRow := ⟨0, 0, none⟩

def push (row : PatternRow) (depth : Nat) : PatternRow :=
  ⟨row.count + 1, max row.depth depth, some depth⟩

/-- A member that has nothing to be repeated. -/
def pushSwitch (row : PatternRow) : PatternRow := ⟨row.count + 1, row.depth, none⟩

/-- Repeats the last member. -/
def repeat? (row : PatternRow) : Option PatternRow := do
  let depth := (← row.last) + 1
  some ⟨row.count, max row.depth depth, some depth⟩

/-- A row nests its members, unless it is only one. -/
def nested (row : PatternRow) : Nat := if row.count ≤ 1 then row.depth else row.depth + 1

end PatternRow

namespace PatternClass

def asciiNames : List String :=
  ["alnum", "alpha", "ascii", "blank", "cntrl", "digit", "graph", "lower", "print", "punct",
    "space", "upper", "word", "xdigit"]

/-- Reads the name of an ASCII class between colons, and whether it is negated. -/
def readAscii? (text : List Char) : Option (Bool × List Char) := do
  let (negated, text) ← match text with
    | ':' :: '^' :: text => some (true, text)
    | ':' :: text => some (false, text)
    | _ => none
  match text.dropWhile (· != ':') with
  | ':' :: ']' :: rest =>
    if asciiNames.contains (String.ofList (text.takeWhile (· != ':'))) then some (negated, rest)
    else none
  | _ => none

/-- Where a class can be negated. A narrow one would come to hold bytes that are not ASCII. -/
def negationFits (mode : PatternMode) (negated : Bool) : Bool := mode.wide || !negated

def asciiFits (mode : PatternMode) (negated : Bool) : Bool :=
  negationFits mode negated && !(mode.wide && mode.folding)

/-- Dashes at the beginning of a class are members of it. -/
def readDashes (mode : PatternMode) : Nat → PatternRow → List Char → PatternRow × List Char
  | fuel + 1, row, '-' :: rest => readDashes mode fuel (row.push 0) (mode.skip rest)
  | _, row, text => (row, text)

/-- Reads what stands behind an opening bracket: whether the class is negated, and the first
members, which may be dashes or else a closing bracket. -/
def readOpening (mode : PatternMode) (fuel : Nat) (text : List Char) :
    Option (PatternRow × List Char) := do
  let text := mode.skip text
  let negated := text.head? == some '^'
  let text := if negated then mode.skip text.tail else text
  let (row, rest) := match text with
    | ']' :: rest => (PatternRow.empty.push 0, mode.skip rest)
    | _ => readDashes mode fuel .empty text
  if negationFits mode negated && (row.count == 0 || PatternAtom.fitsClass mode (.character '-')) then
    some (row, rest)
  else none

/-- Reads one member of a class, or two with a dash between them that are the ends of a range. -/
def readRange (mode : PatternMode) (text : List Char) : Option (List Char) := do
  let (first, rest) ← PatternAtom.readVerbatim mode text
  if !first.fitsClass mode then none
  match mode.skip rest with
  | '-' :: beyond =>
    if [some ']', some '-'].contains (mode.peek? beyond) then some ('-' :: beyond)
    else do
      let (last, rest) ← PatternAtom.readVerbatim mode (mode.skip beyond)
      if last.fitsClass mode && (← first.character?) ≤ (← last.character?) then some rest else none
  | rest => some rest

/-- How deeply a class is nested whose last row is given, and the depth of what stands before the
row's operator. -/
def depth (before : Option Nat) (row : PatternRow) : Nat :=
  match before with
  | none => row.nested
  | some before => max before row.nested + 1

/-- Reads the members of a class and its closing bracket. Operators between sets of members join
them from the left. Each call takes a sign. -/
def readMembers (mode : PatternMode) : Nat → Option Nat → PatternRow → List Char →
    Option (Nat × List Char)
  | 0, _, _, _ => none
  | fuel + 1, before, row, text =>
    match mode.skip text with
    | [] => none
    | ']' :: rest => some (depth before row + 1, rest)
    | '&' :: '&' :: rest | '-' :: '-' :: rest | '~' :: '~' :: rest =>
      readMembers mode fuel (some (depth before row)) .empty rest
    | '[' :: rest =>
      match readAscii? rest with
      | some (negated, rest) =>
        if asciiFits mode negated then readMembers mode fuel before (row.push 0) rest else none
      | none => do
        let (inner, rest) ← readOpening mode fuel rest
        let (innerDepth, rest) ← readMembers mode fuel none inner rest
        readMembers mode fuel before (row.push innerDepth) rest
    | text => do readMembers mode fuel before (row.push 0) (← readRange mode text)

/-- Reads a class behind its opening bracket, and gives its depth. -/
def read (mode : PatternMode) (fuel : Nat) (text : List Char) : Option (Nat × List Char) := do
  let (row, rest) ← readOpening mode fuel text
  readMembers mode fuel none row rest

end PatternClass

end DaemonMesh
