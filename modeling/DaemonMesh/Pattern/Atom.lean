import DaemonMesh.Pattern.Mode
import DaemonMesh.Text.Characters

namespace DaemonMesh

/-- The smallest parts of a pattern. A code is a character given by two hexadecimal digits; a kind
is that of the digits, the blanks or the characters of words. -/
inductive PatternAtom
  | character (c : Char)
  | code (c : Char)
  | kind (negated : Bool)
  | any
  | edge
  | wordEdge
deriving DecidableEq, Repr

namespace PatternAtom

def isAscii (c : Char) : Bool := c.toNat < 0x80

/-- Wide patterns know no cases, kinds or words, as these would take tables of all characters.
Narrow patterns must not match a part of a character, so their bytes are ASCII. -/
def fits (mode : PatternMode) : PatternAtom → Bool
  | character _ => !(mode.wide && mode.folding)
  | code c => if mode.wide then !mode.folding else isAscii c
  | kind negated => !mode.wide && !negated
  | any => mode.wide
  | edge => true
  | wordEdge => !mode.wide

/-- A class has single characters and kinds, and a narrow class has bytes for characters. -/
def fitsClass (mode : PatternMode) : PatternAtom → Bool
  | character c | code c => if mode.wide then !mode.folding else isAscii c
  | kind negated => !mode.wide && !negated
  | any | edge | wordEdge => false

def character? : PatternAtom → Option Char
  | character c | code c => some c
  | _ => none

/-- Reads a number of hexadecimal digits, which a spaced pattern may set apart. -/
def readHex (mode : PatternMode) : Nat → Nat → List Char → Option (Nat × List Char)
  | 0, value, text => some (value, text)
  | _ + 1, _, [] => none
  | count + 1, value, digit :: rest => do
    readHex mode count (value * 16 + (← hexValue? digit)) (mode.skip rest)

/-- A character by its number in hexadecimal digits. Numbers in braces are not known, since a brace
does not close in a wished value. -/
def readNumbered (mode : PatternMode) (count : Nat) (text : List Char) :
    Option (Char × List Char) := do
  let (value, rest) ← readHex mode count 0 (mode.skip text)
  if value.isValidChar then some (Char.ofNat value, rest) else none

/-- Letters, digits and angles behind a backslash are kept for meanings of their own. -/
def isEscapable (c : Char) : Bool := isAscii c && !c.isAlphanum && c != '<' && c != '>'

/-- Reads what stands behind a backslash. Classes by the properties of characters are not known. -/
def readEscape (mode : PatternMode) : List Char → Option (PatternAtom × List Char)
  | [] => none
  | 'x' :: rest => (readNumbered mode 2 rest).map fun (c, rest) => (code c, rest)
  | 'u' :: rest => (readNumbered mode 4 rest).map fun (c, rest) => (character c, rest)
  | 'U' :: rest => (readNumbered mode 8 rest).map fun (c, rest) => (character c, rest)
  | 'a' :: rest => some (character '\x07', rest)
  | 't' :: rest => some (character '\t', rest)
  | 'n' :: rest => some (character '\n', rest)
  | 'v' :: rest => some (character '\x0B', rest)
  | 'f' :: rest => some (character '\x0C', rest)
  | 'r' :: rest => some (character '\r', rest)
  | c :: rest =>
    if ['d', 's', 'w'].contains c then some (kind false, rest)
    else if ['D', 'S', 'W'].contains c then some (kind true, rest)
    else if ['A', 'z'].contains c then some (edge, rest)
    else if ['b', 'B', '<', '>'].contains c then some (wordEdge, rest)
    else if isEscapable c then some (character c, rest)
    else none

/-- Reads a character that stands for itself, or an escape. -/
def readVerbatim (mode : PatternMode) : List Char → Option (PatternAtom × List Char)
  | [] => none
  | '\\' :: rest => readEscape mode rest
  | c :: rest => some (character c, rest)

def read (mode : PatternMode) : List Char → Option (PatternAtom × List Char)
  | '.' :: rest => some (any, rest)
  | '^' :: rest | '$' :: rest => some (edge, rest)
  | text => readVerbatim mode text

end PatternAtom

end DaemonMesh
