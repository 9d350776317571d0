import DaemonMesh.Text.Characters

namespace DaemonMesh

/-- How a part of a pattern is meant. A folding part takes both cases of a letter for one, a wide
part speaks of characters and a narrow one of bytes, and a spaced part may hold blanks and comments
that mean nothing. -/
structure PatternMode where
  folding : Bool
  wide : Bool
  spaced : Bool
deriving DecidableEq, Repr

namespace PatternMode

def initial : PatternMode := ⟨false, true, false⟩

def switches : List Char := ['i', 'm', 's', 'U', 'u', 'R', 'x']

/-- Each switch comes once, and a dash stands before switches. -/
def isSwitching (text : List Char) : Bool :=
  (text.all fun c => c == '-' || switches.contains c) && text.eraseDups == text
    && text.getLast? != some '-'

/-- What a switch is set to: on before the dash, off behind it. -/
def switched (text : List Char) (switch : Char) (old : Bool) : Bool :=
  if (text.takeWhile (· != '-')).contains switch then true
  else if text.contains switch then false
  else old

/-- The other switches change what is matched, but not what can be read. -/
def switch (mode : PatternMode) (text : List Char) : PatternMode :=
  ⟨switched text 'i' mode.folding, switched text 'u' mode.wide, switched text 'x' mode.spaced⟩

/-- A comment goes from a hash to the end of its line. -/
def skipSpace (inComment : Bool) : List Char → List Char
  | [] => []
  | c :: rest =>
    if inComment then skipSpace (c != '\n') rest
    else if isBlank c then skipSpace false rest
    else if c = '#' then skipSpace true rest
    else c :: rest

def skip (mode : PatternMode) (text : List Char) : List Char :=
  if mode.spaced then skipSpace false text else text

/-- The sign that decides what a dash in a class is. A sign inside a comment counts. -/
def peek? (mode : PatternMode) (text : List Char) : Option Char :=
  if !mode.spaced then text.head?
  else
    match text.dropWhile isBlank with
    | '#' :: comment => (comment.dropWhile isBlank).head?
    | text => text.head?

end PatternMode

end DaemonMesh
