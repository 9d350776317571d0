import DaemonMesh.Pattern.Mode
import DaemonMesh.Text.Alphabetic

namespace DaemonMesh

/-- What stands behind an opening parenthesis: switches for all that follows, or the beginning of a
group, with switches or a name of its own. -/
inductive PatternOpening
  | switches (mode : PatternMode)
  | group (mode : PatternMode) (name : Option (List Char))

namespace PatternOpening

def startsName (c : Char) : Bool := c == '_' || isAlphabetic c

def continuesName (c : Char) : Bool := isAlphanumeric c || ['_', '.', '[', ']'].contains c

def isName : List Char → Bool
  | [] => false
  | first :: rest => startsName first && rest.all continuesName

/-- Reads a name up to its closing angle. -/
def readName (mode : PatternMode) (text : List Char) : Option (PatternOpening × List Char) :=
  let name := text.takeWhile (· != '>')
  match text.dropWhile (· != '>') with
  | [] => none
  | _ :: rest => if isName name then some (.group mode (some name), rest) else none

def endsSwitches (c : Char) : Bool := c == ':' || c == ')'

/-- Reads switches up to a closing parenthesis, or up to the colon before the body of a group. -/
def readSwitches (mode : PatternMode) (text : List Char) : Option (PatternOpening × List Char) :=
  let written := text.takeWhile fun c => !endsSwitches c
  if !PatternMode.isSwitching written then none
  else
    match text.dropWhile fun c => !endsSwitches c with
    | [] => none
    | ':' :: rest => some (.group (mode.switch written) none, rest)
    | _ :: rest => if written.isEmpty then none else some (.switches (mode.switch written), rest)

def read (mode : PatternMode) (text : List Char) : Option (PatternOpening × List Char) :=
  match mode.skip text with
  | '?' :: 'P' :: '<' :: rest | '?' :: '<' :: rest => readName mode rest
  | '?' :: rest => readSwitches mode rest
  | rest => some (.group mode none, rest)

end PatternOpening

end DaemonMesh
