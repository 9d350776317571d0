import DaemonMesh.Pattern.Body

namespace DaemonMesh

namespace WishedValue

def withoutSign : List Char → List Char
  | '+' :: text | '-' :: text => text
  | text => text

def isDigits (text : List Char) : Bool := !text.isEmpty && text.all Char.isDigit

def isExponent : List Char → Bool
  | [] => true
  | 'e' :: text | 'E' :: text => isDigits (withoutSign text)
  | _ => false

/-- Digits with a point before, among or behind them, and perhaps an exponent. -/
def isDecimal (text : List Char) : Bool :=
  let whole := text.takeWhile Char.isDigit
  match text.dropWhile Char.isDigit with
  | '.' :: rest =>
    !(whole ++ rest.takeWhile Char.isDigit).isEmpty && isExponent (rest.dropWhile Char.isDigit)
  | rest => !whole.isEmpty && isExponent rest

def numberWords : List String := ["inf", "infinity", "nan"]

def isNumber (text : List Char) : Bool :=
  let text := withoutSign text
  isDecimal text || numberWords.contains (String.ofList (text.map Char.toLower))

/-- A wished value is a number or a pattern. Truth values are patterns as well. -/
def isReadable (text : List Char) : Bool := isNumber text || isPattern text

end WishedValue

end DaemonMesh
