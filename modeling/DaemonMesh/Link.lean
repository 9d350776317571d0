import DaemonMesh.Text.Characters

namespace DaemonMesh

/-- The identity of a daemon. Two links with one guid are parallel paths to the same daemon. -/
structure Guid where
  bytes : Vector UInt8 16
deriving DecidableEq, Repr

namespace Guid

instance : Ord Guid := ⟨fun a b => compare a.bytes.toList b.bytes.toList⟩

def ofBytes? (bytes : List UInt8) : Option Guid :=
  if size : bytes.toArray.size = 16 then some ⟨⟨bytes.toArray, size⟩⟩ else none

def replicate (byte : UInt8) : Guid := ⟨Vector.replicate 16 byte⟩

/-- The guid whose bytes, first byte first, are the digits of a number to base 256. Different
numbers below 2 ^ 128 give different guids. -/
def numbered (n : Nat) : Guid := ⟨Vector.ofFn fun i => UInt8.ofNat (n >>> (8 * (15 - i.val)))⟩

def hexBytes? : List Char → Option (List UInt8)
  | [] => some []
  | [_] => none
  | high :: low :: rest => do
    let high ← hexValue? high
    let low ← hexValue? low
    let bytes ← hexBytes? rest
    some (UInt8.ofNat (16 * high + low) :: bytes)

/-- Reads thirty-two hexadecimal digits of either case. -/
def ofHex? (text : String) : Option Guid := hexBytes? text.toList >>= ofBytes?

/-- One byte as two lower-case hexadecimal digits. -/
def hexByte (byte : UInt8) : List Char :=
  [Nat.digitChar (byte.toNat / 16), Nat.digitChar (byte.toNat % 16)]

def hex (guid : Guid) : String := String.ofList (guid.bytes.toList.flatMap hexByte)

/-- The first four bytes, as used in bus names. -/
def shortHex (guid : Guid) : String := String.ofList ((guid.bytes.toList.take 4).flatMap hexByte)

end Guid

/-- A connection to a neighbouring daemon. The number alone tells links apart: name and guid may
be shared by parallel links. -/
structure Link where
  number : Nat
  name : String
  guid : Guid
deriving DecidableEq, Repr

end DaemonMesh
