namespace DaemonMesh

/-- A session of several parties. Number 0 stands for no session: the direct paths. -/
structure SessionId where
  number : UInt32
deriving DecidableEq, Repr

namespace SessionId

def direct : SessionId := ⟨0⟩

def isDirect (session : SessionId) : Bool := session.number == 0

instance : LT SessionId := ⟨fun a b => a.number < b.number⟩

instance : DecidableLT SessionId := fun a b => inferInstanceAs (Decidable (a.number < b.number))

instance : Ord SessionId := ⟨fun a b => compare a.number b.number⟩

def min (a b : SessionId) : SessionId := if b < a then b else a

def insertSorted (session : SessionId) : List SessionId → List SessionId
  | [] => [session]
  | first :: rest =>
    if first < session then first :: insertSorted session rest else session :: first :: rest

/-- Ascending order, repetitions kept. -/
def sort (sessions : List SessionId) : List SessionId := sessions.foldr insertSorted []

/-- The bare number. -/
def text (session : SessionId) : String := toString session.number.toNat

/-- The number under its type's name, as it appears inside larger texts. -/
def shown (session : SessionId) : String := "SessionId(" ++ session.text ++ ")"

end SessionId

/-- What a session carries. -/
inductive Traffic
  | messages
  | rawUnreliable
  | rawReliable
deriving DecidableEq, Repr

namespace Traffic

def all : List Traffic := [messages, rawUnreliable, rawReliable]

def name : Traffic → String
  | messages => "messages"
  | rawUnreliable => "raw_unreliable"
  | rawReliable => "raw_reliable"

def ofName? (name : String) : Option Traffic := all.find? fun traffic => traffic.name == name

end Traffic

/-- Wishes for a session, handed to link selection unread. -/
structure SessionOpts where
  traffic : Traffic
  multipoint : Bool
  proximity : UInt8
  transports : UInt16
deriving DecidableEq, Repr

/-- Messages between two members, over any distance and any transport. -/
def SessionOpts.default : SessionOpts := ⟨.messages, false, 0xFF, 0xFFFF⟩

/-- Why a session went away with the link that carried it. -/
inductive LossReason
  | invalid
  | remoteEndLeftSession
  | remoteEndClosedAbruptly
  | removedByBinder
  | linkTimeout
  | other
deriving DecidableEq, Repr

namespace LossReason

def all : List LossReason :=
  [invalid, remoteEndLeftSession, remoteEndClosedAbruptly, removedByBinder, linkTimeout, other]

def code : LossReason → Nat
  | invalid => 0
  | remoteEndLeftSession => 1
  | remoteEndClosedAbruptly => 2
  | removedByBinder => 3
  | linkTimeout => 4
  | other => 5

def name : LossReason → String
  | invalid => "Invalid"
  | remoteEndLeftSession => "RemoteEndLeftSession"
  | remoteEndClosedAbruptly => "RemoteEndClosedAbruptly"
  | removedByBinder => "RemovedByBinder"
  | linkTimeout => "LinkTimeout"
  | other => "ReasonOther"

def ofName? (name : String) : Option LossReason := all.find? fun reason => reason.name == name

end LossReason

end DaemonMesh
