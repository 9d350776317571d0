import DaemonMesh.Session

namespace DaemonMesh

inductive MessageKind
  | methodCall
  | methodReturn
  | error
  | signal
deriving DecidableEq, Repr

namespace MessageKind

def all : List MessageKind := [methodCall, methodReturn, error, signal]

def name : MessageKind → String
  | methodCall => "MethodCall"
  | methodReturn => "MethodReturn"
  | error => "Error"
  | signal => "Signal"

def ofName? (name : String) : Option MessageKind := all.find? fun kind => kind.name == name

end MessageKind

/-- An outgoing message. Routing reads its session and nothing else. -/
structure Message where
  kind : MessageKind
  serial : UInt32
  sender : String
  destination : String
  session : SessionId
  member : Option String
  body : List UInt8
deriving DecidableEq, Repr

namespace Message

/-- A message outside any session, without member and body. -/
def blank (kind : MessageKind) (serial : UInt32) (sender destination : String) : Message :=
  ⟨kind, serial, sender, destination, .direct, none, []⟩

def withSession (message : Message) (session : SessionId) : Message := { message with session }

def withMember (message : Message) (member : String) : Message :=
  { message with member := some member }

def withBody (message : Message) (body : List UInt8) : Message := { message with body }

def methodCall (serial : UInt32) (sender destination member : String) : Message :=
  (blank .methodCall serial sender destination).withMember member

def signal (serial : UInt32) (sender destination member : String) : Message :=
  (blank .signal serial sender destination).withMember member

end Message

end DaemonMesh
