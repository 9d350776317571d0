import DaemonMesh.Link
import DaemonMesh.Session
import DaemonMesh.Json.Record

namespace DaemonMesh

namespace SessionId

def ofJson? (json : Json) : Option SessionId :=
  (fun number => ⟨UInt32.ofNat number⟩) <$> json.naturalBelow? UInt32.size

def toJson (session : SessionId) : Json := .natural session.number.toNat

end SessionId

namespace Traffic

def ofJson? (json : Json) : Option Traffic := json.variant? >>= ofName?

def toJson (traffic : Traffic) : Json := .text traffic.name

end Traffic

namespace LossReason

def ofJson? (json : Json) : Option LossReason := json.variant? >>= ofName?

def toJson (reason : LossReason) : Json := .text reason.name

end LossReason

namespace SessionOpts

def fieldNames : List String := ["traffic", "is_multipoint", "proximity", "transports"]

/-- Every field must be given. -/
def ofJson? (json : Json) : Option SessionOpts := do
  match ← json.fields? fieldNames with
  | [some traffic, some multipoint, some proximity, some transports] =>
    some {
      traffic := ← Traffic.ofJson? traffic
      multipoint := ← multipoint.bool?
      proximity := UInt8.ofNat (← proximity.naturalBelow? UInt8.size)
      transports := UInt16.ofNat (← transports.naturalBelow? UInt16.size) }
  | _ => none

def toJson (opts : SessionOpts) : Json :=
  .members [("traffic", opts.traffic.toJson), ("is_multipoint", .bool opts.multipoint),
    ("proximity", .natural opts.proximity.toNat), ("transports", .natural opts.transports.toNat)]

end SessionOpts

namespace Guid

/-- An array of exactly sixteen bytes. -/
def ofJson? (json : Json) : Option Guid := do
  let items ← json.array?
  let bytes ← items.mapM fun item => UInt8.ofNat <$> item.naturalBelow? UInt8.size
  ofBytes? bytes

def toJson (guid : Guid) : Json :=
  .array (guid.bytes.toList.map fun byte => .natural byte.toNat)

end Guid

end DaemonMesh
