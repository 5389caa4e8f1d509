import Tollgate.Control.Config
import Tollgate.Json.Record
import Tollgate.Net.IpText
import Tollgate.Timestamp

/-!
# Records on the wire

The JSON form of each record: a writer that gives every field in the order of declaration, and a
reader that also takes the fields in another order, with members it does not know, without those
that have a default, or as an array.
-/

namespace Tollgate

open Json

/-- The JSON number for a word. -/
def Json.word (n : UInt64) : Json := .nat n.toNat

@[inherit_doc Json.word] def Json.word32 (n : UInt32) : Json := .nat n.toNat

namespace Timestamp

/-- A moment as its seconds. -/
def toJson (t : Timestamp) : Json := .integer t.secs.toInt

@[inherit_doc toJson] def ofJson? (value : Json) : Option Timestamp :=
  (asInt64? value).map Timestamp.mk

end Timestamp

namespace IpAddr

/-- An address as text. -/
def toJson (ip : IpAddr) : Json := .str ip.text

@[inherit_doc toJson] def ofJson? (value : Json) : Option IpAddr :=
  (asText? value).bind ofText?

end IpAddr

namespace Uuid

/-- An identifier as text. -/
def toJson (u : Uuid) : Json := .str u.text

@[inherit_doc toJson] def ofJson? (value : Json) : Option Uuid :=
  (asText? value).bind ofText?

end Uuid

namespace NodeLimits

/-- The names of the fields. -/
def fieldNames : List String := ["speed_limit", "device_limit", "conn_limit"]

/-- The caps of a node with all fields. -/
def toJson (limits : NodeLimits) : Json :=
  .obj [("speed_limit", word limits.speedLimit), ("device_limit", word32 limits.deviceLimit),
    ("conn_limit", word32 limits.connLimit)]

/-- The caps of a node; each defaults to no limit. -/
def ofJson? (value : Json) : Option NodeLimits := do
  match ← fields? fieldNames value with
  | [speed, device, conn] =>
    return {
      speedLimit := ← withDefault 0 asUInt64? speed
      deviceLimit := ← withDefault 0 asUInt32? device
      connLimit := ← withDefault 0 asUInt32? conn }
  | _ => none

end NodeLimits

namespace DynamicLimit

@[inherit_doc NodeLimits.fieldNames]
def fieldNames : List String := ["threshold_bytes", "reduced_speed", "duration_secs"]

/-- A dynamic limit with all fields. -/
def toJson (limit : DynamicLimit) : Json :=
  .obj [("threshold_bytes", word limit.thresholdBytes), ("reduced_speed", word limit.reducedSpeed),
    ("duration_secs", word limit.durationSecs)]

/-- A dynamic limit; every field must be given. -/
def ofJson? (value : Json) : Option DynamicLimit := do
  match ← fields? fieldNames value with
  | [threshold, speed, duration] =>
    return {
      thresholdBytes := ← required asUInt64? threshold
      reducedSpeed := ← required asUInt64? speed
      durationSecs := ← required asUInt64? duration }
  | _ => none

end DynamicLimit

namespace NodeInfo

@[inherit_doc NodeLimits.fieldNames]
def fieldNames : List String :=
  ["limits", "pull_interval_secs", "push_interval_secs", "dynamic_limit"]

/-- The information about a node with all fields. -/
def toJson (info : NodeInfo) : Json :=
  .obj [("limits", info.limits.toJson), ("pull_interval_secs", word info.pullIntervalSecs),
    ("push_interval_secs", word info.pushIntervalSecs),
    ("dynamic_limit", .opt DynamicLimit.toJson info.dynamicLimit)]

/-- The information about a node; both intervals must be given. -/
def ofJson? (value : Json) : Option NodeInfo := do
  match ← fields? fieldNames value with
  | [limits, pull, push, dynamic] =>
    return {
      limits := ← withDefault {} NodeLimits.ofJson? limits
      pullIntervalSecs := ← required asUInt64? pull
      pushIntervalSecs := ← required asUInt64? push
      dynamicLimit := ← withDefault none (nullable DynamicLimit.ofJson?) dynamic }
  | _ => none

end NodeInfo

namespace RosterUser

@[inherit_doc NodeLimits.fieldNames]
def fieldNames : List String := ["id", "uuid", "speed_limit", "device_limit"]

/-- A user with all fields. -/
def toJson (user : RosterUser) : Json :=
  .obj [("id", word user.id), ("uuid", user.uuid.toJson), ("speed_limit", word user.speedLimit),
    ("device_limit", word32 user.deviceLimit)]

/-- A user; the caps default to no limit. -/
def ofJson? (value : Json) : Option RosterUser := do
  match ← fields? fieldNames value with
  | [id, uuid, speed, device] =>
    return {
      id := ← required asUInt64? id
      uuid := ← required Uuid.ofJson? uuid
      speedLimit := ← withDefault 0 asUInt64? speed
      deviceLimit := ← withDefault 0 asUInt32? device }
  | _ => none

end RosterUser

namespace RuleSet

@[inherit_doc NodeLimits.fieldNames]
def fieldNames : List String := ["domain_patterns", "protocols"]

/-- A rule set with both lists. -/
def toJson (rules : RuleSet) : Json :=
  .obj [("domain_patterns", .list .str rules.domainPatterns),
    ("protocols", .list .str rules.protocols)]

/-- A rule set; each list defaults to the empty one. -/
def ofJson? (value : Json) : Option RuleSet := do
  match ← fields? fieldNames value with
  | [domains, protocols] =>
    return {
      domainPatterns := ← withDefault [] (listOf asText?) domains
      protocols := ← withDefault [] (listOf asText?) protocols }
  | _ => none

end RuleSet

namespace UserIps

@[inherit_doc NodeLimits.fieldNames]
def fieldNames : List String := ["user_id", "ips"]

/-- The addresses of a user. -/
def toJson (entry : UserIps) : Json :=
  .obj [("user_id", word entry.userId), ("ips", .list IpAddr.toJson entry.ips)]

/-- The addresses of a user; both fields must be given. -/
def ofJson? (value : Json) : Option UserIps := do
  match ← fields? fieldNames value with
  | [user, ips] =>
    return {
      userId := ← required asUInt64? user
      ips := ← required (listOf IpAddr.ofJson?) ips }
  | _ => none

end UserIps

namespace UserTraffic

@[inherit_doc NodeLimits.fieldNames]
def fieldNames : List String := ["user_id", "upload", "download"]

/-- The traffic of a user. -/
def toJson (traffic : UserTraffic) : Json :=
  .obj [("user_id", word traffic.userId), ("upload", word traffic.upload),
    ("download", word traffic.download)]

/-- The traffic of a user; every field must be given. -/
def ofJson? (value : Json) : Option UserTraffic := do
  match ← fields? fieldNames value with
  | [user, upload, download] =>
    return {
      userId := ← required asUInt64? user
      upload := ← required asUInt64? upload
      download := ← required asUInt64? download }
  | _ => none

end UserTraffic

namespace ScopeConfig

@[inherit_doc NodeLimits.fieldNames]
def fieldNames : List String := ["limits", "dynamic_limit", "ip_recorder_enabled"]

/-- A scope's configuration with all fields. -/
def toJson (config : ScopeConfig) : Json :=
  .obj [("limits", config.limits.toJson),
    ("dynamic_limit", .opt DynamicLimit.toJson config.dynamicLimit),
    ("ip_recorder_enabled", .bool config.ipRecorderEnabled)]

/-- A scope's configuration; every field has a default. -/
def ofJson? (value : Json) : Option ScopeConfig := do
  match ← fields? fieldNames value with
  | [limits, dynamic, recorder] =>
    return {
      limits := ← withDefault {} NodeLimits.ofJson? limits
      dynamicLimit := ← withDefault none (nullable DynamicLimit.ofJson?) dynamic
      ipRecorderEnabled := ← withDefault false asBool? recorder }
  | _ => none

end ScopeConfig

namespace CoordinatorConfig

@[inherit_doc NodeLimits.fieldNames]
def fieldNames : List String := ["pull_interval_secs", "push_interval_secs", "min_interval_secs"]

/-- A coordinator's configuration; every field has a default. -/
def ofJson? (value : Json) : Option CoordinatorConfig := do
  match ← fields? fieldNames value with
  | [pull, push, least] =>
    let standard : CoordinatorConfig := {}
    return {
      pullIntervalSecs := ← withDefault standard.pullIntervalSecs asUInt64? pull
      pushIntervalSecs := ← withDefault standard.pushIntervalSecs asUInt64? push
      minIntervalSecs := ← withDefault standard.minIntervalSecs asUInt64? least }
  | _ => none

end CoordinatorConfig

end Tollgate
