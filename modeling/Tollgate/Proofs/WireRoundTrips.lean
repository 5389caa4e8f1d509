import Tollgate.Control.Wire
import Tollgate.Proofs.RecordForms
import Tollgate.Proofs.TextForms

/-!
# Records survive the wire

For each record on the wire: its fields with what each holds, and the presentation that they make.
A record inside another may be presented in every way too.
-/

namespace Tollgate

open Json

/-! ### What fields hold -/

theorem Json.asInt?_integer {least greatest n : Int} (low : least ≤ n) (high : n ≤ greatest) :
    asInt? least greatest (.integer n) = some n :=
  if_pos ⟨low, high⟩

theorem Json.presentation_word : Presentation word asUInt64? (Written word) := by
  refine .written (fun n => .integer n.toNat) fun n => ?_
  have := n.toNat_lt
  rw [asUInt64?, word, nat, asInt?_integer (by omega) (by omega)]
  simp

theorem Json.presentation_word32 : Presentation word32 asUInt32? (Written word32) := by
  refine .written (fun n => .integer n.toNat) fun n => ?_
  have := n.toNat_lt
  rw [asUInt32?, word32, nat, asInt?_integer (by omega) (by omega)]
  simp

theorem Json.presentation_str : Presentation str asText? (Written str) :=
  .written .str fun _ => rfl

theorem Timestamp.presentation : Presentation toJson ofJson? (Written toJson) := by
  refine .written (fun t => .integer t.secs.toInt) fun t => ?_
  have low := t.secs.le_toInt
  have high := t.secs.toInt_lt
  rw [ofJson?, toJson, asInt64?, asInt?_integer (by omega) (by omega), Option.map_some,
    Int64.ofInt_toInt]
  rfl

theorem Uuid.presentation : Presentation toJson ofJson? (Written toJson) := by
  refine .written (fun u => .str u.text) fun u => ?_
  rw [ofJson?, toJson, presentation_str.reads u.text _ rfl, Option.bind_some, ofText?_text]

theorem IpAddr.presentation : Presentation toJson ofJson? (Written toJson) := by
  refine .written (fun ip => .str ip.text) fun ip => ?_
  rw [ofJson?, toJson, presentation_str.reads ip.text _ rfl, Option.bind_some, ofText?_text]

/-! ### Records -/

namespace NodeLimits

/-- The fields of the caps of a node. -/
def fields (limits : NodeLimits) : List Field :=
  [.withDefault "speed_limit" 0 (Written word) limits.speedLimit,
    .withDefault "device_limit" 0 (Written word32) limits.deviceLimit,
    .withDefault "conn_limit" 0 (Written word32) limits.connLimit]

/-- What stands for the caps of a node. -/
def Form (limits : NodeLimits) : Json → Prop := Stands limits.fields

theorem presentation : Presentation toJson ofJson? Form where
  exact limits := .obj (by simp [presentation_word.exact, presentation_word32.exact])
  stands limits := Gives.stands (.give rfl (.give rfl (.give rfl .nil)))
  reads limits json stands := by
    obtain ⟨values, given, isGiven⟩ := fields?_of_stands stands (show fieldNames.Nodup by decide)
    rcases isGiven with _ | ⟨speed, _ | ⟨device, _ | ⟨conn, _ | _⟩⟩⟩
    have given : fields? fieldNames json = _ := given
    simp [ofJson?, given, presentation_word.withDefault speed,
      presentation_word32.withDefault device, presentation_word32.withDefault conn]

end NodeLimits

namespace DynamicLimit

/-- The fields of a dynamic limit. -/
def fields (limit : DynamicLimit) : List Field :=
  [.required "threshold_bytes" (Written word) limit.thresholdBytes,
    .required "reduced_speed" (Written word) limit.reducedSpeed,
    .required "duration_secs" (Written word) limit.durationSecs]

/-- What stands for a dynamic limit. -/
def Form (limit : DynamicLimit) : Json → Prop := Stands limit.fields

theorem presentation : Presentation toJson ofJson? Form where
  exact limit := .obj (by simp [presentation_word.exact])
  stands limit := Gives.stands (.give rfl (.give rfl (.give rfl .nil)))
  reads limit json stands := by
    obtain ⟨values, given, isGiven⟩ := fields?_of_stands stands (show fieldNames.Nodup by decide)
    rcases isGiven with _ | ⟨threshold, _ | ⟨speed, _ | ⟨duration, _ | _⟩⟩⟩
    have given : fields? fieldNames json = _ := given
    simp [ofJson?, given, presentation_word.required threshold,
      presentation_word.required speed, presentation_word.required duration]

end DynamicLimit

namespace NodeInfo

/-- The fields of the information about a node. -/
def fields (info : NodeInfo) : List Field :=
  [.withDefault "limits" {} NodeLimits.Form info.limits,
    .required "pull_interval_secs" (Written word) info.pullIntervalSecs,
    .required "push_interval_secs" (Written word) info.pushIntervalSecs,
    .withDefault "dynamic_limit" none (OrNull DynamicLimit.Form) info.dynamicLimit]

/-- What stands for the information about a node. -/
def Form (info : NodeInfo) : Json → Prop := Stands info.fields

/-- What may be given for the dynamic limit of a node. -/
theorem presentation_dynamicLimit :
    Presentation (Json.opt DynamicLimit.toJson) (nullable DynamicLimit.ofJson?)
      (OrNull DynamicLimit.Form) :=
  DynamicLimit.presentation.opt rfl

theorem presentation : Presentation toJson ofJson? Form where
  exact info := .obj (by
    simp [NodeLimits.presentation.exact, presentation_word.exact, presentation_dynamicLimit.exact])
  stands info := Gives.stands (.give (NodeLimits.presentation.stands _)
    (.give rfl (.give rfl (.give (presentation_dynamicLimit.stands _) .nil))))
  reads info json stands := by
    obtain ⟨values, given, isGiven⟩ := fields?_of_stands stands (show fieldNames.Nodup by decide)
    rcases isGiven with _ | ⟨limits, _ | ⟨pull, _ | ⟨push, _ | ⟨dynamic, _ | _⟩⟩⟩⟩
    have given : fields? fieldNames json = _ := given
    simp [ofJson?, given, NodeLimits.presentation.withDefault limits,
      presentation_word.required pull, presentation_word.required push,
      presentation_dynamicLimit.withDefault dynamic]

end NodeInfo

namespace RosterUser

/-- The fields of a user. -/
def fields (user : RosterUser) : List Field :=
  [.required "id" (Written word) user.id, .required "uuid" (Written Uuid.toJson) user.uuid,
    .withDefault "speed_limit" 0 (Written word) user.speedLimit,
    .withDefault "device_limit" 0 (Written word32) user.deviceLimit]

/-- What stands for a user. -/
def Form (user : RosterUser) : Json → Prop := Stands user.fields

theorem presentation : Presentation toJson ofJson? Form where
  exact user := .obj (by
    simp [presentation_word.exact, Uuid.presentation.exact, presentation_word32.exact])
  stands user := Gives.stands (.give rfl (.give rfl (.give rfl (.give rfl .nil))))
  reads user json stands := by
    obtain ⟨values, given, isGiven⟩ := fields?_of_stands stands (show fieldNames.Nodup by decide)
    rcases isGiven with _ | ⟨id, _ | ⟨uuid, _ | ⟨speed, _ | ⟨device, _ | _⟩⟩⟩⟩
    have given : fields? fieldNames json = _ := given
    simp [ofJson?, given, presentation_word.required id, Uuid.presentation.required uuid,
      presentation_word.withDefault speed, presentation_word32.withDefault device]

end RosterUser

namespace RuleSet

/-- The fields of a rule set. -/
def fields (rules : RuleSet) : List Field :=
  [.withDefault "domain_patterns" [] (EachOf (Written str)) rules.domainPatterns,
    .withDefault "protocols" [] (EachOf (Written str)) rules.protocols]

/-- What stands for a rule set. -/
def Form (rules : RuleSet) : Json → Prop := Stands rules.fields

theorem presentation : Presentation toJson ofJson? Form where
  exact rules := .obj (by simp [presentation_str.list.exact])
  stands rules := Gives.stands
    (.give (presentation_str.list.stands _) (.give (presentation_str.list.stands _) .nil))
  reads rules json stands := by
    obtain ⟨values, given, isGiven⟩ := fields?_of_stands stands (show fieldNames.Nodup by decide)
    rcases isGiven with _ | ⟨domains, _ | ⟨protocols, _ | _⟩⟩
    have given : fields? fieldNames json = _ := given
    simp [ofJson?, given, presentation_str.list.withDefault domains,
      presentation_str.list.withDefault protocols]

end RuleSet

namespace UserIps

/-- The fields of the addresses of a user. -/
def fields (entry : UserIps) : List Field :=
  [.required "user_id" (Written word) entry.userId,
    .required "ips" (EachOf (Written IpAddr.toJson)) entry.ips]

/-- What stands for the addresses of a user. -/
def Form (entry : UserIps) : Json → Prop := Stands entry.fields

theorem presentation : Presentation toJson ofJson? Form where
  exact entry := .obj (by simp [presentation_word.exact, IpAddr.presentation.list.exact])
  stands entry := Gives.stands (.give rfl (.give (IpAddr.presentation.list.stands _) .nil))
  reads entry json stands := by
    obtain ⟨values, given, isGiven⟩ := fields?_of_stands stands (show fieldNames.Nodup by decide)
    rcases isGiven with _ | ⟨user, _ | ⟨ips, _ | _⟩⟩
    have given : fields? fieldNames json = _ := given
    simp [ofJson?, given, presentation_word.required user, IpAddr.presentation.list.required ips]

end UserIps

namespace UserTraffic

/-- The fields of the traffic of a user. -/
def fields (traffic : UserTraffic) : List Field :=
  [.required "user_id" (Written word) traffic.userId,
    .required "upload" (Written word) traffic.upload,
    .required "download" (Written word) traffic.download]

/-- What stands for the traffic of a user. -/
def Form (traffic : UserTraffic) : Json → Prop := Stands traffic.fields

theorem presentation : Presentation toJson ofJson? Form where
  exact traffic := .obj (by simp [presentation_word.exact])
  stands traffic := Gives.stands (.give rfl (.give rfl (.give rfl .nil)))
  reads traffic json stands := by
    obtain ⟨values, given, isGiven⟩ := fields?_of_stands stands (show fieldNames.Nodup by decide)
    rcases isGiven with _ | ⟨user, _ | ⟨upload, _ | ⟨download, _ | _⟩⟩⟩
    have given : fields? fieldNames json = _ := given
    simp [ofJson?, given, presentation_word.required user, presentation_word.required upload,
      presentation_word.required download]

end UserTraffic

/-! ### Round trips -/

/-- User identifiers, moments, names of scopes and the records on the wire survive it: each is
decoded from the text written for it. A record is also decoded from every text of an object that has
its fields in any order, without some that hold their default, and members of other names anywhere
between them, and from every text of an array of its fields. -/
theorem records_round_trip :
    RoundTrips word asUInt64? (Written word) ∧
    RoundTrips Timestamp.toJson Timestamp.ofJson? (Written Timestamp.toJson) ∧
    RoundTrips str asText? (Written str) ∧
    RoundTrips RosterUser.toJson RosterUser.ofJson? RosterUser.Form ∧
    RoundTrips NodeLimits.toJson NodeLimits.ofJson? NodeLimits.Form ∧
    RoundTrips DynamicLimit.toJson DynamicLimit.ofJson? DynamicLimit.Form ∧
    RoundTrips NodeInfo.toJson NodeInfo.ofJson? NodeInfo.Form ∧
    RoundTrips RuleSet.toJson RuleSet.ofJson? RuleSet.Form ∧
    RoundTrips UserIps.toJson UserIps.ofJson? UserIps.Form ∧
    RoundTrips UserTraffic.toJson UserTraffic.ofJson? UserTraffic.Form :=
  ⟨presentation_word.roundTrips, Timestamp.presentation.roundTrips, presentation_str.roundTrips,
    RosterUser.presentation.roundTrips, NodeLimits.presentation.roundTrips,
    DynamicLimit.presentation.roundTrips, NodeInfo.presentation.roundTrips,
    RuleSet.presentation.roundTrips, UserIps.presentation.roundTrips,
    UserTraffic.presentation.roundTrips⟩

/-- A node in two texts: an object in another order, with unknown members and without the fields
that hold their defaults, and an array without the last field. -/
theorem records_round_trip_rearranged :
    ∃ info : NodeInfo, info = ⟨⟨1000, 0, 4⟩, 60, 30, none⟩ ∧
      decode? NodeInfo.ofJson?
        ("\x7b\"push_interval_secs\":30,\"note\":[-1,\x7b\"limits\":null\x7d]," ++
        "\"limits\":\x7b\"conn_limit\":4,\"since\":true,\"speed_limit\":1000\x7d," ++
        "\"pull_interval_secs\":60,\"note\":\"\"\x7d") = some info ∧
      decode? NodeInfo.ofJson? "[[1000,0,4],60,30]" = some info := by
  obtain ⟨-, -, -, -, -, -, roundTrips, -⟩ := records_round_trip
  refine ⟨_, rfl, ?_, ?_⟩
  · let limits := [("conn_limit", word32 4), ("since", .bool true), ("speed_limit", word 1000)]
    let note : List Json := [.integer (-1), .obj [("limits", .null)]]
    let members := [("push_interval_secs", word 30), ("note", .array note),
      ("limits", .obj limits), ("pull_interval_secs", word 60), ("note", .str "")]
    have ofLimits : NodeLimits.Form ⟨1000, 0, 4⟩ (.obj limits) :=
      .object (.give rfl (.leaveOut rfl (.give rfl .nil))) (by decide)
        (List.perm_append_comm : ([_, _] ++ [_]).Perm ([_] ++ [_, _]))
    have ofInfo : NodeInfo.Form ⟨⟨1000, 0, 4⟩, 60, 30, none⟩ (.obj members) :=
      .object (.give ofLimits (.give rfl (.give rfl (.leaveOut rfl .nil)))) (by decide)
        (List.perm_append_comm_assoc [_, _] [_, _] [_])
    have exactLimits : IsExact (.obj limits) :=
      .obj (by simp [limits, presentation_word.exact, presentation_word32.exact, IsExact.bool])
    have exactNote : IsExact (.array note) :=
      .array (by simp [note, IsExact.integer, IsExact.obj, IsExact.null])
    have exact : IsExact (.obj members) :=
      .obj (by simp [members, presentation_word.exact, exactNote, exactLimits, IsExact.str])
    calc
      _ = decode? NodeInfo.ofJson? (obj members).write := congrArg _ (by decide +kernel)
      _ = some _ := roundTrips.decode?_form _ _ _ (parse?_write exact) ofInfo
  · let items : List Json := [.array [word 1000, word32 0, word32 4], word 60, word 30]
    have ofLimits : NodeLimits.Form ⟨1000, 0, 4⟩ (.array [word 1000, word32 0, word32 4]) :=
      .array (List.append_nil _).symm (.cons rfl (.cons rfl (.cons rfl .nil)))
        (List.forall_mem_nil _)
    have ofInfo : NodeInfo.Form ⟨⟨1000, 0, 4⟩, 60, 30, none⟩ (.array items) :=
      .array (List.take_append_drop 3 _).symm (.cons ofLimits (.cons rfl (.cons rfl .nil)))
        (by simp [NodeInfo.fields, Field.withDefault])
    have exactLimits : IsExact (.array [word 1000, word32 0, word32 4]) :=
      .array (by simp [presentation_word.exact, presentation_word32.exact])
    have exact : IsExact (.array items) :=
      .array (by simp [items, presentation_word.exact, exactLimits])
    calc
      _ = decode? NodeInfo.ofJson? (array items).write := congrArg _ (by decide +kernel)
      _ = some _ := roundTrips.decode?_form _ _ _ (parse?_write exact) ofInfo

end Tollgate
