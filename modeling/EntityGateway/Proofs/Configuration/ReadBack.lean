import EntityGateway.Configuration.Files
import EntityGateway.Proofs.Json.ReadBack

/-!
# Settings are read back

Settings are read from the text that was written for them as the same settings: with the limit for
addresses that was left out because it is the usual one, without the texts that were left out
because there are none, with a secret of the same kind, and with the entities under the names they
were kept under. Only the version may stand in the way: `Settings.ofText_fileText` says that the
text of settings of another version is refused, with that version.

Three things are shown of each part of the settings: its JSON form is decoded as the part, its
decoder ignores places, and its JSON form is legible.
-/

namespace EntityGateway

/-! ## Metadata -/

namespace AttributeType

/-- No two types have the same name. -/
theorem ofName?_name (type : AttributeType) : ofName? type.name = some type := by
  cases type <;> rfl

theorem decode_toJson (type : AttributeType) : decode type.toJson.toDocument = .value type :=
  Decode.named_string type.ofName?_name

/-- The name of a type is all that is decoded of it. -/
theorem ignoresPlaces : IgnoresPlaces decode :=
  .named ofName?

end AttributeType

namespace AttributeMetadata

/-- An attribute is decoded from its JSON form. -/
theorem decode_toJson (a : AttributeMetadata) : decode a.toJson.toDocument = .value a := by
  simp [toJson, decode, Decode.structure_object, Fields.required_written, valueUnder?,
    AttributeType.decode_toJson]

theorem ignoresPlaces : IgnoresPlaces decode :=
  .ofFields _ ((((FieldsIgnorePlaces.required _ .text).map _).seq (.required _ .text)).seq
    (.required _ AttributeType.ignoresPlaces))

theorem legible_toJson {room : Nat} (a : AttributeMetadata) : a.toJson.Legible (room + 1) := by
  refine .object ?_
  simp [AttributeType.toJson, Json.Legible.string]

end AttributeMetadata

namespace EntityMetadata

/-- The description of an entity is decoded from its JSON form. -/
theorem decode_toJson (m : EntityMetadata) : decode m.toJson.toDocument = .value m := by
  have attributes : Decode.list AttributeMetadata.decode
      (Json.array (m.attributes.map AttributeMetadata.toJson)).toDocument =
        .value (m.attributes.map id) :=
    Decode.list_array AttributeMetadata.toJson id fun a _ => a.decode_toJson
  simp [toJson, decode, Decode.structure_object, Fields.required_written, valueUnder?, attributes]

theorem ignoresPlaces : IgnoresPlaces decode :=
  .ofFields _ ((((((FieldsIgnorePlaces.required _ .text).map _).seq (.required _ .text)).seq
    (.required _ .text)).seq (.required _ .text)).seq
      (.required _ AttributeMetadata.ignoresPlaces.list))

/-- The description of an entity is nested three deep at most: the object, the attributes and an
attribute. -/
theorem legible_toJson {room : Nat} (m : EntityMetadata) : m.toJson.Legible (room + 3) := by
  have attributes :
      (Json.array (m.attributes.map AttributeMetadata.toJson)).Legible (room + 2) := by
    refine .array fun item member => ?_
    obtain ⟨a, -, rfl⟩ := List.mem_map.mp member
    exact a.legible_toJson
  refine .object ?_
  simp [Json.Legible.string, attributes]

end EntityMetadata

namespace Metadata

/-- The descriptions of all entities are decoded from their JSON form, with their keys. -/
theorem decode_toJson (m : Metadata) : decode m.toJson.toDocument = .value m := by
  have entities : Decode.nameMap EntityMetadata.decode (Json.object
      (m.entities.entries.map fun entry => (entry.1, entry.2.toJson))).toDocument =
        .value (m.entities.mapValues id) :=
    Decode.nameMap_object EntityMetadata.toJson id fun entry _ => entry.2.decode_toJson
  simp [toJson, decode, Decode.structure_object, Fields.required_written, valueUnder?, entities,
    NameMap.mapValues_id]

theorem ignoresPlaces : IgnoresPlaces decode :=
  .ofFields _ ((FieldsIgnorePlaces.required _ EntityMetadata.ignoresPlaces.nameMap).map _)

/-- Metadata is nested five deep at most, whatever is in it. -/
theorem legible_toJson {room : Nat} (m : Metadata) : m.toJson.Legible (room + 5) := by
  have entities : (Json.object
      (m.entities.entries.map fun entry => (entry.1, entry.2.toJson))).Legible (room + 4) := by
    refine .object fun member written => ?_
    obtain ⟨entry, -, rfl⟩ := List.mem_map.mp written
    exact entry.2.legible_toJson
  refine .object ?_
  simp [entities]

end Metadata

/-! ## Secrets -/

namespace Secret

/-- A text is read as the secret itself, and only an object as the name of a variable. -/
theorem decode_toJson (s : Secret) : decode s.toJson.toDocument = .value s := by
  cases s with
  | plain value => rfl
  | fromVariable name => rfl

/-- A secret is decoded alike as a text and as the name of a variable. -/
theorem ignoresPlaces : IgnoresPlaces decode := by
  intro d s decoded
  obtain ⟨j, read, decoded⟩ := Decoded.of_bind_eq_value decoded
  have repeats : d.unplaced.repeats "variable" = d.repeats "variable" := by
    cases d with
    | object _ members =>
        rw [Document.unplaced, Document.repeats, Document.repeats, Members.count_unplaced]
    | _ => rfl
  rw [repeats] at decoded
  rw [decode, IgnoresPlaces.json d j read]
  exact decoded

theorem legible_toJson {room : Nat} (s : Secret) : s.toJson.Legible (room + 1) := by
  cases s with
  | plain value => exact .string value
  | fromVariable name =>
      refine .object ?_
      simp [Json.Legible.string]

end Secret

/-! ## Data sources -/

namespace DocumentStoreSettings

/-- The settings of the document store are decoded from their JSON form. -/
theorem decode_toJson (s : DocumentStoreSettings) : decode s.toJson.toDocument = .value s := by
  simp [toJson, decode, Decode.structure_object, Fields.required_written, valueUnder?,
    Secret.decode_toJson]

theorem ignoresPlaces : IgnoresPlaces decode :=
  .ofFields _ ((((FieldsIgnorePlaces.required _ .text).map _).seq
    (.required _ Secret.ignoresPlaces)).seq (.required _ .text))

theorem legible_toJson {room : Nat} (s : DocumentStoreSettings) : s.toJson.Legible (room + 2) := by
  refine .object ?_
  simp [Json.Legible.string, s.key.legible_toJson]

end DocumentStoreSettings

namespace RemoteServiceSettings

/-- The settings of the remote service are decoded from their JSON form. -/
theorem decode_toJson (s : RemoteServiceSettings) : decode s.toJson.toDocument = .value s := by
  obtain ⟨resource, username, password, tokenEndpoint, clientId⟩ := s
  have written (t : String) :
      Decode.nullable Decode.text (Json.string t).toDocument = .value (some t) := rfl
  cases tokenEndpoint <;> cases clientId <;>
    simp [toJson, decode, textMember?, Decode.structure_object, Fields.required_written,
      Fields.withDefault_written, valueUnder?, Secret.decode_toJson, written]

theorem ignoresPlaces : IgnoresPlaces decode :=
  .ofFields _ ((((((FieldsIgnorePlaces.required _ .text).map _).seq (.required _ .text)).seq
    (.required _ Secret.ignoresPlaces)).seq (.withDefault _ _ (.nullable .text))).seq
      (.withDefault _ _ (.nullable .text)))

theorem legible_toJson {room : Nat} (s : RemoteServiceSettings) : s.toJson.Legible (room + 2) := by
  refine .object ?_
  simp only [textMember?, List.forall_mem_append, List.forall_mem_cons, List.forall_mem_map]
  simp [Json.Legible.string, s.password.legible_toJson]

end RemoteServiceSettings

namespace DataSourceSettings

/-- The settings of either store are decoded from their JSON form. -/
theorem decode_toJson (s : DataSourceSettings) : decode s.toJson.toDocument = .value s := by
  cases s with
  | documentStore settings =>
      exact congrArg (documentStore <$> ·) settings.decode_toJson
  | remoteService settings =>
      exact congrArg (remoteService <$> ·) settings.decode_toJson

/-- Which store it is depends on the name of the member, not on its place. -/
theorem ignoresPlaces : IgnoresPlaces decode := by
  refine .choice ?_
  rintro (⟨place, name⟩ | ⟨place, name, value⟩) s decoded
  · dsimp only [Choice.unplaced] at decoded ⊢
    split at decoded <;> cases decoded
  · dsimp only [Choice.unplaced] at decoded ⊢
    split_ifs at decoded ⊢
    · exact DocumentStoreSettings.ignoresPlaces.map documentStore value s decoded
    · exact RemoteServiceSettings.ignoresPlaces.map remoteService value s decoded
    · cases decoded

theorem legible_toJson {room : Nat} (s : DataSourceSettings) : s.toJson.Legible (room + 3) := by
  cases s with
  | documentStore settings =>
      refine .object ?_
      simp [settings.legible_toJson]
  | remoteService settings =>
      refine .object ?_
      simp [settings.legible_toJson]

end DataSourceSettings

/-! ## Settings -/

namespace Settings

/-- What is left out of the JSON form of settings is what is taken for it when they are read. -/
theorem decode_toJson (s : Settings) : decode s.toJson.toDocument = .value s := by
  obtain ⟨version, dataSource, metadata, maxUrlLength⟩ := s
  by_cases usual : maxUrlLength = defaultMaxUrlLength
  · simp [toJson, decode, usual, Decode.structure_object, Fields.required_written,
      Fields.withDefault_written, valueUnder?, DataSourceSettings.decode_toJson,
      Metadata.decode_toJson]
  · simp [toJson, decode, usual, Decode.structure_object, Fields.required_written,
      Fields.withDefault_written, valueUnder?, DataSourceSettings.decode_toJson,
      Metadata.decode_toJson]

/-- The file of the settings may be laid out in any way. -/
theorem ignoresPlaces : IgnoresPlaces decode :=
  .ofFields _ (((((FieldsIgnorePlaces.required _ .uint32).map _).seq
    (.required _ DataSourceSettings.ignoresPlaces)).seq
      (.withDefault _ _ Metadata.ignoresPlaces)).seq (.withDefault _ _ .uint64))

/-- Settings are nested six deep at most, far less than a reader puts up with. -/
theorem legible_toJson {room : Nat} (s : Settings) : s.toJson.Legible (room + 6) := by
  have version : (Json.integer s.version.toNat).Legible (room + 5) :=
    .natural (Nat.lt_trans s.version.toNat_lt (by decide))
  have limit : (Json.integer s.maxUrlLength.toNat).Legible (room + 5) :=
    .natural s.maxUrlLength.toNat_lt
  have dataSource : s.dataSource.toJson.Legible (room + 5) :=
    s.dataSource.legible_toJson
  refine .object ?_
  by_cases usual : s.maxUrlLength = defaultMaxUrlLength
  · simp [usual, version, dataSource, s.metadata.legible_toJson]
  · simp [usual, version, limit, dataSource, s.metadata.legible_toJson]

/-- The text of settings is read as the settings, unless they are of another version. -/
theorem ofText_fileText (path : String) (s : Settings) :
    ofText path s.fileText =
      if s.version = currentVersion then .ok s
      else .error (.unsupportedVersion path s.version) := by
  have legible : s.toJson.Legible Document.nestingLimit := s.legible_toJson
  have decoded : decodeText decode s.fileText = .value s :=
    decodeText_indented ignoresPlaces legible s.decode_toJson
  rw [ofText, decoded]

end Settings

end EntityGateway
