import Mathlib
import StatusPage.Api.View
import StatusPage.Proofs.Json.RecordReading

/-!
# Records come back from their texts

A text shows all of a value, save where a leap second inside a minute lies, so a value is read from
its text with its instants settled into the seconds that are shown. `Codec.Settles` says what a
codec makes of a value that it writes and reads again, and that it makes nothing else of what it has
read once. `Fields.settles_codec` reduces this for a record to three things: its fields have
different names, the codec of each field settles its values, and the record is put together again
from the values of its fields. So a field that is written under one name and read under another, or
with a codec that loses something, shows in one line here. `record_round_trip` draws the conclusion
for the texts of all records, inside the page and on the wire.
-/

namespace StatusPage

namespace Json

namespace Codec

/-- From what is written for a value the codec reads the value that `settle` makes of it. Whatever
the codec reads is as `settle` leaves it, and no integer that it writes lies beyond 64 bits. -/
structure Settles {α : Type} (c : Codec α) (settle : α → α) : Prop where
  reads : ∀ a, c.read (c.write a).reading = .ok (settle a)
  settled : ∀ r a, c.read r = .ok a → settle a = a
  small : c.Small

/-- Every value is read from what is written for it. -/
abbrev Lossless {α : Type} (c : Codec α) : Prop := c.Settles id

variable {α : Type} {c : Codec α} {settle : α → α}

/-- A codec that reads what it wrote changes nothing of what it reads. -/
theorem Lossless.intro (reads : ∀ a, c.read (c.write a).reading = .ok a) (small : c.Small) :
    c.Lossless :=
  ⟨reads, fun _ _ _ => rfl, small⟩

theorem Settles.congr {other : α → α} (settles : c.Settles settle)
    (same : ∀ a, settle a = other a) : c.Settles other :=
  funext same ▸ settles

/-- The text of a value is read as the settled value. -/
theorem Settles.parse_render (settles : c.Settles settle) (a : α) :
    c.parse (c.write a).render = .ok (settle a) := by
  rw [parse, Json.read, render, String.toList_ofList, readSymbols_write (settles.small a),
    readDocument]
  dsimp only
  rw [settles.reads a]
  rfl

/-- Values that are written alike are settled alike. -/
theorem Settles.settle_eq (settles : c.Settles settle) {a b : α} (same : c.write a = c.write b) :
    settle a = settle b := by
  have read := settles.reads a
  rw [same, settles.reads b] at read
  exact (Except.ok.inj read).symm

/-- What is read from a text is settled. -/
theorem Settles.of_parse (settles : c.Settles settle) {text : String} {a : α}
    (read : c.parse text = .ok a) : settle a = a := by
  obtain ⟨value, value_read, rest⟩ := bind_ok_iff.1 read
  split at rest
  · cases rest
  · cases rest
    exact settles.settled _ a value_read

/-! ## Simple values, lists and values that may be absent -/

theorem lossless_string : string.Lossless := .intro (fun _ => rfl) small_string

theorem lossless_uuid : uuid.Lossless := .intro read_uuid small_uuid

theorem lossless_uint8 : uint8.Lossless := .intro read_uint8 small_uint8

theorem lossless_uint32 : uint32.Lossless := .intro read_uint32 small_uint32

theorem lossless_labels : labels.Lossless := .intro read_labels small_labels

theorem settles_instant : instant.Settles Instant.settle where
  reads := read_instant
  settled r t read := by
    obtain ⟨s, -, parsed⟩ := exists_of_read_refine read
    exact Instant.settle_of_regular (Instant.regular_of_parse? parsed)
  small := small_instant

theorem Settles.list (settles : c.Settles settle) : c.list.Settles (List.map settle) where
  reads items := read_list fun a _ => settles.reads a
  settled r items read := by
    cases r with
    | array readings =>
      change readAll c readings = .ok items at read
      induction readings generalizing items with
      | nil =>
        cases read
        rfl
      | cons reading later ih =>
        obtain ⟨first, first_read, others, others_read, same⟩ := by
          simpa only [readAll, bind_ok_iff] using read
        cases same
        rw [List.map_cons, settles.settled reading first first_read, ih others others_read]
    | _ => cases read
  small := settles.small.list

theorem Lossless.list (lossless : c.Lossless) : c.list.Lossless :=
  (Settles.list lossless).congr List.map_id

/-- A value that may be absent is told from one that is there, if no value is written as `null`. -/
theorem Settles.nullable (settles : c.Settles settle)
    (never_null : ∀ a, (c.write a).reading ≠ .null) :
    c.nullable.Settles (Option.map settle) where
  reads
    | none => rfl
    | some a => read_nullable (never_null a) (settles.reads a)
  settled r
    | none, _ => rfl
    | some a, read => by
      have own : c.read r = .ok a := by
        cases r <;> first | cases read | skip
        all_goals
          obtain ⟨b, own, same⟩ := map_ok_iff.1 read
          cases same
          exact own
      exact congrArg some (settles.settled r a own)
  small := settles.small.nullable

theorem Lossless.nullable (lossless : c.Lossless)
    (never_null : ∀ a, (c.write a).reading ≠ .null) : c.nullable.Lossless :=
  (Settles.nullable lossless never_null).congr fun o => congrFun Option.map_id o

end Codec

/-! ## Fields -/

/-- A value that stands in for an absent field is as `settle` leaves it. -/
def Absence.SettledBy {α : Type} (settle : α → α) : Absence α → Prop
  | .required => True
  | .nullable value => settle value = value
  | .defaulted value => settle value = value

namespace Fields

/-- The codecs of the fields settle the values of the fields. -/
inductive Settles : {β : Type} → Fields β → (β → β) → Prop
  | nil : Settles .nil id
  | cons {α β : Type} {field : RecordField α} {rest : Fields β} {first : α → α} {others : β → β}
      (own : field.codec.Settles first) (absent : field.absence.SettledBy first)
      (later : Settles rest others) :
      Settles (.cons field rest) (Prod.map first others)

section Absent

variable {α β : Type} {name : String} {codec : Codec α} {rest : Fields β} {first : α → α}
  {others : β → β}

/-- A field that has to be there has no value for its absence. -/
theorem Settles.required (own : codec.Settles first) (later : rest.Settles others) :
    Settles (.cons (.required name codec) rest) (Prod.map first others) :=
  .cons own trivial later

/-- Where a value may be absent, its absence is settled. -/
theorem Settles.optional {first : Option α → Option α} (own : codec.nullable.Settles first)
    (absent : first none = none) (later : rest.Settles others) :
    Settles (.cons (.optional name codec) rest) (Prod.map first others) :=
  .cons own absent later

/-- Where every value is read as it was, so is the one for an absent field. -/
theorem Lossless.defaulted {value : α} (own : codec.Lossless) (later : rest.Settles others) :
    Settles (.cons (.defaulted name codec value) rest) (Prod.map id others) :=
  .cons own rfl later

end Absent

variable {α β : Type} {fields : Fields β} {settle : β → β}

theorem Settles.small (each : fields.Settles settle) : fields.Small := by
  induction each with
  | nil => trivial
  | cons own _ _ ih => exact ⟨own.small, ih⟩

/-- The members of a written record have the names of its fields. -/
theorem names_write (fields : Fields β) (b : β) : (fields.write b).map (·.1) = fields.names := by
  induction fields with
  | nil => rfl
  | cons field rest ih => exact congrArg (field.name :: ·) (ih b.2)

/-- Members that contain those of a written record give the settled values of its fields. -/
theorem Settles.gives (each : fields.Settles settle) {members : List (String × Json)}
    (distinct : (members.map (·.1)).Nodup) {b : β} (written : ∀ m ∈ fields.write b, m ∈ members) :
    Gives members fields (settle b) := by
  induction each with
  | nil => trivial
  | cons own _ _ ih =>
    obtain ⟨first, others⟩ := b
    obtain ⟨here, later⟩ := List.forall_mem_cons.1 written
    exact ⟨⟨_, lookup_of_mem distinct here, own.reads first⟩, ih later⟩

/-- What is picked from members is settled, the values of absent fields included. -/
theorem Settles.of_pick (each : fields.Settles settle) {found : List (String × Reading)} {b : β}
    (picked : fields.pick found = .ok b) : settle b = b := by
  induction each with
  | nil => rfl
  | @cons _ _ field rest first others own absent _ ih =>
    have goes_on {value : _} (here : first value = value)
        (picked : (do let others ← rest.pick found; pure (value, others)) = .ok b) :
        Prod.map first others b = b := by
      obtain ⟨values, rest_picked, same⟩ := bind_ok_iff.1 picked
      cases same
      exact Prod.ext here (ih rest_picked)
    rw [pick] at picked
    split at picked
    · obtain ⟨value, read, picked⟩ := bind_ok_iff.1 picked
      exact goes_on (own.settled _ _ read) picked
    · split at picked
      · cases picked
      · next value same =>
        rw [same] at absent
        exact goes_on absent picked
      · next value same =>
        rw [same] at absent
        exact goes_on absent picked

/-- What is read from an array is settled too. -/
theorem Settles.of_align (each : fields.Settles settle) {items : List Reading} {b : β}
    (aligned : fields.align items = .ok b) : settle b = b := by
  induction each generalizing items with
  | nil => rfl
  | @cons _ _ field rest first others own absent _ ih =>
    cases items with
    | nil =>
      rw [align] at aligned
      split at aligned
      · next value same =>
        obtain ⟨values, rest_aligned, rfl⟩ := map_ok_iff.1 aligned
        rw [same] at absent
        exact Prod.ext absent (ih rest_aligned)
      · cases aligned
    | cons item items =>
      obtain ⟨value, read, values, rest_aligned, same⟩ := by
        simpa only [align, bind_ok_iff] using aligned
      cases same
      exact Prod.ext (own.settled _ _ read) (ih rest_aligned)

/-- A record with different names for its fields comes back with its fields settled. -/
theorem settles_codec {out : α → β} {into : β → α} (each : fields.Settles settle)
    (restores : ∀ b, out (into b) = b) (distinct : fields.names.Nodup) :
    (fields.codec out into).Settles fun a => into (settle (out a)) where
  reads a := by
    have members : ((fields.write (out a)).map (·.1)).Nodup := by
      rwa [names_write]
    exact read_object members (each.gives members fun _ written => written) out into
  settled r a read := by
    have back {b : β} (same : settle b = b) : into (settle (out (into b))) = into b := by
      rw [restores, same]
    cases r with
    | object members =>
      obtain ⟨found, -, b, picked, same⟩ := by
        simpa only [codec, bind_ok_iff] using read
      cases same
      exact back (each.of_pick picked)
    | array items =>
      obtain ⟨b, aligned, rfl⟩ := map_ok_iff.1 read
      exact back (each.of_align aligned)
    | _ => cases read
  small := each.small.codec out into

/-- A record comes back as it was if settling its fields changes nothing. -/
theorem lossless_codec {out : α → β} {into : β → α} (each : fields.Settles settle)
    (restores : ∀ b, out (into b) = b) (distinct : fields.names.Nodup)
    (same : ∀ a, into (settle (out a)) = a) : (fields.codec out into).Lossless :=
  (settles_codec each restores distinct).congr same

end Fields

end Json

/-! ## Instants of records -/

/-- An incident with its instants as they are shown. -/
def Incident.settle (i : Incident) : Incident :=
  { i with beganAt := i.beganAt.settle, endedAt := i.endedAt.map Instant.settle }

/-- The content of an incident with its instants as they are shown. -/
def NewIncident.settle (i : NewIncident) : NewIncident :=
  { i with beganAt := i.beganAt.settle, endedAt := i.endedAt.map Instant.settle }

/-- A view of an incident with its instants as they are shown. -/
def IncidentView.settle (i : IncidentView) : IncidentView :=
  { i with beganAt := i.beganAt.settle, endedAt := i.endedAt.map Instant.settle }

/-- An update with its instant as it is shown. -/
def IncidentUpdate.settle (u : IncidentUpdate) : IncidentUpdate :=
  { u with createdAt := u.createdAt.settle }

theorem Incident.settle_eq_self_iff {i : Incident} :
    i.settle = i ↔ i.beganAt.Regular ∧ ∀ t ∈ i.endedAt, t.Regular := by
  rw [← Instant.settle_eq_self_iff, ← Instant.map_settle_eq_self_iff]
  cases i
  simp [settle]

theorem NewIncident.settle_eq_self_iff {i : NewIncident} :
    i.settle = i ↔ i.beganAt.Regular ∧ ∀ t ∈ i.endedAt, t.Regular := by
  rw [← Instant.settle_eq_self_iff, ← Instant.map_settle_eq_self_iff]
  cases i
  simp [settle]

theorem IncidentView.settle_eq_self_iff {i : IncidentView} :
    i.settle = i ↔ i.beganAt.Regular ∧ ∀ t ∈ i.endedAt, t.Regular := by
  rw [← Instant.settle_eq_self_iff, ← Instant.map_settle_eq_self_iff]
  cases i
  simp [settle]

theorem IncidentUpdate.settle_eq_self_iff {u : IncidentUpdate} :
    u.settle = u ↔ u.createdAt.Regular := by
  rw [← Instant.settle_eq_self_iff]
  cases u
  simp [settle]

namespace Json

/-! ## Records -/

namespace Codec

open Fields

theorem lossless_component (style : Style) : (component style).Lossless :=
  lossless_codec
    (.required lossless_uuid <| .required lossless_string <| .required lossless_labels .nil)
    (fun _ => rfl) (by cases style <;> decide) fun _ => rfl

theorem lossless_newComponent (style : Style) : (newComponent style).Lossless :=
  lossless_codec (.required lossless_string <| Fields.Lossless.defaulted lossless_labels .nil)
    (fun _ => rfl) (by cases style <;> decide) fun _ => rfl

theorem lossless_impactType (style : Style) : (impactType style).Lossless :=
  lossless_codec
    (.required lossless_uuid <| .required lossless_string <| .required lossless_string .nil)
    (fun _ => rfl) (by cases style <;> decide) fun _ => rfl

theorem lossless_newImpactType (style : Style) : (newImpactType style).Lossless :=
  lossless_codec (.required lossless_string <| Fields.Lossless.defaulted lossless_string .nil)
    (fun _ => rfl) (by cases style <;> decide) fun _ => rfl

theorem lossless_severity (style : Style) : (severity style).Lossless :=
  lossless_codec (.required lossless_string <| .required lossless_uint8 .nil)
    (fun _ => rfl) (by cases style <;> decide) fun _ => rfl

theorem lossless_phaseRef : phaseRef.Lossless :=
  lossless_codec (.required lossless_uint32 <| .required lossless_uint32 .nil)
    (fun _ => rfl) (by decide) fun _ => rfl

theorem lossless_phase : phase.Lossless :=
  lossless_codec
    (.required lossless_string <| .required lossless_uint32 <| .required lossless_uint32 .nil)
    (fun _ => rfl) (by decide) fun _ => rfl

theorem lossless_generation : generation.Lossless :=
  lossless_codec (.required lossless_uint32 .nil) (fun _ => rfl) (by decide) fun _ => rfl

theorem lossless_impact : impact.Lossless :=
  lossless_codec
    (.required lossless_uuid <| .required lossless_uuid <| .required lossless_uint8 .nil)
    (fun _ => rfl) (by decide) fun _ => rfl

theorem lossless_affectingIncident : affectingIncident.Lossless :=
  lossless_codec
    (.required lossless_uuid <| .required lossless_uuid <| .required lossless_uint8 .nil)
    (fun _ => rfl) (by decide) fun _ => rfl

theorem settles_endedAt : instant.nullable.Settles (Option.map Instant.settle) :=
  settles_instant.nullable fun _ => nofun

theorem settles_incident : incident.Settles Incident.settle :=
  settles_codec
    (.required lossless_uuid <| .required lossless_string <| .required lossless_string <|
      .required settles_instant <| .optional settles_endedAt rfl <|
      .required lossless_phaseRef .nil)
    (fun _ => rfl) (by decide)

theorem settles_newIncident : newIncident.Settles NewIncident.settle :=
  settles_codec
    (.required lossless_string <| .required lossless_string <| .required settles_instant <|
      .optional settles_endedAt rfl <|
      .optional (Lossless.nullable lossless_phaseRef fun _ => nofun) rfl <|
      .required (Lossless.list lossless_impact) .nil)
    (fun _ => rfl) (by decide)

theorem settles_incidentUpdate (style : Style) :
    (incidentUpdate style).Settles IncidentUpdate.settle :=
  settles_codec
    (.required lossless_uuid <| .required lossless_uint32 <| .required lossless_string <|
      .required lossless_string <| .required settles_instant .nil)
    (fun _ => rfl) (by cases style <;> decide)

theorem lossless_newIncidentUpdate (style : Style) : (newIncidentUpdate style).Lossless :=
  lossless_codec (.required lossless_string <| Fields.Lossless.defaulted lossless_string .nil)
    (fun _ => rfl) (by cases style <;> decide) fun _ => rfl

theorem lossless_impactRef : impactRef.Lossless :=
  lossless_codec
    (.required lossless_uuid <| .required lossless_uuid <| .required lossless_uint8 .nil)
    (fun _ => rfl) (by decide) fun _ => rfl

theorem lossless_componentView : componentView.Lossless :=
  lossless_codec
    (.required lossless_uuid <| .required lossless_string <| .required lossless_labels <|
      .required (Lossless.list lossless_impactRef) .nil)
    (fun _ => rfl) (by decide) fun _ => rfl

theorem settles_incidentView : incidentView.Settles IncidentView.settle :=
  settles_codec
    (.required lossless_uuid <| .required lossless_string <| .required lossless_string <|
      .required settles_instant <| .optional settles_endedAt rfl <| .required lossless_phaseRef <|
      .required (Lossless.list lossless_impactRef) <| .required (Lossless.list lossless_uint32)
        .nil)
    (fun _ => rfl) (by decide)

end Codec

/-! ## All records -/

/-- The records that are written as JSON: those inside the page, which spell names of several words
with underscores, and those on the wire. -/
inductive Record where
  | component
  | newComponent
  | impactType
  | newImpactType
  | severity
  | phaseRef
  | phase
  | impact
  | affectingIncident
  | incident
  | newIncident
  | incidentUpdate
  | newIncidentUpdate
  | wireImpactRef
  | wireComponent
  | wireIncident
  | wireIncidentUpdate
  | wireImpactType
  | wireSeverity
  | wireGeneration

namespace Record

/-- The values that a record has. -/
def Value : Record → Type
  | component => Component
  | newComponent => NewComponent
  | impactType => ImpactType
  | newImpactType => NewImpactType
  | severity => Severity
  | phaseRef => PhaseRef
  | phase => Phase
  | impact => Impact
  | affectingIncident => AffectingIncident
  | incident => Incident
  | newIncident => NewIncident
  | incidentUpdate => IncidentUpdate
  | newIncidentUpdate => NewIncidentUpdate
  | wireImpactRef => ImpactRef
  | wireComponent => ComponentView
  | wireIncident => IncidentView
  | wireIncidentUpdate => IncidentUpdate
  | wireImpactType => ImpactType
  | wireSeverity => Severity
  | wireGeneration => UInt32

/-- The codec of a record. -/
def codec : (r : Record) → Codec r.Value
  | component => Codec.component .snake
  | newComponent => Codec.newComponent .snake
  | impactType => Codec.impactType .snake
  | newImpactType => Codec.newImpactType .snake
  | severity => Codec.severity .snake
  | phaseRef => Codec.phaseRef
  | phase => Codec.phase
  | impact => Codec.impact
  | affectingIncident => Codec.affectingIncident
  | incident => Codec.incident
  | newIncident => Codec.newIncident
  | incidentUpdate => Codec.incidentUpdate .snake
  | newIncidentUpdate => Codec.newIncidentUpdate .snake
  | wireImpactRef => Codec.impactRef
  | wireComponent => Codec.componentView
  | wireIncident => Codec.incidentView
  | wireIncidentUpdate => Codec.incidentUpdate .camel
  | wireImpactType => Codec.impactType .camel
  | wireSeverity => Codec.severity .camel
  | wireGeneration => Codec.generation

/-- What is read from the text of a record: the record with its instants as they are shown. -/
def settle : (r : Record) → r.Value → r.Value
  | incident, i => Incident.settle i
  | newIncident, i => NewIncident.settle i
  | incidentUpdate, u | wireIncidentUpdate, u => IncidentUpdate.settle u
  | wireIncident, i => IncidentView.settle i
  | component, v | newComponent, v | impactType, v | newImpactType, v | severity, v | phaseRef, v
  | phase, v | impact, v | affectingIncident, v | newIncidentUpdate, v | wireImpactRef, v
  | wireComponent, v | wireImpactType, v | wireSeverity, v | wireGeneration, v => v

/-- The instants of a record. -/
def instants : (r : Record) → r.Value → List Instant
  | incident, i => Incident.beganAt i :: (Incident.endedAt i).toList
  | newIncident, i => NewIncident.beganAt i :: (NewIncident.endedAt i).toList
  | incidentUpdate, u | wireIncidentUpdate, u => [IncidentUpdate.createdAt u]
  | wireIncident, i => IncidentView.beganAt i :: (IncidentView.endedAt i).toList
  | _, _ => []

theorem settles (r : Record) : r.codec.Settles r.settle := by
  cases r with
  | component => exact Codec.lossless_component .snake
  | newComponent => exact Codec.lossless_newComponent .snake
  | impactType => exact Codec.lossless_impactType .snake
  | newImpactType => exact Codec.lossless_newImpactType .snake
  | severity => exact Codec.lossless_severity .snake
  | phaseRef => exact Codec.lossless_phaseRef
  | phase => exact Codec.lossless_phase
  | impact => exact Codec.lossless_impact
  | affectingIncident => exact Codec.lossless_affectingIncident
  | incident => exact Codec.settles_incident
  | newIncident => exact Codec.settles_newIncident
  | incidentUpdate => exact Codec.settles_incidentUpdate .snake
  | newIncidentUpdate => exact Codec.lossless_newIncidentUpdate .snake
  | wireImpactRef => exact Codec.lossless_impactRef
  | wireComponent => exact Codec.lossless_componentView
  | wireIncident => exact Codec.settles_incidentView
  | wireIncidentUpdate => exact Codec.settles_incidentUpdate .camel
  | wireImpactType => exact Codec.lossless_impactType .camel
  | wireSeverity => exact Codec.lossless_severity .camel
  | wireGeneration => exact Codec.lossless_generation

/-- A record is shown as it is exactly if its instants are. -/
theorem settle_eq_self_iff (r : Record) (v : r.Value) :
    r.settle v = v ↔ ∀ t ∈ r.instants v, t.Regular := by
  have window {began : Instant} {ended : Option Instant} :
      (∀ t ∈ began :: ended.toList, t.Regular) ↔ began.Regular ∧ ∀ t ∈ ended, t.Regular := by
    simp only [List.forall_mem_cons, Option.mem_toList, Option.mem_def]
  cases r with
  | incident => exact Incident.settle_eq_self_iff.trans window.symm
  | newIncident => exact NewIncident.settle_eq_self_iff.trans window.symm
  | wireIncident => exact IncidentView.settle_eq_self_iff.trans window.symm
  | incidentUpdate | wireIncidentUpdate =>
    exact IncidentUpdate.settle_eq_self_iff.trans List.forall_mem_singleton.symm
  -- The other records have no instants.
  | _ => exact iff_of_true rfl fun _ member => absurd member List.not_mem_nil

end Record

/-- From the text written for a record the record is read with its instants as they are shown, with
any texts, label sets and lists, and with or without what it may lack. Exactly records without a
leap second inside a minute are read as they were. Those that a text was read as are among them: a
text that is read as a record, however it was written, can be written anew without a change. -/
theorem record_round_trip (r : Record) :
    (∀ v : r.Value, r.codec.parse (r.codec.write v).render = .ok (r.settle v)) ∧
      (∀ v : r.Value, r.settle v = v ↔ ∀ t ∈ r.instants v, t.Regular) ∧
      ∀ (text : String) (v : r.Value), r.codec.parse text = .ok v →
        r.codec.parse (r.codec.write v).render = r.codec.parse text := by
  refine ⟨r.settles.parse_render, r.settle_eq_self_iff, ?_⟩
  intro text v read
  rw [read, r.settles.parse_render, r.settles.of_parse read]

/-- A leap second in a year of five digits. -/
def laterLeapSecond : Instant :=
  (Instant.ofSecond? 327426969599 1500000000).getD Instant.epoch

/-- The text of an incident with its fields in another order, a letter that is escaped, a year with
a sign and a fraction of a leap second, and without what it may lack. -/
def handWritten : String :=
  "\x7b\"impacts\":[],\"began_at\":\"+12345-09-30t23:59:60.5 utc\"," ++
    "\"display_name\":\"caf\\u00e9\",\"seen\":1.5,\"description\":\"\"\x7d"

/-- What is read from a text written by hand is written in the usual form and read from it again. -/
theorem record_round_trip_handWritten :
    let read : NewIncident := ⟨"café", "", laterLeapSecond, none, none, []⟩
    Codec.newIncident.parse handWritten = .ok read ∧
      (Codec.newIncident.write read).render =
        "\x7b\"display_name\":\"café\",\"description\":\"\"," ++
          "\"began_at\":\"+12345-09-30T23:59:60.500Z\"," ++
          "\"ended_at\":null,\"phase\":null,\"impacts\":[]\x7d" ∧
      Codec.newIncident.parse (Codec.newIncident.write read).render = .ok read := by
  intro read
  have given : Codec.newIncident.parse handWritten = .ok read := by decide +kernel
  have again := (record_round_trip .newIncident).2.2 handWritten read given
  exact ⟨given, by decide +kernel, again.trans given⟩

/-- An incident that began in a leap second inside a minute is read with the second after it. -/
theorem incident_changed_inside_minute :
    let given : NewIncident := ⟨"outage", "", Instant.insideMinute, none, none, []⟩
    Codec.newIncident.parse (Codec.newIncident.write given).render ≠ .ok given := by
  intro given back
  have read := Codec.settles_newIncident.parse_render given
  have same : given.settle = given := Except.ok.inj (read.symm.trans back)
  exact absurd (NewIncident.settle_eq_self_iff.1 same).1 (by decide)

end Json

end StatusPage
