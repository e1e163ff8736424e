import Mathlib
import StatusPage.Api.Call.Reading
import StatusPage.Proofs.Json.RoundTrip
import StatusPage.Proofs.Text.Utf8

/-!
# Sending back what was shown

The body of an answer has all the fields that a body of a request for the same entity needs, and
some that it does not know. So the text of an answer can be sent as a body, and it is read as the
content that was shown (`readBody_write`): a name stays what it was, an instant is the one that was
shown, and an impact has its severity as a number that is yet to be checked.
-/

namespace StatusPage

open Api Http Json Text

/-- An impact as it is sent back. -/
def ImpactRef.body (m : ImpactRef) : ImpactBody :=
  ⟨m.reference, m.impactType, m.severity.toNat⟩

/-- An incident as it is sent back. -/
def IncidentView.body (v : IncidentView) : IncidentBody :=
  ⟨v.displayName, v.description, v.beganAt, v.endedAt, some v.phase, v.affects.map ImpactRef.body⟩

namespace Json.Codec

/-! ## Bodies in answers -/

theorem read_newComponent (v : ComponentView) :
    (newComponent .camel).read (componentView.write v).reading =
      .ok ⟨v.displayName, v.labels⟩ := by
  refine Fields.read_object (b := (v.displayName, v.labels, ())) ?_ ?_ _ _
  · exact (by decide : ["id", "displayName", "labels", "affectedBy"].Nodup)
  · exact ⟨⟨_, rfl, rfl⟩, ⟨_, rfl, read_labels v.labels⟩, trivial⟩

theorem read_newImpactType (t : ImpactType) :
    (newImpactType .camel).read ((impactType .camel).write t).reading =
      .ok ⟨t.displayName, t.description⟩ := by
  refine Fields.read_object (b := (t.displayName, t.description, ())) ?_ ?_ _ _
  · exact (by decide : ["id", "displayName", "description"].Nodup)
  · exact ⟨⟨_, rfl, rfl⟩, ⟨_, rfl, rfl⟩, trivial⟩

theorem read_severitySeed (v : Severity) :
    (severitySeed .camel).read ((severity .camel).write v).reading =
      .ok ⟨v.displayName, v.value.toNat⟩ := by
  refine Fields.read_object (b := (v.displayName, (v.value.toNat : Int), ())) ?_ ?_ _ _
  · exact (by decide : ["displayName", "value"].Nodup)
  · exact ⟨⟨_, rfl, rfl⟩, ⟨_, rfl, read_int64 v.value⟩, trivial⟩

theorem read_newIncidentUpdate (u : IncidentUpdate) :
    (newIncidentUpdate .camel).read ((incidentUpdate .camel).write u).reading =
      .ok ⟨u.displayName, u.description⟩ := by
  refine Fields.read_object (b := (u.displayName, u.description, ())) ?_ ?_ _ _
  · exact (by decide :
      ["incidentId", "order", "displayName", "description", "createdAt"].Nodup)
  · exact ⟨⟨_, rfl, rfl⟩, ⟨_, rfl, rfl⟩, trivial⟩

theorem read_impactBody (m : ImpactRef) :
    impactBody.read (impactRef.write m).reading = .ok m.body := by
  refine Fields.read_object (b := (m.reference, m.impactType, (m.severity.toNat : Int), ()))
    ?_ ?_ _ _
  · exact (by decide : ["reference", "type", "severity"].Nodup)
  · exact ⟨⟨_, rfl, read_uuid m.reference⟩, ⟨_, rfl, read_uuid m.impactType⟩,
      ⟨_, rfl, read_int64 m.severity⟩, trivial⟩

/-- An incident is read as it is shown, with the seconds that are seen. -/
theorem read_incidentBody (v : IncidentView) :
    incidentBody.read (incidentView.write v).reading = .ok v.settle.body := by
  have phase : phaseRef.nullable.read (phaseRef.write v.phase).reading = .ok (some v.phase) :=
    read_nullable nofun (lossless_phaseRef.reads v.phase)
  have affects : (list impactBody).read ((list impactRef).write v.affects).reading =
      .ok (v.affects.map ImpactRef.body) := read_list fun m _ => read_impactBody m
  refine Fields.read_object (b := (v.displayName, v.description, v.beganAt.settle,
    v.endedAt.map Instant.settle, some v.phase, v.affects.map ImpactRef.body, ())) ?_ ?_ _ _
  · exact (by decide : ["id", "displayName", "description", "beganAt", "endedAt", "phase",
      "affects", "updates"].Nodup)
  · exact ⟨⟨_, rfl, rfl⟩, ⟨_, rfl, rfl⟩, ⟨_, rfl, read_instant v.beganAt⟩,
      ⟨_, rfl, settles_endedAt.reads v.endedAt⟩, ⟨_, rfl, phase⟩, ⟨_, rfl, affects⟩, trivial⟩

end Json.Codec

/-! ## Requests -/

namespace Api

open Json (Codec)

/-- A request sends a value back: its body is the text of the value, and it says that it is JSON. -/
structure SendsBack (r : Request) (j : Json) : Prop where
  contentType : r.contentType.any MediaType.isJson = true
  body : r.body = utf8Encode j.write

/-- A written value that is sent back is read, if it is no longer than a body can be. -/
theorem readBody_write {α β : Type} {r : Request} {c : Codec α} {d : Codec β} {a : α} {b : β}
    (back : SendsBack r (c.write a)) (fits : r.body.length ≤ longestBody) (small : c.Small)
    (read : d.read (c.write a).reading = .ok b) : readBody r d = .ok b := by
  have document : d.readDocument (readSymbols (utf8Decode r.body)) = .ok b := by
    rw [back.body, utf8Decode_utf8Encode, readSymbols_write (small a), Codec.readDocument]
    dsimp only
    rw [read]
    rfl
  rw [readBody, back.contentType, document]
  simp [Nat.not_lt.2 fits]

end Api

end StatusPage
