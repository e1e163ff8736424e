import StatusPage.Store.Tables

/-!
Impact types in the store.

Names need not differ. An impact type can be deleted while no impact is of it.
-/

namespace StatusPage.Store

/-- Whether there is an impact type with the identifier. -/
def hasImpactType (s : Store) (id : Uuid) : Bool :=
  s.impactTypes.rows.any fun t => t.id == some id.text

/-- Creates an impact type under a drawn identifier. -/
def createImpactType (s : Store) (id : Uuid) (input : NewImpactType) : Outcome ImpactType :=
  match input.validate with
  | .error error => .fail s (.refused error)
  | .ok () =>
    if s.hasImpactType id then
      .fail s (.failed "create_impact_type" id.text (.unique ["impact_types.impact_type_id"]))
    else
      ⟨.ok (input.withId id), { s with
        impactTypes := s.impactTypes.insert ⟨some id.text, input.displayName, input.description⟩ }⟩

/-- Replaces the name and description of an impact type. -/
def updateImpactType (s : Store) (id : Uuid) (input : NewImpactType) : Outcome ImpactType :=
  match input.validate with
  | .error error => .fail s (.refused error)
  | .ok () =>
    if s.hasImpactType id then
      ⟨.ok (input.withId id), { s with
        impactTypes := s.impactTypes.map fun t =>
          if t.id = some id.text then ⟨t.id, input.displayName, input.description⟩ else t }⟩
    else .fail s (.refused (.impactTypeNotFound id))

/-- Deletes an impact type, unless an impact is of it. -/
def deleteImpactType (s : Store) (id : Uuid) : Outcome Unit :=
  if s.hasImpactType id then
    if s.impacts.rows.any fun m => m.impactType == id.text then
      .fail s (.failed "delete_impact_type" id.text .foreignKey)
    else
      ⟨.ok (), { s with impactTypes := s.impactTypes.filter fun t => t.id ≠ some id.text }⟩
  else .fail s (.refused (.impactTypeNotFound id))

/-- The impact type with the identifier. -/
def getImpactType (s : Store) (id : Uuid) : Except Fault (Option ImpactType) :=
  .ok ((s.impactTypes.rows.find? fun t => t.id == some id.text).map fun t =>
    ⟨id, t.displayName, t.description⟩)

/-- The order of a listing of impact types: by name, then by identifier. -/
def ImpactTypeRow.le (a b : ImpactTypeRow) : Bool :=
  thenLe textLe a.displayName b.displayName (optionLe a.id b.id)

/-- All impact types, by name and then by identifier. -/
def listImpactTypes (s : Store) : Except Fault (List ImpactType) := do
  let found ← during "list_impact_types" "" <|
    (s.impactTypes.rows.mergeSort ImpactTypeRow.le).mapM fun t =>
      (textColumn 0 "impact_type_id" t.id).map fun id => (t, id)
  found.mapM fun (t, id) => (readId id).map fun uuid => ⟨uuid, t.displayName, t.description⟩

end StatusPage.Store
