import StatusPage.Store.Tables

/-!
Components in the store.

A component is a row and its labels are rows of their own. A component can be deleted while no
impact names it, and its labels go with it.
-/

namespace StatusPage.Store

/-! ## Windows of stored incidents -/

/-- Whether a stored incident is active at an instant, or still open when none is given. The
instant and the bounds are compared as stored texts. -/
def IncidentRow.activeAt (row : IncidentRow) : Option Instant → Bool
  | some t =>
    decide (row.beganAt ≤ t.storedText) &&
      row.endedAt.all fun ended => decide (t.storedText < ended)
  | none => row.endedAt.isNone

/-- The impacts of the incidents that are active at an instant. -/
def activeImpacts (s : Store) (t : Option Instant) : List ImpactRow :=
  s.impacts.rows.filter fun m =>
    s.incidents.rows.any fun i => i.id == some m.incident && i.activeAt t

/-! ## Writing -/

/-- The label rows of a component. -/
def labelRows (id : Uuid) (labels : Labels) : List LabelRow :=
  labels.entries.map fun p => ⟨id.text, p.1, p.2⟩

/-- The store with the given labels for a component in place of those it had. -/
def setLabels (s : Store) (id : Uuid) (labels : Labels) : Store :=
  let others := s.labels.filter fun l => l.component ≠ id.text
  { s with labels := others.insertAll (labelRows id labels) }

/-- Whether there is a component with the identifier. -/
def hasComponent (s : Store) (id : Uuid) : Bool :=
  s.components.rows.any fun c => c.id == some id.text

/-- Creates a component under a drawn identifier. -/
def createComponent (s : Store) (id : Uuid) (input : NewComponent) : Outcome Component :=
  match input.validate with
  | .error error => .fail s (.refused error)
  | .ok () =>
    if s.hasComponent id then
      .fail s (.failed "create_component" id.text (.unique ["components.component_id"]))
    else
      let added : Store :=
        { s with components := s.components.insert ⟨some id.text, input.displayName⟩ }
      ⟨.ok (input.withId id), added.setLabels id input.labels⟩

/-- Replaces the name and all labels of a component. -/
def updateComponent (s : Store) (id : Uuid) (input : NewComponent) : Outcome Component :=
  match input.validate with
  | .error error => .fail s (.refused error)
  | .ok () =>
    if s.hasComponent id then
      let renamed : Store :=
        { s with components := s.components.map fun c =>
          if c.id = some id.text then { c with displayName := input.displayName } else c }
      ⟨.ok (input.withId id), renamed.setLabels id input.labels⟩
    else .fail s (.refused (.componentNotFound id))

/-- Deletes a component and its labels, unless an impact names it. -/
def deleteComponent (s : Store) (id : Uuid) : Outcome Unit :=
  if s.hasComponent id then
    if s.impacts.rows.any fun m => m.component == id.text then
      .fail s (.failed "delete_component" id.text .foreignKey)
    else
      ⟨.ok (), { s with
        components := s.components.filter fun c => c.id ≠ some id.text
        labels := s.labels.filter fun l => l.component ≠ id.text }⟩
  else .fail s (.refused (.componentNotFound id))

/-! ## Reading -/

/-- The labels in the rows of a component. -/
def labelsOf (s : Store) (component : String) : Labels :=
  Labels.ofList ((s.labels.rows.filter fun l => l.component == component).map fun l =>
    (l.key, l.value))

/-- The component with the identifier. -/
def getComponent (s : Store) (id : Uuid) : Except Fault (Option Component) :=
  .ok ((s.components.rows.find? fun c => c.id == some id.text).map fun c =>
    ⟨id, c.displayName, s.labelsOf id.text⟩)

/-- Which components a listing shows. -/
structure ComponentQuery where
  /-- The labels that a component has to have. -/
  labels : Labels
  /-- Whether a component has to have an active impact. -/
  affected : Bool
  /-- The instant at which an impact has to be active; none asks for open incidents. -/
  instant : Option Instant

/-- Whether a component has a row for every pair of a query. -/
def hasLabels (s : Store) (c : ComponentRow) (query : Labels) : Bool :=
  query.entries.all fun p =>
    s.labels.rows.any fun l => some l.component == c.id && l.key == p.1 && l.value == p.2

/-- Whether a component has an active impact. -/
def isAffected (s : Store) (c : ComponentRow) (t : Option Instant) : Bool :=
  (s.activeImpacts t).any fun m => some m.component == c.id

/-- The order of a listing of components: by name, then by identifier. -/
def ComponentRow.le (a b : ComponentRow) : Bool :=
  thenLe textLe a.displayName b.displayName (optionLe a.id b.id)

/-- The component that a row stands for, given its identifier as a text. -/
def ComponentRow.component (s : Store) (c : ComponentRow) (id : String) : Except Fault Component :=
  (readId id).map fun uuid => ⟨uuid, c.displayName, s.labelsOf id⟩

/-- The components that a query asks for, by name and then by identifier. -/
def listComponents (s : Store) (query : ComponentQuery) : Except Fault (List Component) := do
  let rows := (s.components.rows.filter fun c =>
    s.hasLabels c query.labels && (!query.affected || s.isAffected c query.instant)).mergeSort
      ComponentRow.le
  let found ← during "list_components" "" <| rows.mapM fun c =>
    (textColumn 0 "component_id" c.id).map fun id => (c, id)
  found.mapM fun (c, id) => c.component s id

end StatusPage.Store
