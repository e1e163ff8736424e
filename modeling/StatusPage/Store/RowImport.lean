import StatusPage.Store.Updates

/-!
Rows written directly into the tables.

A row is given as values for some of its columns; the others take their defaults. A row can also ask
for a number. The names of columns can be written in either case, those of tables cannot. What the
tables themselves forbid stays forbidden: two rows with one number or one key, an empty cell where a
value has to be, an impact while impacts are blocked. References and rules are checked unless the
caller turns that off, so a row written this way can hold texts and numbers that no reader accepts.
-/

namespace StatusPage.Store

/-- A value for a column. -/
inductive RawValue where
  | null
  | int (value : Int)
  | text (value : String)
  deriving DecidableEq

/-- Values for some columns of a row. -/
abbrev RawRow := List (String × RawValue)

/-- The names of the tables of a store. -/
inductive TableName where
  | components
  | componentLabels
  | impactTypes
  | severities
  | phases
  | incidents
  | impacts
  | incidentUpdates
  deriving DecidableEq, Repr

namespace TableName

/-- The name as it is written. -/
def text : TableName → String
  | .components => "components"
  | .componentLabels => "component_labels"
  | .impactTypes => "impact_types"
  | .severities => "severities"
  | .phases => "phases"
  | .incidents => "incidents"
  | .impacts => "impacts"
  | .incidentUpdates => "incident_updates"

/-- The names of all tables. -/
def all : List TableName :=
  [.components, .componentLabels, .impactTypes, .severities, .phases, .incidents, .impacts,
    .incidentUpdates]

/-- The table that a text names. -/
def ofText? (s : String) : Option TableName :=
  all.find? fun t => t.text == s

/-- The columns of a table. -/
def columns : TableName → List String
  | .components => ["component_id", "display_name"]
  | .componentLabels => ["component_id", "key", "value"]
  | .impactTypes => ["impact_type_id", "display_name", "description"]
  | .severities => ["display_name", "value"]
  | .phases => ["generation", "ordinal", "name"]
  | .incidents =>
    ["incident_id", "display_name", "description", "began_at", "ended_at", "phase_generation",
      "phase_order"]
  | .impacts => ["incident_id", "component_id", "impact_type_id", "severity"]
  | .incidentUpdates => ["incident_id", "ordinal", "display_name", "description", "created_at"]

end TableName

/-- Whether two texts name one column: the case of ASCII letters makes no difference. -/
def sameColumn (a b : String) : Bool :=
  a.toList.map Char.toLower == b.toList.map Char.toLower

namespace RawRow

/-- The value under the first, in an order of names, of the names that a condition holds of. -/
def first? (row : RawRow) (named : String → Bool) (le : String → String → Bool) :
    Option RawValue :=
  (row.foldl (fun chosen given =>
    if named given.1 && chosen.all fun c => le given.1 c.1 then some given
    else chosen) (none : Option (String × RawValue))).map (·.2)

/-- The value for a column. Of several spellings of its name the first in the order of texts
counts. -/
def value? (row : RawRow) (column : String) : Option RawValue :=
  row.first? (sameColumn column) textLe

example : value? [("Key", .int 1), ("KEY", .int 2), ("value", .null)] "key" = some (.int 2) := by
  decide +kernel

/-- The cell of a column of texts that may be empty. -/
def text (row : RawRow) (column : String) : Option String :=
  match row.value? column with
  | some (.text value) => some value
  | some (.int value) => some (Text.integer value)
  | _ => none

/-- The cell of a column of texts with a default for rows that do not give it. -/
def textOr (row : RawRow) (column default : String) : Option String :=
  if (row.value? column).isSome then row.text column else some default

/-- The cell of a column of integers. -/
def cell (row : RawRow) (column : String) : Option Cell :=
  match row.value? column with
  | some (.int value) => some (.int value)
  | some (.text value) => some (Cell.ofText value)
  | _ => none

/-- The names under which every table takes a number for the row, beside its columns. -/
def numberNames : List String := ["rowid", "oid", "_rowid_"]

/-- Whether a name is one under which a row asks for a number. -/
def isNumberName (name : String) : Bool :=
  numberNames.any (sameColumn name)

/-- What a row gives for its number. Of several names the last in the order of texts counts. -/
def numberValue? (row : RawRow) : Option RawValue :=
  row.first? isNumberName fun a b => textLe b a

example : numberValue? [("OID", .int 1), ("rowid", .int 2), ("_rowid_", .null)] =
    some (.int 2) := by
  decide +kernel

/-- The number that a row asks for, which is none if the choice is left open. A text that shows no
integer asks for nothing that a row can have. -/
def number? (row : RawRow) : Option (Option Int) :=
  match row.numberValue? with
  | none => some none
  | some .null => some none
  | some (.int value) => some (some value)
  | some (.text value) =>
    match Cell.ofText value with
    | .int value => some (some value)
    | _ => none

/-- Whether a table has all the columns that a row gives values for. -/
def fits (row : RawRow) (table : TableName) : Bool :=
  row.all fun given => table.columns.any (sameColumn given.1) || isNumberName given.1

end RawRow

/-- Some value if a condition holds. -/
def onlyIf {α : Type} (condition : Bool) (value : α) : Option α :=
  if condition then some value else none

/-- The store with one more row, unless the tables forbid it. -/
def insertRow (s : Store) (table : TableName) (row : RawRow) (checked : Bool) : Option Store := do
  guard (row.fits table)
  let number ← row.number?
  match table with
  | .components =>
    let id := row.text "component_id"
    let displayName ← row.text "display_name"
    guard (id.isNone || s.components.rows.all fun c => c.id != id)
    let components ← s.components.insertAt? number ⟨id, displayName⟩
    return { s with components := components }
  | .componentLabels =>
    let component ← row.text "component_id"
    let key ← row.text "key"
    let value ← row.text "value"
    guard (s.labels.rows.all fun l => l.component != component || l.key != key)
    guard (!checked || s.components.rows.any fun c => c.id == some component)
    let labels ← s.labels.insertAt? number ⟨component, key, value⟩
    return { s with labels := labels }
  | .impactTypes =>
    let id := row.text "impact_type_id"
    let displayName ← row.text "display_name"
    let description ← row.textOr "description" ""
    guard (id.isNone || s.impactTypes.rows.all fun t => t.id != id)
    let impactTypes ← s.impactTypes.insertAt? number ⟨id, displayName, description⟩
    return { s with impactTypes := impactTypes }
  | .severities =>
    let displayName := row.text "display_name"
    let value ← row.cell "value"
    guard (displayName.isNone || s.severities.rows.all fun r => r.displayName != displayName)
    guard (s.severities.rows.all fun r => r.value != value)
    guard (!checked || value.between 0 100)
    let severities ← s.severities.insertAt? number ⟨displayName, value⟩
    return { s with severities := severities }
  | .phases =>
    let generation ← row.cell "generation"
    let order ← row.cell "ordinal"
    let name ← row.text "name"
    guard (s.phases.rows.all fun p => p.generation != generation || p.order != order)
    guard (!checked || (generation.atLeast 1 && order.atLeast 0))
    let phases ← s.phases.insertAt? number ⟨generation, order, name⟩
    return { s with phases := phases }
  | .incidents =>
    let id := row.text "incident_id"
    let displayName ← row.text "display_name"
    let description ← row.textOr "description" ""
    let beganAt ← row.text "began_at"
    let endedAt := row.text "ended_at"
    let generation ← row.cell "phase_generation"
    let order ← row.cell "phase_order"
    guard (id.isNone || s.incidents.rows.all fun i => i.id != id)
    guard (!checked || (boundsInOrder beganAt endedAt &&
      s.phases.rows.any fun p => p.generation == generation && p.order == order))
    let incidents ← s.incidents.insertAt? number
      ⟨id, displayName, description, beganAt, endedAt, generation, order⟩
    return { s with incidents := incidents }
  | .impacts =>
    let incident ← row.text "incident_id"
    let component ← row.text "component_id"
    let impactType ← row.text "impact_type_id"
    let severity ← row.cell "severity"
    guard !s.impactsBlocked
    guard (s.impacts.rows.all fun m =>
      m.incident != incident || m.component != component || m.impactType != impactType)
    guard (!checked || (severity.between 0 100 &&
      (s.incidents.rows.any fun i => i.id == some incident) &&
      (s.components.rows.any fun c => c.id == some component) &&
      s.impactTypes.rows.any fun t => t.id == some impactType))
    let impacts ← s.impacts.insertAt? number ⟨incident, component, impactType, severity⟩
    return { s with impacts := impacts }
  | .incidentUpdates =>
    let incident ← row.text "incident_id"
    let order ← row.cell "ordinal"
    let displayName ← row.text "display_name"
    let description ← row.textOr "description" ""
    let createdAt ← row.text "created_at"
    guard (s.updates.rows.all fun u => u.incident != incident || u.order != order)
    guard (!checked || (order.atLeast 0 && s.incidents.rows.any fun i => i.id == some incident))
    let updates ← s.updates.insertAt? number
      ⟨incident, order, displayName, description, createdAt⟩
    return { s with updates := updates }

/-- The store in which impacts are blocked, unless they are already. -/
def blockImpacts (s : Store) : Option Store :=
  onlyIf (!s.impactsBlocked) { s with impactsBlocked := true }

/-- The store in which impacts are no longer blocked, if they were. -/
def unblockImpacts (s : Store) : Option Store :=
  onlyIf s.impactsBlocked { s with impactsBlocked := false }

/-- Rewriting or deleting phases changes nothing, and is refused once there is one. -/
def rewritePhases (s : Store) : Option Store :=
  onlyIf s.phases.rows.isEmpty s

end StatusPage.Store
