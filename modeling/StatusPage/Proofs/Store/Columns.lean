import Mathlib
import StatusPage.Proofs.Instant.StoredReading
import StatusPage.Proofs.UuidText
import StatusPage.Store.Updates

/-!
# What columns hold

A write puts identifiers, instants and numbers into columns of texts and cells, and a read takes
them out again. This module pins down both directions: `Incident.row` and `IncidentUpdate.row` are
the rows that entities are kept in, and the `read` lemmas say what comes back from them. Identifiers
and numbers always come back; an instant comes back if its year has four digits.
-/

namespace StatusPage

namespace Store

/-! ## Single columns -/

@[simp] theorem readId_text (id : Uuid) : readId id.text = .ok id := by
  simp [readId, Except.mapError]

theorem readTime_storedText {t : Instant} (year : t.FourDigitYear) :
    readTime t.storedText = .ok t.kept := by
  simp [readTime, Instant.ofStored_storedText year, Except.mapError]

/-- An instant of any other year comes back as a fault that makes the store of no use. -/
theorem readTime_of_not_fourDigitYear {t : Instant} (year : ¬ t.FourDigitYear) :
    readTime t.storedText = .error (.unreadableTime Instant.Flaw.invalid.message) := by
  simp [readTime, Instant.ofStored_of_not_fourDigitYear year, Except.mapError]

theorem readOptionalTime_map {t : Option Instant} (year : ∀ e ∈ t, e.FourDigitYear) :
    readOptionalTime (t.map Instant.storedText) = .ok (t.map Instant.kept) := by
  cases t with
  | none => rfl
  | some e =>
    simp [readOptionalTime, readTime_storedText (year e rfl), Except.map]

@[simp] theorem readUInt32_toNat (column : String) (n : UInt32) :
    readUInt32 column n.toNat = .ok n := by
  have bound := n.toNat_lt
  rw [readUInt32, if_pos (by omega)]
  simp

@[simp] theorem readSeverity_toNat (n : UInt8) : readSeverity n.toNat = .ok n := by
  have bound := n.toNat_lt
  rw [readSeverity, if_pos (by omega)]
  simp

@[simp] theorem lowBits_toNat (n : UInt32) : lowBits n.toNat = n := by
  have bound := n.toNat_lt
  rw [lowBits, Int.emod_eq_of_lt (by omega) (by omega)]
  simp

@[simp] theorem cell32_inj {m n : UInt32} : cell32 m = cell32 n ↔ m = n := by
  simp only [cell32, Cell.int.injEq, Nat.cast_inj]
  exact UInt32.toNat_inj

/-! ## Rows of incidents and updates -/

end Store

open Store

/-- The row that an incident is kept in. -/
def Incident.row (i : Incident) : IncidentRow where
  id := some i.id.text
  displayName := i.displayName
  description := i.description
  beganAt := i.beganAt.storedText
  endedAt := i.endedAt.map Instant.storedText
  generation := cell32 i.phase.generation
  order := cell32 i.phase.order

/-- The columns of the row of an incident. -/
def Incident.columns (i : Incident) : IncidentColumns :=
  ⟨i.row, i.id.text, i.phase.generation.toNat, i.phase.order.toNat⟩

/-- The instants of an incident have a property. -/
def Incident.TimesIn (p : Instant → Prop) (i : Incident) : Prop :=
  p i.beganAt ∧ ∀ ended ∈ i.endedAt, p ended

theorem Incident.TimesIn.imp {p q : Instant → Prop} {i : Incident} (bounds : i.TimesIn p)
    (weaker : ∀ t, p t → q t) : i.TimesIn q :=
  ⟨weaker _ bounds.1, fun ended member => weaker ended (bounds.2 ended member)⟩

/-- An incident with what the store keeps of its instants. -/
def Incident.kept (i : Incident) : Incident :=
  { i with beganAt := i.beganAt.kept, endedAt := i.endedAt.map Instant.kept }

theorem Incident.columns_row (i : Incident) : i.row.columns = .ok i.columns := rfl

/-- The row of an incident in years of four digits comes back as what is kept of the incident. -/
theorem Incident.incident_columns {i : Incident} (times : i.TimesIn Instant.FourDigitYear) :
    i.columns.incident = .ok i.kept := by
  simp only [IncidentColumns.incident, Incident.columns, Incident.row, readId_text,
    readTime_storedText times.1, readOptionalTime_map times.2, readUInt32_toNat]
  rfl

/-- The row of an incident with an instant in another year does not come back. -/
theorem Incident.incident_columns_of_not_timesIn {i : Incident}
    (times : ¬ i.TimesIn Instant.FourDigitYear) :
    i.columns.incident = .error (.unreadableTime Instant.Flaw.invalid.message) := by
  by_cases began : i.beganAt.FourDigitYear
  · cases ended : i.endedAt with
    | none => exact absurd ⟨began, by simp [ended]⟩ times
    | some e =>
      have year : ¬ e.FourDigitYear := fun year => times ⟨began, by simpa [ended] using year⟩
      simp only [IncidentColumns.incident, Incident.columns, Incident.row, readId_text,
        readTime_storedText began, ended, Option.map_some, readOptionalTime,
        readTime_of_not_fourDigitYear year]
      rfl
  · simp only [IncidentColumns.incident, Incident.columns, Incident.row, readId_text,
      readTime_of_not_fourDigitYear began]
    rfl

/-- The incident that a new one becomes under an identifier and in a phase. -/
def NewIncident.withId (input : NewIncident) (id : Uuid) (phase : PhaseRef) : Incident :=
  ⟨id, input.displayName, input.description, input.beganAt, input.endedAt, phase⟩

/-- The content with which an incident can be written back, given its impacts. -/
def Incident.content (i : Incident) (impacts : List Impact) : NewIncident :=
  ⟨i.displayName, i.description, i.beganAt, i.endedAt, some i.phase, impacts⟩

/-- The instants that a caller gives of an incident have a property. -/
def NewIncident.TimesIn (p : Instant → Prop) (input : NewIncident) : Prop :=
  p input.beganAt ∧ ∀ ended ∈ input.endedAt, p ended

instance (p : Instant → Prop) [DecidablePred p] (input : NewIncident) :
    Decidable (input.TimesIn p) :=
  inferInstanceAs (Decidable (p input.beganAt ∧ ∀ ended ∈ input.endedAt, p ended))

/-- The end that a caller gives of an incident comes before the beginning as the two are kept. -/
def NewIncident.Crossed (input : NewIncident) : Prop :=
  ∃ ended ∈ input.endedAt, ended.kept < input.beganAt.kept

instance (input : NewIncident) : Decidable input.Crossed :=
  inferInstanceAs (Decidable (∃ ended ∈ input.endedAt, ended.kept < input.beganAt.kept))

theorem NewIncident.not_crossed {input : NewIncident} :
    ¬ input.Crossed ↔ ∀ ended ∈ input.endedAt, input.beganAt.kept ≤ ended.kept := by
  simp only [Crossed, not_exists, not_and]
  exact Iff.rfl

/-- A row takes over the new content, and keeps its phase if none is given. -/
theorem Incident.revise_row (i : Incident) (input : NewIncident) :
    i.row.revise input = (input.withId i.id (input.phase.getD i.phase)).row := by
  cases phase : input.phase <;>
    simp [IncidentRow.revise, Incident.row, NewIncident.withId, phase]

/-- The row that an update is kept in. -/
def IncidentUpdate.row (u : IncidentUpdate) : UpdateRow where
  incident := u.incident.text
  order := cell32 u.order
  displayName := u.displayName
  description := u.description
  createdAt := u.createdAt.storedText

/-- The row of an update made in a year of four digits comes back as the update. -/
theorem IncidentUpdate.update_row {u : IncidentUpdate} (year : u.createdAt.FourDigitYear) :
    u.row.update u.order.toNat = .ok { u with createdAt := u.createdAt.kept } := by
  simp only [UpdateRow.update, IncidentUpdate.row, readId_text, readUInt32_toNat,
    readTime_storedText year]
  rfl

end StatusPage
