import Mathlib
import StatusPage.Proofs.Store.Availability
import StatusPage.Proofs.Store.Resolution
import StatusPage.Proofs.Store.Rollback

/-!
# Times as the store keeps them

The store writes an instant as a text, compares instants as texts and reads them back from texts.
`stored_time_round_trip` says what comes back: in the years 0 to 9999 the instant without what is
finer than a microsecond, save that a leap second inside a minute comes back as the second that
follows, and in every other year a fault. `stored_order_chronological_iff` says what comparing is
worth: the bounds of windows, the order of incidents and the instants asked about are in the order
of time exactly as far as their years are written in order, so never between a year of four digits
and one after 9999, and as far as no leap second inside a minute is overtaken by what it is kept as.
-/

namespace StatusPage.Store

open Text

/-! ## Writing and reading -/

/-- An instant in the years 0 to 9999 is kept in 27 characters, and what is kept of it is read back
and kept in the same text again. This is the instant without what is finer than a microsecond
exactly if it is in no leap second or in one at the end of a minute. An instant of any other year is
not read back. -/
theorem stored_time_round_trip (t : Instant) :
    (t.FourDigitYear →
      t.storedText.length = 27 ∧ readTime t.storedText = .ok t.kept ∧
        t.kept.storedText = t.storedText ∧ (t.kept = t.truncate ↔ t.Regular)) ∧
    (¬ t.FourDigitYear →
      readTime t.storedText = .error (.unreadableTime Instant.Flaw.invalid.message)) := by
  refine ⟨fun year => ⟨?_, ?_, ?_, ?_⟩, fun year => ?_⟩
  · exact t.length_storedText_eq_iff.2 year
  · exact readTime_storedText year
  · exact t.storedText_kept
  · exact Instant.kept_eq_truncate_iff
  · exact readTime_of_not_fourDigitYear year

/-- A leap second inside a minute is read back as the second that follows. -/
theorem stored_time_inside_minute :
    Instant.insideMinute.FourDigitYear ∧
      readTime Instant.insideMinute.storedText =
        .ok ⟨13, 900000000, by decide, by decide, by decide⟩ ∧
      readTime Instant.insideMinute.storedText ≠ .ok Instant.insideMinute.truncate := by
  decide

/-- A leap second at the end of the year 9999. -/
def lastLeapSecond : Instant :=
  (Instant.ofSecond? 253402300799 1999999999).getD Instant.epoch

/-- The last instant of the year 9999 is read back to the microsecond, and the next one is not. -/
theorem stored_time_round_trip_leap :
    lastLeapSecond.FourDigitYear ∧
      readTime lastLeapSecond.storedText = .ok lastLeapSecond.truncate ∧
      ¬ farFuture.FourDigitYear ∧
      readTime farFuture.storedText = .error (.unreadableTime Instant.Flaw.invalid.message) := by
  have year : lastLeapSecond.FourDigitYear := by decide
  have signed : ¬ farFuture.FourDigitYear := by decide
  obtain ⟨-, read, -, whole⟩ := (stored_time_round_trip lastLeapSecond).1 year
  rw [whole.2 (by decide)] at read
  exact ⟨year, read, signed, (stored_time_round_trip _).2 signed⟩

/-! ## Comparing -/

/-- The stored bounds of an accepted window are in order exactly if their years are written in order
and what is kept of them is in order. -/
theorem boundsInOrder_iff_of_accepted {input : NewIncident} (accepted : input.Accepted) :
    boundsInOrder input.beganAt.storedText (input.endedAt.map Instant.storedText) = true ↔
      ∀ ended ∈ input.endedAt, Instant.WrittenInOrder input.beganAt.year ended.year ∧
        Instant.KeptInOrder input.beganAt ended := by
  cases end_given : input.endedAt with
  | none => simp [boundsInOrder]
  | some ended =>
    have order := Instant.truncate_le_truncate (accepted.window ended end_given)
    have agree := Instant.storedText_le_iff_truncate input.beganAt ended
    rw [iff_true_right order] at agree
    simp [boundsInOrder, agree]

/-- The texts of two instants are in the order of time exactly if their years are equal or written
in order and what is kept of them is in the order of time, as it always is if leap seconds lie at
the end of a minute. So the stored bounds of an accepted window are in order exactly under the same
condition on the two, and a window that is stored is active when the window is that is kept in it,
at the instant that is shown, if the year asked about is written in order with the years of its
bounds. -/
theorem stored_order_chronological_iff (a b : Instant) (input : NewIncident) (i : Incident)
    (t : Instant) :
    ((a.storedText ≤ b.storedText ↔ a.truncate ≤ b.truncate) ↔
      Instant.WrittenInOrder a.year b.year ∧ Instant.KeptInOrder a b) ∧
    (a.Regular → b.Regular → Instant.KeptInOrder a b) ∧
    (input.validate = .ok () →
      (boundsInOrder input.beganAt.storedText (input.endedAt.map Instant.storedText) = true ↔
        ∀ ended ∈ input.endedAt, Instant.WrittenInOrder input.beganAt.year ended.year ∧
          Instant.KeptInOrder input.beganAt ended)) ∧
    (Instant.WrittenInOrder i.beganAt.year t.year →
      (∀ ended ∈ i.endedAt, Instant.WrittenInOrder ended.year t.year) →
      i.row.activeAt (some t) = i.kept.window.isActive (some t.settle)) := by
  refine ⟨Instant.storedText_le_iff_truncate a b, Instant.keptInOrder_of_regular, ?_, ?_⟩
  · intro accepted
    exact boundsInOrder_iff_of_accepted (NewIncident.validate_ok_iff.1 accepted)
  · intro began ended
    apply Incident.activeAt_row_of_writtenInOrder (t := some t)
    · rintro u ⟨⟩
      exact began
    · rintro u ⟨⟩
      exact ended

/-- The start of the year -1. -/
def beforeZero : Instant :=
  (Instant.ofSecond? (-62198755200) 0).getD Instant.epoch

/-- An incident that began before the year 0 and ended in 1970. -/
def longOutage : NewIncident :=
  { outageContent with beganAt := beforeZero, endedAt := some Instant.epoch }

/-- The incident that is kept of the long outage. -/
def longIncident : Incident :=
  longOutage.withId (Uuid.ofNat 3) ⟨1, 0⟩

/-- A minus comes before the digits, so the window of a long incident is compared in order. -/
theorem stored_order_chronological_long :
    beforeZero.storedText ≤ Instant.epoch.storedText ∧
      longOutage.validate = .ok () ∧
      boundsInOrder longOutage.beganAt.storedText
        (longOutage.endedAt.map Instant.storedText) = true ∧
      longIncident.row.activeAt (some Instant.epoch) = false := by
  have order : Instant.WrittenInOrder beforeZero.year Instant.epoch.year := by decide
  have accepted : longOutage.validate = .ok () := by decide
  have began : Instant.WrittenInOrder longIncident.beganAt.year Instant.epoch.year := by decide
  have ended : ∀ ended ∈ longIncident.endedAt,
      Instant.WrittenInOrder ended.year Instant.epoch.year := by decide
  obtain ⟨texts, regular, windows, active⟩ := stored_order_chronological_iff beforeZero
    Instant.epoch longOutage longIncident Instant.epoch
  have both := And.intro order (regular (by decide) (by decide))
  refine ⟨(texts.2 both).2 (by decide), accepted, (windows accepted).2 ?_, ?_⟩
  · rintro ended ⟨⟩
    exact both
  rw [active began ended]
  decide

/-- A plus comes before the digits as well. So the texts of all instants are not in the order of
time, an accepted window need not be in order as texts, and an ongoing incident is not active for
the store at an instant after the year 9999. -/
theorem signed_years_out_of_order :
    (¬ ∀ a b : Instant, a.storedText ≤ b.storedText ↔ a.truncate ≤ b.truncate) ∧
      (¬ ∀ input : NewIncident, input.validate = .ok () →
        boundsInOrder input.beganAt.storedText (input.endedAt.map Instant.storedText) = true) ∧
      (outageContent.withId (Uuid.ofNat 3) ⟨1, 0⟩).window.isActive (some farFuture) = true ∧
      (outageContent.withId (Uuid.ofNat 3) ⟨1, 0⟩).row.activeAt (some farFuture) = false := by
  have later : Instant.epoch.truncate ≤ farFuture.truncate := by decide
  have texts : ¬ Instant.epoch.storedText ≤ farFuture.storedText := by decide
  refine ⟨?_, ?_, by decide, by decide⟩
  · intro claimed
    exact texts ((claimed Instant.epoch farFuture).2 later)
  · intro claimed
    have bounds := claimed { outageContent with endedAt := some farFuture } (by decide)
    simp only [boundsInOrder, Option.map_some, Option.all_some, decide_eq_true_eq] at bounds
    exact texts bounds

end StatusPage.Store
