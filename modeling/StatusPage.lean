import StatusPage.Main
import StatusPage.Store.Operation
import StatusPage.Store.RowImport
import StatusPage.Proofs.Text.FixedWidth
import StatusPage.Proofs.UuidText
import StatusPage.Proofs.Calendar
import StatusPage.Proofs.LabelSets
import StatusPage.Proofs.Text.Trimming
import StatusPage.Proofs.Instant.LeapSeconds
import StatusPage.Proofs.Instant.StoredText
import StatusPage.Proofs.Instant.StoredReading
import StatusPage.Proofs.Instant.CallerText
import StatusPage.Proofs.Store.Columns
import StatusPage.Proofs.Accepted
import StatusPage.Proofs.Store.Effect
import StatusPage.Proofs.Store.PhaseLog
import StatusPage.Proofs.Store.Consistent
import StatusPage.Proofs.Store.Times
import StatusPage.Proofs.Store.Reading
import StatusPage.Proofs.Store.LastWrite
import StatusPage.Proofs.Store.Resolution
import StatusPage.Proofs.Store.Rollback
import StatusPage.Proofs.Store.Availability
import StatusPage.Proofs.Provisioning
import StatusPage.Proofs.Store.Generations
import StatusPage.Proofs.Store.UpdateOrders
import StatusPage.Proofs.Store.UpdateJournal
import StatusPage.Proofs.Api.AffectedListing
import StatusPage.Proofs.Store.ImpactViews
import StatusPage.Proofs.Store.WriteOutcomes
import StatusPage.Proofs.Store.OffScale
import StatusPage.Proofs.Provisioning.Severities
import StatusPage.Proofs.Provisioning.Again
import StatusPage.Proofs.Provisioning.BeforeAndAfter
import StatusPage.Proofs.Provisioning.Repeated
import StatusPage.Proofs.Store.Deletions
import StatusPage.Proofs.Store.Entities
import StatusPage.Proofs.Store.ReadBack
import StatusPage.Proofs.Store.WriteFaults
import StatusPage.Proofs.Api.Histories
import StatusPage.Proofs.Api.Answers
import StatusPage.Proofs.Store.Listings
import StatusPage.Proofs.Store.LabelFilter
import StatusPage.Proofs.Store.UpdateIsolation
import StatusPage.Proofs.Store.WriteBack
import StatusPage.Proofs.Text.Utf8
import StatusPage.Proofs.Text.PathParts
import StatusPage.Proofs.Json.WrittenReading
import StatusPage.Proofs.Json.RecordReading
import StatusPage.Proofs.Json.RoundTrip
import StatusPage.Proofs.Api.SentBack
import StatusPage.Proofs.Api.PutBack
import StatusPage.Proofs.Api.EntityPaths
import StatusPage.Proofs.Api.ReadNext
import StatusPage.Proofs.Selector.Grammar
import StatusPage.Proofs.Selector.Rendering
import StatusPage.Proofs.Store.StoredTimes
import StatusPage.Proofs.Store.StoredPrecision
import StatusPage.Proofs.Store.SeverityScale
