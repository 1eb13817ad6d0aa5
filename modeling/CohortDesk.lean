import CohortDesk.Main
import CohortDesk.Worker
import CohortDesk.Proofs.Desk.Listings
import CohortDesk.Proofs.Desk.Marks
import CohortDesk.Proofs.Worker.Settled
import CohortDesk.Proofs.Worker.LateListing
import CohortDesk.Proofs.Service.Verdict
import CohortDesk.Proofs.Desk.Queue
import CohortDesk.Proofs.Desk.Requests
import CohortDesk.Proofs.Desk.Shown
import CohortDesk.Proofs.Worker.Service
import CohortDesk.Proofs.Json.Token
import CohortDesk.Proofs.Instant.Text
import CohortDesk.Proofs.Json.Value
import CohortDesk.Proofs.Wire
import CohortDesk.Proofs.Program.Limits
import CohortDesk.Proofs.Screen.Settling
import CohortDesk.Proofs.Screen.RemovalReports
import CohortDesk.Proofs.Grid.Lines
import CohortDesk.Proofs.Settings.Entries
import CohortDesk.Proofs.Desk.Declined
import CohortDesk.Proofs.Service.Reply
import CohortDesk.Proofs.Worker.Legible
import CohortDesk.Proofs.Cohort
import CohortDesk.Proofs.Desk.Filter
import CohortDesk.Proofs.Settings.Entries
import CohortDesk.Proofs.Program.Waiting
