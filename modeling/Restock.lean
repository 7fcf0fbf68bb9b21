import Restock.Admin.StepUp
import Restock.Audit.BlockLayout
import Restock.Audit.CalendarWeeks
import Restock.Audit.Columns
import Restock.Audit.Continued
import Restock.Audit.Handshake
import Restock.Audit.Intermittency
import Restock.Audit.LostSales
import Restock.Audit.NegativeForecasts
import Restock.Audit.Nested
import Restock.Audit.StockedWeeks
import Restock.Audit.StrategyScores
import Restock.Audit.ValueClasses
import Restock.Audit.ValuesOnly
import Restock.Audit.Winsorize
import Restock.Books.Connection
import Restock.Books.Evidence
import Restock.Forecast.Attribution
import Restock.Forecast.BlockedDays
import Restock.Forecast.BulkProjection
import Restock.Forecast.Classes
import Restock.Forecast.CountQuantile
import Restock.Forecast.Grounded
import Restock.Forecast.LookAhead
import Restock.Forecast.OrderSize
import Restock.Forecast.ScoredOnce
import Restock.Forecast.SteadySeller
import Restock.Forecast.Usable
import Restock.Imports.Suppliers
import Restock.Inventory.PlainSync
import Restock.Inventory.Snapshots
import Restock.Metrics.OneRate
import Restock.Onboarding.ClassMethods
import Restock.Plan.AddToOrders
import Restock.Plan.Budget
import Restock.Plan.Redaction
import Restock.Pos.Commute
import Restock.Pos.Gaps
import Restock.Pos.LocalTimes
import Restock.Purchasing.Lifecycle
import Restock.Purchasing.Numbering
import Restock.Purchasing.ReceiptRoundTrip
import Restock.Purchasing.SentDocument
import Restock.Realtime.DeadSockets
import Restock.Realtime.OneAttempt
import Restock.Recommendations.Nightly
import Restock.Sales.Feed
import Restock.Shopify.FullPull
import Restock.Stock.LocationPages
import Restock.Stock.LocationsUrl
import Restock.Team.Escalation
import Restock.Team.InviteSafety
import Restock.Transfers.FinalPlans
import Restock.Transfers.SizingBounds
import Restock.Worker.ForecastQueue
import Restock.Worker.Incidents
import Restock.Worker.PlanLimits
import Restock.Worker.SyncJobs
