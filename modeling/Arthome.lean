import Arthome.Library.Reply
import Arthome.Library.Machine
import Arthome.Core.Sample
import Arthome.Library.Checked
import Arthome.Ticketing.SeatOrder
import Arthome.Ticketing.SeatOrderChanges
import Arthome.Ticketing.SeatOrderLedger
import Arthome.Ticketing.SeatOrderCalls
import Arthome.Ticketing.SeatOrderRepository
import Arthome.Ticketing.SeatOrderReload
import Arthome.Ticketing.RefundReports
import Arthome.Ticketing.OwedCalls
import Arthome.Ticketing.SeatOrderSave
import Arthome.Ticketing.SeatHold
import Arthome.Ticketing.DateSales
import Arthome.Ticketing.WaitlistEntry
import Arthome.Ticketing.OrderViews
import Arthome.Ticketing.Database
import Arthome.Ticketing.Payments
import Arthome.Ticketing.PoolReturns
import Arthome.Ticketing.PoolReturnRuns
import Arthome.Ticketing.PoolTransactions
import Arthome.Ticketing.Purchase
import Arthome.Ticketing.Expiry
import Arthome.Ticketing.Seats
import Arthome.Ticketing.Outcomes
import Arthome.Ticketing.Sales
import Arthome.Ticketing.Movements
import Arthome.Ticketing.OrderStanding
import Arthome.Ticketing.Wiring
import Arthome.Ticketing.SeatCounts
import Arthome.Ticketing.Conservation
import Arthome.Ticketing.PaymentMovements
import Arthome.Ticketing.PurchaseMovements
import Arthome.Ticketing.ExpiryMovements
import Arthome.Library.Latest
import Arthome.Ticketing.SaleRuns
import Arthome.Ticketing.SaleClosing
import Arthome.Ticketing.CatalogFacts
import Arthome.Ticketing.WaitlistCounts
import Arthome.Ticketing.SaleMovements
import Arthome.Ticketing.SeatMovements
import Arthome.Ticketing.OutcomeMovements
import Arthome.Ticketing.Transactions
import Arthome.Ticketing.SeatRuns
import Arthome.Ticketing.HoldRuns
import Arthome.Ticketing.PaymentRuns
import Arthome.Ticketing.IntentRuns
import Arthome.Ticketing.SweepRuns
import Arthome.Ticketing.OrderRuns
import Arthome.Ticketing.PurchaseRuns
import Arthome.Ticketing.SettlementRuns
import Arthome.Core.AvailabilityRules
import Arthome.Ticketing.Availability
import Arthome.Library.Passes
import Arthome.Ticketing.AvailabilityRuns
import Arthome.Core.RunRules
import Arthome.Streaming.Run
import Arthome.Streaming.IngestListener
import Arthome.Streaming.RunLifecycle
import Arthome.Streaming.RunHistory
import Arthome.Core.ReplayRules
import Arthome.Messaging.Failure
import Arthome.Streaming.ReplayAsset
import Arthome.Streaming.RecordingCalls
import Arthome.Library.Presence
import Arthome.Streaming.FeedPresence
import Arthome.Library.Batch
import Arthome.Streaming.PathWatcher
import Arthome.Streaming.WatchedPresence
import Arthome.Ticketing.ReplayAccess
import Arthome.Library.Spans
import Arthome.Library.TopRanked
import Arthome.Core.WatchRules
import Arthome.Streaming.ScreenAllowance
import Arthome.Streaming.PlaybackSessions
import Arthome.Streaming.PlaybackDesk
import Arthome.Streaming.Screens
import Arthome.Streaming.ScreenRenewals
import Arthome.Core.PreviewRules
import Arthome.Streaming.PreviewCover
import Arthome.Streaming.PreviewBudget
import Arthome.Streaming.StoredCovers
import Arthome.Streaming.ReplayAnnouncements
import Arthome.Streaming.RecordingRefs
import Arthome.Streaming.MediaMtxRecording
import Arthome.Streaming.RecordingLeases
import Arthome.Library.Settling
import Arthome.Messaging.Claims
import Arthome.Streaming.EntitlementFacts
import Arthome.Streaming.EntitlementGroups
import Arthome.Streaming.EntitlementRuns
import Arthome.Streaming.EntitlementProjection
import Arthome.Streaming.EntitlementSeats
import Arthome.Streaming.EntitlementConvergence
import Arthome.Streaming.SubscriptionProjection
import Arthome.Library.Streaks
import Arthome.Streaming.EdgeRoutes
import Arthome.Streaming.EdgeRouteRuns
import Arthome.Library.Base64
import Arthome.Library.JsonText
import Arthome.Catalog.SearchCursors
import Arthome.Catalog.SearchPages
import Arthome.Search.ReadModel
import Arthome.Search.Documents
import Arthome.Search.Convergence
import Arthome.Core.TierRules
import Arthome.Ticketing.TierOpening
import Arthome.Ticketing.OrderSettlement
import Arthome.Library.Rows
import Arthome.Library.Journal
import Arthome.Edge.Idempotency
import Arthome.Library.RetiredNames
import Arthome.Core.SlugRules
import Arthome.Catalog.Slugs
import Arthome.Catalog.PublicLinks
import Arthome.Catalog.PublicLinkRuns
import Arthome.Identity.EmailVerifications
import Arthome.Identity.VerificationFacts
import Arthome.Identity.VerificationMoves
import Arthome.Identity.VerificationRuns
import Arthome.Identity.Devices
import Arthome.Identity.DeviceMoves
import Arthome.Identity.DeviceFacts
import Arthome.Identity.DeviceWrites
import Arthome.Messaging.Dispatch
import Arthome.Messaging.Consumption
import Arthome.Core.PublicationRules
import Arthome.Library.Statements
import Arthome.Catalog.DateAggregates
import Arthome.Catalog.DateDetails
import Arthome.Catalog.CatalogMessages
import Arthome.Catalog.DateTransactions
import Arthome.Catalog.DateMoves
import Arthome.Catalog.DateSteps
import Arthome.Catalog.DateRuns
import Arthome.Catalog.DatePages
import Arthome.Catalog.DateCards
import Arthome.Search.CatalogFacts
import Arthome.Search.PublishedFacts
import Arthome.Search.DateStreams
import Arthome.Search.IndexAgreement
import Arthome.Ticketing.CatalogAgreement
import Arthome.Streaming.CatalogAgreement
