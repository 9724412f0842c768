import Exetron.Analytics.StoreAccess
import Exetron.Analytics.Totals
import Exetron.Auth.Concurrent
import Exetron.Billing.Bootstrap
import Exetron.Carts.Answers
import Exetron.Carts.MenuPrices
import Exetron.Carts.Once
import Exetron.Catalog.References
import Exetron.Checkout.CustomerOrders
import Exetron.Checkout.PaidOrders
import Exetron.Customization.Branding
import Exetron.Customization.Scope
import Exetron.Enterprise.Attestations
import Exetron.Enterprise.GrantTerms
import Exetron.Enterprise.PublicationStatus
import Exetron.Enterprise.UpToDate
import Exetron.Enterprise.Verdicts
import Exetron.Fulfillment.Configs
import Exetron.Fulfillment.Dispatch
import Exetron.Growth.Cancelled
import Exetron.Growth.Once
import Exetron.Inventory.Reserved
import Exetron.Kitchen.Board
import Exetron.Kitchen.Concurrent
import Exetron.Localization.LanguagePack
import Exetron.Localization.ResolvedLocale
import Exetron.Mobile.Queue
import Exetron.Orders.FinishedStock
import Exetron.Orders.RefundFlag
import Exetron.Orders.Tickets
import Exetron.Organizations.Versions
import Exetron.Payments.Absorbing
import Exetron.Payments.ActiveIntent
import Exetron.Payments.Capture
import Exetron.Payments.ForgedDeliveries
import Exetron.Payments.Isolation
import Exetron.Payments.PaidAmount
import Exetron.Payments.ProviderHistory
import Exetron.Payments.Refunds
import Exetron.Payments.Summary
import Exetron.Pos.Concurrent
import Exetron.Pricing.WeekWindows
import Exetron.Replenishment.CancelledOrders
import Exetron.Replenishment.CsvArtifacts
import Exetron.Replenishment.DroppedChecksums
import Exetron.Replenishment.ExportCsv
import Exetron.Replenishment.FailedSyncs
import Exetron.Replenishment.Races
import Exetron.Replenishment.Redelivery
import Exetron.Replenishment.ReplayWindow
import Exetron.Replenishment.RetryWorker
import Exetron.Replenishment.RetryPolicy
import Exetron.Replenishment.Shortfall
import Exetron.Replenishment.Signatures
import Exetron.Organizations.Statuses
