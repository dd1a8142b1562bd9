import Orignabase.Lib.Text
import Orignabase.Lib.SqlLexer
import Orignabase.Lib.SqlFragment
import Orignabase.Lib.Prog
import Orignabase.Lib.Table
import Orignabase.Core.Validate
import Orignabase.Core.Json
import Orignabase.Database.Query
import Orignabase.Database.QueryLiterals
import Orignabase.Database.QuerySafety
import Orignabase.Database.QueryShape
import Orignabase.Store.Documents
import Orignabase.Store.Api
import Orignabase.Store.Rules
import Orignabase.Orders.Refunds
import Orignabase.Orders.Status
import Orignabase.Orders.RefundAccounts
import Orignabase.Orders.Units
import Orignabase.Orders.StockRestores
import Orignabase.Lib.Runs
import Orignabase.Orders.Calls
import Orignabase.Orders.Writes
import Orignabase.Orders.ItemUpdates
import Orignabase.Orders.InTurn
import Orignabase.Orders.StatusGraph
import Orignabase.Payments.Webhooks
import Orignabase.Lib.Retry
import Orignabase.Payments.Redelivery
import Orignabase.Payments.RefundEvents
import Orignabase.Payments.RefundDelivery
import Orignabase.Payments.Releases
import Orignabase.Checkout.Pricing
import Orignabase.Checkout.Session
import Orignabase.Checkout.Placed
import Orignabase.Checkout.CartLines
import Orignabase.Lib.Rounding
import Orignabase.Checkout.RefundSums
import Orignabase.Checkout.Reservations
import Orignabase.Checkout.Keys
import Orignabase.Orders.Returns
import Orignabase.Orders.ReturnStates
import Orignabase.Payments.Capture
import Orignabase.Checkout.Handover
import Orignabase.Payments.CaptureCancel
import Orignabase.Payments.Signature
import Orignabase.Lib.Timestamp
import Orignabase.Premium.Store
import Orignabase.Premium.Jobs
import Orignabase.Premium.JobTimes
import Orignabase.Premium.Subscriptions
import Orignabase.Premium.Rules
import Orignabase.Premium.Entitlement
import Orignabase.Cron.Lock
import Orignabase.Cron.MutualExclusion
import Orignabase.Checkout.CouponQuotes
import Orignabase.Checkout.QuoteAgreement
import Orignabase.Cron.Payouts
import Orignabase.Cron.PendingPushes
import Orignabase.Premium.OneSubscription
import Orignabase.Auth.Store
import Orignabase.Auth.Routes
import Orignabase.Auth.Follows
import Orignabase.Auth.Steps
import Orignabase.Auth.AdminRole
import Orignabase.Auth.Credentials
import Orignabase.Auth.SingleUse
import Orignabase.Auth.ResetSessions
import Orignabase.Auth.SecondFactor
import Orignabase.Auth.OneTime
import Orignabase.Auth.Emails
import Orignabase.Auth.RateLimit
import Orignabase.Auth.Totp
import Orignabase.Lib.Either
import Orignabase.Checkout.Coupons
import Orignabase.Checkout.CouponLimits
import Orignabase.Lib.Peg
import Orignabase.Security.Rules
import Orignabase.Security.Grammar
import Orignabase.Security.Validation
import Orignabase.Security.Shipped
import Orignabase.Realtime.Dispatcher
import Orignabase.Database.Jsonb
import Orignabase.Graphql.Store
import Orignabase.Graphql.Mutations
import Orignabase.Graphql.Enforcement
import Orignabase.Graphql.Owners
import Orignabase.Graphql.Batches
import Orignabase.Graphql.BatchUpdates
import Orignabase.Tasks.Queue
import Orignabase.Tasks.Finished
import Orignabase.Tasks.Attempts
import Orignabase.Tasks.Backoff
import Orignabase.Tasks.Order
import Orignabase.Graphql.Listing
import Orignabase.Lib.Paging
import Orignabase.Lib.SortedPages
import Orignabase.Graphql.Pages
import Orignabase.Graphql.CursorPages
import Orignabase.Addresses.Privacy
import Orignabase.Shared.RateLimiter
import Orignabase.Shared.Sanitizing
import Orignabase.Shared.ContactInfo
import Orignabase.Mcp.Safeguards
import Orignabase.Mcp.Tools
import Orignabase.Mcp.SpendLimits
import Orignabase.Mcp.Idempotency
import Orignabase.Digital.Downloads
import Orignabase.Graphql.FieldValues
import Orignabase.Lib.Url
import Orignabase.Lib.Windows
import Orignabase.Lib.Histories
import Orignabase.Lib.Fallible
import Orignabase.Storage.Paths
import Orignabase.Storage.SignedUrls
import Orignabase.Realtime.Registry
import Orignabase.Realtime.Websocket
import Orignabase.Realtime.Cluster
import Orignabase.Cli.Firestore
import Orignabase.Cli.Backup
import Orignabase.Products.Payloads
import Orignabase.Products.Catalogue
import Orignabase.Products.Writers
import Orignabase.Products.Statements
import Orignabase.Products.Invariants
import Orignabase.Products.Derived
import Orignabase.Products.OpenOrders
import Orignabase.Products.BulkUpload
import Orignabase.Functions.Runtime
import Orignabase.Functions.Triggers
import Orignabase.Shipping.QuoteSums
import Orignabase.Shipping.Distances
import Orignabase.Notifications.DailyLimit
import Orignabase.Lib.FirstMatch
import Orignabase.Security.OrSemantics
import Orignabase.Security.Monotone
import Orignabase.Lib.Binary64
import Orignabase.Core.Numbers
import Orignabase.Security.Comparisons
import Orignabase.Security.Unchanged
import Orignabase.Realtime.Delivery
import Orignabase.Realtime.Presence
import Orignabase.Realtime.Connections
import Orignabase.Lib.Replace
import Orignabase.Database.NamedParams
import Orignabase.Database.TableName
import Orignabase.Mcp.Catalog
import Orignabase.Mcp.Filters
