import PortfolioManagement.Lib.Program
import PortfolioManagement.Domain.CashFlow
import PortfolioManagement.Ledger.Keys
import PortfolioManagement.Domain.Holding
import PortfolioManagement.Effect.Source
import PortfolioManagement.Effect.Store
import PortfolioManagement.Effect.Binding
import PortfolioManagement.Effect.Receipts
import PortfolioManagement.Effect.Reflection
import PortfolioManagement.Compensation.LogFile
import PortfolioManagement.Ledger.Settled
import PortfolioManagement.Ledger.AggregateCache
import PortfolioManagement.Monitor.Replay
import PortfolioManagement.Outbox.Delivered
import PortfolioManagement.Inbox.Commit
import PortfolioManagement.Schedule.NoneLost
import PortfolioManagement.Futu.Convergence
import PortfolioManagement.Nav.GapFlows
import PortfolioManagement.Nav.FlowInvariance
import PortfolioManagement.Nav.LinearScan
import PortfolioManagement.Nav.PeriodResults
import PortfolioManagement.Nav.OwnWrites
import PortfolioManagement.Nav.Preview
import PortfolioManagement.Nav.Returns
import PortfolioManagement.NavReceipts.Delivered
import PortfolioManagement.Futu.Sync
import PortfolioManagement.FutuRefresh.Announced
import PortfolioManagement.Snapshots.Recovered
import PortfolioManagement.Valuation.Evidence
import PortfolioManagement.Valuation.QuotesAlike
import PortfolioManagement.Valuation.Accurate
import PortfolioManagement.Listing.Complete
import PortfolioManagement.Fx.Fresh
import PortfolioManagement.MarketTime.Lifetime
import PortfolioManagement.ProcessLock.NoDeadlock
import PortfolioManagement.NavRepair.Restated
import PortfolioManagement.NavRepair.Canonical
import PortfolioManagement.NavRepair.JournalGuard
import PortfolioManagement.Validation.Confluence
import PortfolioManagement.Validation.Observed
import PortfolioManagement.LocalCache.ReadBack
import PortfolioManagement.NavRepair.JournalBytes
import PortfolioManagement.Nav.Converged
import PortfolioManagement.Ledger.CompletedEvents
import PortfolioManagement.Mutations.Retryable
import PortfolioManagement.Effect.Traced
