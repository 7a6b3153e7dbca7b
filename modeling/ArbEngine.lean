import ArbEngine.Executor.Checks
import ArbEngine.Executor.Limits
import ArbEngine.Proof.Integration.Sections
import ArbEngine.Proof.Executor.AtMostOnce
import ArbEngine.Proof.Executor.Books
import ArbEngine.Proof.Executor.Hedge
import ArbEngine.Proof.Executor.NetMoves
import ArbEngine.Proof.Executor.NetAccounts
import ArbEngine.Proof.Executor.NetRuns
import ArbEngine.Proof.Executor.LateEffects
import ArbEngine.Proof.Inventory.TrackerLedger
import ArbEngine.Proof.Pricing.V2Inverse
import ArbEngine.Proof.Pricing.V2Quote
import ArbEngine.Proof.Pricing.V2Runs
import ArbEngine.Proof.Pricing.V3Loop
import ArbEngine.Proof.Pricing.V3Route
import ArbEngine.Proof.Pricing.V3Step
import ArbEngine.Strategy.Scorer
import ArbEngine.Proof.Integration.KillSwitch
import ArbEngine.Lib.Overwrite
import ArbEngine.Proof.Integration.BalanceSync
import ArbEngine.Lib.SimplePaths
import ArbEngine.Pricing.Pool
import ArbEngine.Pricing.Router
import ArbEngine.Proof.Pricing.Routes
import ArbEngine.Proof.Pricing.V3Liquidity
import ArbEngine.Proof.Executor.Contexts
import ArbEngine.Proof.Integration.Iteration
import ArbEngine.Proof.Integration.Gates
import ArbEngine.Proof.Integration.Journal
import ArbEngine.Proof.Integration.LosingStreak
import ArbEngine.Proof.Integration.HourlyLimit
import ArbEngine.Proof.Integration.Positions
import ArbEngine.Integration.Records
import ArbEngine.Proof.Integration.RecordedPnl
import ArbEngine.Strategy.Generator
import ArbEngine.Integration.TradingLoop
import ArbEngine.Proof.Strategy.Signals
import ArbEngine.Proof.Strategy.GrossPnl
import ArbEngine.Proof.Integration.PairFees
import ArbEngine.Proof.Pricing.V2Price
import ArbEngine.Proof.Strategy.PoolQuotes
import ArbEngine.Proof.Executor.Consistency
import ArbEngine.Proof.Integration.Bookkeeping
import ArbEngine.Proof.Executor.Solvency
import ArbEngine.Proof.Integration.Flatten
import ArbEngine.Proof.Exchange.Symbols
import ArbEngine.Proof.Pricing.PriceLaw
import ArbEngine.Executor.DexLeg
import ArbEngine.Proof.Executor.Proceeds
import ArbEngine.Proof.Pricing.V3Exact
import ArbEngine.Lib.SwapMath
import ArbEngine.Proof.Pricing.V3Solidity
import ArbEngine.Proof.Pricing.V3Range
import ArbEngine.Pricing.Monitor
import ArbEngine.Inventory.Predictive
import ArbEngine.Proof.Pricing.Impact
import ArbEngine.Proof.Inventory.Mempool
import ArbEngine.Proof.Executor.Breaker
import ArbEngine.Proof.Inventory.Amounts
import ArbEngine.Proof.Inventory.Preposition
import ArbEngine.Exchange.RateLimiter
import ArbEngine.Lib.TokenBucket
import ArbEngine.Proof.Exchange.RateGuarantee
import ArbEngine.Proof.Exchange.HeaderFeedback
import ArbEngine.Pricing.Engine
import ArbEngine.Proof.Pricing.LoadedPools
import ArbEngine.Proof.Pricing.QuoteCheck
import ArbEngine.Core.Serializer
import ArbEngine.Proof.Core.Document
import ArbEngine.Proof.Core.Floats
import ArbEngine.Proof.Pricing.V2Solidity
import ArbEngine.Proof.Pricing.V2Laws
import ArbEngine.Proof.Pricing.V2Spot
import ArbEngine.Proof.Pricing.BestRoute
import ArbEngine.Proof.Pricing.Loops
import ArbEngine.Proof.Pricing.SharedStore
import ArbEngine.Exchange.OrderBook
import ArbEngine.Lib.Greedy
import ArbEngine.Proof.Exchange.BookWalk
import ArbEngine.Proof.Exchange.BookPrices
import ArbEngine.Proof.Exchange.BookDepth
import ArbEngine.Inventory.Rebalancer
import ArbEngine.Proof.Inventory.Rebalance
import ArbEngine.Proof.Inventory.TradeLedger
import ArbEngine.Proof.Inventory.Attribution
import ArbEngine.Lib.Window
import ArbEngine.Proof.Strategy.History
import ArbEngine.Chain.Builder
import ArbEngine.Proof.Chain.FeeCap
import ArbEngine.Lib.Decimal
import ArbEngine.Proof.Core.FromHuman
import ArbEngine.Exchange.Replies
import ArbEngine.Proof.Exchange.BookReplies
import ArbEngine.Proof.Exchange.OrderReplies
import ArbEngine.Integration.Checker
import ArbEngine.Proof.Integration.CheckedProfit
import ArbEngine.Proof.Executor.PriceFeed
import ArbEngine.Proof.Executor.ReplayHistory
import ArbEngine.Exchange.Coinbase
import ArbEngine.Lib.BigEndian
import ArbEngine.Proof.Chain.Retry
import ArbEngine.Proof.Exchange.Es256
import ArbEngine.Proof.Exchange.RequestPath
import ArbEngine.Lib.Bisection
import ArbEngine.Pricing.ImpactAnalyzer
import ArbEngine.Proof.Pricing.ImpactSearch
import ArbEngine.Core.Amounts
import ArbEngine.Exchange.PrivateApi
import ArbEngine.Lib.JsonReader
import ArbEngine.Lib.QueryString
import ArbEngine.Proof.Core.AmountTexts
import ArbEngine.Proof.Exchange.OrderFields
import ArbEngine.Proof.Exchange.OrderBytes
import ArbEngine.Integration.FetchedBalances
import ArbEngine.Proof.Integration.AccountBalances
import ArbEngine.Exchange.Streams
import ArbEngine.Inventory.TradeStore
import ArbEngine.Proof.Exchange.StreamedBooks
import ArbEngine.Proof.Inventory.TradeReports
import ArbEngine.Proof.Inventory.RebalanceAll
import ArbEngine.Inventory.Opportunities
import ArbEngine.Lib.BoundedQueue
import ArbEngine.Proof.Inventory.Opportunities
import ArbEngine.Chain.Sending
import ArbEngine.Proof.Chain.Sending
import ArbEngine.Proof.Chain.SentBytes
import ArbEngine.Executor.Allowance
import ArbEngine.Proof.Executor.Allowance
import ArbEngine.Integration.Equity
import ArbEngine.Proof.Integration.EquitySnapshots
import ArbEngine.Lib.Abi
import ArbEngine.Chain.Contracts
import ArbEngine.Executor.Calldata
import ArbEngine.Proof.Executor.SeenSwaps
import ArbEngine.Lib.Asking
import ArbEngine.Pricing.FromChain
import ArbEngine.Proof.Pricing.ReadPools
import ArbEngine.Pricing.Simulator
import ArbEngine.Proof.Pricing.Scans
import ArbEngine.Proof.Pricing.Comparisons
