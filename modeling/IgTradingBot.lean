import IgTradingBot.Library.Programs
import IgTradingBot.Library.Machines
import IgTradingBot.Library.Cursors
import IgTradingBot.Library.KeyedRows
import IgTradingBot.Library.Decimals
import IgTradingBot.Library.Retries
import IgTradingBot.Library.PeriodTotals
import IgTradingBot.Library.Windows
import IgTradingBot.Library.TokenBuckets
import IgTradingBot.Library.Timetables
import IgTradingBot.Library.Histories
import IgTradingBot.Library.Percentiles
import IgTradingBot.Core.Values
import IgTradingBot.Risk.KillSwitch
import IgTradingBot.Risk.KillSwitchTasks
import IgTradingBot.Risk.DrawdownMonitor
import IgTradingBot.Risk.ExposureManager
import IgTradingBot.Risk.PositionSizer
import IgTradingBot.Risk.StopManager
import IgTradingBot.Risk.Approval
import IgTradingBot.Broker.OrderSafety
import IgTradingBot.Broker.OpeningOrders
import IgTradingBot.Broker.OrderLifecycle
import IgTradingBot.Broker.StopLevels
import IgTradingBot.Loop.PositionLimit
import IgTradingBot.Loop.CurrencyExposure
import IgTradingBot.Loop.SizedRisk
import IgTradingBot.Loop.SizedLots
import IgTradingBot.Loop.DailyProfit
import IgTradingBot.Loop.KillSwitchOrders
import IgTradingBot.Loop.DailyEntries
import IgTradingBot.Loop.PartialCloses
import IgTradingBot.Loop.PositionSnapshot
import IgTradingBot.Loop.DealBookings
import IgTradingBot.Strategy.SweepTriggers
import IgTradingBot.Learning.IdenticalLosses
import IgTradingBot.Risk.ExposureRuns
import IgTradingBot.Risk.DailyLimits
import IgTradingBot.Risk.TrailingStops
import IgTradingBot.Risk.CircuitBreaker
import IgTradingBot.Risk.OrderRates
import IgTradingBot.Broker.SubmissionRates
import IgTradingBot.Broker.LimitPauses
import IgTradingBot.Loop.NewsSeverity
import IgTradingBot.Loop.EngineLosses
import IgTradingBot.Strategy.OvertradingGuard
import IgTradingBot.Broker.ReleaseOrder
import IgTradingBot.Strategy.CandleGroups
import IgTradingBot.Broker.PipelineLimits
import IgTradingBot.Core.NumberText
import IgTradingBot.Library.Inverses
import IgTradingBot.Stream.IGStream
import IgTradingBot.Stream.StreamRun
import IgTradingBot.Stream.MergedTicks
import IgTradingBot.Stream.StreamTables
import IgTradingBot.Core.ServiceManager
import IgTradingBot.Core.ServiceDecisions
import IgTradingBot.Strategy.LosingStreaks
import IgTradingBot.Strategy.TradeFrequency
import IgTradingBot.Strategy.PerformanceMonitor
import IgTradingBot.Strategy.Suspensions
import IgTradingBot.Learning.AnalyzerRuns
import IgTradingBot.Learning.ResolutionStreaks
import IgTradingBot.Learning.Reactivations
import IgTradingBot.Learning.MirroredPatterns
import IgTradingBot.Learning.MistakeDatabase
import IgTradingBot.Learning.StoredPatterns
import IgTradingBot.Library.SharedObjects
import IgTradingBot.Copy.CopyEngine
import IgTradingBot.Copy.CopyRuns
import IgTradingBot.Copy.OpenPositions
import IgTradingBot.Copy.StoppedCopies
import IgTradingBot.Copy.AllocationManager
import IgTradingBot.News.CrisisDetector
import IgTradingBot.News.CrisisRuns
import IgTradingBot.News.CrisisKeys
import IgTradingBot.Library.Outboxes
import IgTradingBot.News.CrisisActivations
import IgTradingBot.News.EconomicCalendar
import IgTradingBot.News.SignalPauses
import IgTradingBot.News.EventAdjustments
import IgTradingBot.Library.Crossings
import IgTradingBot.News.GeopoliticalRisk
import IgTradingBot.News.GeopoliticalAlerts
import IgTradingBot.Library.LastOfKey
import IgTradingBot.News.NewsBlocks
import IgTradingBot.News.CalendarProviders
import IgTradingBot.News.FailClosed
import IgTradingBot.News.BlockingWindows
import IgTradingBot.News.MoreEvidence
import IgTradingBot.Library.Loops
import IgTradingBot.Backtest.BacktestEngine
import IgTradingBot.Backtest.Causality
import IgTradingBot.Risk.Reenablings
import IgTradingBot.Notifications.CriticalAlerts
import IgTradingBot.Api.Auth
import IgTradingBot.Api.Lockout
import IgTradingBot.Api.AuthenticationGate
import IgTradingBot.Security.CacheCoherence
import IgTradingBot.Research.Features
import IgTradingBot.Research.LabelLeakage
import IgTradingBot.Research.OutOfSample
import IgTradingBot.Research.RiskRules
import IgTradingBot.Research.TradeAccounts
import IgTradingBot.Library.Greedy
import IgTradingBot.Risk.CloseAll
import IgTradingBot.Risk.StopReports
import IgTradingBot.Risk.CrisisResponse
import IgTradingBot.Risk.SizeLaws
import IgTradingBot.Risk.SignalSides
import IgTradingBot.Loop.MoneyTexts
import IgTradingBot.Loop.RejectedCloses
import IgTradingBot.Loop.DealFrames
import IgTradingBot.Loop.Reversals
import IgTradingBot.Risk.RejectionRates
import IgTradingBot.Broker.PartialTrailing
import IgTradingBot.Broker.StopAcceptance
import IgTradingBot.Strategy.StrategyEngine
import IgTradingBot.Strategy.JointSignals
import IgTradingBot.Library.WeightedMeans
import IgTradingBot.Strategy.MLEnsemble
import IgTradingBot.Library.Extremes
import IgTradingBot.Strategy.EntryZones
import IgTradingBot.Strategy.TradeManagement
import IgTradingBot.Strategy.FinalTargets
import IgTradingBot.Library.FirstPlaces
import IgTradingBot.Learning.PatternMatching
import IgTradingBot.Copy.ValidatedCopies
import IgTradingBot.Library.Peaks
import IgTradingBot.Backtest.Metrics
import IgTradingBot.Copy.DrawdownStops
import IgTradingBot.News.ArticleOrder
import IgTradingBot.News.ScoreDecay
import IgTradingBot.News.CrisisTriggers
import IgTradingBot.Research.FillRanges
import IgTradingBot.Library.Blocks
import IgTradingBot.Strategy.CandleBlocks
import IgTradingBot.Broker.WaitingRequests
import IgTradingBot.Broker.PositionProtection
import IgTradingBot.Notifications.Fallbacks
import IgTradingBot.Config.MarketHours
import IgTradingBot.Core.EventBus
import IgTradingBot.News.NewsEngine
import IgTradingBot.Research.StrategyDiscovery
import IgTradingBot.Api.Websocket
import IgTradingBot.News.CorrelationMapper
import IgTradingBot.Copy.TraderRanker
import IgTradingBot.News.ArticleIntake
import IgTradingBot.Backtest.MonteCarlo
import IgTradingBot.Strategy.EntryConditions
import IgTradingBot.Strategy.ProfessionalStrategy
import IgTradingBot.Loop.Lifecycle
import IgTradingBot.Loop.StrategyOrders
