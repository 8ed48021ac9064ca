import RouteGuard.Lib.HashTable
import RouteGuard.Lib.WhileLoop
import RouteGuard.Lib.SuffixWindow
import RouteGuard.Lib.GuardedRun
import RouteGuard.Lib.Fallible
import RouteGuard.Lib.LongestPrefix
import RouteGuard.Lib.Arbitration
import RouteGuard.Lib.LittleEndian
import RouteGuard.Lib.LeastFirst
import RouteGuard.Lib.Segments
import RouteGuard.Lib.Glob
import RouteGuard.Lib.Upsert
import RouteGuard.Lib.Base64
import RouteGuard.Lib.FirstError
import RouteGuard.Lib.ByteAccess
import RouteGuard.Lib.DnsMessage
import RouteGuard.Lib.Sections
import RouteGuard.Core.Net
import RouteGuard.Core.Config
import RouteGuard.Core.Text
import RouteGuard.Core.Conf
import RouteGuard.Core.AddrParse
import RouteGuard.Core.Numbers
import RouteGuard.Core.AddrRoundTrip
import RouteGuard.Core.ConfRoundTrip
import RouteGuard.Core.Events
import RouteGuard.Core.ScopedAddr
import RouteGuard.Core.TransportHints
import RouteGuard.Core.TransportMerge
import RouteGuard.Core.BytePositions
import RouteGuard.Awg.Params
import RouteGuard.Awg.Entries
import RouteGuard.Awg.RoundTrip
import RouteGuard.Lwo.Wire
import RouteGuard.Lwo.Relay
import RouteGuard.Lwo.Keys
import RouteGuard.Lwo.Backend
import RouteGuard.Platform.WgConf
import RouteGuard.Platform.ConfSections
import RouteGuard.Platform.ConfBlocks
import RouteGuard.Platform.WgKeys
import RouteGuard.Platform.WrittenConf
import RouteGuard.Platform.Routes
import RouteGuard.Platform.RouteSpecs
import RouteGuard.Platform.BestRoute
import RouteGuard.Platform.RouteRemoval
import RouteGuard.Platform.RouteOwnership
import RouteGuard.Platform.RouteRows
import RouteGuard.Platform.HostRoutes
import RouteGuard.Platform.TunnelRoutes
import RouteGuard.Platform.WgBuffer
import RouteGuard.Platform.AwgBackend
import RouteGuard.Platform.TunnelUp
import RouteGuard.Platform.TunnelLoop
import RouteGuard.Platform.RowBytes
import RouteGuard.Platform.WgStats
import RouteGuard.Platform.WgReadBack
import RouteGuard.Platform.WgConfBytes
import RouteGuard.Platform.ConfFields
import RouteGuard.Platform.ConfKeys
import RouteGuard.Platform.CopyParts
import RouteGuard.Platform.CopyEntries
import RouteGuard.Platform.CopySections
import RouteGuard.Platform.CopyFields
import RouteGuard.Platform.ConfCopy
import RouteGuard.Platform.CopyReading
import RouteGuard.Platform.Dns
import RouteGuard.Platform.DnsAnswers
import RouteGuard.Platform.DnsProxy
import RouteGuard.Routing.Rules
import RouteGuard.Routing.DomainStore
import RouteGuard.Routing.DomainPatterns
import RouteGuard.Routing.GlobMatch
import RouteGuard.Routing.StoreIndex
import RouteGuard.Routing.StoreHistory
import RouteGuard.Routing.AnswerDiff
import RouteGuard.Routing.StoreReload
import RouteGuard.Routing.DiffReports
import RouteGuard.Routing.CacheSync
import RouteGuard.Routing.Engine
import RouteGuard.Routing.Decisions
import RouteGuard.Routing.RuleOps
import RouteGuard.Routing.AppMatch
import RouteGuard.Routing.RuleInverse
import RouteGuard.Routing.SplitPolicy
import RouteGuard.Wfp.Filters
import RouteGuard.Wfp.Engine
import RouteGuard.Wfp.NetworkLock
import RouteGuard.Wfp.LockRuns
import RouteGuard.Wfp.LockFlows
import RouteGuard.Wfp.Recovery
import RouteGuard.Wfp.SplitFilters
import RouteGuard.Wfp.DnsRedirect
import RouteGuard.Driver.CalloutConfig
import RouteGuard.Driver.Classify
import RouteGuard.Service.SplitRoutes
import RouteGuard.Service.BuildPolicy
import RouteGuard.Service.DomainRouting
import RouteGuard.Service.RouteUpkeep
import RouteGuard.Service.RouteMoves
import RouteGuard.Service.Sessions
import RouteGuard.Service.Connect
import RouteGuard.Service.ConnectExits
import RouteGuard.Service.Ownership
import RouteGuard.Service.LockPolicy
import RouteGuard.Service.SplitWfp
import RouteGuard.Service.Teardown
import RouteGuard.Service.Monitor
import RouteGuard.Service.MonitorRuns
import RouteGuard.Service.RecoveryBudget
import RouteGuard.Service.AdapterEndpoint
import RouteGuard.Service.ProfileStore
import RouteGuard.Service.Observability
import RouteGuard.Service.Diagnostics
import RouteGuard.Service.Requests
import RouteGuard.Service.RuleSync
import RouteGuard.Service.ImportRules
import RouteGuard.Service.RuleLimits
import RouteGuard.Service.LockFrame
import RouteGuard.Service.LockRequests
import RouteGuard.Service.LockWatch
import RouteGuard.Service.EngineTasks
import RouteGuard.Service.EngineRaces
import RouteGuard.Service.EndpointReaders
import RouteGuard.Service.RuntimeCopy
import RouteGuard.Service.TransportSelector
import RouteGuard.Service.TransportTable
import RouteGuard.Service.ProfileImport
import RouteGuard.Service.ProfileSummary
import RouteGuard.Service.ProfileConnect
import RouteGuard.Service.RequireAwg
import RouteGuard.Service.LogRing
import RouteGuard.Driver.LoopbackOrder
import RouteGuard.Driver.Rewrite
import RouteGuard.Service.HandshakeEvents
import RouteGuard.Service.HealthOrder
import RouteGuard.Service.CalloutRuns
import RouteGuard.Service.ExternalEndpoint
import RouteGuard.Service.SecretLines
import RouteGuard.Platform.ProxySockets
import RouteGuard.Lib.WindowsPath
import RouteGuard.Service.ConfPaths
import RouteGuard.Service.ProxyRuns
import RouteGuard.Driver.DeviceControl
import RouteGuard.Driver.DriverLife
import RouteGuard.Lib.Broadcast
import RouteGuard.Lib.Deadband
import RouteGuard.Lib.Framing
import RouteGuard.Lib.Rollup
import RouteGuard.Service.EventBridge
import RouteGuard.Service.IpcCall
import RouteGuard.Service.MetricsStore
import RouteGuard.Service.PipeServer
import RouteGuard.Service.StatsPublisher
import RouteGuard.Service.KernelRedirect
import RouteGuard.Service.KernelRequests
import RouteGuard.Lib.Handles
import RouteGuard.Platform.AdapterRuns
