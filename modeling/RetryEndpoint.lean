import RetryEndpoint.WindowLog
import RetryEndpoint.KeyedMap
import RetryEndpoint.BigEndian
import RetryEndpoint.CheckedBytes
import RetryEndpoint.Texts
import RetryEndpoint.Doubles
import RetryEndpoint.ExpiringStore
import RetryEndpoint.Leases
import RetryEndpoint.Runs
import RetryEndpoint.Places
import RetryEndpoint.ShardedQueues
import RetryEndpoint.RoundRobin
import RetryEndpoint.LocalCalls
import RetryEndpoint.WorkPool
import RetryEndpoint.CopyOnWrite
import RetryEndpoint.EventLog
import RetryEndpoint.LogShape
import RetryEndpoint.SlidingWindow
import RetryEndpoint.KeyMapBounds
import RetryEndpoint.Admissions
import RetryEndpoint.Wire
import RetryEndpoint.Cache
import RetryEndpoint.Retransmit
import RetryEndpoint.DedupFleet
import RetryEndpoint.DedupSpacing
import RetryEndpoint.DedupTruth
import RetryEndpoint.RateLimit
import RetryEndpoint.Settings
import RetryEndpoint.ChainAliases
import RetryEndpoint.GroupID
import RetryEndpoint.TokenKeys
import RetryEndpoint.NackServer
import RetryEndpoint.AckHonesty
import RetryEndpoint.ResponseDiscipline
import RetryEndpoint.NackAcceptance
import RetryEndpoint.UnicastReturn
import RetryEndpoint.NackWorkers
import RetryEndpoint.RateBound
import RetryEndpoint.ThrottleTruth
import RetryEndpoint.Ingress
import RetryEndpoint.Accounts
import RetryEndpoint.FrameClass
import RetryEndpoint.TargetGroup
import RetryEndpoint.Groups
import RetryEndpoint.OwnSource
import RetryEndpoint.Advert
import RetryEndpoint.Process
import RetryEndpoint.Readiness
import RetryEndpoint.FeedDeath
import RetryEndpoint.Proxy
import RetryEndpoint.FetchedFrame
import RetryEndpoint.RecoveredCache
import RetryEndpoint.ClaimFleet
import RetryEndpoint.ClaimLeases
import RetryEndpoint.FrameCache
import RetryEndpoint.Namespaces
import RetryEndpoint.Pipeline
import RetryEndpoint.PipelineSlots
import RetryEndpoint.PipelineFlow
import RetryEndpoint.PipelineProgress
import RetryEndpoint.PipelineOrder
import RetryEndpoint.TwoFeeds
import RetryEndpoint.OneHop
import RetryEndpoint.RecoverySteps
import RetryEndpoint.CrossDomain
import RetryEndpoint.Accesses
import RetryEndpoint.ServerRun
import RetryEndpoint.ProxyRun
import RetryEndpoint.SourceOptions
import RetryEndpoint.Endpoint
import RetryEndpoint.EndpointAnswers
import RetryEndpoint.EndpointTraffic
import RetryEndpoint.Fleet
import RetryEndpoint.Shutdown
import RetryEndpoint.ServerAccounts
import RetryEndpoint.ShutdownEnds
import RetryEndpoint.FeedAccounts
import RetryEndpoint.BeaconRun
import RetryEndpoint.Load
import RetryEndpoint.LoadedRun
import RetryEndpoint.LoadStable
import RetryEndpoint.WorkerSocket
import RetryEndpoint.SourceMeters
