import Iems.Ingestion.PublishedQuality
import Iems.Ingestion.Freshness
import Iems.Repositories.Sensors
import Iems.Carbon.EndedPeriods
import Iems.Carbon.Growth
import Iems.Carbon.Published
import Iems.Ingestion.FrozenCache
import Iems.Ingestion.SampleTimes
import Iems.Ingestion.CacheRouting
import Iems.Carbon.ApprovedFigures
import Iems.Carbon.LockRaces
import Iems.Carbon.Reports
import Iems.Carbon.Aggregate
import Iems.Services.Carbon
import Iems.Services.LiveReading
import Iems.Carbon.Period
import Iems.Lib.Replay
import Iems.Optimization.Snapshots
import Iems.Optimization.Lifecycle
import Iems.Optimization.ApplyRaces
import Iems.Api.Deps
import Iems.Api.MemoryPath
import Iems.Ml.Drift
import Iems.Ml.Trust
import Iems.Optimization.Moves
import Iems.Optimization.ImpactHistory
import Iems.Carbon.Registry
import Iems.Api.StatusCalls
import Iems.Rto.Scheduler
import Iems.Optimization.RepeatedCodes
import Iems.Optimization.AdviceText
import Iems.Optimization.Estimates
import Iems.Optimization.PhysicsGain
import Iems.Carbon.RateBased
import Iems.Api.Dashboard
import Iems.Ml.Records
import Iems.Ml.Lstm
import Iems.Ingestion.WriteReadback
import Iems.Api.CurrentUser
import Iems.Security.TotpCodes
import Iems.Api.SecondFactor
import Iems.Services.TokenReply
import Iems.Api.OidcCallback
import Iems.Ml.Psi
import Iems.Ml.Calibration
import Iems.Ml.Consistency
import Iems.Lib.Swarm
import Iems.Services.Vsg
import Iems.Ml.Vsg
import Iems.Ml.LstmTraining
import Iems.Ml.Elm
import Iems.Ml.SteadyRow
import Iems.Api.Ingest
import Iems.Carbon.CycleFaults
import Iems.Ingestion.Producer
import Iems.Ingestion.Alerts
import Iems.Services.Sites
import Iems.Api.AuditListing
import Iems.Optimization.Baseline
import Iems.Rto.Cadence
import Iems.Carbon.EsgPack
import Iems.Carbon.Scope3
import Iems.Repositories.UpsertRaces
import Iems.Lib.Locks
import Iems.Ingestion.Connection
import Iems.Ingestion.SharedSession
import Iems.Lib.Csv
import Iems.Api.Downloads
import Iems.Lib.Spacing
import Iems.Api.Alerts
import Iems.Lib.Bounded
import Iems.Demo.Feeder
import Iems.Lib.Delivery
import Iems.Ingestion.Pipeline
import Iems.Api.CarbonReads
import Iems.Api.Listings
import Iems.Api.Analyze
import Iems.Lib.LeastSquares
import Iems.Ml.ElmTraining
import Iems.Api.ModelTrust
import Iems.Api.RtoLive
import Iems.Lib.Lines
import Iems.Api.Calibrations
