import NexusCore.Lib.Keyed
import NexusCore.Lib.Program
import NexusCore.Runtime.Queue.Memory
import NexusCore.Lib.System
import NexusCore.Runtime.Queue.Conservation
import NexusCore.Lib.Text
import NexusCore.Runtime.Judge
import NexusCore.Runtime.Outcome
import NexusCore.Runtime.Planning
import NexusCore.Runtime.Prepare
import NexusCore.Runtime.Execute
import NexusCore.Oj.Domain
import NexusCore.Oj.Projection
import NexusCore.Oj.Repository
import NexusCore.Runtime.Verdict
import NexusCore.Oj.Verdict
import NexusCore.Runtime.Limits
import NexusCore.Jobs.Job
import NexusCore.Oj.Application
import NexusCore.Runtime.Admission
import NexusCore.Oj.Admission
import NexusCore.Runtime.Service
import NexusCore.Oj.Durability
import NexusCore.Runtime.Broker.Routes
import NexusCore.Lib.Redis
import NexusCore.Runtime.Broker.Redis
import NexusCore.Runtime.Broker.RedisSafety
import NexusCore.Runtime.Broker.RedisRuns
import NexusCore.Lib.Amqp
import NexusCore.Runtime.Broker.RabbitMq
import NexusCore.Runtime.Broker.RabbitMqWorld
import NexusCore.Runtime.Broker.RabbitMqCopies
import NexusCore.Runtime.Broker.RabbitMqLocks
import NexusCore.Runtime.Broker.RouteNames
import NexusCore.Lib.JetStream
import NexusCore.Runtime.Broker.Nats
import NexusCore.Runtime.Broker.NatsWorld
import NexusCore.Runtime.Broker.Settlement
import NexusCore.Runtime.Broker.RedisRegistry
import NexusCore.Runtime.Broker.DeadLettered
import NexusCore.Lib.RedisGroups
import NexusCore.Runtime.Broker.RedisWaiting
import NexusCore.Runtime.Broker.FreshReserve
import NexusCore.Lib.AmqpContents
import NexusCore.Runtime.Broker.RabbitMqDrains
import NexusCore.Runtime.Broker.RabbitMqLooks
import NexusCore.Runtime.Broker.RabbitMqUnchanged
import NexusCore.Lib.Slices
import NexusCore.Runtime.Excerpt
import NexusCore.Runtime.Printed
import NexusCore.Lib.Interleaving
import NexusCore.Runtime.Queue.RouteList
import NexusCore.Jobs.Platform
import NexusCore.Jobs.Dispatch
import NexusCore.Lib.Json
import NexusCore.Lib.Sorting
import NexusCore.Oj.ProblemTables
import NexusCore.Oj.ProblemAgreement
import NexusCore.Oj.SubmissionReads
import NexusCore.Oj.SubmissionAgreement
import NexusCore.Lib.Snapshots
import NexusCore.Oj.Snapshots
import NexusCore.Runtime.Queue.Places
import NexusCore.Oj.Creation
import NexusCore.Oj.Orphans
import NexusCore.Lib.Comparators
import NexusCore.Lib.Layout
import NexusCore.Lib.Numbers
import NexusCore.Oj.ReferenceAnswer
import NexusCore.Runtime.Broker.RedisDelays
import NexusCore.Runtime.Queue.Scheduling
import NexusCore.Runtime.Queue.Stats
import NexusCore.Oj.LimitArithmetic
import NexusCore.AlertRelay.AuditLog
import NexusCore.Gateway.Nodes
import NexusCore.Jobs.Management
import NexusCore.Jobs.Rejections
import NexusCore.Lib.Window
import NexusCore.Oj.EasyJudge
import NexusCore.Runtime.Broker.CatalogSections
import NexusCore.Runtime.BrokerHealth
import NexusCore.Oj.Interference
import NexusCore.Oj.MaxScore
import NexusCore.Lib.AmqpTags
import NexusCore.Runtime.Broker.RabbitMqIssuers
import NexusCore.Runtime.Lifecycle
import NexusCore.Lib.JetStreamContents
import NexusCore.Runtime.Broker.NatsNodes
import NexusCore.Runtime.Queue.Hands
import NexusCore.Config.WorkerGroups
import NexusCore.Lib.AmqpExpiry
import NexusCore.Lib.Attempts
import NexusCore.Runtime.Broker.RabbitMqNodes
import NexusCore.Runtime.Queue.Attempts
import NexusCore.Lib.AmqpLayout
import NexusCore.Lib.JetStreamLayout
import NexusCore.Runtime.Broker.RedisRoutes
import NexusCore.Runtime.Broker.NatsRoutes
import NexusCore.Runtime.Broker.RabbitMqRoutes
