import Hcom4db.Base.FlatMem
import Hcom4db.Base.StdMap
import Hcom4db.Base.Runs
import Hcom4db.Base.TwoRuns
import Hcom4db.Base.Locks
import Hcom4db.Base.LockOrder
import Hcom4db.Base.Discipline
import Hcom4db.Base.Races
import Hcom4db.Base.Ledger
import Hcom4db.Base.Outstanding
import Hcom4db.Base.Arena
import Hcom4db.Base.WriteLog
import Hcom4db.Base.HeapLog
import Hcom4db.Base.HeldBlocks
import Hcom4db.Base.Holdings
import Hcom4db.Types
import Hcom4db.State
import Hcom4db.Securec
import Hcom4db.Pool
import Hcom4db.Pack
import Hcom4db.PackLayout
import Hcom4db.PackBlocks
import Hcom4db.PackFailure
import Hcom4db.PackAccepts
import Hcom4db.Receive
import Hcom4db.RoundTrip
import Hcom4db.Async
import Hcom4db.Completion
import Hcom4db.AsyncResponse
import Hcom4db.SglConserve
import Hcom4db.PackBounds
import Hcom4db.Submit
import Hcom4db.BlockingResult
import Hcom4db.RunCallback
import Hcom4db.Notify
import Hcom4db.Records
import Hcom4db.SuccessStatus
import Hcom4db.SyncResponse
import Hcom4db.SyncConserve
import Hcom4db.Config
import Hcom4db.Numbers
import Hcom4db.LogLevel
import Hcom4db.Logging
import Hcom4db.Server
import Hcom4db.CreateAccepts
import Hcom4db.TlsDowngrade
import Hcom4db.ServerRuns
import Hcom4db.ServerEffects
import Hcom4db.Leftovers
import Hcom4db.NumericSettings
import Hcom4db.StringOptions
import Hcom4db.Services
import Hcom4db.RndvContexts
import Hcom4db.Names
import Hcom4db.TlsCallbacks
import Hcom4db.FailedCreate
import Hcom4db.Connect
import Hcom4db.ConnectFailure
import Hcom4db.PoolSize
import Hcom4db.CacheTiers
import Hcom4db.Registry
import Hcom4db.Frames
import Hcom4db.BlockHome
import Hcom4db.Batches
import Hcom4db.MemFrames
import Hcom4db.OtherOps
import Hcom4db.InFlight
import Hcom4db.Exchange
import Hcom4db.BlockAccounts
import Hcom4db.Lifetime
import Hcom4db.Timeout
import Hcom4db.TimeoutClass
import Hcom4db.TimeoutRuns
import Hcom4db.PerServer
import Hcom4db.Dlopen
import Hcom4db.LibraryRuns
import Hcom4db.DeadServer
import Hcom4db.PoolBuffers
import Hcom4db.Teardown
import Hcom4db.ConnectUndo
import Hcom4db.Resources
import Hcom4db.HandlerLocks
import Hcom4db.Deadlock
import Hcom4db.LockDiscipline
import Hcom4db.DataRaces
