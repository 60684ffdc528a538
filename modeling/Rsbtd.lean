import Rsbtd.Verified.WaitZero
import Rsbtd.Verified.FailedAdd
import Rsbtd.Verified.Freshness
import Rsbtd.Verified.LatestRecord
import Rsbtd.Verified.KeptRecords
import Rsbtd.Verified.OwnReply
import Rsbtd.Verified.Attribution
import Rsbtd.Verified.Linear
import Rsbtd.Verified.RegistryIndex
import Rsbtd.Verified.Restored
import Rsbtd.Verified.StatsReplies
import Rsbtd.Verified.AddLifecycle
import Rsbtd.Verified.ConnectionCoherence
import Rsbtd.Verified.JobLifecycle
import Rsbtd.Verified.SettingsFixedPoint
import Rsbtd.Verified.TokenScope
import Rsbtd.Verified.BulkQueue
import Rsbtd.Verified.TrackerRemoval
import Rsbtd.Verified.JobOutput
import Rsbtd.Verified.IdentityStable
import Rsbtd.Verified.ClientDataSurvival
import Rsbtd.Verified.EventStreams
import Rsbtd.Verified.SnapshotBarrier
import Rsbtd.Verified.GhostRows
import Rsbtd.Verified.LateProbe
import Rsbtd.Verified.Tokens
import Rsbtd.Verified.StoreRefinement
import Rsbtd.Verified.EndpointLists
import Rsbtd.Verified.ProxyCodec
import Rsbtd.Verified.SettingsDraft
import Rsbtd.Verified.PriorityEdits
import Rsbtd.Verified.QuerySemantics
import Rsbtd.Verified.Autocomplete
import Rsbtd.Verified.DeltaValidation
import Rsbtd.Verified.BitfieldLayout
import Rsbtd.Verified.SettingNames
import Rsbtd.Verified.TrackerTiers
import Rsbtd.Verified.AtomicWrites
import Rsbtd.Verified.ValueCoercion
import Rsbtd.Verified.SortedRows
import Rsbtd.Verified.Selections
import Rsbtd.Verified.TreeAggregates
import Rsbtd.Verified.TreeIds
import Rsbtd.Verified.SplitHash
import Rsbtd.Verified.Draining
import Rsbtd.Verified.Restarts
import Rsbtd.Verified.Wakeups
import Rsbtd.Verified.PieceHashes
import Rsbtd.Verified.SocketPath
import Rsbtd.Verified.Samples
import Rsbtd.Verified.IpFilters
import Rsbtd.Verified.TableLayouts
import Rsbtd.Verified.LayoutMigration
