import NetPort.StatementPrograms
import NetPort.SqlUpdate
import NetPort.DeviceTables
import NetPort.ProxyRuntimes
import NetPort.DeviceManager
import NetPort.PortOwnership
import NetPort.PortExclusivity
import NetPort.RuntimeInvariant
import NetPort.RuntimeOwnership
import NetPort.AllocationRows
import NetPort.BackendDisconnect
import NetPort.BlockStickiness
import NetPort.TrafficStores
import NetPort.TrafficAgreement
import NetPort.TrafficCredit
import NetPort.TrafficAccounting
import NetPort.StreamForwarding
import NetPort.StepRuns
import NetPort.ClientTls
import NetPort.RegistrationWait
import NetPort.TlsSync
import NetPort.RealtimeChannels
import NetPort.UserRequests
import NetPort.PairCoherence
import NetPort.ProgramPools
import NetPort.PinnedPairs
import NetPort.DeviceService
import NetPort.FixedPorts
import NetPort.ObjectEffects
import NetPort.Migrations
import NetPort.RegistryAgreement
import NetPort.ResourceLedger
import NetPort.ProcessLedger
import NetPort.DescriptorSafety
import NetPort.PairedRuns
import NetPort.DeviceRequests
import NetPort.DeviceIsolation
import NetPort.RequestIsolation
import NetPort.TlsModes
import NetPort.TlsAnswers
import NetPort.TunnelSlots
import NetPort.HandlerEffects
import NetPort.SlotExclusivity
import NetPort.SlotConfidentiality
import NetPort.ServerTotals
import NetPort.TotalsRetention
import NetPort.StatisticsReset
import NetPort.RateLimits
import NetPort.PairReservations
import NetPort.RegistrationAtomicity
import NetPort.FailedWrites
import NetPort.ServerPorts
import NetPort.PrometheusCounters
import NetPort.WindowLimits
import NetPort.RateLimitKeys
import NetPort.RateLimitBounds
import NetPort.LoginLimits
import NetPort.SessionTokens
import NetPort.ServerSlots
import NetPort.BoundedSets
import NetPort.TlsReloadQueue
import NetPort.CommandFates
import NetPort.ForcedDisconnects
import NetPort.DeviceRemoval
import NetPort.SegmentedStreams
import NetPort.ControlMessages
import NetPort.GridSums
import NetPort.SampleCharts
import NetPort.StatefulFilters
import NetPort.StatisticFilters
import NetPort.ServerIdentity
import NetPort.PortGauges
import NetPort.DoubleQuotients
import NetPort.Doubles
import NetPort.ClientReleases
import NetPort.LogLines
import NetPort.LogCounting
import NetPort.OwnerUpdates
import NetPort.ShellWords
import NetPort.ClientUpdate
import NetPort.LastAlive
import NetPort.InputResources
import NetPort.ClientThreads
import NetPort.HistoryCharts
import NetPort.OverviewCharts
import NetPort.VersionOrder
import NetPort.NotifiedViews
import NetPort.DeviceBroadcasts
import NetPort.LiveDeviceLists
import NetPort.ClientCommand
import NetPort.StatisticsService
import NetPort.ReportedTotals
