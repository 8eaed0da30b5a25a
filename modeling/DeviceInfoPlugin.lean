import DeviceInfoPlugin.CoreResult
import DeviceInfoPlugin.TracedProgram
import DeviceInfoPlugin.InputRun
import DeviceInfoPlugin.ReferenceLedger
import DeviceInfoPlugin.PluginState
import DeviceInfoPlugin.PluginLifecycle
import DeviceInfoPlugin.LifecycleOutcomes
import DeviceInfoPlugin.ActivationCycle
import DeviceInfoPlugin.ReferenceReturn
import DeviceInfoPlugin.ActivationOutcome
import DeviceInfoPlugin.ConnectionTracking
import DeviceInfoPlugin.HandlerBacking
import DeviceInfoPlugin.CountedObjects
import DeviceInfoPlugin.InterleavedHolders
import DeviceInfoPlugin.ObjectLifetime
import DeviceInfoPlugin.SharedObjects
import DeviceInfoPlugin.HeldPointers
import DeviceInfoPlugin.ConnectionReturn
import DeviceInfoPlugin.PairedRuns
import DeviceInfoPlugin.PluginRestart
import DeviceInfoPlugin.BacktrackingRegex
import DeviceInfoPlugin.PropertyFiles
import DeviceInfoPlugin.PropertyValues
import DeviceInfoPlugin.FirstHit
import DeviceInfoPlugin.TaggedLines
import DeviceInfoPlugin.DataSources
import DeviceInfoPlugin.TextAccessors
import DeviceInfoPlugin.SourceOrder
import DeviceInfoPlugin.DeviceTypeLookup
import DeviceInfoPlugin.PropertyPadding
import DeviceInfoPlugin.NetworkAddresses
import DeviceInfoPlugin.UnreliableCalls
import DeviceInfoPlugin.DeviceSettings
import DeviceInfoPlugin.CapabilityQueries
import DeviceInfoPlugin.QueryOutcomes
import DeviceInfoPlugin.CallDiscipline
import DeviceInfoPlugin.GroundedCalls
import DeviceInfoPlugin.DefaultPort
import DeviceInfoPlugin.AssignmentLookup
import DeviceInfoPlugin.PropertySettings
import DeviceInfoPlugin.PropertyReports
import DeviceInfoPlugin.PaddedReports
import DeviceInfoPlugin.FirmwareVersion
import DeviceInfoPlugin.VersionFile
import DeviceInfoPlugin.RegexSearch
import DeviceInfoPlugin.ReleaseVersion
import DeviceInfoPlugin.Base64
import DeviceInfoPlugin.HostEdid
import DeviceInfoPlugin.FlagWord
import DeviceInfoPlugin.CapabilityWords
import DeviceInfoPlugin.FirstOccurrences
import DeviceInfoPlugin.VideoDisplays
import DeviceInfoPlugin.PiecewiseRead
import DeviceInfoPlugin.DeviceDetails
import DeviceInfoPlugin.MfrReplies
import DeviceInfoPlugin.SystemInfo
import DeviceInfoPlugin.SystemInfoRequests
