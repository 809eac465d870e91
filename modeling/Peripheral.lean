import Peripheral.AcmControl
import Peripheral.AcmLock
import Peripheral.AcmNotify
import Peripheral.AudioBinder
import Peripheral.AudioDispatch
import Peripheral.AudioExtraRoundTrip
import Peripheral.AudioGuards
import Peripheral.AudioMessages
import Peripheral.AudioOwnership
import Peripheral.AudioPosition
import Peripheral.AudioServer
import Peripheral.AudioStreamRuns
import Peripheral.AudioTable
import Peripheral.BatteryInfo
import Peripheral.BatteryNodes
import Peripheral.BatterySources
import Peripheral.BufferEmptiness
import Peripheral.BufferPool
import Peripheral.BufferTracking
import Peripheral.Bytes
import Peripheral.CaptureEnds
import Peripheral.CaptureGrouping
import Peripheral.CaptureHome
import Peripheral.CaptureLife
import Peripheral.CaptureMessage
import Peripheral.CaptureRegistry
import Peripheral.CaptureRequest
import Peripheral.CodecCapabilityList
import Peripheral.CodecComponents
import Peripheral.CodecConveyance
import Peripheral.CodecIpc
import Peripheral.CommittedPipelines
import Peripheral.Cuts
import Peripheral.DataFifo
import Peripheral.DataFifoRuns
import Peripheral.DisplayLayers
import Peripheral.DisplayRuns
import Peripheral.DisplayScenes
import Peripheral.Faults
import Peripheral.FunctionFsDescs
import Peripheral.FunctionFsTexts
import Peripheral.GadgetConfigLoads
import Peripheral.GadgetEvents
import Peripheral.GadgetInterfaces
import Peripheral.GadgetIoRuns
import Peripheral.GadgetProps
import Peripheral.GadgetRegistry
import Peripheral.GadgetRounds
import Peripheral.GadgetRouting
import Peripheral.H4Framing
import Peripheral.HciEvents
import Peripheral.HciProtocol
import Peripheral.HciSend
import Peripheral.HciWakeLock
import Peripheral.HdfSBuf
import Peripheral.HostSerialNotify
import Peripheral.HostSerialWrite
import Peripheral.InputRegistry
import Peripheral.InputRuns
import Peripheral.IppNode
import Peripheral.Loops
import Peripheral.MctFraming
import Peripheral.MetadataApi
import Peripheral.MetadataAtomic
import Peripheral.MetadataBounds
import Peripheral.MetadataDecoding
import Peripheral.MetadataHdi
import Peripheral.MetadataItems
import Peripheral.MetadataLayout
import Peripheral.MetadataOps
import Peripheral.MetadataParcel
import Peripheral.MetadataRefine
import Peripheral.MetadataRoundTrip
import Peripheral.MetadataStore
import Peripheral.MetadataText
import Peripheral.NetlinkScan
import Peripheral.OfflineStream
import Peripheral.OmxBuffers
import Peripheral.OmxInput
import Peripheral.OmxIpc
import Peripheral.OmxTransparency
import Peripheral.PipelineSelection
import Peripheral.PowerRuns
import Peripheral.PowerSuspend
import Peripheral.RemoteCalls
import Peripheral.SensorClients
import Peripheral.SensorRuns
import Peripheral.SerialReceive
import Peripheral.Sessions
import Peripheral.Simulations
import Peripheral.SourceNode
import Peripheral.Stacking
import Peripheral.StreamBase
import Peripheral.StreamCommit
import Peripheral.StreamMembers
import Peripheral.StreamRequests
import Peripheral.StreamSupport
import Peripheral.StreamTunnel
import Peripheral.ThermalReports
import Peripheral.ThermalSchedule
import Peripheral.Tiling
import Peripheral.Transitions
import Peripheral.UsbConfig
import Peripheral.UsbConfigCorrect
import Peripheral.UsbConfigGrammar
import Peripheral.UsbConfigWalk
import Peripheral.UsbDescriptors
import Peripheral.UsbEcmOpens
import Peripheral.UsbHostRequest
import Peripheral.UsbIsoSplit
import Peripheral.UsbOutcomes
import Peripheral.UsbPool
import Peripheral.UsbPoolClaim
import Peripheral.UsbPoolCounts
import Peripheral.UsbPoolIds
import Peripheral.UsbPoolMemory
import Peripheral.UsbPoolRuns
import Peripheral.UsbQueue
import Peripheral.UsbQueueKeeps
import Peripheral.UsbQueueRuns
import Peripheral.UsbSerial
import Peripheral.UsbSerialBytes
import Peripheral.UsbSerialRequests
import Peripheral.UsbdBulk
import Peripheral.UsbdBulkKeeps
import Peripheral.UsbdBulkRuns
import Peripheral.UsbdBulkSteps
import Peripheral.UsbdBulkWrite
import Peripheral.UsbdKeeps
import Peripheral.UsbdRegistry
import Peripheral.UsbdRuns
import Peripheral.WlanBinder
import Peripheral.WlanEvents
import Peripheral.WlanFeatures
import Peripheral.WlanGuards
import Peripheral.WlanHal
import Peripheral.WlanPointers
import Peripheral.WlanReplies
import Peripheral.WlanStub
