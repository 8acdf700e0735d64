import PyAds.StructureWriteBack
import PyAds.ListReadErrors
import PyAds.SymbolNotifications
import PyAds.HandleLeaks
import PyAds.RpcInterface
import PyAds.StepChainAttribution
import PyAds.StepChainWakeups
import PyAds.StepChainOverlap
import PyAds.NotificationCleanup
import PyAds.TestServerStream
import PyAds.AsyncWorkerLoops
import PyAds.AsyncWorkerSignal
import PyAds.StepChainCancellation
import PyAds.StoredAgreement
import PyAds.SessionAddress
import PyAds.StructureBlocks
import PyAds.WstringWrites
import PyAds.ListRoundTrip
import PyAds.RoutePackets
import PyAds.SymbolCleanup
import PyAds.AutoUpdate
import PyAds.RpcArguments
import PyAds.RpcCalls
import PyAds.ArrayNames
import PyAds.StringItems
import PyAds.SymbolUpload
import PyAds.AsyncStore
import PyAds.TerminatorSearch
import PyAds.NetIds
import PyAds.BufferedValues
import PyAds.SharedRoutes
import PyAds.ServedValues
import PyAds.StatusStructure
import PyAds.PollTimeouts
import PyAds.RpcProxies
import PyAds.MirroredSymbols
import PyAds.RemoteMethods
import PyAds.BatchedWrites
import PyAds.InterleavedCalls
import PyAds.SharedStructures
import PyAds.InterleavedLists
