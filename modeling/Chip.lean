import Chip.TLV.ChunkedWriting
import Chip.TLV.ChunkedReading
import Chip.Transport.UnicastReplay
import Chip.Credentials.CredentialSoundness
import Chip.App.ListReassembly
import Chip.App.DataVersionFilters
import Chip.App.BindingHistory
import Chip.Access.FabricRemoval
import Chip.Transport.GroupReplay
import Chip.Transport.MessageNonces
import Chip.Transport.TcpFraming
import Chip.Support.CounterMonotonicity
import Chip.Ble.AckExchange
import Chip.Bdx.Delivery
import Chip.App.ResourceGuarantees
import Chip.Icd.KeepActive
import Chip.Transport.GroupPeerRuns
import Chip.SecureChannel.ResumptionQueue
import Chip.App.SubscriptionMap
import Chip.Scenes.UpdateReads
import Chip.Bdx.MessageCodec
import Chip.App.EventTimestamps
import Chip.App.ReportIntervals
import Chip.App.WildcardExpansion
import Chip.Bdx.ErrorState
import Chip.Ble.HandshakeWindow
import Chip.Credentials.GroupSessions
import Chip.Messaging.DelegateCallbacks
import Chip.Transport.EvictionOrder
import Chip.Transport.AuthenticatedHeader
import Chip.Transport.HeaderRoundTrip
import Chip.Transport.PrivacyHeader
import Chip.Dnssd.ParsingEnds
import Chip.Data.CheckDigits
import Chip.Core.OTAHeaderChunks
import Chip.SetupPayload.ManualCodeRoundTrip
import Chip.Support.Base64Chunks
import Chip.Support.ByteQueue
import Chip.Support.CalendarTime
import Chip.Support.ObjectPool
import Chip.Support.SortLoops
import Chip.Support.ThreadDatasetInit
import Chip.TLV.Truncation
import Chip.TLV.UpdaterRuns
