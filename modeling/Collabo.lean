import Collabo.SessionFailure
import Collabo.LockRequests
import Collabo.EncoderQueueFifo
import Collabo.Library.UniqueTable
import Collabo.MySQLConnector
import Collabo.VideoQueueAccepting
import Collabo.FrameOrder
import Collabo.FrameSizes
import Collabo.JpegCompressor
import Collabo.ConnectionEntries
import Collabo.LoginPrivileges
import Collabo.StreamingCallbacks
import Collabo.VideoHeader
import Collabo.RoleAgreement
import Collabo.Library.AnnouncedLog
import Collabo.Library.Deliveries
import Collabo.Library.SingleHeader
import Collabo.LoginSteps
import Collabo.SessionHeaders
import Collabo.ImageSizes
import Collabo.LoginIdentity
import Collabo.SingleChief
import Collabo.Library.ThreadTable
import Collabo.CompressThreads
import Collabo.QueueThreads
import Collabo.BlockedLoops
import Collabo.SessionThreads
import Collabo.LoopThreads
import Collabo.LostWakeUps
import Collabo.ScanCompleteness
import Collabo.AudioFraming
import Collabo.AudioFrameLength
import Collabo.AudioResync
import Collabo.Library.ByteBuffer
import Collabo.VideoPacing
import Collabo.FramePts
import Collabo.HandoverFailures
import Collabo.Library.FieldCodecs
import Collabo.MemberMessages
import Collabo.MemberList
import Collabo.ScanBounds
import Collabo.AgentManager
import Collabo.QueueAccesses
import Collabo.ConnectorTexts
import Collabo.MeetingNumbers
import Collabo.SqlShapes
import Collabo.StoredRoles
import Collabo.VideoBytes
import Collabo.MessageFailures
import Collabo.EncodeFailures
import Collabo.ConnectorFields
import Collabo.Library.Custody
import Collabo.QueuePayloads
import Collabo.GreetingReads
import Collabo.Library.KeyedReplica
import Collabo.MediaDeliveries
import Collabo.AcceptedOnly
import Collabo.AgentTranscripts
import Collabo.EncoderObjects
import Collabo.FullImageRequests
import Collabo.GrantedPrivileges
import Collabo.HostCapture
import Collabo.ImageBytes
import Collabo.MeetingIsolation
import Collabo.MemberViews
import Collabo.ScreenSharing
import Collabo.Shutdown
import Collabo.Library.LockOrder
import Collabo.LockHierarchy
import Collabo.Interrupts
import Collabo.OverlappingLogins
import Collabo.AudioPath
