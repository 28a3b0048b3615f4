import RpUsbDisp.Programs
import RpUsbDisp.Interleaving
import RpUsbDisp.Runs
import RpUsbDisp.Loops
import RpUsbDisp.Framing
import RpUsbDisp.RunLength
import RpUsbDisp.Mirror
import RpUsbDisp.Protocol
import RpUsbDisp.Tickets
import RpUsbDisp.BitbltEncoder
import RpUsbDisp.RleEncoder
import RpUsbDisp.SdkRle
import RpUsbDisp.SendImage
import RpUsbDisp.TicketPool
import RpUsbDisp.Framebuffer
import RpUsbDisp.WakeUps
import RpUsbDisp.SdkPackets
import RpUsbDisp.Packetisers
import RpUsbDisp.FramebufferMemory
import RpUsbDisp.DeferredIo
import RpUsbDisp.FillRect
import RpUsbDisp.Updates
import RpUsbDisp.Transport
import RpUsbDisp.TouchReports
import RpUsbDisp.Pipeline
import RpUsbDisp.PresentThread
import RpUsbDisp.Refresh
import RpUsbDisp.Hotplug
import RpUsbDisp.HotplugProtocol
import RpUsbDisp.Binding
import RpUsbDisp.Teardown
import RpUsbDisp.StatusPolling
import RpUsbDisp.Driven
import RpUsbDisp.Transducers
import RpUsbDisp.StatusPackets
import RpUsbDisp.SdkBitblt
import RpUsbDisp.SdkCommands
import RpUsbDisp.WireFormat
import RpUsbDisp.IdleDisplay
import RpUsbDisp.Preparations
import RpUsbDisp.Reconnection
import RpUsbDisp.FrameSizes
import RpUsbDisp.FrameForwarding
import RpUsbDisp.Demands
import RpUsbDisp.PacketDemands
import RpUsbDisp.PacketSizes
import RpUsbDisp.Reassembly
import RpUsbDisp.Receiver
import RpUsbDisp.Conversations
import RpUsbDisp.SendsDrawn
import RpUsbDisp.SdkDevice
import RpUsbDisp.SdkThreads
import RpUsbDisp.SdkStages
import RpUsbDisp.SdkInvariants
import RpUsbDisp.SdkSafety
import RpUsbDisp.SdkWaiting
import RpUsbDisp.SdkDrawings
import RpUsbDisp.Bookkeeping
import RpUsbDisp.DisplayMemory
import RpUsbDisp.MemoryAccounts
import RpUsbDisp.Loading
