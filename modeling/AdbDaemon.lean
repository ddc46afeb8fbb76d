import AdbDaemon.Common.Machine
import AdbDaemon.Common.Table
import AdbDaemon.Common.Text
import AdbDaemon.Common.Paths
import AdbDaemon.Common.Largest
import AdbDaemon.Common.Base64
import AdbDaemon.Common.Montgomery
import AdbDaemon.Common.Pipes
import AdbDaemon.Common.Copy
import AdbDaemon.Transport.Message
import AdbDaemon.Transport.Usb
import AdbDaemon.Transport.UsbRead
import AdbDaemon.Transport.UsbInput
import AdbDaemon.Transport.UsbWrite
import AdbDaemon.Transport.SharedFlush
import AdbDaemon.Transport.Socket
import AdbDaemon.Transport.Credit
import AdbDaemon.Transport.Task
import AdbDaemon.Transport.Notify
import AdbDaemon.Transport.Backend
import AdbDaemon.Transport.Flush
import AdbDaemon.Transport.Inbound
import AdbDaemon.Transport.Outbound
import AdbDaemon.Transport.SocketTable
import AdbDaemon.Transport.Stream
import AdbDaemon.Transport.HostLaw
import AdbDaemon.Transport.System
import AdbDaemon.Transport.Orphan
import AdbDaemon.Transport.Link
import AdbDaemon.Transport.LinkIn
import AdbDaemon.Transport.LinkOut
import AdbDaemon.Transport.LinkStreams
import AdbDaemon.Transport.Submit
import AdbDaemon.Transport.Wire
import AdbDaemon.Transport.Section
import AdbDaemon.Transport.Calls
import AdbDaemon.Transport.Latch
import AdbDaemon.Transport.Wake
import AdbDaemon.Connections.Types
import AdbDaemon.Transport.Handshake
import AdbDaemon.Transport.Banner
import AdbDaemon.Transport.PublicKey
import AdbDaemon.Transport.Auth
import AdbDaemon.Transport.Limit
import AdbDaemon.Connections.Manager
import AdbDaemon.Connections.Tasks
import AdbDaemon.Connections.Usb
import AdbDaemon.SmartSocket.Protocol
import AdbDaemon.SmartSocket.Devices
import AdbDaemon.SmartSocket.Listing
import AdbDaemon.SmartSocket.Track
import AdbDaemon.SmartSocket.Wait
import AdbDaemon.SmartSocket.Selector
import AdbDaemon.Forward.Command
import AdbDaemon.Forward.Reverse
import AdbDaemon.Forward.Table
import AdbDaemon.Forward.PortMap
import AdbDaemon.Forward.Race
import AdbDaemon.Forward.Render
import AdbDaemon.Forward.Accept
import AdbDaemon.Forward.Release
import AdbDaemon.SmartSocket.Services
import AdbDaemon.SmartSocket.Session
import AdbDaemon.SmartSocket.Replies
import AdbDaemon.SmartSocket.Relay
import AdbDaemon.Daemon.Startup
import AdbDaemon.Daemon.Takeover
import AdbDaemon.Log.Rolling
import AdbDaemon.Log.Rotation
import AdbDaemon.Log.PerDevice
