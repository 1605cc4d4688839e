import ArtikSdk.Lib.Bytes
import ArtikSdk.Lib.Tlv
import ArtikSdk.Lib.Run
import ArtikSdk.Lib.Pool
import ArtikSdk.Lib.Checked
import ArtikSdk.Dhcp.Message
import ArtikSdk.Dhcp.Server.State
import ArtikSdk.Dhcp.Server.Table
import ArtikSdk.Lib.View
import ArtikSdk.Dhcp.Server.Parser
import ArtikSdk.Dhcp.Server.Packet
import ArtikSdk.Dhcp.Server.Handler
import ArtikSdk.Dhcp.Server.Input
import ArtikSdk.Dhcp.Server.Reply
import ArtikSdk.Dhcp.Server.Outcome
import ArtikSdk.Dhcp.Server.Leases
import ArtikSdk.Dhcp.Server.Exclusive
import ArtikSdk.Dhcp.Server.Safety
import ArtikSdk.Dhcp.Server.Agreement
import ArtikSdk.Dhcp.Server.Decision
import ArtikSdk.Dhcp.Server.Isolation
import ArtikSdk.Dhcp.Server.Instances
import ArtikSdk.Dhcp.Client.Request
import ArtikSdk.Dhcp.Client.Loops
import ArtikSdk.Dhcp.Client.Termination
import ArtikSdk.Dhcp.Client.Restore
import ArtikSdk.Dhcp.Client.Source
import ArtikSdk.Dhcp.Server.Offers
import ArtikSdk.Lib.Chain
import ArtikSdk.Base.ArtikList
import ArtikSdk.Base.ArtikSequence
import ArtikSdk.Websocket.UriAgreement
import ArtikSdk.Websocket.HostPort
import ArtikSdk.Websocket.Receive
import ArtikSdk.Base.Time
import ArtikSdk.Http.Segmentation
import ArtikSdk.Base.Loop.Ids
import ArtikSdk.Base.Module.Kept
import ArtikSdk.Base.Dates
import ArtikSdk.Security.Streaming
import ArtikSdk.Lib.Queue
import ArtikSdk.Websocket.Messages
import ArtikSdk.Websocket.Lifetimes
import ArtikSdk.Lib.Cells
import ArtikSdk.Bluetooth.Gatt.Replies
import ArtikSdk.Bluetooth.Gatt.Values
import ArtikSdk.Bluetooth.Gatt.Ids
import ArtikSdk.Bluetooth.Gatt.Flags
import ArtikSdk.Bluetooth.HeartRate
import ArtikSdk.Bluetooth.Gatt.Notify
import ArtikSdk.Bluetooth.Gatt.Resolve
import ArtikSdk.Bluetooth.Objects
import ArtikSdk.Bluetooth.DeviceProperties
import ArtikSdk.Bluetooth.Enumeration
import ArtikSdk.Lib.CString
import ArtikSdk.Bluetooth.FtpListing
import ArtikSdk.Bluetooth.Advertisements
import ArtikSdk.Lib.Tokens
import ArtikSdk.Bluetooth.Pan
import ArtikSdk.Wifi.AccessPoint
import ArtikSdk.Lib.Search
import ArtikSdk.Wifi.Numbers
import ArtikSdk.Wifi.Networks
import ArtikSdk.Wifi.Encryption
import ArtikSdk.Sensor.Shared
import ArtikSdk.Systemio.Serial
import ArtikSdk.Systemio.Pwm
import ArtikSdk.Lwm2m.Callbacks
import ArtikSdk.Lwm2m.Connect
import ArtikSdk.Mqtt.Create
import ArtikSdk.Mqtt.Watches
import ArtikSdk.Mqtt.Will
import ArtikSdk.Lib.Printf
import ArtikSdk.Cloud.Streams
import ArtikSdk.Cloud.Balance
import ArtikSdk.Cloud.Complete
import ArtikSdk.Network.Batches
import ArtikSdk.Network.Notify
import ArtikSdk.Network.Handles
import ArtikSdk.Bluetooth.Transfer
import ArtikSdk.Bluetooth.Devices
import ArtikSdk.Wifi.Control
import ArtikSdk.Wifi.Monitor
import ArtikSdk.Dhcp.Handshake.Result
import ArtikSdk.Dhcp.Server.Destination
import ArtikSdk.Dhcp.Server.Bounds
import ArtikSdk.Dhcp.Server.Allocation
import ArtikSdk.Dhcp.Client.Bounds
import ArtikSdk.Dhcp.Parsers
import ArtikSdk.Network.Renewal
import ArtikSdk.Lib.Ticking
import ArtikSdk.Base.Loop.Linux
import ArtikSdk.Base.Loop.Periodic
import ArtikSdk.Base.ListCopy
import ArtikSdk.Http.Lines
import ArtikSdk.Http.LineBuffer
import ArtikSdk.Http.Complete
import ArtikSdk.Security.Rollback
import ArtikSdk.Security.Element
import ArtikSdk.Security.ChainCerts
import ArtikSdk.Base.Alarm
import ArtikSdk.Base.Alarms
import ArtikSdk.Http.Response
import ArtikSdk.Security.SecureElement
import ArtikSdk.Http.Release
import ArtikSdk.Security.Accepted
import ArtikSdk.Security.Inside
import ArtikSdk.Dhcp.Server.OptionWriter
import ArtikSdk.Base.Loop.VectorRuns
import ArtikSdk.Dhcp.Lan.Leases
import ArtikSdk.Wifi.Eloop.Timeouts
import ArtikSdk.Base.Loop.Sources
import ArtikSdk.Network.Config
