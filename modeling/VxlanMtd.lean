import VxlanMtd.Lib.Run
import VxlanMtd.Engine.Addresses
import VxlanMtd.Engine.Vlans
import VxlanMtd.Engine.Overlay
import VxlanMtd.Engine.Reachability
import VxlanMtd.Engine.Bans
import VxlanMtd.Model.Configurator
import VxlanMtd.Model.HostHandler
import VxlanMtd.Node.Netplan
import VxlanMtd.Model.Server
import VxlanMtd.Node.Alerts
import VxlanMtd.Node.Configuration
import VxlanMtd.Node.Interfaces
import VxlanMtd.Server.Connections
import VxlanMtd.Lib.Table
import VxlanMtd.Server.Isolation
import VxlanMtd.Server.Tickets
import VxlanMtd.Engine.References
import VxlanMtd.Node.Replies
import VxlanMtd.Node.Validation
import VxlanMtd.Model.NxApi
import VxlanMtd.Server.Switches
import VxlanMtd.Server.CommandLists
import VxlanMtd.Server.TicketTimers
import VxlanMtd.Lib.Channel
import VxlanMtd.Server.Exchange
import VxlanMtd.Device.OnlineFilter
import VxlanMtd.Server.Admission
import VxlanMtd.Engine.Timers
import VxlanMtd.Model.SettingsObject
import VxlanMtd.Settings.Persistence
import VxlanMtd.Settings.Restart
import VxlanMtd.Lib.Tag
import VxlanMtd.Qt.Text
import VxlanMtd.Model.HostsFile
import VxlanMtd.Node.HostsFile
import VxlanMtd.Node.HostsRewrite
import VxlanMtd.Lib.Signals
import VxlanMtd.Model.Controller
import VxlanMtd.Server.Controller
import VxlanMtd.Lib.Sql
import VxlanMtd.Lib.Sqlite
import VxlanMtd.Model.DeviceStore
import VxlanMtd.Store.RoundTrip
import VxlanMtd.Store.Integrity
import VxlanMtd.Engine.BanPolicy
import VxlanMtd.Lib.Asking
import VxlanMtd.Model.Drawing
import VxlanMtd.Refine.Drawing
import VxlanMtd.Engine.Partition
import VxlanMtd.Engine.DrawFeasibility
import VxlanMtd.Engine.NextHops
import VxlanMtd.Engine.Identifiers
import VxlanMtd.Settings.VlanRange
import VxlanMtd.Engine.ResultBans
import VxlanMtd.Model.HostFiles
import VxlanMtd.Node.Apply
import VxlanMtd.Server.Responses
import VxlanMtd.Lib.Refill
import VxlanMtd.Node.Rendering
import VxlanMtd.Refine.Selection
import VxlanMtd.Engine.RouteTables
import VxlanMtd.Engine.External
import VxlanMtd.Lib.Captures
import VxlanMtd.Node.AlertText
import VxlanMtd.Lib.Ordered
import VxlanMtd.Qt.Widgets
import VxlanMtd.Model.DeviceForm
import VxlanMtd.Store.Editing
import VxlanMtd.Network.Transit
import VxlanMtd.Network.Ports
import VxlanMtd.Network.Nodes
import VxlanMtd.Network.Delivery
import VxlanMtd.Network.Envelope
import VxlanMtd.Lib.Progress
import VxlanMtd.Lib.Ticketed
import VxlanMtd.Lib.Link
import VxlanMtd.Server.Progress
import VxlanMtd.Server.SwitchProgress
import VxlanMtd.Network.Convergence
import VxlanMtd.Lib.Tally
import VxlanMtd.Server.Projection
import VxlanMtd.Server.Fleet
import VxlanMtd.Network.Detection
import VxlanMtd.Network.Loop
import VxlanMtd.Server.FleetProgress
import VxlanMtd.Network.LoopDelivery
