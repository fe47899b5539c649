import ShadowBrowser.Checked
import ShadowBrowser.Runs
import ShadowBrowser.Blocks
import ShadowBrowser.Cell
import ShadowBrowser.Channel
import ShadowBrowser.Sending
import ShadowBrowser.Defense
import ShadowBrowser.Receiving
import ShadowBrowser.PeerInfo
import ShadowBrowser.Events
import ShadowBrowser.MicroSteps
import ShadowBrowser.ControlSteps
import ShadowBrowser.OutBuffer
import ShadowBrowser.DefenseInv
import ShadowBrowser.FlagLaw
import ShadowBrowser.InBuffer
import ShadowBrowser.Tunnel
import ShadowBrowser.Machines
import ShadowBrowser.WireShape
import ShadowBrowser.Stranding
import ShadowBrowser.Session
import ShadowBrowser.Trust
import ShadowBrowser.Link
import ShadowBrowser.View
import ShadowBrowser.Refinement
import ShadowBrowser.Agreement
import ShadowBrowser.SessionDone
import ShadowBrowser.Armed
import ShadowBrowser.Handshake
import ShadowBrowser.Arming
import ShadowBrowser.Driver
import ShadowBrowser.Browsing
import ShadowBrowser.TcpChannel
import ShadowBrowser.MessageChannel
import ShadowBrowser.IpcCalls
import ShadowBrowser.ConnectionManager
import ShadowBrowser.ConnectionPool
import ShadowBrowser.Texts
import ShadowBrowser.WebConnection
import ShadowBrowser.WebHandler
import ShadowBrowser.WebServing
import ShadowBrowser.WebQueue
import ShadowBrowser.WebReceiving
import ShadowBrowser.WebExchange
import ShadowBrowser.Socks
import ShadowBrowser.SocksExchange
import ShadowBrowser.HostHeader
import ShadowBrowser.StreamSend
import ShadowBrowser.Forwarding
import ShadowBrowser.Pending
import ShadowBrowser.PageLoads
import ShadowBrowser.TorrentDirectory
import ShadowBrowser.TorrentBlocks
import ShadowBrowser.PageModel
import ShadowBrowser.PageScripts
import ShadowBrowser.HtmlParser
import ShadowBrowser.Renderer
import ShadowBrowser.PageSteps
import ShadowBrowser.ClientSteps
import ShadowBrowser.PageReset
import ShadowBrowser.Counting
import ShadowBrowser.PageCompletion
import ShadowBrowser.Backlog
import ShadowBrowser.Stopping
import ShadowBrowser.PeerInfoExchange
import ShadowBrowser.Detached
import ShadowBrowser.TcpSocket
import ShadowBrowser.DropRequest
import ShadowBrowser.Terminal
import ShadowBrowser.PageRuns
import ShadowBrowser.Lifecycle
import ShadowBrowser.Cdf
import ShadowBrowser.RequestSize
import ShadowBrowser.ScopeSteps
import ShadowBrowser.ScopeRuns
import ShadowBrowser.LoadEvents
import ShadowBrowser.RenderUpdates
import ShadowBrowser.FileTransfer
import ShadowBrowser.FileServer
import ShadowBrowser.FileGetter
import ShadowBrowser.Teardown
import ShadowBrowser.ProxyTotals
import ShadowBrowser.Chains
import ShadowBrowser.ResourceTrace
import ShadowBrowser.ScriptFrame
import ShadowBrowser.Parsing
import ShadowBrowser.PageAnswers
import ShadowBrowser.WholeDocument
import ShadowBrowser.BrowserPlugin
import ShadowBrowser.BrowserAccounts
import ShadowBrowser.BrowserDone
import ShadowBrowser.BrowserGetter
