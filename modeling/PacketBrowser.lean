import PacketBrowser.Foundation.Search
import PacketBrowser.Foundation.Decimal
import PacketBrowser.Foundation.Unicode
import PacketBrowser.Foundation.Utf8
import PacketBrowser.Foundation.Base64
import PacketBrowser.Foundation.Program
import PacketBrowser.Foundation.Machine
import PacketBrowser.Foundation.Pool
import PacketBrowser.Protocol.Message
import PacketBrowser.Protocol.Framing
import PacketBrowser.Foundation.Triple
import PacketBrowser.Foundation.Alone
import PacketBrowser.Foundation.Reader
import PacketBrowser.Client.State
import PacketBrowser.Client.Events
import PacketBrowser.Client.Operations
import PacketBrowser.Client.Session
import PacketBrowser.Client.Manager
import PacketBrowser.Client.Connect
import PacketBrowser.Client.Proxy
import PacketBrowser.Client.Reception
import PacketBrowser.Client.Reassembly
import PacketBrowser.Client.Fragmentation
import PacketBrowser.Client.Roles
import PacketBrowser.Client.Reports
import PacketBrowser.Client.Standing
import PacketBrowser.Client.Waiting
import PacketBrowser.Client.Requests
import PacketBrowser.Client.Consent
import PacketBrowser.Client.Death
import PacketBrowser.Client.Prompts
import PacketBrowser.Client.Choice
import PacketBrowser.Client.Display
import PacketBrowser.Client.Active
import PacketBrowser.Client.Disconnect
import PacketBrowser.Client.Correlation
import PacketBrowser.Client.Caching
import PacketBrowser.Client.Reconnect
import PacketBrowser.Foundation.Text
import PacketBrowser.Server.Reading
import PacketBrowser.Server.Requests
import PacketBrowser.Server.Readable
import PacketBrowser.Server.Stream
import PacketBrowser.Server.Operations
import PacketBrowser.Server.Connection
import PacketBrowser.Server.Admission
import PacketBrowser.Server.Duplicates
import PacketBrowser.Agwpe.Frame
import PacketBrowser.Agwpe.Stream
import PacketBrowser.Agwpe.Recv
import PacketBrowser.Foundation.Respect
import PacketBrowser.Agwpe.Isolation
import PacketBrowser.Foundation.Prefix
import PacketBrowser.Foundation.Address
import PacketBrowser.Foundation.Lines
import PacketBrowser.Foundation.Expand
import PacketBrowser.Server.Filter
import PacketBrowser.Server.Proxy
import PacketBrowser.Server.Blocklist
import PacketBrowser.Vara.Codec
import PacketBrowser.Vara.Transport
import PacketBrowser.Vara.Attention
import PacketBrowser.Agwpe.Link
import PacketBrowser.Client.Links
import PacketBrowser.Client.Relink
import PacketBrowser.Foundation.Evict
import PacketBrowser.Protocol.Compress
import PacketBrowser.Browse.Store
import PacketBrowser.Browse.Bounded
import PacketBrowser.Browse.Handler
import PacketBrowser.Browse.Confirmed
import PacketBrowser.Browse.Renderable
import PacketBrowser.Browse.Visits
import PacketBrowser.Browse.Renewal
import PacketBrowser.Browse.Newest
import PacketBrowser.Server.Rounds
import PacketBrowser.Server.Responses
import PacketBrowser.Server.Audit
import PacketBrowser.Server.Slots
import PacketBrowser.Browse.Conditional
import PacketBrowser.Client.Config
import PacketBrowser.Client.Files
import PacketBrowser.Client.Updates
import PacketBrowser.Client.Persistence
import PacketBrowser.Foundation.Guided
import PacketBrowser.Client.Restore
import PacketBrowser.Client.Markup
import PacketBrowser.Client.Failures
import PacketBrowser.Foundation.Lossy
import PacketBrowser.Client.Disclaimers
import PacketBrowser.Server.Attempts
import PacketBrowser.Agwpe.Confirmations
import PacketBrowser.Vara.CommandLines
import PacketBrowser.Vara.Opening
import PacketBrowser.Vara.Fragments
import PacketBrowser.Protocol.Resync
import PacketBrowser.Server.Origin
import PacketBrowser.Server.Directives
import PacketBrowser.Foundation.Query
import PacketBrowser.Foundation.Html
import PacketBrowser.Browse.Rewrite
import PacketBrowser.Browse.Reload
import PacketBrowser.Server.Ages
import PacketBrowser.Server.Lines
import PacketBrowser.Client.Target
import PacketBrowser.Client.HostGuard
import PacketBrowser.Foundation.Json
import PacketBrowser.Client.ScriptData
import PacketBrowser.Foundation.Script
import PacketBrowser.Client.ConnectPage
import PacketBrowser.Browse.Sanitizer
import PacketBrowser.Server.Dialogue
import PacketBrowser.Server.Greeting
import PacketBrowser.Client.Conversation
import PacketBrowser.Foundation.Desk
import PacketBrowser.Client.Turns
import PacketBrowser.EndToEnd.Pages
import PacketBrowser.Foundation.Monitor
import PacketBrowser.Server.Conduct
import PacketBrowser.Server.Patience
import PacketBrowser.Foundation.JsonStream
import PacketBrowser.Server.AccessLog
import PacketBrowser.Foundation.Forest
import PacketBrowser.Server.Scrub
import PacketBrowser.Foundation.Budget
import PacketBrowser.Server.Termination
import PacketBrowser.Client.Termination
import PacketBrowser.Foundation.Fields
import PacketBrowser.Browse.CachePage
