import BrokerGate.Terminal.Main
import BrokerGate.Proofs.Except
import BrokerGate.Proofs.Text.Split
import BrokerGate.Proofs.Text.Utf8
import BrokerGate.Proofs.Url.Path
import BrokerGate.Proofs.Url.Address
import BrokerGate.Proofs.Url.Host
import BrokerGate.Proofs.Text.Ascii
import BrokerGate.Proofs.Url.Authority
import BrokerGate.Proofs.Url.Parse
import BrokerGate.Proofs.Error.Chain
import BrokerGate.Proofs.Endpoint.Join
import BrokerGate.Proofs.Endpoint.Display
import BrokerGate.Proofs.Endpoint.Forwardable
import BrokerGate.Proofs.Http.Field
import BrokerGate.Proofs.Proxy.HopByHop
import BrokerGate.Proofs.Http.Peer
import BrokerGate.Proofs.Proxy.ForwardedFor
import BrokerGate.Proofs.Http.Target
import BrokerGate.Proofs.Proxy.Forward
import BrokerGate.Proofs.Proxy.Crossing
import BrokerGate.Proofs.Proxy.Hops
import BrokerGate.Proofs.Json.Read
import BrokerGate.Proofs.Json.Grammar
import BrokerGate.Proofs.Json.Scan
import BrokerGate.Proofs.Json.Outline
import BrokerGate.Proofs.Json.Piece
import BrokerGate.Proofs.Credential.Token
import BrokerGate.Proofs.Credential.Grant
import BrokerGate.Proofs.Credential.Metadata
import BrokerGate.Proofs.Credential.Blank
import BrokerGate.Proofs.Credential.Command
import BrokerGate.Proofs.Proxy.Outcome
import BrokerGate.Proofs.Proxy.Relay
import BrokerGate.Proofs.Proxy.Startup
import BrokerGate.Proofs.Exchange.Log
import BrokerGate.Proofs.Exchange.Traffic
import BrokerGate.Proofs.Proxy.Traffic
import BrokerGate.Proofs.Proxy.Agreement
import BrokerGate.Proofs.Exchange.Secrecy
import BrokerGate.Proofs.Proxy.Secrecy
import BrokerGate.Proofs.Proxy.CommandToken
import BrokerGate.Program.Process
import BrokerGate.Proofs.Program.Plan
import BrokerGate.Proofs.Program.Run
import BrokerGate.Proofs.Program.Process
import BrokerGate.Proofs.Config.Entries
import BrokerGate.Proofs.Config.Merge
import BrokerGate.Proofs.Config.Variable
import BrokerGate.Proofs.Config.Document
import BrokerGate.Proofs.Decimal.Read
import BrokerGate.Proofs.Config.TypedText
import BrokerGate.Proofs.Config.VariableSound
import BrokerGate.Proofs.Config.VariableText
import BrokerGate.Proofs.CommandLine.Parse
import BrokerGate.Proofs.Program.Settings
import BrokerGate.Proofs.Endpoint.Canonical
import BrokerGate.Proofs.Endpoint.Components
import BrokerGate.Proofs.Program.File
import BrokerGate.Proofs.Program.Loaders
import BrokerGate.Proofs.Config.Differ
import BrokerGate.Proofs.Config.Redaction
import BrokerGate.Proofs.Config.TextKey
import BrokerGate.Proofs.Config.Relabel
import BrokerGate.Proofs.Config.Reading
import BrokerGate.Proofs.Config.Narrow
import BrokerGate.Proofs.Config.Serialized
import BrokerGate.Proofs.Program.Redaction
import BrokerGate.Proofs.Program.TextSetting
import BrokerGate.Proofs.Program.SourceSwitch
import BrokerGate.Proofs.Program.VisibleToken
import BrokerGate.Proofs.Idna.Punycode
