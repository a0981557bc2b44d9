import FtyDiscovery.Base.Regex
import FtyDiscovery.Base.Text
import FtyDiscovery.Base.Options
import FtyDiscovery.Base.Hex
import FtyDiscovery.Base.Printf
import FtyDiscovery.Base.Loop
import FtyDiscovery.Base.Traced
import FtyDiscovery.Base.System
import FtyDiscovery.Base.Entries
import FtyDiscovery.Base.Vectors
import FtyDiscovery.Expected
import FtyDiscovery.Wallet
import FtyDiscovery.Snmp.Session
import FtyDiscovery.Snmp.Values
import FtyDiscovery.Snmp.Agent
import FtyDiscovery.Snmp.Progress
import FtyDiscovery.MibsReader
import FtyDiscovery.WalkCoverage
import FtyDiscovery.Message
import FtyDiscovery.MessageBus
import FtyDiscovery.Correlation
import FtyDiscovery.Task
import FtyDiscovery.Logging
import FtyDiscovery.Commands
import FtyDiscovery.Ping
import FtyDiscovery.Uuid
import FtyDiscovery.Nut.Mapper
import FtyDiscovery.Nut.MappingFile
import FtyDiscovery.Nut.Indices
import FtyDiscovery.Nut.Process
import FtyDiscovery.Nut.Pipes
import FtyDiscovery.Nut.Connection
import FtyDiscovery.Nut.Calls
import FtyDiscovery.Nut.Credentials
import FtyDiscovery.Nut.Options
import FtyDiscovery.Nut.StateDirs
import FtyDiscovery.Neon.Get
import FtyDiscovery.Neon.Parser
import FtyDiscovery.Neon.Document
import FtyDiscovery.Neon.Build
import FtyDiscovery.Neon.OpenElements
import FtyDiscovery.Neon.Deserialize
import FtyDiscovery.Neon.ObjectLists
import FtyDiscovery.Neon.Texts
import FtyDiscovery.Neon.FlatTargets
import FtyDiscovery.Jobs.Environment
import FtyDiscovery.Jobs.Protocols
import FtyDiscovery.Jobs.SnmpProbe
import FtyDiscovery.Jobs.Mibs
import FtyDiscovery.Jobs.Assets
import FtyDiscovery.Jobs.Dump
import FtyDiscovery.Jobs.Enrich
import FtyDiscovery.Jobs.Chain
import FtyDiscovery.Jobs.Attributes
import FtyDiscovery.Jobs.Additions
import FtyDiscovery.Jobs.Rediscovery
import FtyDiscovery.Jobs.Contacts
import FtyDiscovery.Jobs.Timeouts
import FtyDiscovery.Jobs.Ports
import FtyDiscovery.Jobs.Endpoint
import FtyDiscovery.Jobs.Identities
import FtyDiscovery.Jobs.Hosts
import FtyDiscovery.Jobs.Listing
import FtyDiscovery.Jobs.Modules
import FtyDiscovery.Jobs.Ends
import FtyDiscovery.Jobs.Launch
import FtyDiscovery.Jobs.Recommendation
import FtyDiscovery.Jobs.KnownMibs
import FtyDiscovery.Discovery
import FtyDiscovery.Client
import FtyDiscovery.Pool
import FtyDiscovery.PoolProgress
import FtyDiscovery.Serial
import FtyDiscovery.Agent
import FtyDiscovery.Secrets
import FtyDiscovery.Rest
import FtyDiscovery.Exchange
