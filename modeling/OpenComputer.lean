import OpenComputer.Map
import OpenComputer.State
import OpenComputer.Ports
import OpenComputer.Api
import OpenComputer.Handlers
import OpenComputer.Reaper
import OpenComputer.Files
import OpenComputer.Frame
import OpenComputer.World
import OpenComputer.Steps
import OpenComputer.Timestamps
import OpenComputer.Roots
import OpenComputer.Expiry
import OpenComputer.PortList
import OpenComputer.Keys
import OpenComputer.Pids
import OpenComputer.Solo
import OpenComputer.Proxy
import OpenComputer.WsRelay
import OpenComputer.Provenance
import OpenComputer.Views
import OpenComputer.Isolation
