import Bumper.Py.Case
import Bumper.Py.Str
import Bumper.Py.Codec
import Bumper.Xml.Element
import Bumper.Xml.Parse
import Bumper.Xml.Concat
import Bumper.Xml.Serialize
import Bumper.Client
import Bumper.Route
import Bumper.Handshake
import Bumper.ParseData
import Bumper.Server
import Bumper.Routing
import Bumper.Frame
import Bumper.Lifecycle
import Bumper.Framing
import Bumper.Registry
import Bumper.Identity
import Bumper.Cleanup
import Bumper.Tasks
import Bumper.Acts
import Bumper.Sessions
import Bumper.Effects
