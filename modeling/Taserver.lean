import Taserver.Dict
import Taserver.Allocator
import Taserver.Names
import Taserver.State
import Taserver.Registry
import Taserver.Unauthenticated
import Taserver.Handlers
import Taserver.Launcher
import Taserver.Run
import Taserver.Frames
import Taserver.Login
import Taserver.Lifecycle
import Taserver.World
import Taserver.PlayerInvariant
import Taserver.ServerInvariant
import Taserver.TeamInfo
import Taserver.Sessions
import Taserver.Credentials
import Taserver.Queries
import Taserver.Formats
import Taserver.Isolation
import Taserver.Keying
