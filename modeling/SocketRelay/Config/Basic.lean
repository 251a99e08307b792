import SocketRelay.Log.Settings
import SocketRelay.Route
import SocketRelay.Tcp.Settings
import SocketRelay.Udp.Settings

/-!
# Configurations
-/

namespace SocketRelay

structure Config where
  logging : Log.Settings := {}
  tcp : Tcp.Settings := {}
  udp : Udp.Settings := {}
  routes : List Route := []
  deriving DecidableEq, Repr, Inhabited

namespace Config

/-- The routes of one protocol, in order. -/
def routesFor (c : Config) (p : Protocol) : List Route :=
  c.routes.filter (·.protocol = p)

/-- The configuration with more routes after its own. -/
def extend (c : Config) (routes : List Route) : Config :=
  { c with routes := c.routes ++ routes }

end Config

end SocketRelay
