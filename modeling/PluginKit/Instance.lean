import PluginKit.Config
import PluginKit.Descriptor
import PluginKit.Launch

/-!
# Instances of plugins

A plugin runs one instance for every capability that is asked of it. How an instance is started
follows from the descriptor of the plugin and the configuration of the host.
-/

namespace PluginKit.ManagerConfig

/-- How the instance of a plugin for a capability is started. -/
def launch (c : ManagerConfig) (d : PluginDescriptor) (cap : Capability) : LaunchConfig where
  id := d.instanceId cap
  connection := d.connection
  capability := cap
  socketDir := some c.socketDir
  idleSeconds := c.idleSeconds

end PluginKit.ManagerConfig
