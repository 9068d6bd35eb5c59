import PluginKit.Sample.Artifact
import PluginKit.Sample.Catalog
import PluginKit.Serve.Endpoints

/-!
# The sample plugin

A plugin that serves artifacts in local files and lists the components of repositories that name them
in their specification.
-/

namespace PluginKit.Sample

/-- The types that the plugin knows. -/
def scheme : Except SchemeFault Scheme := do
  let s ← Scheme.empty.registerAll Artifact.prototype
    [.versioned "SampleArtifact" "v1", .ofName "SampleArtifact"]
  s.registerAll Repository.prototype [.versioned "SampleRepository" "v1"]

/-- The endpoints of the plugin. -/
def endpoints : Outcome (Endpoints Files) := do
  let s ← Outcome.ofScheme scheme
  let e ← (Endpoints.ofScheme s).serve Artifact.prototype.name (.resource (ArtifactStore.repository s))
  let e ← e.serve Artifact.prototype.name (.digest (ArtifactStore.processor s))
  e.serve Repository.prototype.name (.lister (Catalog.lister s))

end PluginKit.Sample
