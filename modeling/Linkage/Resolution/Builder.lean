import Linkage.Resolution.Mediation
import Linkage.Resolution.Walk

/-! Building class paths from artifacts in local repositories. -/

set_option autoImplicit false

namespace Linkage

/-- How class paths are built. -/
structure ClasspathBuilder where
  repositories : LocalRepositories
  strategy : MediationStrategy
  platform : Platform

namespace ClasspathBuilder

/-- The class path of some artifacts and all that they depend on. The entries of the artifacts
themselves are used from outside. -/
def resolve (builder : ClasspathBuilder) (fs : FileSystem) (roots : List Coordinate)
    (memory : PomMemory) : Except CheckerError ResolvedClasspath × PomMemory :=
  let (graph, memory) := Walk.run builder.repositories fs (.ofRoots roots) memory
  let resolved := graph.map fun graph =>
    let resolved := builder.strategy.mediate builder.platform graph
    { resolved with entryPoints := roots.filterMap resolved.classpath.entryFor? }
  (resolved, memory)

end ClasspathBuilder

end Linkage
