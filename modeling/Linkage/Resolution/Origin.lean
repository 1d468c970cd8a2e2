import Linkage.Config
import Linkage.Resolution.Builder

/-! What class paths are built from. -/

set_option autoImplicit false

namespace Linkage

/-- What a class path is built from. -/
inductive Origin where
  /-- Archives and directories as they are. -/
  | archives (paths : List Path)
  /-- The artifacts that a bill of materials manages. -/
  | bom (coordinate : Coordinate)
  | artifacts (coordinates : List Coordinate)
  deriving Repr

/-- The way of building class paths that a configuration asks for. -/
def CheckerConfig.builder (config : CheckerConfig) : Except Failure ClasspathBuilder :=
  config.platformKeys.map fun platform => ⟨⟨config.repositories⟩, config.strategy, platform⟩

namespace ClasspathBuilder

/-- The class path of artifacts, where failures say nothing of the activity. -/
def resolveRoots (builder : ClasspathBuilder) (fs : FileSystem) (roots : List Coordinate)
    (memory : PomMemory) : Except Failure ResolvedClasspath × PomMemory :=
  let (resolved, memory) := builder.resolve fs roots memory
  (resolved.mapError .ofError, memory)

/-- Builds the class path of an origin. -/
def build (builder : ClasspathBuilder) (fs : FileSystem) (memory : PomMemory) :
    Origin → Except Failure ResolvedClasspath × PomMemory
  | .archives paths => (.ok (.ofPaths paths), memory)
  | .artifacts coordinates => builder.resolveRoots fs coordinates memory
  | .bom coordinate =>
    match memory.managedCoordinates builder.repositories fs coordinate with
    | (.ok roots, memory) => builder.resolveRoots fs roots memory
    | (.error error, memory) => (.error (.during (.readingBom coordinate) error), memory)

end ClasspathBuilder

end Linkage
