import Linkage.Artifact.Dependency
import Linkage.Problem

/-! Dependency graphs: the paths to artifacts, level by level, and the files of artifacts. -/

set_option autoImplicit false

namespace Linkage

/-- The dependency paths from some roots, shorter ones first, with the files that were found. -/
structure DependencyGraph where
  paths : List DependencyPath
  /-- The files of artifacts; of several files for one artifact the first counts. -/
  files : List (Coordinate × Path)
  artifactProblems : List ArtifactProblem

namespace DependencyGraph

def empty : DependencyGraph := ⟨[], [], []⟩

def addPath (graph : DependencyGraph) (path : DependencyPath) : DependencyGraph :=
  { graph with paths := graph.paths ++ [path] }

/-- Gives an artifact a file, whether it had one or not. -/
def setFile (graph : DependencyGraph) (coordinate : Coordinate) (file : Path) : DependencyGraph :=
  { graph with files := (coordinate, file) :: graph.files }

def addProblem (graph : DependencyGraph) (problem : ArtifactProblem) : DependencyGraph :=
  { graph with artifactProblems := graph.artifactProblems ++ [problem] }

def file? (graph : DependencyGraph) (coordinate : Coordinate) : Option Path :=
  graph.files.lookup coordinate

end DependencyGraph

end Linkage
