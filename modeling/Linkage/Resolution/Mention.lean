import Linkage.Pom.Effective

/-!
The artifacts that matter for others.

The description of an artifact mentions its parent, its imports and its dependencies. All files that
building a class path can ask for belong to artifacts that the roots lead to in this way.
-/

set_option autoImplicit false

namespace Linkage

namespace LocalRepositories

/-- Where the files of an artifact may be. -/
def candidates (repositories : LocalRepositories) (c : Coordinate) : List Path :=
  [relativePath c "pom" none, relativePath c "jar" c.classifier].flatMap fun relative =>
    repositories.roots.map (·.join relative)

/-- The artifacts that the description of an artifact mentions, as far as its parents and imports
can be read. -/
def mentions (repositories : LocalRepositories) (fs : FileSystem) (c : Coordinate) :
    List Coordinate :=
  match repositories.pomPath fs c with
  | none => []
  | some path =>
    match Pom.load fs path with
    | .error _ => []
    | .ok pom =>
      let effective :=
        match EffectivePom.build repositories fs EffectivePom.maxLevels
            (.plain c.group c.artifact c.version) with
        | .ok (some effective) => effective
        | _ => .empty
      let imports := (pom.management.map (·.expand effective.properties)).filter (·.isImport)
      (pom.parent.map EffectivePom.parentCoordinate).toList ++
        imports.filterMap EffectivePom.importCoordinate? ++
        effective.directDependencies.map (·.coordinate) ++ effective.managedCoordinates

end LocalRepositories

end Linkage
