import Linkage.Ordered

/-!
Which classes can be reached from which.

Nodes are class names. Every name that an edge or a seed mentions is a node; an edge from a node to
itself is not kept. The reachable names are the seeds and all that edges lead to from them.
-/

set_option autoImplicit false

namespace Linkage

/-- Class names with the names that they refer to, both in order. -/
structure ReferenceGraph where
  edges : List (String × List String)
  /-- The names that are reachable from the seeds, in the order in which they were reached. -/
  reachable : List String

namespace ReferenceGraph

/-- Adds an edge between two nodes. -/
def addEdge (edges : List (String × List String)) (edge : String × String) :
    List (String × List String) :=
  let (source, target) := edge
  Ordered.update source [] (fun targets =>
    if source = target then targets else Ordered.insert target targets)
    (Ordered.putNew target [] edges)

/-- The names that a node refers to. -/
def targetsOf (edges : List (String × List String)) (name : String) : List String :=
  (Ordered.get? edges name).getD []

/-- Adds the names that are not there yet. -/
def addNew (names : List String) : List String → List String
  | [] => names
  | name :: rest => addNew (if names.contains name then names else names ++ [name]) rest

/-- Visits the names of `reached` from a position on, and adds what they refer to. Each name is
there once, and a name that does not refer to others adds none, so the nodes bound the number of
visits. -/
def visit (edges : List (String × List String)) : Nat → Nat → List String → List String
  | 0, _, reached => reached
  | visits + 1, position, reached =>
    match reached[position]? with
    | none => reached
    | some name => visit edges visits (position + 1) (addNew reached (targetsOf edges name))

/-- The graph with some edges, and what is reachable in it from some seeds. -/
def ofEdges (edges : List (String × String)) (seeds : List String) : ReferenceGraph :=
  let nodes := seeds.foldl (fun nodes seed => Ordered.putNew seed [] nodes)
    (edges.foldl addEdge [])
  ⟨nodes, visit nodes nodes.length 0 (addNew [] seeds)⟩

def contains (graph : ReferenceGraph) (name : String) : Bool :=
  (Ordered.get? graph.edges name).isSome

def isReachable (graph : ReferenceGraph) (name : String) : Bool := graph.reachable.contains name

/-- The names that a node refers to, if it is one. -/
def targets? (graph : ReferenceGraph) (name : String) : Option (List String) :=
  Ordered.get? graph.edges name

def nodeCount (graph : ReferenceGraph) : Nat := graph.edges.length

end ReferenceGraph

end Linkage
