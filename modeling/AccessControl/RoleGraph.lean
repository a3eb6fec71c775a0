/-
**The graph of role inheritance.**

* `RoleGraph.parents`, `RoleGraph.children` — the ends of the edges at a role, in the order of the
  edges.
* `RoleGraph.ancestors` — the roles from which a role can be reached along edges, each once, the
  nearest first, whatever the graph looks like.
* `RoleGraph.wouldCreateCycle` — whether an edge would close a circle.
-/

import AccessControl.Entity.Basic

namespace AccessControl.RoleGraph

/-- The parents of a role, in the order of the edges. -/
def parents (edges : List Edge) (role : Id) : List Id :=
  (edges.filter fun edge => edge.child = role).map Edge.parent

/-- The children of a role, in the order of the edges. -/
def children (edges : List Edge) (role : Id) : List Id :=
  (edges.filter fun edge => edge.parent = role).map Edge.child

/-- The roles of a queue and what is above them, without those already seen. A role's parents are
put at the end of the queue once, when it is taken off first, so that the number of roles in the
queue and of edges into roles not yet seen bounds the steps. -/
def walk (edges : List Edge) : Nat → List Id → List Id → List Id
  | 0, _, _ => []
  | _ + 1, [], _ => []
  | fuel + 1, current :: queue, seen =>
    if seen.contains current then walk edges fuel queue seen
    else current :: walk edges fuel (queue ++ parents edges current) (current :: seen)

/-- The roles above a role, breadth first. -/
def ancestors (edges : List Edge) (role : Id) : List Id :=
  walk edges edges.length (parents edges role) [role]

def wouldCreateCycle (edges : List Edge) (parent child : Id) : Bool :=
  parent = child || (ancestors edges parent).contains child

end AccessControl.RoleGraph
