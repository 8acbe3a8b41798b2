import WdmNet.Network.Basic
/-!
Shortest paths by fiber length.

The links form a weighted directed graph on the nodes: self-loops are left out, and of
parallel links between the same two nodes the first counts unless a later one is strictly
shorter. The route itself is found by the graph library's shortest-path search from the source
(Dijkstra's), which `Network.path` takes as a parameter: from the edges, the number of nodes,
the source and the target, it gives the nodes of a shortest route, source first, and its
weight, or no nodes when the target is not reached.

`Search.route` is the search the simulator runs. Distances are settled one node at a time,
always the unsettled node nearest to the source (the lowest handle among equals), and a
distance improves only when strictly shorter, so the path found to a node is the first
shortest one met.
-/

namespace WdmNet

/-- A weighted edge between node handles. -/
structure Edge where
  src : Nat
  dst : Nat
  weight : Float
  deriving Repr, Inhabited

/-- Adds the edge of a link: a self-loop adds nothing, and a parallel edge replaces the
earlier one only when strictly shorter. -/
def addEdge (acc : List Edge) (l : Link) : List Edge :=
  if l.src == l.dst then acc
  else
    match acc.find? (fun e => e.src == l.src && e.dst == l.dst) with
    | some e =>
      if e.weight ≤ l.length then acc
      else acc.map fun e => if e.src == l.src && e.dst == l.dst then ⟨l.src, l.dst, l.length⟩ else e
    | none => acc ++ [⟨l.src, l.dst, l.length⟩]

/-- The edges of the link graph. -/
def Network.edges (n : Network) : List Edge := n.links.toList.foldl addEdge []

/-- The state of the search: the distance and predecessor of each node and which nodes are
settled. -/
structure Search where
  dist : Array Float
  prev : Array (Option Nat)
  settled : Array Bool

/-- The unsettled node with the smallest finite distance, lowest handle first. -/
def Search.nearest (s : Search) : Option Nat :=
  (List.range s.dist.size).foldl (fun best i =>
    if s.settled[i]?.getD true then best
    else
      let d := s.dist[i]?.getD (1 / 0)
      if d == 1 / 0 then best
      else match best with
        | none => some i
        | some b => if d < s.dist[b]?.getD (1 / 0) then some i else best) none

/-- Settles the nearest node and relaxes its edges, at most `fuel` times. -/
def Search.run (edges : List Edge) : Nat → Search → Search
  | 0, s => s
  | fuel + 1, s =>
    match s.nearest with
    | none => s
    | some u =>
      let du := s.dist[u]?.getD (1 / 0)
      let s := { s with settled := s.settled.set! u true }
      let s := edges.foldl (fun s e =>
        if e.src != u then s
        else
          let joint := du + e.weight
          if joint < s.dist[e.dst]?.getD (1 / 0) then
            { s with dist := s.dist.set! e.dst joint, prev := s.prev.set! e.dst (some u) }
          else s) s
      run edges fuel s

/-- The nodes on the path back from `v`, at most `fuel` steps, source first. -/
def Search.trace (s : Search) : Nat → Nat → List Nat
  | 0, v => [v]
  | fuel + 1, v =>
    match s.prev[v]?.getD none with
    | some u => trace s fuel u ++ [v]
    | none => [v]

/-- The route to `b` that a search from `a` over `size` nodes finds: its nodes, source first,
and its length; no nodes, and an infinite length, when `b` is not reached. -/
def Search.route (edges : List Edge) (size a b : Nat) : List Nat × Float :=
  let start : Search :=
    ⟨(Array.replicate size (1 / 0 : Float)).set! a 0, Array.replicate size none,
     Array.replicate size false⟩
  let s := Search.run edges size start
  let d := s.dist[b]?.getD (1 / 0)
  if d == 1 / 0 then ([], d) else (s.trace size b, d)

/-- The shortest path between two nodes by fiber length, as node names, with its length in
km, as the shortest-path search `search` finds it. -/
def Network.path (n : Network) (search : List Edge → Nat → Nat → Nat → List Nat × Float)
    (src dst : String) : Except Failure (List String × Float) := do
  let some a := n.nodeByName.get? src | throw (.of .nodeNotFound (q src))
  let some b := n.nodeByName.get? dst | throw (.of .nodeNotFound (q dst))
  if a == b then return ([src], 0)
  let (hops, length) := search n.edges n.nodes.size a b
  if hops.isEmpty then throw (.of .linkNotFound ("no path from " ++ q src ++ " to " ++ q dst))
  pure (hops.map n.nodeName, length)

end WdmNet
