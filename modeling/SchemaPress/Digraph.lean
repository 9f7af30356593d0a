import SchemaPress.Sorted

set_option autoImplicit false

/-! # Directed graphs

Finite directed graphs on the numbers below their size, and the order in which the nodes come
after everything that they point to. Nodes that reach each other form a component. The components
come as a numbered list, and nothing but their nodes counts. For each component the arrows to other
components that are not listed are counted. A component whose count is zero waits in a queue, and
always next is the one with the smallest node; when it is listed, the counts of the components
that point to it go down. -/

namespace SchemaPress

/-- A directed graph: the nodes that each node points to. -/
structure Digraph where
  successors : List (List Nat)
  deriving DecidableEq, Repr

namespace Digraph

/-! ## Arrows and what they lead to -/

/-- The number of nodes. -/
def size (graph : Digraph) : Nat :=
  graph.successors.length

/-- The nodes that a node points to. -/
def next (graph : Digraph) (node : Nat) : List Nat :=
  (graph.successors[node]?).getD []

/-- The number of arrows. -/
def arrowCount (graph : Digraph) : Nat :=
  graph.successors.foldr (fun next count => next.length + count) 0

/-- Visits pending nodes and everything behind them. Each arrow is followed at most once, which
    bounds the steps. -/
def explore (graph : Digraph) : Nat → List Nat → List Nat → List Nat
  | 0, _, seen | _, [], seen => seen
  | steps + 1, node :: pending, seen =>
    if seen.contains node then graph.explore steps pending seen
    else graph.explore steps (graph.next node ++ pending) (node :: seen)

/-- The nodes that can be reached from a node along one or more arrows. -/
def reach (graph : Digraph) (node : Nat) : List Nat :=
  graph.explore ((graph.next node).length + graph.arrowCount) (graph.next node) []

/-- The reach of every node. -/
def reaches (graph : Digraph) : List (List Nat) :=
  (List.range graph.size).map graph.reach

/-- Whether one node reaches another, looked up in a table of reaches. -/
def reachesIn (table : List (List Nat)) (a b : Nat) : Bool :=
  ((table[a]?).getD []).contains b

/-- The nodes that reach a node and are reached by it, and the node itself, in order. -/
def group (graph : Digraph) (table : List (List Nat)) (node : Nat) : List Nat :=
  (List.range graph.size).filter fun other =>
    other == node || (reachesIn table node other && reachesIn table other node)

/-! ## Components -/

/-- The components, by their smallest nodes. -/
def components (graph : Digraph) : List (List Nat) :=
  let table := graph.reaches
  ((List.range graph.size).filter fun node => (graph.group table node).head? == some node).map
    (graph.group table)

/-- The smallest of some nodes. -/
def leastNode : List Nat → Nat
  | [] => 0
  | node :: rest => rest.foldl Nat.min node

/-- Some nodes in ascending order. -/
def ascending (nodes : List Nat) : List Nat :=
  Sorted.sort (fun a b => decide (a < b)) nodes

/-- The nodes of the component with a number. -/
def membersAt (components : List (List Nat)) (number : Nat) : List Nat :=
  (components[number]?).getD []

/-- Whether nodes that reach each other lie on a cycle: there are several, or the only one points to
    itself. -/
def isCycle (graph : Digraph) (members : List Nat) : Bool :=
  1 < members.length || members.head?.any fun node => (graph.next node).contains node

/-- The nodes on cycles, found from the components. -/
def cyclicBy (graph : Digraph) (components : List (List Nat)) : List Nat :=
  Sorted.sortUnique (fun a b => decide (a < b)) (components.filter graph.isCycle).flatten

/-- The nodes on cycles, in ascending order. -/
def cyclic (graph : Digraph) : List Nat :=
  graph.cyclicBy graph.components

/-! ## Arrows between components -/

/-- All arrows, each as often as it is there. -/
def arrows (graph : Digraph) : List (Nat × Nat) :=
  (List.range graph.size).flatMap fun node => (graph.next node).map fun target => (node, target)

/-- Gives a number to nodes. -/
def numberNodes (numbers : List Nat) (members : List Nat) (number : Nat) : List Nat :=
  members.foldl (fun numbers node => numbers.set node number) numbers

/-- The number of the component of each node. -/
def componentNumbers (graph : Digraph) (components : List (List Nat)) : List Nat :=
  components.zipIdx.foldl (fun numbers entry => numberNodes numbers entry.1 entry.2)
    (List.replicate graph.size 0)

/-- The arrows that lead from one component to another, counted at both ends. -/
structure Crossings where
  /-- How many arrows lead from each component. -/
  pending : List Nat
  /-- The components that arrows lead from to each component, once for each arrow. -/
  dependents : List (List Nat)
  deriving DecidableEq, Repr

/-- Counts an arrow unless it stays in its component. -/
def Crossings.add (numbers : List Nat) (crossings : Crossings) (arrow : Nat × Nat) : Crossings :=
  let source := (numbers[arrow.1]?).getD 0
  let target := (numbers[arrow.2]?).getD 0
  if source = target then crossings
  else
    { pending := crossings.pending.modify source (· + 1)
      dependents := crossings.dependents.modify target (· ++ [source]) }

/-- The arrows between the components. -/
def crossings (graph : Digraph) (components : List (List Nat)) : Crossings :=
  graph.arrows.foldl (Crossings.add (graph.componentNumbers components))
    ⟨List.replicate components.length 0, List.replicate components.length []⟩

/-! ## Sorting -/

/-- How far the nodes are sorted. -/
structure Sorting where
  /-- How many arrows lead from each component to components that are not listed. -/
  pending : List Nat
  /-- The components that may be listed next, each with its smallest node in front. -/
  ready : List (Nat × Nat)
  /-- The nodes listed so far. -/
  listed : List Nat
  deriving DecidableEq, Repr

namespace Sorting

/-- Whether an entry leaves the queue before another one: by its node, then by its number. -/
def leavesBefore (a b : Nat × Nat) : Bool :=
  a.1 < b.1 || a.1 == b.1 && a.2 < b.2

/-- The entry of a component in the queue. -/
def entryOf (components : List (List Nat)) (number : Nat) : Nat × Nat :=
  (leastNode (membersAt components number), number)

/-- Takes an arrow off the count of a component, which is ready when none is left. -/
def release (components : List (List Nat)) (sorting : Sorting) (number : Nat) : Sorting :=
  let left := (sorting.pending[number]?).getD 0 - 1
  { sorting with
    pending := sorting.pending.set number left
    ready :=
      if left = 0 then Sorted.insert leavesBefore (entryOf components number) sorting.ready
      else sorting.ready }

/-- Lists the component that leaves the queue and releases those that point to it. -/
def next? (components : List (List Nat)) (dependents : List (List Nat)) (sorting : Sorting) :
    Option Sorting :=
  match sorting.ready with
  | [] => none
  | entry :: ready =>
    let listed := sorting.listed ++ ascending (membersAt components entry.2)
    some (((dependents[entry.2]?).getD []).foldl (release components)
      { sorting with ready := ready, listed := listed })

/-- Lists components until the queue is empty or the steps are used up. -/
def run (components : List (List Nat)) (dependents : List (List Nat)) : Nat → Sorting → Sorting
  | 0, sorting => sorting
  | steps + 1, sorting =>
    match sorting.next? components dependents with
    | some after => run components dependents steps after
    | none => sorting

end Sorting

/-- The start: nothing is listed, and the components that no counted arrow leads from are ready. -/
def unsorted (graph : Digraph) (components : List (List Nat)) : Sorting :=
  let pending := (graph.crossings components).pending
  { pending := pending
    ready := Sorted.sort Sorting.leavesBefore
      (((List.range components.length).filter fun number => (pending[number]?).getD 0 == 0).map
        (Sorting.entryOf components))
    listed := [] }

/-- The state after a number of components have left the queue. -/
def sortedBy (graph : Digraph) (components : List (List Nat)) (steps : Nat) : Sorting :=
  (graph.unsorted components).run components (graph.crossings components).dependents steps

/-- The order found from numbered components. Each component leaves the queue once. -/
def orderBy (graph : Digraph) (components : List (List Nat)) : List Nat :=
  (graph.sortedBy components components.length).listed

/-- All nodes, each after everything that it points to, components aside. -/
def order (graph : Digraph) : List Nat :=
  graph.orderBy graph.components

end Digraph

end SchemaPress
