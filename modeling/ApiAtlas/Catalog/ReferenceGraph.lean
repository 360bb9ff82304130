import ApiAtlas.Names
import ApiAtlas.Record

/-! # The reference graph

For every function, struct or enum the guides that mention it, in the order in which they were
recorded. A guide stands at most once under a name, and a name without guides is dropped.
-/

namespace ApiAtlas

/-- Names with the guides that mention them. -/
structure ReferenceGraph where
  edges : List (String × List String)
deriving DecidableEq, Repr

namespace ReferenceGraph

/-- The graph without edges. -/
def empty : ReferenceGraph := ⟨[]⟩

/-- Add a guide under a name. -/
def insertEdge (api topic : String) : List (String × List String) → List (String × List String)
  | [] => [(api, [topic])]
  | (name, topics) :: rest =>
    if name = api then (name, Names.insertNew topics topic) :: rest
    else (name, topics) :: insertEdge api topic rest

/-- Record all references of a guide. A record that is no guide has none. -/
def recordTopic (graph : ReferenceGraph) (record : Record) : ReferenceGraph :=
  match record.details with
  | .topic topic =>
    ⟨topic.apiReferences.foldl (fun edges api => insertEdge api record.name edges) graph.edges⟩
  | _ => graph

/-- Drop a guide everywhere. -/
def forgetTopic (graph : ReferenceGraph) (topic : String) : ReferenceGraph :=
  ⟨graph.edges.filterMap fun (api, topics) =>
    let left := topics.filter (· ≠ topic)
    if left.isEmpty then none else some (api, left)⟩

/-- The guides that mention a name. -/
def topicNames (graph : ReferenceGraph) (api : String) : List String :=
  match graph.edges.find? fun (name, _) => name == api with
  | some (_, topics) => topics
  | none => []

/-- Number of names that some guide mentions. -/
def size (graph : ReferenceGraph) : Nat := graph.edges.length

end ReferenceGraph

end ApiAtlas
