import CharacterSheet.Compendium.References

/-!
# The register of a compendium

How a compendium is kept while it is built. Its entries are the nodes of a graph, which go by their
places: the first node that is put in has the place zero. A node holds the places of what it has an edge
to, the newest edge first. Beside the graph there is a table that finds the place of an entry.

Nothing in the types says that table and graph fit together, or that an edge leads anywhere. That is so
for every register that is built by mentions, and its entries and requirements are then those of a
`Compendium`.
-/

namespace CharacterSheet

/-! ## Graphs -/

/-- A node of a graph. -/
structure Graph.Node where
  entry : Entry
  /-- the places that an edge leads to, the newest edge first -/
  targets : List Nat := []
  deriving DecidableEq

/-- A directed graph of entries, by their places. -/
structure Graph where
  nodes : List Graph.Node := []
  deriving DecidableEq

namespace Graph

/-- Puts in a node for an entry, whether or not there is one; gives its place. -/
def add (graph : Graph) (entry : Entry) : Nat × Graph :=
  (graph.nodes.length, { nodes := graph.nodes ++ [{ entry }] })

/-- The entries, in the order of their places. -/
def entries (graph : Graph) : List Entry :=
  graph.nodes.map (·.entry)

/-- The places that the edges of a node lead to, the newest edge first. -/
def targets (graph : Graph) (place : Nat) : List Nat :=
  (graph.nodes[place]?.map (·.targets)).getD []

/-- Puts in an edge from one place to another, unless there is one. -/
def connect (graph : Graph) (source target : Nat) : Graph :=
  if target ∈ graph.targets source then graph
  else
    { nodes := graph.nodes.modify source fun node =>
        { node with targets := target :: node.targets } }

end Graph

/-! ## Registers -/

/-- A graph, and the table of the places of its entries. -/
structure Register where
  graph : Graph := {}
  places : List (Entry × Nat) := []
  deriving DecidableEq

namespace Register

/-- The place of an entry, if it has one. -/
def place? (register : Register) (entry : Entry) : Option Nat :=
  register.places.lookup entry

/-- Mentions an entry; gives its place. -/
def add (register : Register) (entry : Entry) : Nat × Register :=
  match register.place? entry with
  | some place => (place, register)
  | none =>
    let (place, graph) := register.graph.add entry
    (place, { graph, places := (entry, place) :: register.places })

/-- Puts in an edge between two places. -/
def connect (register : Register) (source target : Nat) : Register :=
  { register with graph := register.graph.connect source target }

/-- Mentions two entries, of which the first requires the second. -/
def link (register : Register) (dependent requirement : Entry) : Register :=
  let (source, register) := register.add dependent
  let (target, register) := register.add requirement
  register.connect source target

/-- The entries, in the order of their places. -/
def entries (register : Register) : List Entry :=
  register.graph.entries

/-- Whether there is such an entry. -/
def contains (register : Register) (entry : Entry) : Bool :=
  (register.place? entry).isSome

/-- What an entry requires, in the order in which that was first mentioned. -/
def requirements (register : Register) (entry : Entry) : List Entry :=
  match register.place? entry with
  | none => []
  | some place => ((register.graph.targets place).filterMap (register.entries[·]?)).reverse

/-! ## The register of a set of items -/

/-- Links an entry to those of the `references` that are entries. -/
def linkKnown (register : Register) (entry : Entry) (references : List Entry) : Register :=
  references.foldl
    (fun register reference =>
      if register.contains reference then register.link entry reference else register)
    register

/-- The register of a set of items. -/
def ofItems (items : List Item) : Register :=
  let mentioned := items.foldl (fun register item => (register.add (.ofItem item)).2) {}
  items.foldl
    (fun register item =>
      register.linkKnown (.ofItem item) (Prerequisite.referencesList item.prerequisites))
    mentioned

end Register

/-! ## Mentions -/

/-- What can be said to a register that is being built. -/
inductive Mention where
  /-- that there is an entry -/
  | entry (entry : Entry)
  /-- that there are two, and that the first requires the second -/
  | link (dependent requirement : Entry)

namespace Register

/-- The register after one more mention. -/
def mention (register : Register) : Mention → Register
  | .entry entry => (register.add entry).2
  | .link dependent requirement => register.link dependent requirement

/-- The register that is built by mentions from the empty one. -/
def ofMentions (mentions : List Mention) : Register :=
  mentions.foldl mention {}

end Register

end CharacterSheet
