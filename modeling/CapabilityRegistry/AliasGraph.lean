import CapabilityRegistry.Walk

/-!
# Alias graphs

Each alias has one edge to the name that it stands for. A name is resolved by walking along the edges
until a wanted value is found. A walk that comes back to a name or runs off the graph finds nothing.
-/

namespace CapabilityRegistry

/-- The edges from aliases to their targets, in the order of insertion. -/
structure AliasGraph where
  edges : List (String × String) := []
  /-- No alias has two edges. -/
  nodup : (edges.map (·.1)).Nodup := by simp

namespace AliasGraph

variable (g : AliasGraph)

/-- The names with an edge, in the order of insertion. -/
def aliases : List String :=
  g.edges.map (·.1)

/-- Adds an edge, unless the name has one: the first declaration of an alias wins. -/
def insert (name target : String) : AliasGraph :=
  if new : name ∈ g.aliases then g
  else
    { edges := g.edges ++ [(name, target)]
      nodup := by
        have old := g.nodup
        simp only [aliases] at new
        simp [List.nodup_append, old]
        intro x y mem same
        exact new (List.mem_map.2 ⟨(x, y), mem, same⟩) }

/-- The graph of a list of edges, inserted in order. -/
def ofPairs (pairs : List (String × String)) : AliasGraph :=
  pairs.foldl (fun g (name, target) => g.insert name target) {}

/-- The name that an alias stands for. -/
def target? (name : String) : Option String :=
  g.edges.lookup name

/-- The name has an edge. -/
def isAlias (name : String) : Bool :=
  (g.target? name).isSome

/-- How many aliases there are. -/
def size : Nat :=
  g.edges.length

/-- A name with an edge is one of the aliases. -/
theorem mem_aliases_of_target? {name target : String} (h : g.target? name = some target) :
    name ∈ g.aliases := by
  obtain ⟨before, after, eq, _⟩ := List.lookup_eq_some_iff.1 h
  simp [aliases, eq]

/-- The names met on the walk from a name. -/
def trail (name : String) : Walk.Trail :=
  Walk.trail g.target? g.aliases (fun _ _ => g.mem_aliases_of_target?) [] name

/-- The value of the first name on the walk that has one; `name` itself is asked first. -/
def resolve {α : Type} (lookup : String → Option α) (name : String) : Option α :=
  (g.trail name).names.findSome? lookup

/-- The end of the walk: the first name on it that is no alias. -/
def root? (name : String) : Option String :=
  let trail := g.trail name
  if trail.returns then none else trail.names.getLast?

/-- Walks until an answer is known, and lists the names met on the way. An answer is known where
`memo` holds one, where a name has a value, and where the walk returns or ends. -/
def probe {α : Type} (lookup : String → Option α) (memo : List (String × Option α))
    (path : List String) (name : String) : List String × Option α :=
  match memo.lookup name with
  | some answer => (path, answer)
  | none =>
    if new : name ∈ path then (path, none)
    else
      match lookup name with
      | some value => (name :: path, some value)
      | none =>
        match step : g.target? name with
        | some following =>
          have _fewer := Walk.remaining_cons_lt (g.mem_aliases_of_target? step) new
          probe lookup memo (name :: path) following
        | none => (name :: path, none)
termination_by Walk.remaining g.aliases path

/-- Answers one alias and keeps the answer for every name met. -/
def remember {α : Type} (lookup : String → Option α) (memo : List (String × Option α))
    (name : String) : List (String × Option α) :=
  if (memo.lookup name).isSome then memo
  else
    let (path, answer) := g.probe lookup memo [] name
    path.map (·, answer) ++ memo

/-- Resolves every alias. Walks share their ends, so that each edge is walked once. -/
def resolveAll {α : Type} (lookup : String → Option α) : List (String × Option α) :=
  (g.aliases.foldl (g.remember lookup) []).filter fun (name, _) => g.isAlias name

end AliasGraph

end CapabilityRegistry
