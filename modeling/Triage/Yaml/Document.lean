import Triage.Yaml.Collection

/-!
# Documents

YAML texts as values. A collection that holds itself has no finite value; its value is cut off after
it was entered some times more than the document has names, where nothing is left of it.
-/

namespace Triage.Yaml

/-- The values of collections by their places. -/
abbrev Values := Array Value

/-- The value of what a collection holds. -/
def Item.value (known : Values) : Item → Value
  | scalar s => .scalar s
  | collection place => known.getD place .null

/-- The value of a collection. -/
def Collection.value (known : Values) : Collection → Value
  | list items => .list (items.map (Item.value known))
  | table entries => .ofEntries (entries.map fun (k, v) => (k, v.value known))
  | set => .scalar (.other "set()")

/-- The values of collections after one more look at each of them. -/
def lookAgain (collections : List (Nat × Collection)) (known : Values) : Values :=
  collections.foldl (fun known (place, c) => known.setIfInBounds place (c.value known)) known

/-- How often a collection that holds itself is entered beyond the count of names. -/
def extraLooks : Nat := 5

/-- The values of collections. What holds others was met before them, unless an alias leads back, so
every look but the first one is for one more alias on the way. -/
def valuesOf (size looks : Nat) (collections : List (Nat × Collection)) : Values :=
  (List.range looks).foldl (fun known _ => lookAgain collections known)
    (Array.replicate size Value.null)

/-- The value of a document with so many tokens. -/
def Document.value (size : Nat) (d : Document) : Except Fault Value := do
  -- Every fuel is for a walk through nodes of which none comes twice.
  let fuel := 3 * size + 3
  let (root, r) ← CollectionReader.item d fuel ⟨[], [], []⟩ d.root
  let collections ← r.readAll d fuel (size + 1)
  return root.value (valuesOf (size + 1) (d.named.length + extraLooks) collections)

/-- The value of the only document in a text. -/
def read [Nesting] (text : String) : Except Fault Value := do
  let found := tokens text
  let d ← NodeReader.document found
  d.value found.length

end Triage.Yaml
