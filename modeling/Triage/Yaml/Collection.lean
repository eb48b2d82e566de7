import Triage.Yaml.Node
import Triage.Yaml.Scalar

/-!
# Collections

What the lists and tables of a document hold. A collection is known by the place of its node, and
what it holds are scalars and such places, so that it may hold itself. Collections are read in the
order in which they are met, beginning with the root, all that one of them holds before any of what
is inside that; the first fault in this order is the fault of the document.

A table takes over the entries of other tables that its merge key names, in front of its own ones.
Keys have to be scalars.
-/

namespace Triage.Yaml

/-- What a collection holds: a scalar, or a collection by its place. -/
inductive Item
  | scalar (s : Triage.Scalar)
  | collection (place : Nat)
  deriving Repr, Inhabited

/-- A collection. Nothing asks what a set holds. -/
inductive Collection
  | list (items : List Item)
  | table (entries : List (Triage.Scalar × Item))
  | set
  deriving Repr, Inhabited

/-- Entries of a table that are still nodes. -/
abbrev NodeEntries := List (Node × Node)

namespace Document

/-! ### Tables -/

/-- The kind of the node that a node stands for. -/
def kindOf (d : Document) (n : Node) : Kind := (d.target n).kind

/-- Whether an entry names tables to take over. -/
def isMerge (d : Document) (entry : Node × Node) : Bool :=
  d.kindOf entry.1 = .merge

mutual

/-- The entries of a table with those that it takes over in front. `around` are the places of tables
that are about to take over this one; they have nothing more to give. -/
def flatten (d : Document) (fuel : Nat) (around : List Nat) (entries : NodeEntries) :
    Except Fault NodeEntries :=
  match fuel with
  | 0 => .error (.limit .tooDeep)
  | fuel + 1 => do
    let taken ← (entries.filter d.isMerge).mapM fun entry => mergedBy d fuel around entry.2
    return taken.flatten ++ entries.filter (!d.isMerge ·)

/-- The entries of the table, or of the tables in the list, that a merge key names. Of several
tables the earlier one wins, so its entries come last. -/
def mergedBy (d : Document) (fuel : Nat) (around : List Nat) (n : Node) :
    Except Fault NodeEntries :=
  match fuel with
  | 0 => .error (.limit .tooDeep)
  | fuel + 1 =>
    match d.target n with
    | .list _ _ items => do
      let tables ← items.mapM (entriesOf d fuel around)
      return tables.reverse.flatten
    | table => entriesOf d fuel around table

/-- The entries of a table for another one. -/
def entriesOf (d : Document) (fuel : Nat) (around : List Nat) (n : Node) :
    Except Fault NodeEntries :=
  match fuel with
  | 0 => .error (.limit .tooDeep)
  | fuel + 1 =>
    match d.target n with
    | .table place _ entries =>
      if place ∈ around then .ok (entries.filter (!d.isMerge ·))
      else flatten d fuel (place :: around) entries
    | _ => .error .malformed

end

/-! ### Scalars -/

/-- The text of a scalar. That of a table is the text of its value sign, which may be a table again;
every one of them takes from `fuel`. -/
def scalarText (d : Document) (fuel : Nat) (n : Node) : Except Fault String :=
  match fuel with
  | 0 => .error (.limit .tooDeep)
  | fuel + 1 =>
    match d.target n with
    | .scalar _ _ _ text => .ok text
    | .table _ _ entries =>
      match entries.find? fun entry => d.kindOf entry.1 = .value with
      | some entry => scalarText d fuel entry.2
      | none => .error .malformed
    | _ => .error .malformed

/-- Whether a node is a table. -/
def isTable (d : Document) (n : Node) : Bool :=
  match d.target n with
  | .table .. => true
  | _ => false

/-- The scalar that a node means under a kind. A timestamp is never a table. -/
def scalarValue (d : Document) (fuel : Nat) (kind : Kind) (n : Node) :
    Except Fault Triage.Scalar := do
  unless kind.isScalar do throw .malformed
  let text ← d.scalarText fuel n
  if kind = .timestamp && d.isTable n then throw .timeOfTable
  scalarOf kind text

end Document

/-! ### Reading collections -/

/-- The state of the reader of collections: the places of those that were met, the nodes that wait
to be read, the first one first, and the collections that were read, the last one first. -/
structure CollectionReader where
  met : List Nat
  waiting : List Node
  finished : List (Nat × Collection)

/-- Whether a kind is one of collections. -/
def Kind.isCollection : Kind → Bool
  | list | table | set | pairs => true
  | _ => false

/-- The place of a node; an alias has none of its own. -/
def Node.place : Node → Nat
  | scalar place _ _ _ => place
  | list place _ _ => place
  | table place _ _ => place
  | reference _ => 0

namespace CollectionReader

/-- Meets a collection, which is read once. -/
def meet (r : CollectionReader) (n : Node) : Item × CollectionReader :=
  let item := Item.collection n.place
  if n.place ∈ r.met then (item, r)
  else (item, { r with met := n.place :: r.met, waiting := r.waiting ++ [n] })

/-- Reads what a node stands for, of which a collection is only met. -/
def item (d : Document) (fuel : Nat) (r : CollectionReader) (n : Node) :
    Except Fault (Item × CollectionReader) :=
  let target := d.target n
  if target.kind.isCollection then .ok (r.meet target)
  else (d.scalarValue fuel target.kind target).map fun s => (.scalar s, r)

/-- Reads what several nodes stand for. -/
def items (d : Document) (fuel : Nat) (r : CollectionReader) :
    List Node → Except Fault (List Item × CollectionReader)
  | [] => .ok ([], r)
  | n :: rest => do
    let (first, r) ← item d fuel r n
    let (others, r) ← items d fuel r rest
    return (first :: others, r)

/-- Reads a key, in which a value sign is a text. -/
def key (d : Document) (fuel : Nat) (n : Node) : Except Fault Triage.Scalar :=
  let kind := d.kindOf n
  if kind.isCollection then .error .malformed
  else d.scalarValue fuel (if kind = .value then .text else kind) n

/-- Reads entries, each key before its value. -/
def entries (d : Document) (fuel : Nat) (r : CollectionReader) :
    NodeEntries → Except Fault (List (Triage.Scalar × Item) × CollectionReader)
  | [] => .ok ([], r)
  | (k, v) :: rest => do
    let name ← key d fuel k
    let (value, r) ← item d fuel r v
    let (others, r) ← entries d fuel r rest
    return ((name, value) :: others, r)

/-- Reads tables of one entry each. Their keys may be collections. -/
def pairs (d : Document) (fuel : Nat) (r : CollectionReader) :
    List Node → Except Fault (List Item × CollectionReader)
  | [] => .ok ([], r)
  | n :: rest =>
    match d.target n with
    | .table _ _ [(k, v)] => do
      let (_, r) ← item d fuel r k
      let (_, r) ← item d fuel r v
      let (others, r) ← pairs d fuel r rest
      return (.scalar (.other "()") :: others, r)
    | _ => .error .malformed

/-- Reads what a collection holds, if its node has the form that its kind needs. -/
def collection (d : Document) (fuel : Nat) (r : CollectionReader) (n : Node) :
    Except Fault (Collection × CollectionReader) :=
  match n, n.kind with
  | .list _ _ nodes, .list => (items d fuel r nodes).map fun (found, r) => (.list found, r)
  | .list _ _ nodes, .pairs => (pairs d fuel r nodes).map fun (found, r) => (.list found, r)
  | .table place _ es, .table => do
    let (found, r) ← entries d fuel r (← d.flatten fuel [place] es)
    return (.table found, r)
  | .table place _ es, .set => do
    let (_, r) ← entries d fuel r (← d.flatten fuel [place] es)
    return (.set, r)
  | _, _ => .error .malformed

/-- Reads the collections that wait, and those that are met meanwhile. Each of them takes from
`count`, of which as many as there are nodes are enough. -/
def readAll (d : Document) (fuel : Nat) : Nat → CollectionReader →
    Except Fault (List (Nat × Collection))
  | 0, r => .ok r.finished
  | count + 1, r =>
    match r.waiting with
    | [] => .ok r.finished
    | n :: rest => do
      let (found, r) ← collection d fuel { r with waiting := rest } n
      readAll d fuel count { r with finished := (n.place, found) :: r.finished }

end CollectionReader

end Triage.Yaml
