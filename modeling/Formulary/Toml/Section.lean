import Formulary.Table
import Formulary.Toml.Basic

/-!
Putting the sections of a TOML text together. A table is written once: a header may add to a table
that so far is only implied by longer headers, and a dotted key to one that is only implied by other
dotted keys of the same section.
-/

namespace Formulary.Toml

structure Pair where
  path : List String
  value : Value
deriving Repr

inductive Header where
  | table (path : List String)
  /-- A further table in an array of tables. -/
  | element (path : List String)
deriving Repr

/-- What stands at a key while a text is put together. -/
inductive Node where
  | value (v : Value)
  /-- A table: whether it is only implied, whether by a dotted key, and its entries. -/
  | table (implied dotted : Bool) (entries : List (String × Node))
  /-- An array of tables, the last one first. -/
  | tables (elements : List (List (String × Node)))

/-- A table under construction. -/
structure Body where
  implied : Bool
  dotted : Bool
  entries : List (String × Node)

def Body.node (b : Body) : Node := .table b.implied b.dotted b.entries

/-- Changes the table at the end of a path. Tables on the way that are not there yet are implied; of
an array of tables the last is meant. A dotted key does not pass through a table that a header
wrote. -/
def Body.change (dotted : Bool) (f : Body → Option Body) : List String → Body → Option Body
  | [], b => f b
  | k :: path, b => do
    let node ←
      match findEntry k b.entries with
      | none => Body.node <$> Body.change dotted f path ⟨true, dotted, []⟩
      | some (.value _) => none
      | some (.table implied isDotted entries) =>
        if dotted && !implied then none
        else Body.node <$> Body.change dotted f path ⟨implied, isDotted, entries⟩
      | some (.tables []) => none
      | some (.tables (last :: before)) => do
        let body ← Body.change dotted f path ⟨false, false, last⟩
        some (.tables (body.entries :: before))
    some ⟨b.implied, b.dotted, setEntry k node b.entries⟩

/-- Writes a value at a key of one part. The key must be new, and a table that was reached over a
dotted key must be one that dotted keys made. -/
def Body.write (isPart : Bool) (k : String) (v : Value) (b : Body) : Option Body :=
  if b.dotted != isPart then none
  else
    match findEntry k b.entries with
    | some _ => none
    | none => some ⟨b.implied, b.dotted, setEntry k (.value v) b.entries⟩

def Body.add (b : Body) (p : Pair) : Option Body :=
  match p.path.reverse with
  | [] => none
  | k :: path => b.change true (Body.write (!path.isEmpty) k p.value) path.reverse

def Body.addAll (b : Body) (pairs : List Pair) : Option Body := pairs.foldlM Body.add b

/-- A table that a header wrote. -/
def Body.explicit (entries : List (String × Node)) : Body := ⟨false, false, entries⟩

def otherEntries (k : String) (entries : List (String × Node)) : List (String × Node) :=
  entries.filter fun e => e.1 != k

/-- Adds a section to the table of the whole text. A header that writes a table which so far was
only implied moves its key behind the others. -/
def Body.addSection (root : Body) (h : Header) (pairs : List Pair) : Option Body :=
  let (path, isElement) := match h with
    | .table path => (path, false)
    | .element path => (path, true)
  match path.reverse with
  | [] => none
  | k :: parent =>
    root.change false (fun b =>
      if isElement then do
        let before ← match findEntry k b.entries with
          | none => some []
          | some (.tables elements) => some elements
          | some _ => none
        let body ← (Body.explicit []).addAll pairs
        some ⟨b.implied, b.dotted, setEntry k (.tables (body.entries :: before)) b.entries⟩
      else do
        let entries ← match findEntry k b.entries with
          | none => some []
          | some (.table true false entries) => some entries
          | some _ => none
        let body ← (Body.explicit entries).addAll pairs
        some ⟨b.implied, b.dotted, otherEntries k b.entries ++ [(k, body.node)]⟩) parent.reverse

mutual

def Node.finish : Node → Value
  | .value v => v
  | .table _ _ entries => .table (finishEntries entries)
  | .tables elements => .array (finishTables elements).reverse

def finishEntries : List (String × Node) → List (String × Value)
  | [] => []
  | (k, node) :: rest => (k, node.finish) :: finishEntries rest

def finishTables : List (List (String × Node)) → List Value
  | [] => []
  | entries :: rest => .table (finishEntries entries) :: finishTables rest

end

/-- The table of a whole text from its sections. -/
def document (pairs : List Pair) (sections : List (Header × List Pair)) :
    Option (List (String × Value)) := do
  let root ← (Body.explicit []).addAll pairs
  let root ← sections.foldlM (fun root s => root.addSection s.1 s.2) root
  some (finishEntries root.entries)

def inlineTable (pairs : List Pair) : Option Value := do
  let body ← (Body.explicit []).addAll pairs
  some (.table (finishEntries body.entries))

end Formulary.Toml
