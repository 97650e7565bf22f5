import PEInspect.Document.Value

/-!
# Namespaces of a TOML document

How key-value pairs and table headers build up nested tables, and which of them contradict each
other. A table can be opened by one header only, dotted keys do not reopen a table with a header of
its own, and a value that was written in place is closed for good.
-/

namespace PEInspect.Toml

open Document

/-- Changes the table at a path of keys, creating tables on the way. A list of tables stands for
its last item when `throughLists` is set; any other value blocks the way. -/
def changeAt (throughLists : Bool) (change : Table → Option Table) :
    List String → Table → Option Table
  | [], t => change t
  | k :: ks, t =>
    match t.lookup k with
    | none => (changeAt throughLists change ks []).map fun sub => Entries.insert t k (.table sub)
    | some (.table sub) =>
      (changeAt throughLists change ks sub).map fun sub => Entries.insert t k (.table sub)
    | some (.list items) =>
      if throughLists then
        match items.getLast? with
        | some (.table sub) =>
          (changeAt throughLists change ks sub).map fun sub =>
            Entries.insert t k (.list (items.dropLast ++ [.table sub]))
        | _ => none
      else none
    | some _ => none

/-- Writes a value under a key that the table does not have yet. -/
def putNew (key : String) (v : Value) (t : Table) : Option Table :=
  if Entries.has t key then none else some (Entries.insert t key v)

/-- Adds an empty table to the list under a key. -/
def appendTable (key : String) (t : Table) : Option Table :=
  match t.lookup key with
  | none => some (Entries.insert t key (.list [.table []]))
  | some (.list items) => some (Entries.insert t key (.list (items ++ [.table []])))
  | some _ => none

/-- Values that are built of others are closed once they are written. -/
def isComposite : Value → Bool
  | .list _ | .table _ => true
  | _ => false

/-- Whether a path lies at or below one of some closed paths. -/
def isWithin (closed : List (List String)) (path : List String) : Bool :=
  closed.any fun p => p.isPrefixOf path

/-- An inline table under construction: its entries, and the paths that are closed in it. -/
structure InlineDraft where
  entries : Table := []
  closed : List (List String) := []
  deriving Repr

/-- Adds one pair to an inline table. -/
def InlineDraft.add (d : InlineDraft) (path : List String) (v : Value) : Option InlineDraft :=
  if isWithin d.closed path then none
  else do
    let entries ← changeAt false (putNew (path.getLast?.getD "") v) path.dropLast d.entries
    return ⟨entries, if isComposite v then path :: d.closed else d.closed⟩

/-- A line of a document: a pair, the header of a table, or the header of a list's next table. -/
inductive Statement where
  | pair (path : List String) (v : Value)
  | header (path : List String)
  | listHeader (path : List String)
  deriving Repr

/-- A document under construction: its tables, the header in force, the paths that headers have
opened, the paths that dotted keys have opened since the last header, and the closed paths. -/
structure Draft where
  root : Table := []
  header : List String := []
  opened : List (List String) := []
  pending : List (List String) := []
  closed : List (List String) := []
  deriving Repr

namespace Draft

/-- A new header makes the paths of dotted keys before it count as opened. -/
def settle (d : Draft) : Draft :=
  { d with opened := d.pending ++ d.opened, pending := [] }

/-- The paths that a dotted key opens below the header in force. -/
def dottedPaths (d : Draft) (path : List String) : List (List String) :=
  (List.range (path.length - 1)).map fun i => d.header ++ path.take (i + 1)

/-- Adds one statement. -/
def add (d : Draft) : Statement → Option Draft
  | .pair path v =>
    let dotted := d.dottedPaths path
    let parent := d.header ++ path.dropLast
    if dotted.any fun p => d.opened.contains p then none
    else if isWithin d.closed parent then none
    else do
      let root ← changeAt true (putNew (path.getLast?.getD "") v) parent d.root
      let whole := d.header ++ path
      return { d with
        root := root
        pending := dotted ++ d.pending
        closed := if isComposite v then whole :: d.closed else d.closed }
  | .header path =>
    let d := d.settle
    if d.opened.contains path || isWithin d.closed path then none
    else do
      let root ← changeAt true some path d.root
      return { d with root := root, header := path, opened := path :: d.opened }
  | .listHeader path =>
    let d := d.settle
    if isWithin d.closed path then none
    else do
      let root ← changeAt true (appendTable (path.getLast?.getD "")) path.dropLast d.root
      let outside (p : List String) : Bool := !path.isPrefixOf p
      return { d with
        root := root
        header := path
        opened := path :: d.opened.filter outside
        closed := d.closed.filter outside }

end Draft

end PEInspect.Toml
