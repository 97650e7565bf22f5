import PEInspect.Document.Entries
import PEInspect.Metadata.Tables

/-!
# Type lookup

Finding a type by namespace and name: by a scan of the type list, or through an index that is built
at the first search and kept until it is dropped. Of several types with one name both find the
first. An index stands empty while it is built, and stays so if the types cannot be listed.
-/

namespace PEInspect

/-- The types of a list by namespace and name. -/
abbrev TypeIndex := Document.Entries (String × String) TypeInfo

/-- The index of a list of types; of equal names the first counts. -/
def TypeIndex.ofList (types : List TypeInfo) : TypeIndex :=
  types.foldl (fun index t => Document.Entries.insertNew index (t.space, t.name) t) []

/-- The first type of a list with a namespace and name. -/
def firstNamed (types : List TypeInfo) (space name : String) : Option TypeInfo :=
  types.find? fun t => t.space == space && t.name == name

/-- How a module looks types up: whether through an index, and the index once it is built. -/
structure TypeLookup where
  enabled : Bool := false
  index : Option TypeIndex := none
  deriving Repr, DecidableEq, Inhabited

namespace TypeLookup

/-- Switches the index on or off; switching it off drops it. -/
def enable (l : TypeLookup) (enabled : Bool) : TypeLookup :=
  ⟨enabled, if enabled then l.index else none⟩

/-- Drops the index without switching it off. -/
def drop (l : TypeLookup) : TypeLookup :=
  { l with index := none }

/-- Starts to build the index if there is none: it stands empty until the types are listed. -/
def start (l : TypeLookup) : TypeLookup :=
  if l.enabled then { l with index := some (l.index.getD []) } else l

/-- Finds a type among the present types, or in the index built from earlier ones. -/
def find (l : TypeLookup) (types : List TypeInfo) (space name : String) :
    Option TypeInfo × TypeLookup :=
  if l.enabled then
    let index := l.index.getD (TypeIndex.ofList types)
    (index.lookup (space, name), { l with index := some index })
  else (firstNamed types space name, l)

end TypeLookup

end PEInspect
