import PEInspect.Document.Calendar
import PEInspect.Document.Entries
import PEInspect.Number.Binary64
import PEInspect.Text.Defect

/-!
# Document values

What a configuration document can hold under a key. Settings keep such values as they were read,
so every use of a setting has to look at the kind of its value.
-/

namespace PEInspect.Document

/-- A value of a document. -/
inductive Value where
  | null
  | bool (b : Bool)
  | int (i : Int)
  | float (x : Number.Binary64)
  | text (s : String)
  | list (items : List Value)
  | table (entries : List (String × Value))
  | date (d : Date)
  | time (t : Time)
  | moment (m : Moment)
  deriving Repr, Inhabited

/-- A table of a document. -/
abbrev Table := Entries String Value

namespace Value

/-- The name of a value's kind, as messages give it. -/
def kind : Value → String
  | .null => "NoneType"
  | .bool _ => "bool"
  | .int _ => "int"
  | .float _ => "float"
  | .text _ => "str"
  | .list _ => "list"
  | .table _ => "dict"
  | .date _ => "date"
  | .time _ => "time"
  | .moment _ => "datetime"

/-- The name of a value's kind with its module where that is not the standard one. -/
def qualifiedKind (v : Value) : String :=
  match v with
  | .date _ | .time _ | .moment _ => "datetime." ++ v.kind
  | _ => v.kind

/-- Whether a value counts as set: everything except null, false, zeros and empty values does. -/
def isTruthy : Value → Bool
  | .null => false
  | .bool b => b
  | .int i => i != 0
  | .float x => !x.isZero
  | .text s => !s.isEmpty
  | .list items => !items.isEmpty
  | .table entries => !entries.isEmpty
  | .date _ | .time _ | .moment _ => true

/-- Whether a value is one given text. -/
def isText (v : Value) (s : String) : Bool :=
  match v with
  | .text t => t == s
  | _ => false

mutual

/-- Whether a value is or holds a whole number of too many digits. -/
def hasLongNumber : Value → Bool
  | .int i => Text.isLongNumber i
  | .list items => anyLongNumber items
  | .table entries => anyLongEntry entries
  | _ => false

/-- Whether one of some values is or holds a whole number of too many digits. -/
def anyLongNumber : List Value → Bool
  | [] => false
  | v :: rest => hasLongNumber v || anyLongNumber rest

/-- Whether one of some entries is or holds a whole number of too many digits. -/
def anyLongEntry : List (String × Value) → Bool
  | [] => false
  | (_, v) :: rest => hasLongNumber v || anyLongEntry rest

end

end Value

end PEInspect.Document
