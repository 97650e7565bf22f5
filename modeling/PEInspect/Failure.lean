import PEInspect.Text.Defect
import PEInspect.Text.Quoted

/-!
# Failures

The causes for which an operation stops, and the message of each. A parser of untrusted input does
not stop: it answers with a refusal, which is a reason and perhaps a failure behind it.
-/

namespace PEInspect

/-- Why the file system turns a path down. -/
inductive SystemError where
  | missing
  | present
  | denied
  | notDirectory
  | isDirectory
  | nameTooLong
  | loop
  deriving Repr, DecidableEq, Inhabited

namespace SystemError

/-- The number of a file-system error. -/
def number : SystemError → Nat
  | .missing => 2
  | .denied => 13
  | .present => 17
  | .notDirectory => 20
  | .isDirectory => 21
  | .nameTooLong => 36
  | .loop => 40

/-- The wording of a file-system error. -/
def wording : SystemError → String
  | .missing => "No such file or directory"
  | .denied => "Permission denied"
  | .present => "File exists"
  | .notDirectory => "Not a directory"
  | .isDirectory => "Is a directory"
  | .nameTooLong => "File name too long"
  | .loop => "Too many levels of symbolic links"

/-- Whether an error only says that there is nothing at a path. -/
def meansAbsence : SystemError → Bool
  | .missing | .notDirectory | .loop => true
  | _ => false

end SystemError

/-- The causes of failure. Kinds of values are given by their names. -/
inductive Failure where
  /-- A file that has a path is given another one. -/
  | pathAlreadySet
  /-- A file is given the empty path. -/
  | pathEmpty
  /-- A value is asked for a member that its kind does not have. -/
  | noMember (kind member : String)
  /-- A value of this kind is entered like a file. -/
  | notEnterable (kind : String)
  /-- A value of this kind is asked how many parts it has. -/
  | notCountable (kind : String)
  /-- An operation is given an argument that it does not take. -/
  | strangeArgument (operation argument : String)
  /-- An operation is not given some arguments that it needs. -/
  | missingArguments (operation : String) (arguments : List String)
  /-- The file system turns a path down. -/
  | system (error : SystemError) (path : String)
  /-- A path holds the character that ends texts of the system. -/
  | nulInPath
  /-- An empty file is mapped. -/
  | emptyMap
  /-- A closed map is read. -/
  | closedMap
  /-- A text takes the place of a name and is none. -/
  | invalidName (name : String)
  /-- A log is set to a level that is no name of a level. -/
  | unknownLevel (level : String)
  /-- A log is set to a level that is not even a text. -/
  | levelNotText (shown : String)
  /-- A text read as a whole number is none. -/
  | notInteger (shown : String)
  /-- A whole number is read from too many digits. -/
  | tooManyDigits (count : Nat)
  /-- A whole number is too long to be written in digits. -/
  | unwritableNumber
  /-- A number without a size is cut off to a whole one. -/
  | notFinite (shown : String)
  /-- A value of this kind is no number. -/
  | notIntegerKind (kind : String)
  /-- A value of this kind is no path. -/
  | notPath (kind : String)
  /-- A value of this kind has no JSON form. -/
  | notWritable (kind : String)
  /-- A value of this kind has no items. -/
  | notIterable (kind : String)
  /-- A text is asked for a key. -/
  | textIndexedByText
  /-- A list is asked for a key. -/
  | listIndexedByText
  /-- A value of this kind is appended to a text. -/
  | notText (kind : String)
  /-- Bytes are taken for a path text. -/
  | bytesSplitByText
  /-- A value of this kind is called. -/
  | notCallable (kind : String)
  /-- A list is asked for an item outside of it. -/
  | indexOutOfRange
  /-- A table without messages of its own is asked for an item outside of it. -/
  | directoryOutOfRange
  /-- A slot is removed that does not exist. -/
  | slotMissing
  /-- A text is no document of its format. -/
  | malformedDocument
  /-- The parts of a document lie inside each other too deeply. -/
  | deepNesting
  /-- Bytes are no UTF-8 text. -/
  | notUtf8
  /-- A part that the library relies on fails with a message of its own. -/
  | raised (text : String)
  deriving Repr, DecidableEq, Inhabited

namespace Failure

/-- The start of the messages about whole numbers with too many digits. -/
def digitLimit : String :=
  "Exceeds the limit (" ++ toString Text.maxDigits ++ " digits) for integer string conversion"

/-- The end of the messages about whole numbers with too many digits. -/
def digitAdvice : String :=
  "; use sys.set_int_max_str_digits() to increase the limit"

/-- The names of one or two arguments in a sentence. -/
def argumentList (arguments : List String) : String :=
  " and ".intercalate (arguments.map fun a => "'" ++ a ++ "'")

/-- The message about arguments that are missing. -/
def missingText (operation : String) (arguments : List String) : String :=
  operation ++ "() missing " ++ toString arguments.length ++ " required positional argument" ++
    (if arguments.length = 1 then ": " else "s: ") ++ argumentList arguments

/-- The message of a failure. -/
def message : Failure → String
  | .pathAlreadySet => "file_path is already set"
  | .pathEmpty => "file_path can't be empty"
  | .noMember kind member => s!"'{kind}' object has no attribute '{member}'"
  | .notEnterable kind => s!"'{kind}' object does not support the context manager protocol"
  | .notCountable kind => s!"object of type '{kind}' has no len()"
  | .strangeArgument operation argument =>
    s!"{operation}() got an unexpected keyword argument '{argument}'"
  | .missingArguments operation arguments => missingText operation arguments
  | .system error path =>
    "[Errno " ++ toString error.number ++ "] " ++ error.wording ++ ": " ++ Text.quoted path
  | .nulInPath => "embedded null byte"
  | .emptyMap => "cannot mmap an empty file"
  | .closedMap => "mmap closed or invalid"
  | .invalidName name => "Invalid name " ++ Text.quoted name
  | .unknownLevel level => "Unknown level: " ++ Text.quoted level
  | .levelNotText shown => "Level not an integer or a valid string: " ++ shown
  | .notInteger shown => "invalid literal for int() with base 10: " ++ shown
  | .tooManyDigits count =>
    digitLimit ++ ": value has " ++ toString count ++ " digits" ++ digitAdvice
  | .unwritableNumber => digitLimit ++ digitAdvice
  | .notFinite shown => "cannot convert float " ++ shown ++ " to integer"
  | .notIntegerKind kind =>
    s!"int() argument must be a string, a bytes-like object or a real number, not '{kind}'"
  | .notPath kind => s!"expected str, bytes or os.PathLike object, not {kind}"
  | .notWritable kind => s!"Object of type {kind} is not JSON serializable"
  | .notIterable kind => s!"argument of type '{kind}' is not iterable"
  | .textIndexedByText => "string indices must be integers, not 'str'"
  | .listIndexedByText => "list indices must be integers or slices, not str"
  | .notText kind => s!"can only concatenate str (not \"{kind}\") to str"
  | .bytesSplitByText => "a bytes-like object is required, not 'str'"
  | .notCallable kind => s!"'{kind}' object is not callable"
  | .indexOutOfRange => "list index out of range"
  | .directoryOutOfRange => ""
  | .slotMissing => "slot missing"
  | .malformedDocument => "malformed document"
  | .deepNesting => "document nested too deeply"
  | .notUtf8 => "text is not UTF-8"
  | .raised text => text

/-- The failure behind a defect of a text, where a malformed text has a failure of its own. -/
def ofDefect (malformed : Failure) : Defect → Failure
  | .malformed => malformed
  | .longNumber digits => .tooManyDigits digits
  | .deepNesting => .deepNesting

end Failure

/-- The answer of a parser that turns its input down. -/
structure Refusal where
  reason : String
  cause : Option Failure := none
  deriving Repr, DecidableEq, Inhabited

/-- The text of a refusal: its reason, then the message of the failure behind it. -/
def Refusal.text (r : Refusal) : String :=
  match r.cause with
  | none => r.reason
  | some cause => r.reason ++ ": " ++ cause.message

end PEInspect
