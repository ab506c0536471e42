import AuditReport.Decode.Basic
import AuditReport.Text.Numeral
import AuditReport.Text.Quoted

/-!
# What can go wrong

Faults of the input are told to the user by `Fault.message`. A `Defect` is a value of a kind that
no check foresees; it ends a run without being reported as a fault of any contract.
-/
namespace AuditReport

inductive BytecodeFlaw where
  | notHexadecimal
  | oddDigits (count : Nat)
  deriving DecidableEq, Repr, Inhabited

inductive IntegerFlaw where
  | text (s : String) (flaw : Text.Numeral.Flaw)
  | list
  | object
  | notANumber
  deriving DecidableEq, Repr, Inhabited

inductive ConfigFlaw where
  | threshold (n : Int)
  | integer (flaw : IntegerFlaw)
  | invalid (complaints : List Decode.Complaint)
  deriving DecidableEq, Repr, Inhabited

inductive PathFlaw where
  | notFound
  | isDirectory
  | notDirectory
  | nameTooLong
  deriving DecidableEq, Repr, Inhabited

inductive CommandFlaw where
  | unreadable (path : String) (flaw : PathFlaw)
  | notJson (path : String)
  | resultsShape
  | invalidResults (complaints : List Decode.Complaint)
  | unkeyedResults (contracts : Nat)
  deriving DecidableEq, Repr, Inhabited

/-- Why a title cannot be shown. -/
inductive MarkupFlaw where
  /-- A closing tag has no open one. -/
  | unopened
  /-- A component of a colour has no digits, or too many. -/
  | colorComponent
  deriving DecidableEq, Repr, Inhabited

/-- A value of a kind that is not foreseen. -/
inductive Defect where
  /-- An object was needed to look up a key. -/
  | notObject
  /-- A list was needed to walk through. -/
  | notIterable
  /-- An object was needed to take the entries of. -/
  | notMapping
  /-- A list or an object stands where a key is needed. -/
  | unhashableKey
  /-- The last digit of hexadecimal text stands alone before a line feed. -/
  | danglingDigit
  | infiniteInteger
  | oversizedInteger
  /-- The values of a document lie too deep in one another. -/
  | tooDeep
  /-- A document has half of a surrogate pair, for which there is no character. -/
  | loneSurrogate
  | notUtf8
  | unwritable (flaw : PathFlaw)
  | nullInPath
  | unknownTone
  | markup (flaw : MarkupFlaw)
  deriving DecidableEq, Repr, Inhabited

inductive Fault where
  | bytecode (field : String) (flaw : BytecodeFlaw)
  | location (field value : String)
  | sourceMap (instruction : Int) (entries : Nat)
  | config (flaw : ConfigFlaw)
  | command (flaw : CommandFlaw)
  | invalid (complaints : List Decode.Complaint)
  | defect (d : Defect)
  deriving DecidableEq, Repr, Inhabited

def BytecodeFlaw.message : BytecodeFlaw → String
  | notHexadecimal => "non-hexadecimal characters"
  | oddDigits n => s!"odd number of hex digits ({n})"

/-- A long quotation is cut after 200 characters. -/
def shortQuote (s : String) : String :=
  String.ofList ((Text.quote s).toList.take 200)

def IntegerFlaw.message : IntegerFlaw → String
  | text s .malformed => s!"invalid literal for int() with base 10: {shortQuote s}"
  | text _ (.tooLong n) =>
    s!"Exceeds the limit ({Text.Numeral.maxDigits} digits) for integer string conversion: " ++
      s!"value has {n} digits; use sys.set_int_max_str_digits() to increase the limit"
  | list => "int() argument must be a string, a bytes-like object or a real number, not 'list'"
  | object => "int() argument must be a string, a bytes-like object or a real number, not 'dict'"
  | notANumber => "cannot convert float NaN to integer"

def PathFlaw.message : PathFlaw → String
  | notFound => "[Errno 2] No such file or directory"
  | isDirectory => "[Errno 21] Is a directory"
  | notDirectory => "[Errno 20] Not a directory"
  | nameTooLong => "[Errno 36] File name too long"

def stepText : Decode.Step → String
  | .key name => name
  | .item n => toString n

def Decode.Code.word : Decode.Code → String
  | missing => "missing"
  | notModel => "model_type"
  | notText => "string_type"
  | notInteger => "int_type"
  | unreadableInteger => "int_parsing"
  | oversizedInteger => "int_parsing_size"
  | fractionalInteger => "int_from_float"
  | notFinite => "finite_number"
  | notTruth => "bool_type"
  | unreadableTruth => "bool_parsing"
  | notList => "list_type"
  | notTuple => "tuple_type"
  | notObject => "dict_type"
  | notLiteral => "literal_error"

/-- One line a complaint: the path, dotted, and the code. -/
def complaintsText (cs : List Decode.Complaint) : String :=
  "\n".intercalate (cs.map fun c => ".".intercalate (c.path.map stepText) ++ ": " ++ c.code.word)

def ConfigFlaw.message : ConfigFlaw → String
  | threshold n => s!"invalid severity threshold {n}"
  | integer f => "invalid configuration: " ++ f.message
  | invalid cs => "invalid configuration: " ++ complaintsText cs

def CommandFlaw.message : CommandFlaw → String
  | unreadable path f => s!"cannot read {path}: {f.message}: {Text.quote path}"
  | notJson path => s!"{path} is not valid JSON"
  | resultsShape => "analysis results must be a JSON object or array"
  | invalidResults cs => "malformed analysis results: " ++ complaintsText cs
  | unkeyedResults n => s!"results are not keyed by contract name but the build holds {n} contracts"

def Defect.message : Defect → String
  | notObject => "a value that is no object has no entries to look up"
  | notIterable => "a number or truth value has no items"
  | notMapping => "a value that is no object has no entries"
  | unhashableKey => "a list or an object is no key"
  | danglingDigit => "a hexadecimal digit stands alone before a line feed"
  | infiniteInteger => "infinity is no whole number"
  | oversizedInteger => "an integer has too many digits"
  | tooDeep => "values lie too deep in one another"
  | loneSurrogate => "half of a surrogate pair is no character"
  | notUtf8 => "the bytes are not UTF-8"
  | unwritable f => f.message
  | nullInPath => "a path holds a null character"
  | unknownTone => "no such tone"
  | markup .unopened => "a closing tag has no open one"
  | markup .colorComponent => "a component of a colour is no number"

namespace Fault

def message : Fault → String
  | bytecode field flaw => s!"invalid bytecode in {field}: {flaw.message}"
  | location field value => s!"invalid location in {field}: {Text.quote value}"
  | sourceMap i n =>
    s!"inconsistent source map: instruction {i} is outside the {n} mapped entries"
  | config flaw => flaw.message
  | command flaw => flaw.message
  | invalid cs => "malformed build record: " ++ complaintsText cs
  | defect d => d.message

/-- Faults that are told as errors of one contract while the others go on. -/
def isReported : Fault → Bool
  | bytecode .. | location .. | sourceMap .. | config _ => true
  | command _ | invalid _ | defect _ => false

end Fault

/-- A decoded value, or the fault that a record is invalid. -/
def Decode.Checked.orFault {α : Type} : Decode.Checked α → Except Fault α
  | .ok a => .ok a
  | .bad cs => .error (.invalid cs)

end AuditReport
