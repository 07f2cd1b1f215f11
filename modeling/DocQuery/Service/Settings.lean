import DocQuery.Compiler.Compilation
import DocQuery.Text.Character

/-!
# Settings

The service is configured by named values. Texts are taken as they are; truth values may be given as
such, as the numbers zero and one, or by one of the customary words in any case. Names that are not
known are ignored. A value of the wrong form makes the settings invalid.

The allow-list of sort fields is the text of its setting, cut at commas, without blanks around the
names and without empty names.

## Main definitions

* `Settings`: the settings and their defaults.
* `Settings.ofEntries?`: the settings that named values describe.
* `Settings.allowedSortFields`: the allow-list of sort fields.
* `Compiler.ofSettings`: the compiler that settings ask for.
-/

namespace DocQuery

/-- The settings of the service. -/
structure Settings where
  /-- The name of the environment. -/
  environment : String := "local"
  /-- The name under which the service presents itself. -/
  serviceName : String := "urlquery"
  /-- The least level of messages that are logged. -/
  logLevel : String := "INFO"
  /-- Whether fields that are not declared are refused. -/
  validateFields : Bool := false
  /-- Whether a text of no other type stays a text. -/
  textFallback : Bool := true
  /-- The allow-list of sort fields, between commas. -/
  sortFields : String := ""

namespace Settings

/-- The words for true. -/
def trueWords : List String := ["1", "t", "y", "on", "yes", "true"]

/-- The words for false. -/
def falseWords : List String := ["0", "f", "n", "off", "no", "false"]

/-- A truth value given as a number. -/
def boolOfInt? (n : Int) : Option Bool :=
  if n = 0 then some false else if n = 1 then some true else none

/-- The floating-point number one. -/
def one : Number.Binary64 := .finite false Number.normalBound (-52)

/-- A truth value given as a floating-point number. -/
def boolOfNumber? (x : Number.Binary64) : Option Bool :=
  if x = .zero false ∨ x = .zero true then some false
  else if x = one then some true
  else none

/-- A truth value given as a word. -/
def boolOfWord? (word : String) : Option Bool :=
  if Text.lower word ∈ trueWords then some true
  else if Text.lower word ∈ falseWords then some false
  else none

/-- A truth value in any of its forms. -/
def readBool? : Value → Option Bool
  | .bool b => some b
  | .int n => boolOfInt? n
  | .float x => boolOfNumber? x
  | .text s => boolOfWord? s
  | _ => none

/-- A text. -/
def readText? : Value → Option String
  | .text s => some s
  | _ => none

/-- The settings after a named value has been read. -/
def set? (s : Settings) (name : String) (v : Value) : Option Settings :=
  match name with
  | "APP_ENV" => (readText? v).map fun t => { s with environment := t }
  | "APP_NAME" => (readText? v).map fun t => { s with serviceName := t }
  | "LOG_LEVEL" => (readText? v).map fun t => { s with logLevel := t }
  | "QUERY_VALIDATE_FIELDS" => (readBool? v).map fun b => { s with validateFields := b }
  | "QUERY_STRING_FALLBACK" => (readBool? v).map fun b => { s with textFallback := b }
  | "QUERY_SORT_FIELDS" => (readText? v).map fun t => { s with sortFields := t }
  | _ => some s

/-- The settings that named values describe, if all of them are valid. -/
def ofEntries? (entries : List (String × Value)) : Option Settings :=
  entries.foldlM (fun s e => s.set? e.1 e.2) {}

/-- The allow-list of sort fields; it restricts nothing if it is empty. -/
def allowedSortFields (s : Settings) : List String :=
  ((Text.commaPieces s.sortFields).map Text.trim).filter (· ≠ "")

end Settings

/-- The compiler that settings ask for, with a dialect and declared fields. -/
def Compiler.ofSettings (dialect : Option Dialect) (declared : Table String FieldDeclaration)
    (s : Settings) : Compiler where
  conversion := some (.chain (.standard dialect s.textFallback))
  declared := declared
  validate := s.validateFields

end DocQuery
