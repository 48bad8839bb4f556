import MessageHarvest.Notice
import MessageHarvest.Text.Integer
import MessageHarvest.Value.Basic

/-!
# Reading settings as the kind that is needed

Environment variables hold only text, so every kind can also be read from its text. A value that
cannot be read is refused with the name of its setting.
-/
namespace MessageHarvest

/-- The kinds that a setting may be needed as. -/
inductive Wanted where
  | boolean
  | integer
  | list

/-- Why a setting cannot be read. -/
inductive SettingError where
  | mismatch (key : Text) (value : Value) (wanted : Wanted)
  | infinite
  | notANumber
  | notNumeric (value : Value)

/-- The kind in words. -/
def Wanted.words : Wanted → Text
  | boolean => "a boolean".toList
  | integer => "an integer".toList
  | list => "a list".toList

/-- What is reported. -/
def SettingError.message : SettingError → Text
  | mismatch key value wanted =>
    "Option '".toList ++ key ++ "' has value ".toList ++ value.source ++ " (".toList ++
      value.kindName ++ "), expected ".toList ++ wanted.words
  | infinite => "cannot convert float infinity to integer".toList
  | notANumber => "cannot convert float NaN to integer".toList
  | notNumeric value =>
    "int() argument must be a string, a bytes-like object or a real number, not '".toList ++
      value.kindName ++ "'".toList

/-- The texts that mean yes. -/
def trueTexts : List Text := ["true".toList, "yes".toList, "1".toList]

/-- The texts that mean no. -/
def falseTexts : List Text := ["false".toList, "no".toList, "0".toList, []]

/-- The parts of a list written as text, between commas or semicolons. -/
def listParts (s : Text) : List Text :=
  ((Text.pieces (fun c => c = ';' || c = ',') s).map Text.trim).filter fun part => !part.isEmpty

namespace Settings

/-- The value of a setting, or the default if it is not set. A setting may be set to nothing. -/
def valueOf (settings : Settings) (key : Text) (default : Value) : Value :=
  (settings.get? key).getD default

/-- A setting as a boolean. -/
def getBool (settings : Settings) (key : Text) (default : Value) : Except SettingError Bool :=
  match settings.valueOf key default with
  | .null => .ok false
  | .bool b => .ok b
  | .int n => .ok (n ≠ 0)
  | .text s =>
    if trueTexts.contains (Text.asciiLower s) then .ok true
    else if falseTexts.contains (Text.asciiLower s) then .ok false
    else .error (.mismatch key (.text s) .boolean)
  | value => .error (.mismatch key value .boolean)

/-- A setting as an integer. -/
def getInt (settings : Settings) (key : Text) (default : Value) :
    Except SettingError (Option Int) :=
  match settings.valueOf key default with
  | .null => .ok none
  | .bool b => .ok (some (if b then 1 else 0))
  | .int n => .ok (some n)
  | .float (.finite negative mantissa exponent) =>
    .ok (some (Binary64.truncate negative mantissa exponent))
  | .float (.infinite _) => .error .infinite
  | .float .notANumber => .error .notANumber
  | .text s =>
    match Integer.ofText? s with
    | some n => .ok (some n)
    | none => .error (.mismatch key (.text s) .integer)
  | value => .error (.mismatch key value .integer)

/-- A setting as text. A list is shown with commas. -/
def getText (settings : Settings) (key : Text) (default : Value) : Option Text :=
  match settings.valueOf key default with
  | .null => none
  | .list items => some (Text.joinWith ", ".toList (items.map Value.shown))
  | value => some value.shown

/-- A setting as a list. -/
def getList (settings : Settings) (key : Text) (default : Value) :
    Except SettingError (List Value) :=
  match settings.valueOf key default with
  | .null => .ok []
  | .list items => .ok items
  | .tuple items => .ok items
  | .text s => .ok ((listParts s).map .text)
  | value => .error (.mismatch key value .list)

/-- A value that is there. -/
def isPresent : Value → Bool
  | .null => false
  | _ => true

/-- A setting as a list of texts. -/
def getTexts (settings : Settings) (key : Text) (default : Value) :
    Except SettingError (List Text) :=
  (settings.getList key (if default.isGiven then default else .list [])).map fun items =>
    (items.filter isPresent).map fun item => Text.trim item.shown

/-- Merges settings. Those that are set to nothing do not hide others. -/
def update (settings new : Settings) : Settings :=
  settings.putAll (new.filter fun item => isPresent item.2)

end Settings

/-- Environment variables by name. -/
abbrev Environment := Keyed Text

namespace Environment

/-- The value of a variable, or the default if it is not set. -/
def valueOf (env : Environment) (name : Text) (default : Value) : Value :=
  ((env.get? name).map Value.text).getD default

/-- A variable as a boolean: anything that does not mean yes means no. -/
def getBool (env : Environment) (name : Text) (default : Value) : Bool :=
  trueTexts.contains (Text.asciiLower (env.valueOf name default).shown)

/-- A variable as an integer. A blank one is not set, and one that is no number is ignored with a
notice. -/
def getInt (env : Environment) (name : Text) (default : Value) :
    Except SettingError (Option Int × List Notice) :=
  match env.valueOf name default with
  | .null => .ok (none, [])
  | .text s =>
    if (Text.trim s).isEmpty then .ok (none, [])
    else match Integer.ofText? s with
      | some n => .ok (some n, [])
      | none => .ok (none, [.ignoredVariable name s])
  | .bool b => .ok (some (if b then 1 else 0), [])
  | .int n => .ok (some n, [])
  | .float (.finite negative mantissa exponent) =>
    .ok (some (Binary64.truncate negative mantissa exponent), [])
  | .float (.infinite _) => .error .infinite
  | .float .notANumber => .ok (none, [.ignoredVariable name Binary64.notANumber.toText])
  | value => .error (.notNumeric value)

/-- A variable as text. -/
def getText (env : Environment) (name : Text) (default : Value) : Option Text :=
  match env.valueOf name default with
  | .null => none
  | value => some value.shown

end Environment

end MessageHarvest
