import MessageHarvest.Keyed
import MessageHarvest.Value.Binary64

/-!
# Setting values

Settings come from the environment, from the command line or from code, so a value may be of any
of these kinds until it is read as the one that is needed.
-/
namespace MessageHarvest

/-- The value of a setting. -/
inductive Value where
  | null
  | bool (b : Bool)
  | int (n : Int)
  | float (x : Binary64)
  | text (s : Text)
  | list (items : List Value)
  | tuple (items : List Value)
  | keyed (items : List (Text × Value))

namespace Value

/-- The name of the value's kind. -/
def kindName : Value → Text
  | null => "NoneType".toList
  | bool _ => "bool".toList
  | int _ => "int".toList
  | float _ => "float".toList
  | text _ => "str".toList
  | list _ => "list".toList
  | tuple _ => "tuple".toList
  | keyed _ => "dict".toList

/-- Whether the value counts as given: none, false, zero and what is empty do not. -/
def isGiven : Value → Bool
  | null => false
  | bool b => b
  | int n => n ≠ 0
  | float (.finite _ 0 _) => false
  | float _ => true
  | text s => !s.isEmpty
  | list items => !items.isEmpty
  | tuple items => !items.isEmpty
  | keyed items => !items.isEmpty

mutual

/-- The value written so that its kind can be seen. -/
def source : Value → Text
  | null => "None".toList
  | bool b => if b then "True".toList else "False".toList
  | int n => Text.ofInt n
  | float x => x.toText
  | text s => Text.quoted s
  | list items => '[' :: Text.joinWith ", ".toList (sources items) ++ [']']
  | tuple items =>
    match sources items with
    | [item] => '(' :: item ++ [',', ')']
    | items => '(' :: Text.joinWith ", ".toList items ++ [')']
  | keyed items => '{' :: Text.joinWith ", ".toList (itemSources items) ++ ['}']

/-- Each value written so. -/
def sources : List Value → List Text
  | [] => []
  | v :: vs => v.source :: sources vs

/-- Each key and value written so. -/
def itemSources : List (Text × Value) → List Text
  | [] => []
  | (key, v) :: items => (Text.quoted key ++ ": ".toList ++ v.source) :: itemSources items

end

/-- The value as text: a text is itself. -/
def shown : Value → Text
  | text s => s
  | v => v.source

end Value

/-- Settings by name. -/
abbrev Settings := Keyed Value

end MessageHarvest
