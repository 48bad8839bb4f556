import MessageHarvest.Text.Case
import MessageHarvest.Text.Quoted

/-!
# Plural forms of languages

A language is named by its code, which a script, a territory and a variant may follow after
underscores, then an encoding after a point and a modifier after an at sign. How many plural forms
there are is a matter of the locale; `known` is a short list of languages for which it hangs on the
code alone.
-/
namespace MessageHarvest.Plurals

/-- The parts of a name for a language and a place. -/
structure Locale where
  language : Text
  script : Option Text
  territory : Option Text
  variant : Option Text
  modifier : Option Text
deriving DecidableEq

/-- Why a name has no plural forms. -/
inductive Error where
  | notLetters (part : Text)
  | malformed (name : Text)
  | unknown (locale : Locale)
deriving DecidableEq

/-- The locale's name in its usual spelling. -/
def Locale.name (l : Locale) : Text :=
  Text.joinWith ['_'] (l.language :: (l.script.toList ++ l.territory.toList ++ l.variant.toList)) ++
    match l.modifier with
    | some m => '@' :: m
    | none => []

/-- What is reported. -/
def Error.message : Error → Text
  | notLetters part => "expected only letters, got ".toList ++ Text.quoted part
  | malformed name => Text.quoted name ++ " is not a valid locale identifier".toList
  | unknown locale => "unknown locale ".toList ++ Text.quoted locale.name

/-- A word of letters, of which there is at least one. -/
def isWordOfLetters (s : Text) : Bool := !s.isEmpty && s.all Text.isLetter

/-- Takes the first part if it passes the test. -/
def takeIf (test : Text → Bool) : List Text → Option Text × List Text
  | [] => (none, [])
  | part :: parts => if test part then (some part, parts) else (none, part :: parts)

/-- Four letters. -/
def isScript (part : Text) : Bool := part.length = 4 && isWordOfLetters part

/-- Two letters or three digits. -/
def isTerritory (part : Text) : Bool :=
  (part.length = 2 && isWordOfLetters part) || (part.length = 3 && part.all Text.isFigure)

/-- Four characters from a digit on, or more from a letter on. -/
def isVariant (part : Text) : Bool :=
  (part.length = 4 && part.head?.any Text.isFigure) ||
    (5 ≤ part.length && part.head?.any Text.isLetter)

/-- Reads the name of a locale. -/
def Locale.ofText (s : Text) : Except Error Locale :=
  let modifier := (s.dropWhile (· ≠ '@')).drop 1
  let name := (s.takeWhile (· ≠ '@')).takeWhile (· ≠ '.')
  match Text.pieces (· = '_') name with
  | [] => .error (.malformed name)
  | first :: parts =>
    let language := Text.toLower first
    if !isWordOfLetters language then .error (.notLetters language)
    else
      let script := takeIf isScript parts
      let territory := takeIf isTerritory script.2
      let variant := takeIf isVariant territory.2
      if variant.2.isEmpty then
        .ok ⟨language, script.1.map Text.toTitle, territory.1.map Text.toUpper,
          variant.1.map Text.toUpper, if modifier.isEmpty then none else some modifier⟩
      else .error (.malformed name)

/-- The number of plural forms of a language, by its name. -/
def ofLanguage (forms? : Locale → Option Nat) (s : Text) : Except Error Nat :=
  (Locale.ofText s).bind fun locale =>
    match forms? locale with
    | some n => .ok n
    | none => .error (.unknown locale)

/-- Language codes by their number of plural forms. -/
def table : List (Nat × List String) :=
  [(1, ["fa", "hu", "hy", "ja", "ka", "km", "ko", "lo", "th", "tr", "vi", "zh"]),
    (2, ["af", "bg", "bn", "ca", "da", "de", "el", "en", "eo", "es", "et", "eu", "fi", "fr", "gl",
      "ha", "he", "hi", "is", "it", "nb", "nl", "nn", "no", "pa", "pt", "sv", "xh"]),
    (3, ["be", "bs", "cs", "hr", "lt", "lv", "pl", "ro", "ru", "sk", "sr", "uk"]),
    (4, ["mt", "sl"]),
    (5, ["cy", "ga"]),
    (6, ["ar", "br"])]

/-- The number of plural forms of a locale whose language is in the table. -/
def known (l : Locale) : Option Nat :=
  (table.find? fun row => row.2.any (·.toList = l.language)).map (·.1)

end MessageHarvest.Plurals
