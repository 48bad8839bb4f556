import MessageHarvest.File.Error

/-!
# Notices

What a run has to say beside its result. Every notice is a value that names what happened; its
level and its wording are told here alone.
-/
namespace MessageHarvest

/-- How much a notice matters. -/
inductive Level where
  | debug
  | info
  | warning
  | error
deriving DecidableEq

namespace Level

/-- The level's name. -/
def name : Level → Text
  | debug => "DEBUG".toList
  | info => "INFO".toList
  | warning => "WARNING".toList
  | error => "ERROR".toList

/-- The level as a number; a threshold lets through what is not below it. -/
def rank : Level → Nat
  | debug => 10
  | info => 20
  | warning => 30
  | error => 40

end Level

/-- Why the scan of program code ends before its end. -/
inductive Fault where
  | unterminated
  | badEscape
deriving DecidableEq

/-- The two languages of program code, as the notices about a broken scan call them. -/
inductive Language where
  | code
  | script
deriving DecidableEq

/-- What can be reported. -/
inductive Notice where
  | brokenOff (language : Language) (fault : Fault) (line : Int)
  | openCall (name : Text) (line : Int)
  | emptyCall (name : Text) (line : Int)
  | dynamicArgument (name : Text) (line : Int)
  | dynamicOptions (name : Text) (line : Int)
  | dynamicSetting (line : Int)
  | openTag (path : Text) (line : Int)
  | dynamicTagText (path : Text) (line : Int)
  | dynamicTagOption (path : Text) (line : Int)
  | pluralConflict (msgid path : Text) (line : Int) (kept ignored : Text)
  | excludedDirectory (path : Text)
  | visitedDirectory (path : Text)
  | notFound (path : Text)
  | unlisted (cause : File.Error)
  | scanning (files : Nat)
  | finished (parsed skipped failed strings : Nat)
  | noParser (path : Text) (warn : Bool)
  | parsing (path parser : Text)
  | parseFailed (path reason : Text)
  | unreadable (cause : File.Error)
  | wrote (appended : Bool) (strings : Nat) (path : Text)
  | outputFailed (message : Text)
  | unknownPlurals (language reason : Text)
  | ignoredVariable (name value : Text)
  | plain (level : Level) (text : Text)
deriving DecidableEq

namespace Notice

/-- How much the notice matters. -/
def level : Notice → Level
  | brokenOff .. | openCall .. | emptyCall .. | dynamicArgument .. | dynamicOptions ..
  | dynamicSetting .. | openTag .. | dynamicTagText .. | dynamicTagOption ..
  | excludedDirectory .. | visitedDirectory .. | notFound .. | parsing .. => .debug
  | scanning .. | finished .. | wrote .. => .info
  | pluralConflict .. | unlisted .. | unreadable .. | unknownPlurals ..
  | ignoredVariable .. => .warning
  | parseFailed .. | outputFailed .. => .error
  | noParser _ warn => if warn then .warning else .debug
  | plain level _ => level

/-- A path and a line, with a colon between them. -/
def place (path : Text) (line : Int) : Text := path ++ ':' :: Text.ofInt line

/-- The notice in words. -/
def message : Notice → Text
  | brokenOff language fault line =>
    (match fault with
      | .unterminated => "Unterminated string or comment".toList
      | .badEscape => "Invalid escape sequence".toList) ++
    " on line ".toList ++ Text.ofInt line ++ ", ignoring the rest of the ".toList ++
    (match language with
      | .code => "code".toList
      | .script => "script".toList)
  | openCall name line => "Unterminated call to ".toList ++ name ++ " on line ".toList ++
      Text.ofInt line
  | emptyCall name line => "Call to ".toList ++ name ++ " without arguments on line ".toList ++
      Text.ofInt line
  | dynamicArgument name line => "Skipping call to ".toList ++ name ++
      " with a non-literal argument on line ".toList ++ Text.ofInt line
  | dynamicOptions name line => "Skipping call to ".toList ++ name ++
      " with non-literal options on line ".toList ++ Text.ofInt line
  | dynamicSetting line => "Setting value on line ".toList ++ Text.ofInt line ++
      " is not a literal".toList
  | openTag path line => "Unterminated \x7bts\x7d tag at ".toList ++ place path line ++
      ", ignoring the rest of the file".toList
  | dynamicTagText path line => "Skipping \x7bts\x7d with non-literal text at ".toList ++
      place path line
  | dynamicTagOption path line =>
      "Skipping \x7bts\x7d with non-literal context or plural at ".toList ++ place path line
  | pluralConflict msgid path line kept ignored =>
      "Conflicting plural forms for \"".toList ++ msgid ++ "\" at ".toList ++ place path line ++
      ": keeping \"".toList ++ kept ++ "\", ignoring \"".toList ++ ignored ++ "\"".toList
  | excludedDirectory path => "Skipping excluded directory ".toList ++ path
  | visitedDirectory path => "Skipping ".toList ++ path ++ ", directory already visited".toList
  | notFound path => "Skipping ".toList ++ path ++ ", file not found".toList
  | unlisted cause =>
      "Unable to list directory ".toList ++ cause.path ++ ": ".toList ++ cause.message
  | scanning files => "Scanning ".toList ++ Text.ofNat files ++ " files".toList
  | finished parsed skipped failed strings =>
      "Parsed ".toList ++ Text.ofNat parsed ++ " files, skipped ".toList ++ Text.ofNat skipped ++
      ", ".toList ++ Text.ofNat failed ++ " failed. Found ".toList ++ Text.ofNat strings ++
      " strings".toList
  | noParser path _ => "No parser for ".toList ++ path
  | parsing path parser => "Parsing ".toList ++ path ++ " with ".toList ++ parser
  | parseFailed path reason =>
      "Error extracting strings from ".toList ++ path ++ ": ".toList ++ reason
  | unreadable cause => "Unable to read ".toList ++ cause.path ++ ": ".toList ++ cause.message
  | wrote appended strings path =>
      (if appended then "Appended ".toList else "Wrote ".toList) ++ Text.ofNat strings ++
      " strings to ".toList ++ path
  | outputFailed message => message
  | unknownPlurals language reason => "Unable to determine plural forms for language '".toList ++
      language ++ "': ".toList ++ reason
  | ignoredVariable name value => "Ignoring ".toList ++ name ++ '=' :: value ++
      ", it is not a number".toList
  | plain _ text => text

end Notice

end MessageHarvest
