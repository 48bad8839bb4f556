import MessageHarvest.Options.Plurals
import MessageHarvest.Value.Coercion

/-!
# Options of a run

Settings under fixed names: first the defaults, some of which the environment can change, then
those that are given. They are read as the kind that is needed only when they are needed.
-/
namespace MessageHarvest

/-- The number of plural forms where nothing else is known. -/
def defaultPluralForms : Int := 2

/-- What is reported and what is set by default in an environment. -/
structure Defaults where
  settings : Settings
  notices : List Notice

namespace Defaults

/-- A text, or nothing. -/
def textValue (s : Option Text) : Value := (s.map Value.text).getD .null

/-- The variables that can change a default. -/
def variableNames : List Text :=
  ["STRINGS_BASE_DIR", "STRINGS_MSGCTXT", "STRINGS_HEADER", "STRINGS_OUTPUT", "STRINGS_APPEND",
    "STRINGS_LANGUAGE", "STRINGS_PLURAL_FORMS", "STRINGS_EXCLUDE_DIRS", "STRINGS_SETTING_KEYS",
    "STRINGS_COMMENT_TAG", "STRINGS_WARN_UNRECOGNISED"].map String.toList

/-- The defaults in an environment. -/
def ofEnvironment (env : Environment) : Defaults :=
  let text (name : String) (default : Value) := textValue (env.getText name.toList default)
  let bool (name : String) := Value.bool (env.getBool name.toList (.bool false))
  let forms := match env.getInt "STRINGS_PLURAL_FORMS".toList .null with
    | .ok found => found
    | .error _ => (none, [])
  ⟨[("base_dir".toList, text "STRINGS_BASE_DIR" .null),
    ("msgctxt".toList, text "STRINGS_MSGCTXT" .null),
    ("header_file".toList, text "STRINGS_HEADER" .null),
    ("output".toList, text "STRINGS_OUTPUT" .null),
    ("append".toList, bool "STRINGS_APPEND"),
    ("language".toList, text "STRINGS_LANGUAGE" .null),
    ("plural_forms".toList, (forms.1.map Value.int).getD .null),
    ("exclude_dirs".toList, text "STRINGS_EXCLUDE_DIRS"
      (.text "node_modules,vendor,bower_components,.git,.svn".toList)),
    ("setting_keys".toList, text "STRINGS_SETTING_KEYS"
      (.text "title,description,help_text".toList)),
    ("comment_tag".toList, text "STRINGS_COMMENT_TAG" (.text "TRANSLATORS:".toList)),
    ("warn_unrecognised".toList, bool "STRINGS_WARN_UNRECOGNISED")], forms.2⟩

end Defaults

/-- The options of a run. -/
structure Options where
  settings : Settings

namespace Options

/-- The options that are given, over the defaults. -/
def ofSettings (defaults given : Settings) : Options :=
  ⟨(Settings.update [] defaults).update given⟩

/-- A text option. -/
def text? (o : Options) (name : String) : Option Text := o.settings.getText name.toList .null

/-- A text option that is not empty. -/
def givenText? (o : Options) (name : String) : Option Text :=
  (o.text? name).filter fun s => !s.isEmpty

/-- The directory from which references are given: the working directory if no other is named. -/
def baseDir (o : Options) (workDir : Text) : Text := (o.givenText? "base_dir").getD workDir

/-- Context for strings that have none. -/
def msgctxt (o : Options) : Option Text := o.text? "msgctxt"

/-- File whose content goes before a new catalog. -/
def headerFile (o : Options) : Option Text := o.text? "header_file"

/-- File that the catalog is written to. -/
def output (o : Options) : Option Text := o.text? "output"

/-- Whether the catalog is added to what the file holds. -/
def append (o : Options) : Except SettingError Bool :=
  o.settings.getBool "append".toList (.bool false)

/-- The language to translate to. -/
def language (o : Options) : Option Text := o.text? "language"

/-- Names of directories that are not searched. -/
def excludeDirs (o : Options) : Except SettingError (List Text) :=
  o.settings.getTexts "exclude_dirs".toList .null

/-- Keys of settings whose values are translated. -/
def settingKeys (o : Options) : Except SettingError (List Text) :=
  o.settings.getTexts "setting_keys".toList .null

/-- What marks a comment for translators. -/
def commentTag (o : Options) : Option Text := o.givenText? "comment_tag"

/-- Whether to warn about files that nobody reads. -/
def warnUnrecognised (o : Options) : Except SettingError Bool :=
  o.settings.getBool "warn_unrecognised".toList (.bool false)

/-- The number of plural forms: the one that is set, else that of the language, else the usual
one. -/
def pluralForms (forms? : Plurals.Locale → Option Nat) (o : Options) :
    Except SettingError (Int × List Notice) :=
  (o.settings.getInt "plural_forms".toList .null).map fun explicit =>
    match explicit.filter (· ≠ 0), o.givenText? "language" with
    | some n, _ => (max n 1, [])
    | none, none => (defaultPluralForms, [])
    | none, some language =>
      match Plurals.ofLanguage forms? language with
      | .ok n => (n, [])
      | .error e => (defaultPluralForms, [.unknownPlurals language e.message])

/-- The default context of the catalog. -/
def defaultContext (o : Options) : Option Text := o.givenText? "msgctxt"

end Options

end MessageHarvest
