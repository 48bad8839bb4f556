import MessageHarvest.Markup.Fragment
import MessageHarvest.Php.Settings
import MessageHarvest.Smarty.Tags

/-!
# Dialects

How a file is written decides who reads it. Backup files are read by nobody; then the end of the
path decides, with settings metadata before other PHP; then PHP is known by its first characters.
-/
namespace MessageHarvest

/-- The dialects, in the order in which they are tried. -/
inductive Dialect where
  | script
  | setting
  | template
  | php
deriving DecidableEq

namespace Dialect

/-- Every dialect, in the order in which they are tried. -/
def all : List Dialect := [script, setting, template, php]

/-- The place in the order, counted from one. -/
def number : Dialect → Nat
  | script => 1
  | setting => 2
  | template => 3
  | php => 4

/-- The dialect's name. -/
def name : Dialect → Text
  | script => "Script".toList
  | setting => "Setting".toList
  | template => "Template".toList
  | php => "Php".toList

/-- The name of the dialect's parser in notices. -/
def parserName : Dialect → Text
  | script => "JsParser".toList
  | setting => "SettingParser".toList
  | template => "SmartyParser".toList
  | php => "PhpParser".toList

/-- The ends of paths that show the dialect. -/
def suffixes : Dialect → List Text
  | script => [".js".toList, ".html".toList]
  | setting => [".setting.php".toList]
  | template => [".tpl".toList, ".hlp".toList, ".smarty".toList]
  | php => [".php".toList]

/-- The path has one of the ends. Case matters. -/
def hasSuffix (path : Text) (suffixes : List Text) : Bool := suffixes.any (·.isSuffixOf path)

/-- The path is that of a backup file. -/
def isBackup (path : Text) : Bool := path.getLast? = some '~'

/-- The content starts like a PHP file: with an open tag, or with a line that names PHP as its
interpreter. -/
def startsLikePhp (content : Text) : Bool :=
  "<?php".toList.isPrefixOf content ||
    ("#!".toList.isPrefixOf content &&
      Text.occurs "php".toList (((content.drop 2).takeWhile (· ≠ '\n')).drop 1))

/-- The dialect of a file. -/
def ofFile? (path content : Text) : Option Dialect :=
  if isBackup path then none
  else match all.find? fun d => hasSuffix path d.suffixes with
    | some d => some d
    | none => if startsLikePhp content then some php else none

/-- What a file contributes if it is read in this dialect. `keys` are the settings whose values are
translated, and `tag` marks the comments for translators. Markup is told from script by the end of
the path. -/
def findings (tag : Option Text) (keys : List Text) (path content : Text) : Dialect → Findings
  | script =>
    if hasSuffix path [".html".toList] then Markup.findings tag content
    else ⟨Script.events tag 1 content, none⟩
  | setting => ⟨Php.settingFileEvents tag keys content, none⟩
  | template => ⟨Smarty.events path tag content, none⟩
  | php => ⟨Php.events tag content, none⟩

end Dialect

end MessageHarvest
