import MessageHarvest.Php.Calls

/-!
# Settings metadata

A PHP file that describes settings holds marking calls, and literal values under keys such as
`'title'`, which are translated when the settings are loaded.
-/
namespace MessageHarvest.Php

/-- A part of a literal value. -/
def isValuePart (t : Token) : Bool := t.value?.isSome || t.isPunct ".".toList

/-- The tokens of the literal value at the beginning, or a notice if something else follows it.
A value must run up to the end of its element. -/
def settingValue (tokens : List Token) : Except (Option Notice) (List Token) :=
  let value := tokens.takeWhile isValuePart
  match value, tokens.drop value.length with
  | first :: _, next :: _ =>
    if next.isOneOf [",".toList, ")".toList, "]".toList] then .ok value
    else .error (some (.dynamicSetting first.line))
  | _, _ => .error none

/-- What the token contributes as the key of a literal value. -/
def settingEvents (tag : Option Text) (keys : List Text) (t : Token) (after : List Token) :
    List Event :=
  match t.value?, after with
  | some key, arrow :: value =>
    if keys.contains key && arrow.isPunct "=>".toList then
      match settingValue value with
      | .error why => why.toList.map .notice
      | .ok tokens =>
        match literalValue? ".".toList tokens with
        | some (c :: cs) =>
          tokens.head?.toList.map fun first =>
            .found ⟨⟨c :: cs, first.line, none, none⟩, commentLines tag t.comment⟩
        | _ => []
    else []
  | _, _ => []

/-- What the token contributes: the string of a call, or else that of a setting. -/
def metadataEvents (tag : Option Text) (keys : List Text) (before : List Token) (t : Token)
    (after : List Token) : List Event :=
  match readCall before t after with
  | .found _ => callEvents tag before t after
  | _ => callEvents tag before t after ++ settingEvents tag keys t after

/-- What the calls and settings among the tokens contribute. -/
def settingTokenEvents (tag : Option Text) (keys : List Text) :
    List Token → List Token → List Event
  | _, [] => []
  | before, t :: after =>
    metadataEvents tag keys before t after ++ settingTokenEvents tag keys (t :: before) after

/-- What a file of settings metadata contributes. -/
def settingFileEvents (tag : Option Text) (keys : List Text) (source : Text) : List Event :=
  let found := scan false 1 source
  (found.notices .code).map .notice ++
    settingTokenEvents tag keys [] (Item.significant found.items)

/-- The keys whose values are translated, if no others are named. -/
def defaultSettingKeys : List Text :=
  ["title".toList, "description".toList, "help_text".toList]

end MessageHarvest.Php
