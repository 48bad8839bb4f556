import MessageHarvest.Text.Integer

/-!
# Arguments of the command line

Options have a long name, which may be shortened as long as it is clear, and some a short one,
which can be joined with others or with its value. Files make one group. The words are first sorted
into options and others, so an unclear name is reported before anything else.
-/
namespace MessageHarvest.CommandLine

/-- The options. -/
inductive Flag where
  | help
  | base
  | out
  | append
  | header
  | msgctxt
  | language
  | pluralForms
  | exclude
  | warnUnrecognised
  | debug
deriving DecidableEq

namespace Flag

/-- Every option. -/
def all : List Flag :=
  [help, base, out, append, header, msgctxt, language, pluralForms, exclude, warnUnrecognised,
    debug]

/-- The names of an option. -/
def names : Flag → List Text
  | help => ["-h".toList, "--help".toList]
  | base => ["-b".toList, "--base".toList]
  | out => ["-o".toList, "--out".toList]
  | append => ["-a".toList, "--append".toList]
  | header => ["--header".toList]
  | msgctxt => ["--msgctxt".toList]
  | language => ["-l".toList, "--language".toList]
  | pluralForms => ["--pluralforms".toList]
  | exclude => ["--exclude".toList]
  | warnUnrecognised => ["--warnunrecognised".toList]
  | debug => ["--debug".toList]

/-- The option has a value. -/
def takesValue : Flag → Bool
  | help | append | warnUnrecognised | debug => false
  | _ => true

/-- The option in a message. -/
def label (f : Flag) : Text := Text.joinWith ['/'] f.names

/-- Every name with its option. -/
def named : List (Text × Flag) := all.flatMap fun f => f.names.map (·, f)

/-- The option of a name. -/
def ofName? (name : Text) : Option Flag := named.lookup name

end Flag

/-- What is wrong with the arguments. -/
inductive UsageError where
  | ambiguous (word : Text) (names : List Text)
  | expectedValue (flag : Flag)
  | notAnInteger (flag : Flag) (value : Text)
  | unusedValue (flag : Flag) (value : Text)
  | unrecognised (words : List Text)
deriving DecidableEq

/-- What is reported. -/
def UsageError.message (e : UsageError) : Text :=
  "civistrings: error: ".toList ++
  match e with
  | ambiguous word names => "ambiguous option: ".toList ++ word ++ " could match ".toList ++
      Text.joinWith ", ".toList names
  | expectedValue flag => "argument ".toList ++ flag.label ++ ": expected one argument".toList
  | notAnInteger flag value => "argument ".toList ++ flag.label ++ ": invalid int value: ".toList ++
      Text.quoted value
  | unusedValue flag value => "argument ".toList ++ flag.label ++
      ": ignored explicit argument ".toList ++ Text.quoted value
  | unrecognised words => "unrecognized arguments: ".toList ++ Text.joinWith [' '] words

/-- An option in the line that shows how the command is used: its first name, and the place of a
value. -/
def Flag.usage (f : Flag) : Text :=
  let long := (f.names.getLast?.getD []).drop 2
  "[".toList ++ f.names.head?.getD [] ++
    (if f.takesValue then ' ' :: long.map Char.toUpper else []) ++ "]".toList

/-- How the command is used. -/
def usage : Text :=
  "usage: civistrings ".toList ++ Text.joinWith [' '] (Flag.all.map Flag.usage) ++
    " [files ...]".toList

/-- Why nothing is run. -/
inductive Stop where
  | help
  | usage (e : UsageError)
deriving DecidableEq

/-- Two minus signs. They are never a value. -/
def doubleMinus : Text := ['-', '-']

/-- A word of the command line. What is attached to an option stands in the same word. -/
inductive Word where
  | plain (word : Text)
  | mark
  | option (flag : Flag) (isLong : Bool) (attached : Option Text)
  | unknown (word : Text)
deriving DecidableEq

/-- A minus sign and a number. -/
def isNegativeNumber (word : Text) : Bool :=
  let body := if word.getLast? = some '\n' then word.dropLast else word
  match body with
  | '-' :: cs =>
    let whole := cs.takeWhile Text.isNumeral
    match cs.drop whole.length with
    | [] => !whole.isEmpty
    | '.' :: ds => !ds.isEmpty && ds.all Text.isNumeral
    | _ => false
  | _ => false

/-- The word up to an equals sign, and the value after it. -/
def splitAssigned (word : Text) : Text × Option Text :=
  match word.dropWhile (· ≠ '=') with
  | _ :: value => (word.takeWhile (· ≠ '='), some value)
  | [] => (word, none)

/-- The readings of a word as an option: a long name that starts so, or a short name with
something after it. -/
def readings (word : Text) : List (Text × Word) :=
  let isLong := "--".toList.isPrefixOf word
  if isLong then
    let split := splitAssigned word
    Flag.named.filterMap fun entry =>
      if split.1.isPrefixOf entry.1 then some (entry.1, .option entry.2 true split.2) else none
  else
    Flag.named.filterMap fun entry =>
      if entry.1 = word.take 2 then
        some (entry.1, .option entry.2 false (some (word.drop 2)))
      else none

/-- The option of a whole name, with a value after an equals sign if there is one. -/
def wholeName? (word : Text) : Option Word :=
  let isLong := "--".toList.isPrefixOf word
  match Flag.ofName? word with
  | some flag => some (.option flag isLong none)
  | none =>
    let split := splitAssigned word
    split.2.bind fun attached =>
      (Flag.ofName? split.1).map fun flag => .option flag isLong (some attached)

/-- What a word is, before the mark that ends options. -/
def classify (word : Text) : Except UsageError Word :=
  match word with
  | '-' :: _ :: _ =>
    match wholeName? word, readings word with
    | some found, _ => .ok found
    | none, [] =>
      if isNegativeNumber word || word.contains ' ' then .ok (.plain word) else .ok (.unknown word)
    | none, [reading] => .ok reading.2
    | none, several => .error (.ambiguous word (several.map (·.1)))
  | _ => .ok (.plain word)

/-- Sorts the words. After two minus signs all of them are plain. -/
def classifyAll : List Text → Except UsageError (List Word)
  | [] => .ok []
  | word :: words =>
    if word = doubleMinus then .ok (.mark :: words.map .plain)
    else
      match classify word, classifyAll words with
      | .error e, _ => .error e
      | .ok _, .error e => .error e
      | .ok first, .ok rest => .ok (first :: rest)

/-- What an option is given. Where two minus signs are attached to it the option is there, but
without a value. -/
inductive Given (α : Type) where
  | value (a : α)
  | nothing
deriving DecidableEq

/-- What the command line asks for. -/
structure Arguments where
  files : List Text
  base : Option (Given Text)
  out : Option (Given Text)
  append : Bool
  header : Option (Given Text)
  msgctxt : Option (Given Text)
  language : Option (Given Text)
  pluralForms : Option (Given Int)
  exclude : Option (List (Given Text))
  warnUnrecognised : Bool
  debug : Bool
deriving DecidableEq

/-- Nothing is asked for. -/
def Arguments.empty : Arguments :=
  ⟨[], none, none, false, none, none, none, none, none, false, false⟩

/-- Sets an option without a value. -/
def Arguments.setFlag (a : Arguments) (flag : Flag) : Except Stop Arguments :=
  match flag with
  | .help => .error .help
  | .append => .ok { a with append := true }
  | .warnUnrecognised => .ok { a with warnUnrecognised := true }
  | .debug => .ok { a with debug := true }
  | _ => .ok a

/-- Sets an option to what it is given. -/
def Arguments.set (a : Arguments) (flag : Flag) (given : Given Text) : Except Stop Arguments :=
  match flag with
  | .base => .ok { a with base := some given }
  | .out => .ok { a with out := some given }
  | .header => .ok { a with header := some given }
  | .msgctxt => .ok { a with msgctxt := some given }
  | .language => .ok { a with language := some given }
  | .exclude => .ok { a with exclude := some (a.exclude.getD [] ++ [given]) }
  | .pluralForms =>
    match given with
    | .nothing => .ok { a with pluralForms := some .nothing }
    | .value text =>
      match Integer.ofText? text with
      | some n => .ok { a with pluralForms := some (.value n) }
      | none => .error (.usage (.notAnInteger flag text))
  | _ => .ok a

/-- Sets an option to the text after it. -/
def Arguments.setText (a : Arguments) (flag : Flag) (text : Text) : Except Stop Arguments :=
  a.set flag (if text = doubleMinus then .nothing else .value text)

/-- The options in one word: first those without a value, then one that has a value, which may
still be to come. -/
structure Bundle where
  flags : List Flag
  valued : Option (Flag × Option Text)

/-- An option with nothing attached to it. -/
def Bundle.single (flag : Flag) : Bundle :=
  if flag.takesValue then ⟨[], some (flag, none)⟩ else ⟨[flag], none⟩

/-- Takes apart what is attached to an option: its value if it takes one, else, after a short
option, other short options. -/
def unbundle (isLong : Bool) : Text → Flag → Except Stop Bundle
  | [], flag =>
    if flag.takesValue then .ok ⟨[], some (flag, some [])⟩
    else .error (.usage (.unusedValue flag []))
  | c :: cs, flag =>
    if flag.takesValue then .ok ⟨[], some (flag, some (c :: cs))⟩
    else
      match if isLong then none else Flag.ofName? ['-', c] with
      | none => .error (.usage (.unusedValue flag (c :: cs)))
      | some next =>
        (if cs.isEmpty then .ok (Bundle.single next) else unbundle isLong cs next).map fun b =>
          { b with flags := flag :: b.flags }

/-- The options in a word that starts with this one. -/
def bundleOf (isLong : Bool) (flag : Flag) : Option Text → Except Stop Bundle
  | none => .ok (Bundle.single flag)
  | some attached => unbundle isLong attached flag

/-- What has been read so far. `grouped` tells that the files have been met, and `extra` are words
that belong nowhere. -/
structure Progress where
  arguments : Arguments
  grouped : Bool
  extra : List Text

/-- Takes in the words between options: the first such group are the files. -/
def Progress.takeGroup (p : Progress) (words : List Text) : Progress :=
  if words.isEmpty then p
  else if p.grouped then { p with extra := p.extra ++ words }
  else { p with grouped := true, arguments := { p.arguments with files := words.erase doubleMinus } }

/-- Takes in a bundle of options, of which the last may find its value in the next word. The
number of words that it uses is the second part. -/
def Progress.takeBundle (p : Progress) (b : Bundle) (next : List Word) :
    Except Stop (Progress × Nat) := do
  let needed ← match b.valued, next with
    | none, _ => .ok none
    | some (flag, some value), _ => .ok (some (flag, value, 0))
    | some (flag, none), .plain value :: _ => .ok (some (flag, value, 1))
    | some (flag, none), _ => .error (.usage (.expectedValue flag))
  let a ← b.flags.foldlM Arguments.setFlag p.arguments
  match needed with
  | none => return ({ p with arguments := a }, 0)
  | some (flag, value, used) =>
    let a ← a.setText flag value
    return ({ p with arguments := a }, used)

/-- Reads the words, where `group` are plain words that have been met since the last option. -/
def consume : Progress → List Text → List Word → Except Stop Progress
  | p, group, [] => .ok (p.takeGroup group)
  | p, group, word :: words =>
    match word with
    | .plain text => consume p (group ++ [text]) words
    | .mark => consume p (group ++ [doubleMinus]) words
    | .unknown text =>
      let p := p.takeGroup group
      consume { p with extra := p.extra ++ [text] } [] words
    | .option flag isLong attached =>
      let p := p.takeGroup group
      match bundleOf isLong flag attached with
      | .error e => .error e
      | .ok bundle =>
        match p.takeBundle bundle words with
        | .error e => .error e
        | .ok (p, used) => consume p [] (words.drop used)
termination_by _ _ words => words.length
decreasing_by all_goals simp only [List.length_cons, List.length_drop]; omega

/-- Reads the arguments. -/
def Arguments.parse (words : List Text) : Except Stop Arguments :=
  match classifyAll words with
  | .error e => .error (.usage e)
  | .ok words =>
    match consume ⟨Arguments.empty, false, []⟩ [] words with
    | .error e => .error e
    | .ok p =>
      if p.extra.isEmpty then .ok p.arguments else .error (.usage (.unrecognised p.extra))

end MessageHarvest.CommandLine
