import PeripheralLink.Value
/-!
Command lines made of long options alone.  An option may be shortened to any beginning that no other
option shares, takes its value from the next word or after an equals sign, and stands for the last
value it is given.  Two hyphens after an equals sign are no value: the option then stands for an empty
list, of whatever kind its value must be.  Every word is classified before any of them takes effect, so
that an ambiguous one is reported first; help and faulty values stop the reading where they stand; words
that belong to no option are reported last.
-/

namespace PeripheralLink.CommandLine

inductive ValueKind
  | text
  | integer
  | number
  | choice (names : List String)

/-- An option: its name with the two leading hyphens, and the kind of its value, if it takes one. -/
structure Spec where
  name : String
  kind : Option ValueKind

inductive Stop
  | help
  | ambiguous (word : String) (names : List String)
  | valueMissing (name : String)
  | valueUnwanted (name value : String)
  | notInteger (name value : String)
  | notNumber (name value : String)
  | notChoice (name value : String) (names : List String)
  | unrecognized (words : List String)
deriving DecidableEq

def joined (separator : String) (texts : List String) : String := separator.intercalate texts

private def quoted (s : String) : String := Text.quote s.toList

def Stop.message? : Stop → Option String
  | help => none
  | ambiguous word names =>
    some ("ambiguous option: " ++ word ++ " could match " ++ joined ", " names)
  | valueMissing name => some ("argument " ++ name ++ ": expected one argument")
  | valueUnwanted name value =>
    some ("argument " ++ name ++ ": ignored explicit argument " ++ quoted value)
  | notInteger name value => some ("argument " ++ name ++ ": invalid int value: " ++ quoted value)
  | notNumber name value => some ("argument " ++ name ++ ": invalid float value: " ++ quoted value)
  | notChoice name value names =>
    some ("argument " ++ name ++ ": invalid choice: " ++ quoted value ++ " (choose from " ++
      joined ", " (names.map quoted) ++ ")")
  | unrecognized words => some ("unrecognized arguments: " ++ joined " " words)

def helpName : String := "-h/--help"

inductive Word
  | plain (text : String)
  | separator
  | option (spec : Spec) (attached : Option String)
  | help (attached : Option String)
  | shortHelp (rest : List Char)
  | unknown (text : String)

/-- A hyphen and decimal digits, among which there may be a point followed by more of them; a line
feed may end it. -/
def isNegativeNumber (word : List Char) : Bool :=
  let isDigit (c : Char) : Bool := (Text.digit? c).isSome
  match word with
  | '-' :: rest =>
    let cs := if rest.getLast? = some '\n' then rest.dropLast else rest
    let afterWhole := cs.dropWhile isDigit
    (!cs.isEmpty && afterWhole.isEmpty) ||
      match afterWhole with
      | '.' :: fraction => !fraction.isEmpty && fraction.all isDigit
      | _ => false
  | _ => false

/-- The part before the first equals sign, and the part after it. -/
def splitAttached (word : List Char) : List Char × Option String :=
  match word.dropWhile (· != '=') with
  | _ :: attached => (word.takeWhile (· != '='), some (String.ofList attached))
  | [] => (word, none)

/-- What a word that begins with a hyphen is when it names no option. -/
def unnamed (word : List Char) : Word :=
  let text := String.ofList word
  if isNegativeNumber word || word.contains ' ' then .plain text else .unknown text

def classify (specs : List Spec) (text : String) : Except Stop Word :=
  let word := text.toList
  match word with
  | '-' :: '-' :: _ =>
    let (name, attached) := splitAttached word
    let all := ("--help", none) :: specs.map fun s => (s.name, some s)
    let found (spec : Option Spec) : Word :=
      match spec with | some s => .option s attached | none => .help attached
    match all.lookup (String.ofList name) with
    | some spec => .ok (found spec)
    | none =>
      match all.filter fun (full, _) => name.isPrefixOf full.toList with
      | [] => .ok (unnamed word)
      | [(_, spec)] => .ok (found spec)
      | several => .error (.ambiguous text (several.map Prod.fst))
  | ['-', 'h'] => .ok (.help none)
  | '-' :: 'h' :: '=' :: rest => .ok (.shortHelp rest)
  | '-' :: 'h' :: rest => .ok (.shortHelp rest)
  | '-' :: _ :: _ => .ok (unnamed word)
  | _ => .ok (.plain text)

/-- Classifies the words up to the separator; every word after it is plain. -/
def classifyAll (specs : List Spec) : List String → Except Stop (List Word)
  | [] => .ok []
  | "--" :: rest => .ok (.separator :: rest.map .plain)
  | text :: rest => do
    let word ← classify specs text
    let words ← classifyAll specs rest
    return word :: words

def separatorWord : String := "--"

def readValue (name text : String) : ValueKind → Except Stop Value
  | .text => .ok (.text text)
  | .integer =>
    match Number.readInt? text with | some n => .ok (.int n) | none => .error (.notInteger name text)
  | .number =>
    match Number.readFloat? text with
    | some x => .ok (.float x)
    | none => .error (.notNumber name text)
  | .choice names =>
    if names.contains text then .ok (.text text) else .error (.notChoice name text names)

def readAttached (name text : String) (kind : ValueKind) : Except Stop Value :=
  if text = separatorWord then .ok (.list []) else readValue name text kind

/-- What the letters after a short option that asks for help come to: each must ask for help as well,
and the rest of the word from the first that does not is a value that is not wanted. -/
def shortHelp : List Char → Stop
  | ['h'] => .help
  | 'h' :: rest => shortHelp rest
  | rest => .valueUnwanted helpName (String.ofList rest)

/-- The values that the options are given, in order, and the words that belong to none. -/
def assignments : List Word → Except Stop (List (String × Value) × List String)
  | [] => .ok ([], [])
  | .plain text :: rest => do
    let (values, extra) ← assignments rest
    return (values, text :: extra)
  | .separator :: rest => do
    let (values, extra) ← assignments rest
    return (values, separatorWord :: extra)
  | .unknown text :: rest => do
    let (values, extra) ← assignments rest
    return (values, text :: extra)
  | .help none :: _ => .error .help
  | .help (some value) :: _ => .error (.valueUnwanted helpName value)
  | .shortHelp cs :: _ => .error (shortHelp cs)
  | .option spec attached :: rest =>
    match spec.kind, attached, rest with
    | none, none, rest => do
      let (values, extra) ← assignments rest
      return ((spec.name, .bool true) :: values, extra)
    | none, some value, _ => .error (.valueUnwanted spec.name value)
    | some kind, some text, rest => do
      let value ← readAttached spec.name text kind
      let (values, extra) ← assignments rest
      return ((spec.name, value) :: values, extra)
    | some kind, none, .plain text :: rest => do
      let value ← readValue spec.name text kind
      let (values, extra) ← assignments rest
      return ((spec.name, value) :: values, extra)
    | some _, none, _ => .error (.valueMissing spec.name)

/-- Reads a command line: the values of the options in the order they are given. -/
def read (specs : List Spec) (arguments : List String) : Except Stop (List (String × Value)) := do
  let (values, extra) ← assignments (← classifyAll specs arguments)
  if extra.isEmpty then return values else throw (.unrecognized extra)

def last? (values : List (String × Value)) (name : String) : Option Value := values.reverse.lookup name

example : (read [⟨"--port", some .integer⟩] ["--port=--"]).toOption.map (·.map fun (_, v) => v.shown) =
    some ["[]"] := by
  decide +kernel

example : shortHelp ['h', 'x'] = .valueUnwanted helpName "x" := by decide +kernel

end PeripheralLink.CommandLine
