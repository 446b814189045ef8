import ReviewChannel.Path
import ReviewChannel.Text.Similarity

/-!
The arguments of the program. There are three commands, each with options of its own; `-v` and help
are understood everywhere, the version only in front of a command.

The program only declares its commands and options. Which words give which of them is up to the
library that it declares them to, and that library's rules are spelled out here. Words are texts, so
a work directory whose octets are no text cannot be given.

* `Arguments.read` reads all words, first those in front of the command (`readFront`), then those of
  the command (`readCommand`).
* The value of `--workdir` may be a word of its own. It is taken when it comes, and looked at when
  the next argument has been understood (`Options.settle`), so a fault in an argument that is not
  understood comes first.
* `Refusal` says why there is nothing to do.
-/

namespace ReviewChannel

inductive Verb where
  | connect
  | listen
  | config
deriving DecidableEq, Repr

def Verb.ofWord? : String → Option Verb
  | "connect" => some connect
  | "listen" => some listen
  | "config" => some config
  | _ => none

/-- What help is about. -/
inductive Topic where
  | program
  | verb (v : Verb)
  /-- Help itself. -/
  | help
deriving DecidableEq, Repr

/-- Why the arguments give nothing to do. -/
inductive Refusal where
  | help (topic : Topic)
  | version
  /-- Nothing was given at all. -/
  | nothingGiven
  | missingCommand
  | unknownCommand (word : String)
  /-- A word that has no meaning here, and whether it could be meant as a value. -/
  | unknownArgument (word : String) (asValue : Bool)
  /-- A value is missing or empty. -/
  | invalidValue
  /-- An option was repeated. -/
  | conflict (option : String)
  /-- A value was given to an option without one. -/
  | unwantedValue (value option : String)
  | missingWorkdir
deriving DecidableEq, Repr

/-- What the program is asked to do. -/
inductive Request where
  | connect (workdir : Option Path)
  | listen (workdir : Path) (ids : List String)
  | config (json : Bool)
deriving DecidableEq, Repr

/-- The arguments of the program. -/
structure Arguments where
  request : Request
  /-- How often more detail was asked for. -/
  verbose : Nat
deriving DecidableEq, Repr

namespace Arguments

/-! ### Words -/

def verboseLimit : Nat := 255

/-- One more `-v`. -/
def countVerbose (n : Nat) : Nat :=
  min verboseLimit (n + 1)

/-- The kinds of words in front of a double dash. -/
inductive Word where
  /-- A double dash: every word after it is meant as it stands. -/
  | stop
  /-- A long option, with the value after its equals sign. -/
  | long (name : String) (value : Option String)
  /-- Short options. -/
  | short (letters : List Char)
  | plain (text : String)
deriving DecidableEq, Repr

/-- What stands before the first equals sign, and what stands after it. -/
def splitEquals (cs : List Char) : String × Option String :=
  let name := String.ofList (cs.takeWhile (· != '='))
  match cs.dropWhile (· != '=') with
  | [] => (name, none)
  | _ :: value => (name, some (String.ofList value))

/-- The kind of a word. A single dash is a plain word. -/
def Word.ofText (text : String) : Word :=
  match text.toList with
  | ['-', '-'] => .stop
  | '-' :: '-' :: rest =>
      let (name, value) := splitEquals rest
      .long name value
  | '-' :: letter :: rest => .short (letter :: rest)
  | _ => .plain text

/-! ### The words of a command -/

/-- What the words of a command have given so far. -/
structure Options where
  verbose : Nat := 0
  workdir : Option String := none
  /-- Set after `--workdir`; its value, once it has come, is still to be looked at. -/
  awaited : Option (Option String) := none
  json : Bool := false
  ids : List String := []
deriving DecidableEq, Repr

namespace Options

def workdirOption : String :=
  "--workdir <WORKDIR>"

/-- How an option without a value is written. One that counts may be repeated. -/
def flagOption (name : String) : String :=
  if name = "verbose" then "--verbose..." else "--" ++ name

/-- Takes over a work directory. It is given once and is not empty. -/
def setWorkdir (value : String) (o : Options) : Except Refusal Options :=
  if o.workdir.isSome then .error (.conflict workdirOption)
  else if value.isEmpty then .error .invalidValue
  else .ok { o with workdir := some value, awaited := none }

/-- Looks at a value that has been waited for. -/
def settle (o : Options) : Except Refusal Options :=
  match o.awaited with
  | none => .ok o
  | some none => .error .invalidValue
  | some (some value) => o.setWorkdir value

def hasWorkdir (v : Verb) : Bool :=
  v != .config

def long (v : Verb) (name : String) (value : Option String) (o : Options) :
    Except Refusal Options := do
  if name = "verbose" || name = "help" || (name = "json" && v = .config) then
    if let some value := value then .error (.unwantedValue value (flagOption name))
    else
      let o ← o.settle
      if name = "help" then .error (.help (.verb v))
      else if name = "verbose" then return { o with verbose := countVerbose o.verbose }
      else if o.json then .error (.conflict (flagOption name))
      else return { o with json := true }
  else if name = "workdir" && hasWorkdir v then
    let o ← o.settle
    match value with
    | some value => o.setWorkdir value
    | none => return { o with awaited := some none }
  else
    let isMistyped := ["workdir", "verbose", "help"].any (Similarity.resembles name)
    .error (.unknownArgument ("--" ++ name) (v = .listen && !isMistyped))

def short (v : Verb) : List Char → Options → Except Refusal Options
  | [], o => .ok o
  | letter :: rest, o => do
      if letter = 'v' then
        let o ← o.settle
        short v rest { o with verbose := countVerbose o.verbose }
      else if letter = 'h' then
        let _ ← o.settle
        .error (.help (.verb v))
      else .error (.unknownArgument (String.ofList ['-', letter]) (v = .listen))

/-- Takes a word that is no option: the value that is waited for, or an identifier. -/
def plain (v : Verb) (text : String) (o : Options) : Except Refusal Options := do
  if o.awaited = some none then return { o with awaited := some (some text) }
  else if v = .listen then
    let o ← o.settle
    return { o with ids := o.ids ++ [text] }
  else .error (.unknownArgument text false)

/-- Takes a word after a double dash. -/
def trailing (v : Verb) (text : String) (o : Options) : Except Refusal Options := do
  if v = .listen then
    let o ← o.settle
    return { o with ids := o.ids ++ [text] }
  else .error (.unknownArgument text false)

end Options

/-- Takes the words of a command, after a double dash or not. -/
def readOptions (v : Verb) (stopped : Bool) : List String → Options → Except Refusal Options
  | [], o => o.settle
  | text :: rest, o => do
      if stopped then readOptions v true rest (← o.trailing v text)
      else match Word.ofText text with
        | .stop => readOptions v true rest o
        | .long name value => readOptions v false rest (← o.long v name value)
        | .short letters => readOptions v false rest (← Options.short v letters o)
        | .plain text => readOptions v false rest (← o.plain v text)

/-- Reads the words of a command. A count of `-v` among them replaces the one in front. -/
def readCommand (v : Verb) (verbose : Nat) (words : List String) : Except Refusal Arguments := do
  let o ← readOptions v false words {}
  let verbose := if o.verbose = 0 then verbose else o.verbose
  match v with
  | .connect => return ⟨.connect (o.workdir.map Path.ofText), verbose⟩
  | .listen =>
      match o.workdir with
      | none => .error .missingWorkdir
      | some workdir => return ⟨.listen (.ofText workdir) o.ids, verbose⟩
  | .config => return ⟨.config o.json, verbose⟩

/-! ### The words in front of a command -/

/-- What help is asked for by the words after `help`. -/
def readHelp : List String → Refusal
  | [] => .help .program
  | [text] =>
      if text = "help" then .help .help
      else match Verb.ofWord? text with
        | some v => .help (.verb v)
        | none => .unknownCommand text
  | text :: other :: _ =>
      .unknownCommand (if text = "help" || (Verb.ofWord? text).isSome then other else text)

def frontLetters : List Char → Nat → Except Refusal Nat
  | [], verbose => .ok verbose
  | letter :: rest, verbose =>
      if letter = 'v' then frontLetters rest (countVerbose verbose)
      else if letter = 'h' then .error (.help .program)
      else if letter = 'V' then .error .version
      else .error (.unknownArgument (String.ofList ['-', letter]) false)

def frontLong (name : String) (value : Option String) (verbose : Nat) : Except Refusal Nat :=
  if name = "verbose" || name = "help" || name = "version" then
    if let some value := value then .error (.unwantedValue value (Options.flagOption name))
    else if name = "help" then .error (.help .program)
    else if name = "version" then .error .version
    else .ok (countVerbose verbose)
  else .error (.unknownArgument ("--" ++ name) false)

/-- Whether a word names a command, help included. -/
def isVerb (text : String) : Bool :=
  text = "help" || (Verb.ofWord? text).isSome

/-- Reads the words in front of a command, and then the command. -/
def readFront (verbose : Nat) : List String → Except Refusal Arguments
  | [] => .error (if verbose = 0 then .nothingGiven else .missingCommand)
  | text :: rest => do
      match Word.ofText text with
      | .stop =>
          match rest with
          | [] => .error (if verbose = 0 then .nothingGiven else .missingCommand)
          | text :: _ =>
              .error (if isVerb text then .unknownArgument text false else .unknownCommand text)
      | .long name value => readFront (← frontLong name value verbose) rest
      | .short letters => readFront (← frontLetters letters verbose) rest
      | .plain text =>
          if text = "help" then .error (readHelp rest)
          else match Verb.ofWord? text with
            | some v => readCommand v verbose rest
            | none => .error (.unknownCommand text)

def read (words : List String) : Except Refusal Arguments :=
  readFront 0 words

end Arguments

end ReviewChannel
