/-!
# Command-line arguments

The words after the program's name. Options may stand before and after the
path of the input; the value of an option is the next word, or stands in the
same word: after `=` for a long option, at once for a short one. `--` ends the
options, and a lone `-` is none.
-/

namespace ContactCard

structure Arguments where
  paths : List String := []
  output : Option String := none
  config : Option String := none
  targetVersion : Option String := none
  noGenerator : Bool := false
  help : Bool := false

/-- What a command line asks for; without a command it asks for help. -/
inductive Request
  | help
  | run (command : String) (arguments : List String)

namespace Arguments

/-- An option that takes a value. -/
inductive Setting
  | output
  | config
  | targetVersion

inductive Flag
  | noGenerator
  | help

/-- What a word is by itself. A setting comes with the value that the same word
gives it, if any. -/
inductive Word
  | operand
  | setting (setting : Setting) (value : Option String)
  | flag (flag : Flag)
  | unknown

def Setting.ofLetter? : Char → Option Setting
  | 'o' => some .output
  | 'c' => some .config
  | 't' => some .targetVersion
  | _ => none

def Setting.ofName? : String → Option Setting
  | "output" => some .output
  | "config" => some .config
  | "target-version" => some .targetVersion
  | _ => none

def Flag.ofName? : String → Option Flag
  | "no-generator" => some .noGenerator
  | "help" => some .help
  | _ => none

/-- A word that began with two hyphens: a name, and the value after `=`. -/
def Word.ofLong (cs : List Char) : Word :=
  let name := cs.takeWhile (· ≠ '=')
  let value : Option String :=
    if name.length < cs.length then some (.ofList (cs.drop (name.length + 1))) else none
  match Setting.ofName? (.ofList name), Flag.ofName? (.ofList name), value with
  | some known, _, given => .setting known given
  | none, some known, none => .flag known
  | none, _, _ => .unknown

/-- A word that began with one hyphen: a letter, and the value that follows. -/
def Word.ofShort (letter : Char) (rest : List Char) : Word :=
  match Setting.ofLetter? letter with
  | some known => .setting known (if rest.isEmpty then none else some (.ofList rest))
  | none => .unknown

def Word.ofString (word : String) : Word :=
  match word.toList with
  | '-' :: '-' :: rest => .ofLong rest
  | '-' :: letter :: rest => .ofShort letter rest
  | _ => .operand

def set (a : Arguments) (value : String) : Setting → Arguments
  | .output => { a with output := some value }
  | .config => { a with config := some value }
  | .targetVersion => { a with targetVersion := some value }

def raise (a : Arguments) : Flag → Arguments
  | .noGenerator => { a with noGenerator := true }
  | .help => { a with help := true }

/-- Reads words into arguments, unless one is no option that is known or an
option lacks its value. Of a repeated option the last value holds. -/
def extend? (a : Arguments) : List String → Option Arguments
  | [] => some a
  | "--" :: rest => some { a with paths := a.paths ++ rest }
  | word :: rest =>
    match Word.ofString word with
    | .operand => extend? { a with paths := a.paths ++ [word] } rest
    | .flag flag => extend? (a.raise flag) rest
    | .setting setting (some value) => extend? (a.set value setting) rest
    | .setting setting none =>
      match rest with
      | [] => none
      | value :: rest => extend? (a.set value setting) rest
    | .unknown => none

def read? (words : List String) : Option Arguments := extend? {} words

end Arguments

/-- Reads a command line, unless it begins with an option other than help. -/
def Request.read? : List String → Option Request
  | [] => some .help
  | ["--"] => some .help
  | "--" :: command :: rest => some (.run command rest)
  | word :: rest =>
    match Arguments.Word.ofString word with
    | .operand => some (.run word rest)
    | .flag .help => some .help
    | _ => none

end ContactCard
