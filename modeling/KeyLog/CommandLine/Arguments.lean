import KeyLog.Settings

/-!
# Command lines

A command line is options, the name of a subcommand and the arguments of the subcommand.  It is
read word by word from left to right, and the first word that decides ends the reading: a request
for help or the version is granted where it stands, and a word that fits nowhere refuses the whole
line.

## When an option's value counts

The value of `-f` or `--file` that is a word of its own is only noted when it is read.  Whether it
may be empty and whether it came twice is looked at when the next option is read, or at the very
end.  So a request for help that stands after the subcommand is granted whatever the noted value
is.  A value that is attached to its option is looked at on the spot.
-/

namespace KeyLog
namespace CommandLine

/-- The subcommands. -/
inductive Subcommand where
  | get | set | keys | verify | compact
  deriving DecidableEq, Repr

/-- The name of a subcommand. -/
def Subcommand.name : Subcommand → String
  | .get => "get"
  | .set => "set"
  | .keys => "keys"
  | .verify => "verify"
  | .compact => "compact"

/-- The subcommand with a name. -/
def Subcommand.ofName? : String → Option Subcommand
  | "get" => some .get
  | "set" => some .set
  | "keys" => some .keys
  | "verify" => some .verify
  | "compact" => some .compact
  | _ => none

@[simp] theorem Subcommand.ofName?_name (subcommand : Subcommand) :
    ofName? subcommand.name = some subcommand := by
  cases subcommand <;> rfl

/-- The number of arguments that a subcommand takes. -/
def Subcommand.arity : Subcommand → Nat
  | .get => 1
  | .set => 2
  | .keys | .verify | .compact => 0

/-- What a command line asks of an open store. -/
inductive Task where
  | get (key : String)
  | set (key value : String)
  | keys
  | compact
  deriving DecidableEq, Repr

/-- What a command line asks to be done with a log. -/
inductive Action where
  /-- Replay it without opening a store. -/
  | verify
  /-- Open it as a store, and do this. -/
  | onStore (task : Task)
  deriving DecidableEq, Repr

/-- What help is asked for. -/
inductive Topic where
  | program
  | subcommand (subcommand : Subcommand)
  /-- The subcommand that gives help. -/
  | help
  deriving DecidableEq, Repr

/-- What a command line means. -/
inductive Request where
  | refused
  | help (topic : Topic)
  | version
  | run (path : String) (action : Action)
  deriving DecidableEq, Repr

/-- What the arguments of a subcommand mean. -/
inductive Arguments where
  | refused
  | help
  | action (action : Action)
  deriving DecidableEq, Repr

/-- The word is to be read as an option: it starts with a hyphen and has more than that. -/
def looksLikeOption (word : String) : Bool := word.startsWith "-" && word != "-"

/-! ## After the subcommand -/

/-- The action of a subcommand with all its arguments. -/
def Subcommand.apply : Subcommand → List String → Arguments
  | .get, [key] => .action (.onStore (.get key))
  | .set, [key, value] => .action (.onStore (.set key value))
  | .keys, [] => .action (.onStore .keys)
  | .verify, [] => .action .verify
  | .compact, [] => .action (.onStore .compact)
  | _, _ => .refused

/-- Reads the words after a subcommand; `given` are its arguments so far, and after `--` every word
is an argument. -/
def arguments (subcommand : Subcommand) (plain : Bool) (given : List String) :
    List String → Arguments
  | [] => subcommand.apply given
  | word :: rest =>
    if !plain && word == "--" then arguments subcommand true given rest
    else if !plain && looksLikeOption word then
      if word == "--help" || word.startsWith "-h" then .help else .refused
    else if given.length < subcommand.arity then
      arguments subcommand plain (given ++ [word]) rest
    else .refused

/-- Reads the words after `help`. -/
def helpTopic : List String → Request
  | [] => .help .program
  | ["help"] => .help .help
  | [name] =>
    match Subcommand.ofName? name with
    | some subcommand => .help (.subcommand subcommand)
    | none => .refused
  | _ => .refused

/-! ## Before the subcommand -/

/-- What is known of the option for the path. -/
structure PathOption where
  /-- A path that was looked at and taken. -/
  taken : Option String
  /-- A path that was only noted. -/
  noted : Option String

namespace PathOption

/-- Takes a path, unless it is empty or there is one already. -/
def take (option : PathOption) (path : String) : Option PathOption :=
  if path.isEmpty || option.taken.isSome then none else some ⟨some path, none⟩

/-- Looks at the path that was noted. -/
def settle (option : PathOption) : Option PathOption :=
  match option.noted with
  | none => some option
  | some path => PathOption.take ⟨option.taken, none⟩ path

end PathOption

/-- What a word means that looks like an option. -/
inductive Flag where
  | help | version
  /-- The path follows as the next word. -/
  | path
  | attachedPath (path : String)
  | unknown
  deriving DecidableEq, Repr

/-- Reads a word that looks like an option.  Short options may run together, and the first one
decides: help and version are granted at once, and what follows `f` is its path. -/
def Flag.ofWord (word : String) : Flag :=
  match word.toList with
  | '-' :: '-' :: name =>
    match String.ofList name with
    | "help" => .help
    | "version" => .version
    | "file" => .path
    | _ =>
      match name with
      | 'f' :: 'i' :: 'l' :: 'e' :: '=' :: text => .attachedPath (.ofList text)
      | _ => .unknown
  | '-' :: 'h' :: _ => .help
  | '-' :: 'V' :: _ => .version
  | ['-', 'f'] => .path
  | '-' :: 'f' :: '=' :: text => .attachedPath (.ofList text)
  | '-' :: 'f' :: text => .attachedPath (.ofList text)
  | _ => .unknown

/-- Reads the words after a subcommand and settles the path. -/
def finish (option : PathOption) (subcommand : Subcommand) (rest : List String) : Request :=
  match arguments subcommand false [] rest with
  | .refused => .refused
  | .help => .help (.subcommand subcommand)
  | .action action =>
    match option.settle with
    | none => .refused
    | some option =>
      let standard : Settings := {}
      .run (option.taken.getD standard.path) action

/-- Reads the words before a subcommand; `awaiting` says that the next word is the path. -/
def read (option : PathOption) (awaiting : Bool) : List String → Request
  | [] => .refused
  | word :: rest =>
    if awaiting then
      if looksLikeOption word then .refused else read { option with noted := some word } false rest
    else
      match Subcommand.ofName? word with
      | some subcommand => finish option subcommand rest
      | none =>
        if word == "help" then helpTopic rest
        else if word == "--" || !looksLikeOption word then .refused
        else
          match Flag.ofWord word with
          | .unknown => .refused
          | flag =>
            match option.settle with
            | none => .refused
            | some option =>
              match flag with
              | .help => .help .program
              | .version => .version
              | .path => read option true rest
              | .attachedPath path =>
                match option.take path with
                | none => .refused
                | some option => read option false rest
              | .unknown => .refused

/-- What a command line means. -/
def Request.ofWords (words : List String) : Request := read ⟨none, none⟩ false words

end CommandLine
end KeyLog
