import ConventionLint.Command.Copies
import ConventionLint.Command.Lint
import ConventionLint.Command.Listing

/-! Command lines. Options may stand anywhere between the words; their values follow as the next argument
or behind an equals sign. -/

namespace ConventionLint.Command
open ConventionLint.Report (Format)
open ConventionLint.Storage (Path Store)

inductive Request where
  | lint (r : LintRequest)
  | check (p : Path)
  | write (name : String)
  | listFiles
  | listCheckers
  deriving Repr

inductive UsageError where
  | unknownOption (name : String)
  | missingValue (name : String)
  | unknownFormat (name : String)
  | noCommand
  deriving DecidableEq, Repr

def UsageError.message : UsageError → String
  | unknownOption n => "unexpected argument " ++ n
  | missingValue n => "a value is required for " ++ n
  | unknownFormat n => "invalid value for --format: " ++ n
  | noCommand =>
    "Usage: edx-lint [OPTIONS] (lint [PATH] | check FILE | write FILE | list | list-checkers)"

structure Line where
  words : List String
  config : Option String
  format : Format
  checkers : Option String
  preset : Option String
  exclude : List String
  deriving Repr

namespace Line

def empty : Line := ⟨[], none, .text, none, none, []⟩

def takesValue (option : String) : Bool :=
  ["--config", "-c", "--format", "-f", "--checkers", "--preset", "--exclude", "-e"].contains option

def withOption (l : Line) (option value : String) : Except UsageError Line :=
  match option with
  | "--config" | "-c" => .ok { l with config := some value }
  | "--format" | "-f" =>
    match Format.ofName? value with
    | none => .error (.unknownFormat value)
    | some f => .ok { l with format := f }
  | "--checkers" => .ok { l with checkers := some value }
  | "--preset" => .ok { l with preset := some value }
  | "--exclude" | "-e" => .ok { l with exclude := l.exclude ++ [value] }
  | _ => .error (.unknownOption option)

def joined? (arg : String) : Option (String × String) := do
  let (option, value) ← Text.cutAt? ['='] arg.toList
  if takesValue (String.ofList option) then some (String.ofList option, String.ofList value) else none

def isOption (arg : String) : Bool := arg.toList.head? == some '-' && arg != "-"

def read : Line → List String → Except UsageError Line
  | l, [] => .ok l
  | l, arg :: rest =>
    if !isOption arg then read { l with words := l.words ++ [arg] } rest
    else if arg == "--verbose" || arg == "-v" then read l rest
    else match joined? arg with
      | some (option, value) =>
        match l.withOption option value with
        | .error e => .error e
        | .ok l => read l rest
      | none =>
        if !takesValue arg then .error (.unknownOption arg)
        else match rest with
          | [] => .error (.missingValue arg)
          | value :: rest =>
            match l.withOption arg value with
            | .error e => .error e
            | .ok l => read l rest

def lintRequest (l : Line) (path : String) : LintRequest :=
  ⟨.ofString path, l.format, l.checkers, l.preset, l.exclude, l.config.map Path.ofString⟩

def request? (l : Line) : Option Request :=
  match l.words with
  | ["lint"] => some (.lint (l.lintRequest "."))
  | ["lint", path] => some (.lint (l.lintRequest path))
  | ["check", path] => some (.check (.ofString path))
  | ["write", name] => some (.write name)
  | ["list"] => some .listFiles
  | ["list-checkers"] => some .listCheckers
  | _ => none

end Line

namespace Request

def ofArguments (config : Option String) (arguments : List String) : Except UsageError Request :=
  match Line.read { Line.empty with config } arguments with
  | .error e => .error e
  | .ok l =>
    match l.request? with
    | none => .error .noCommand
    | some r => .ok r

def run (s : Store) (userDir : Option Path) : Request → Answer
  | .lint r => Command.lint s userDir r
  | .check p => Command.check s p
  | .write name => Command.write s (.ofString ".") name
  | .listFiles => Command.listFiles s
  | .listCheckers => Command.listCheckers s

end Request

end ConventionLint.Command
