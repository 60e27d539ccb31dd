import ConventionLint.Command.Answer
import ConventionLint.Copy.Known
import ConventionLint.Rule.Preset

/-! Lists of what there is: files that can be written, checkers and their messages. -/

namespace ConventionLint.Command
open ConventionLint.Check (Checker)
open ConventionLint.Storage (Store)

def padded (width : Nat) (s : String) : String := s ++ "".pushn ' ' (width - s.length)

def fileLines : List String :=
  "edx-lint knows about these files:" ::
    Copy.known.map fun k => "  " ++ padded 24 k.name ++ " (" ++ k.format ++ ")"

def row (code symbol text : String) : String := padded 8 code ++ " " ++ padded 38 symbol ++ " " ++ text

def checkerLines (c : Checker) : List String :=
  ["", c.name ++ " - " ++ c.description] ++ c.messages.map fun m => row m.code m.symbol m.template

def allCheckerLines : List String :=
  ["Available checkers:", "", row "Code" "Symbol" "Message", "".pushn '-' 80] ++
  (Rule.all .default).flatMap checkerLines ++
  ["", "Presets:",
   "  recommended  - every checker except unittest-assert and module-tracing (default)",
   "  all          - every checker",
   "  minimal      - unit-test-super, translation-string and yaml-load",
   "", "Use --checkers to run specific checkers, e.g.:",
   "  edx-lint lint --checkers range-checker,yaml-load-checker",
   "  edx-lint lint --checkers E7601,C7657"]

def listFiles (s : Store) : Answer := .say s fileLines 0

def listCheckers (s : Store) : Answer := .say s allCheckerLines 0

end ConventionLint.Command
