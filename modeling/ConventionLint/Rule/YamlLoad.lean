import ConventionLint.Check.Checker

/-! Loading YAML can make any object that the text asks for, unless the safe functions are used. -/

namespace ConventionLint.Rule.YamlLoad
open ConventionLint.Check
open ConventionLint.Report (Message)
open ConventionLint.Tree (NodeId)

def unsafeLoad : Message :=
  ⟨"C7657", "unsafe-yaml-load", "yaml.load\x7b\x7d() call is unsafe, use yaml.safe_load\x7b\x7d()",
    "yaml.load*() is unsafe"⟩

def suffix? : String → Option String
  | "yaml.load" => some ""
  | "yaml.load_all" => some "_all"
  | _ => none

def notes (f : File) (i : NodeId) : List Note :=
  match f.tree.func? i >>= fun func => suffix? (f.tree.source func) with
  | some suffix => [.at unsafeLoad i [suffix, suffix]]
  | none => []

def checker : Checker :=
  .stateless "yaml-load-checker" "Checks for unsafe yaml.load() calls" [unsafeLoad]
    [.simple "call" notes]

end ConventionLint.Rule.YamlLoad
