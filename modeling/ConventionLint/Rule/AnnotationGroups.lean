import ConventionLint.Annotation.Family
import ConventionLint.Check.Checker

/-! Annotations of toggles and settings have to be complete: every token once, none left out, values of
the right words, and in their groups no token that is not known. -/

namespace ConventionLint.Rule.AnnotationGroups
open ConventionLint.Annotation (Family Group Problem families featureToggle setting)
open ConventionLint.Check
open ConventionLint.Report (Message)
open ConventionLint.Tree (NodeId)

def invalidChoice : Message :=
  ⟨"E7650", "annotation-invalid-choice",
    "'\x7b\x7d' is not a valid choice for '\x7b\x7d'. Expected one of \x7b\x7d.",
    "Annotation values must be one of the configured choices"⟩

def duplicateToken : Message :=
  ⟨"E7651", "annotation-duplicate-token", "found duplicate token '\x7b\x7d'",
    "Annotation tokens may appear only once per group"⟩

def missingToken : Message :=
  ⟨"E7652", "annotation-missing-token", "missing non-optional annotation: '\x7b\x7d'",
    "Annotation groups must include all non-optional tokens"⟩

def unknownToken : Message :=
  ⟨"E7653", "annotation-unknown-token", "unknown annotation token '\x7b\x7d'",
    "Annotation groups may only use tokens of a known annotation configuration"⟩

def checkedFamilies : List Family := [featureToggle, setting]

def problemNote (line : Nat) : Problem → Note
  | .duplicate token => .atLine duplicateToken line [token]
  | .missing token => .atLine missingToken line [token]
  | .invalidChoice value token expected => .atLine invalidChoice line [value, token, expected]

def unknownTokens (g : Group) : List String :=
  (g.entries.map (·.token)).filter fun t => !families.any fun f => f.accepts t

def notesOnGroup (g : Group) : List Note :=
  let parts := checkedFamilies.filterMap fun f => (g.restrict? f.accepts).map fun part => (f, part)
  let problems := parts.flatMap fun (f, part) => (f.problems part).map (problemNote part.line)
  if parts.isEmpty then []
  else problems ++ (unknownTokens g).map fun t => .atLine unknownToken g.line [t]

def notes (f : File) (_ : NodeId) : List Note := f.groups.flatMap notesOnGroup

def checker : Checker :=
  .stateless "code-annotations" "Validates feature toggle and setting annotation groups"
    [invalidChoice, duplicateToken, missingToken, unknownToken] [.simple "module" notes]

end ConventionLint.Rule.AnnotationGroups
