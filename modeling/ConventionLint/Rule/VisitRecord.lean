import ConventionLint.Check.Checker
import ConventionLint.Config.Basic

/-! Keeps a record of the files that are looked at, if a file for the record is set. -/

namespace ConventionLint.Rule.VisitRecord
open ConventionLint.Check

def checker (record : Option String) : Checker :=
  .stateless "module-tracing-checker" "Records the path of every visited module" []
    [.simple "module" fun _ _ => record.toList.map .visited]

def ofSettings (s : Option CheckerSettings) : Checker :=
  checker ((s >>= fun s => s.text? "record_files").filter fun r => !r.isEmpty)

end ConventionLint.Rule.VisitRecord
