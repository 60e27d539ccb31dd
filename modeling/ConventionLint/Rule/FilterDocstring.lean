import ConventionLint.Check.Checker

/-! The documentation of a filter has three sections: a description, the type of the filter, and what
triggers it. The last one names a repository, a path and a function, or says that there is nothing. -/

namespace ConventionLint.Rule.FilterDocstring
open ConventionLint.Check
open ConventionLint.Report (Message)
open ConventionLint.Tree (NodeId)

def missingDescription : Message :=
  ⟨"E7690", "filter-docstring-missing-description",
    "Filter's (\x7b\x7d) docstring is missing the required description section",
    "filters docstring is missing the required description section"⟩

def missingType : Message :=
  ⟨"E7691", "filter-docstring-missing-type",
    "Filter's (\x7b\x7d) docstring is missing the required filter type section",
    "filters docstring is missing the required filter type section"⟩

def missingTrigger : Message :=
  ⟨"E7692", "filter-docstring-missing-trigger",
    "Filter's (\x7b\x7d) docstring is missing the required trigger section",
    "filters docstring is missing the required trigger section"⟩

def hasSection (title : String) (cs : List Char) : Bool :=
  match Text.cutAt? title.toList cs with
  | some (_, rest) => rest.contains '\n'
  | none => false

def afterWord? (word : String) (cs : List Char) : Option (List Char) :=
  Text.dropHead? word.toList (Text.trimStart cs)

def afterItem? (words : List String) (cs : List Char) : Option (List Char) := do
  let mut rest ← Text.dropHead? ['-'] cs
  for w in words do
    rest ← afterWord? w rest
  return rest

/-- The value of an item stands in one line; it may be blank but for line breaks. -/
def isValue (cs : List Char) : Bool := !(Text.trim cs).contains '\n' && cs.any (· != '\n')

/-- Whether a text can be cut in two such that both parts satisfy a condition. The first argument comes
before the text, turned round. -/
def cuts (p : List Char → List Char → Bool) (before : List Char) : List Char → Bool
  | [] => p before.reverse []
  | c :: cs => p before.reverse (c :: cs) || cuts p (c :: before) cs

def hasItems : List (List String) → List Char → Bool
  | [], cs => cs.any (· != '\n')
  | words :: more, cs =>
    cuts (fun value rest => isValue value && (afterItem? words rest).any (hasItems more)) [] cs

def isTrigger (cs : List Char) : Bool :=
  let cs := Text.trimStart cs
  (Text.dropHead? "NA".toList cs).isSome ||
    (afterItem? ["Repository:"] cs).any (hasItems [["Path:"], ["Function", "or", "Method:"]])

def anyBehind (title : String) (p : List Char → Bool) : List Char → Bool
  | [] => false
  | c :: cs => (Text.dropHead? title.toList (c :: cs)).any p || anyBehind title p cs

def missingSections (docstring : List Char) : List Message :=
  (if hasSection "Description:" docstring then [] else [missingDescription]) ++
  (if hasSection "Filter Type:" docstring then [] else [missingType]) ++
  (if anyBehind "Trigger:" isTrigger docstring then [] else [missingTrigger])

def notes (f : File) (i : NodeId) : List Note :=
  if f.model.isSubtypeOf (.declared i) "openedx_filters.tooling.OpenEdxPublicFilter" then
    (missingSections ((f.tree.docstring? i).getD "").toList).map fun m =>
      .at m i [f.model.className (.declared i)]
  else []

def checker : Checker :=
  .stateless "docstring-format-checker" "Checks the docstring format of Open edX filters"
    [missingDescription, missingType, missingTrigger] [.simple "classdef" notes]

end ConventionLint.Rule.FilterDocstring
