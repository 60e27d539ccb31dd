import ConventionLint.Annotation.Family
import ConventionLint.Rule.AnnotatedCall

/-! What an annotation of a feature toggle has to say, and that every toggle has one. Toggles come from a library of
their own; the one below it is not to be imported. A setting that is true or false is a feature toggle as well and
has to be annotated as one. -/

namespace ConventionLint.Rule.ToggleAnnotation
open ConventionLint.Annotation (Group)
open ConventionLint.Check
open ConventionLint.Report (Message)
open ConventionLint.Tree (NodeId)

def noName : Message :=
  ⟨"E7660", "toggle-no-name", "feature toggle has no name",
    "Feature toggle name must be present and be the first annotation"⟩

def emptyDescription : Message :=
  ⟨"E7661", "toggle-empty-description",
    "feature toggle (\x7b\x7d) does not have a description",
    "Feature toggles must include a thorough description"⟩

def noRemovalDate : Message :=
  ⟨"E7662", "toggle-missing-target-removal-date",
    "temporary feature toggle (\x7b\x7d) has no target removal date",
    "Temporary feature toggles must include a target removal date"⟩

def nonBooleanDefault : Message :=
  ⟨"E7663", "toggle-non-boolean-default-value",
    "feature toggle (\x7b\x7d) default value must be boolean ('True' or 'False')",
    "Feature toggle default values must be boolean"⟩

def missingAnnotation : Message :=
  ⟨"E7664", "toggle-missing-annotation", "missing feature toggle annotation",
    "When a WaffleFlag/Switch object is created, a corresponding annotation must be present above in the same module and with a matching name"⟩

def directImport : Message :=
  ⟨"E7665", "invalid-django-waffle-import", "invalid Django Waffle import",
    "Do not directly access Django Waffle objects and methods. Instead, import from edx_toggles.toggles."⟩

def incorrectAnnotation : Message :=
  ⟨"E7666", "toggle-incorrect-annotation",
    "feature toggle (\x7b\x7d) does not match its annotation (\x7b\x7d)",
    "The annotation preceding a toggle must document that toggle"⟩

def subject : AnnotatedCall.Subject where
  family := Annotation.featureToggle
  functions :=
    ["WaffleFlag", "NonNamespacedWaffleFlag", "WaffleSwitch", "NonNamespacedWaffleSwitch",
     "CourseWaffleFlag", "ExperimentWaffleFlag"]
  nameExpr? t i := (t.args i).head?
  missing := missingAnnotation
  incorrect := incorrectAnnotation

def booleans : List String := ["True", "False"]

def valueOf (g : Group) (token : String) : String := (g.get? token).getD ""

def isTemporary (g : Group) : Bool :=
  Text.contains "temporary".toList (valueOf g ".. toggle_use_cases:").toList

def noteIf (amiss : Bool) (m : Message) (g : Group) (args : List String) : List Note :=
  if amiss then [.atLine m g.line args] else []

def notesOnGroup (g : Group) : List Note :=
  let name := valueOf g ".. toggle_name:"
  let description := Text.trim (valueOf g ".. toggle_description:").toList
  let removalDate := valueOf g ".. toggle_target_removal_date:"
  noteIf name.isEmpty noName g [] ++
  noteIf description.isEmpty emptyDescription g [name] ++
  noteIf (isTemporary g && removalDate.isEmpty) noRemovalDate g [name] ++
  noteIf (!(g.get? ".. toggle_default:").any booleans.contains) nonBooleanDefault g [name]

def notesOnImport (f : File) (i : NodeId) : List Note :=
  if ((f.tree.imported i).head?.map (·.name)) == some "waffle" then [.at directImport i []] else []

def notesOnImportFrom (f : File) (i : NodeId) : List Note :=
  if f.tree.importedFrom? i == some "waffle" then [.at directImport i []] else []

def aside (nodeType : String) (notes : File → NodeId → List Note) : Handler Annotation.Matcher :=
  ⟨.enter, nodeType, fun f i m => (m, notes f i)⟩

def checker : Checker where
  name := "toggle-annotations"
  description := "Checks feature toggle annotations and that toggles are annotated"
  messages :=
    [noName, emptyDescription, noRemovalDate, nonBooleanDefault, missingAnnotation, directImport,
     incorrectAnnotation]
  State := Annotation.Matcher
  initial := .ofGroups []
  handlers :=
    [AnnotatedCall.start subject notesOnGroup, AnnotatedCall.finish subject,
     AnnotatedCall.gather subject, aside "import" notesOnImport,
     aside "importfrom" notesOnImportFrom]

end ConventionLint.Rule.ToggleAnnotation

namespace ConventionLint.Rule.SettingAnnotation
open ConventionLint.Annotation (Group setting)
open ConventionLint.Check
open ConventionLint.Report (Message)
open ConventionLint.Tree (NodeId)

def booleanDefault : Message :=
  ⟨"E7670", "setting-boolean-default-value",
    "setting annotation (\x7b\x7d) cannot have a boolean value",
    "Setting with boolean values should be annotated as feature toggles"⟩

def notesOnGroup (g : Group) : List Note :=
  if (g.get? ".. setting_default:").any ToggleAnnotation.booleans.contains then
    [.atLine booleanDefault g.line [(g.get? ".. setting_name:").getD ""]]
  else []

def notes (f : File) (_ : NodeId) : List Note :=
  (setting.groups f.groups).flatMap notesOnGroup

def checker : Checker :=
  .stateless "setting-annotations" "Checks setting annotations" [booleanDefault]
    [.simple "module" notes]

end ConventionLint.Rule.SettingAnnotation
