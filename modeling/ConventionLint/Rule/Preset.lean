import ConventionLint.Rule.AnnotationGroups
import ConventionLint.Rule.AttributeName
import ConventionLint.Rule.EventAnnotation
import ConventionLint.Rule.FeatureToggle
import ConventionLint.Rule.FilterDocstring
import ConventionLint.Rule.InheritedTests
import ConventionLint.Rule.LocalizedText
import ConventionLint.Rule.ParentCall
import ConventionLint.Rule.PlainAssert
import ConventionLint.Rule.PreciseAssert
import ConventionLint.Rule.RangeCall
import ConventionLint.Rule.RequiredBase
import ConventionLint.Rule.ToggleAnnotation
import ConventionLint.Rule.VisitRecord
import ConventionLint.Rule.YamlLoad

/-! All checkers, with the options that a configuration gives them, and sets of checkers that go by a
name. -/

namespace ConventionLint.Rule
open ConventionLint.Check (Checker)

inductive Preset where
  | recommended | all | minimal
  deriving DecidableEq, Repr

def recommended (c : Config) : List Checker :=
  [ParentCall.ofSettings (c.checker? "unit-test-super-checker"),
   InheritedTests.checker,
   LocalizedText.checker,
   RangeCall.checker,
   AttributeName.checker,
   FeatureToggle.checker,
   RequiredBase.ofSettings (c.checker? "required-base-class-checker"),
   AnnotationGroups.checker,
   ToggleAnnotation.checker,
   SettingAnnotation.checker,
   EventAnnotation.checker,
   FilterDocstring.checker,
   PreciseAssert.checker,
   YamlLoad.checker]

def all (c : Config) : List Checker :=
  recommended c ++
    [PlainAssert.checker, VisitRecord.ofSettings (c.checker? "module-tracing-checker")]

def minimal (c : Config) : List Checker :=
  [ParentCall.ofSettings (c.checker? "unit-test-super-checker"), LocalizedText.checker,
   YamlLoad.checker]

namespace Preset

def ofName? (name : String) : Option Preset :=
  match Tree.NodeKind.lowered name with
  | "recommended" => some .recommended
  | "all" => some .all
  | "minimal" => some .minimal
  | _ => none

def checkers (c : Config) : Preset → List Checker
  | .recommended => Rule.recommended c
  | .all => Rule.all c
  | .minimal => Rule.minimal c

end Preset

end ConventionLint.Rule
