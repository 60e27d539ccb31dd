import ConventionLint.Check.Checker

/-! A test class should not derive from another one with tests, because those would run twice. A class
is no test class if it sets `__test__` to something false. -/

namespace ConventionLint.Rule.InheritedTests
open ConventionLint.Check
open ConventionLint.Inference (ClassId Model)
open ConventionLint.Report (Message)
open ConventionLint.Tree (NodeId)

def inheritsTests : Message :=
  ⟨"E7603", "test-inherits-tests", "test class \x7b\x7d inherits tests from \x7b\x7d",
    "Used when a test class inherits test methods from another test class, meaning the inherited tests will run more than once."⟩

def isTestClass (m : Model) (c : ClassId) : Bool :=
  m.isSubtypeOf c "unittest.case.TestCase" &&
    ((m.localLiteral? c "__test__").map Tree.Literal.truthy).getD true

def hasTests (m : Model) (c : ClassId) : Bool :=
  (m.methods c).any fun n => File.startsWith n "test_"

def source? (m : Model) (c : ClassId) : Option ClassId :=
  if isTestClass m c then (m.ancestorsOf c).find? fun a => isTestClass m a && hasTests m a
  else none

def notes (f : File) (i : NodeId) : List Note :=
  let m := f.model
  ((source? m (.declared i)).map fun a =>
    .at inheritsTests i [m.className (.declared i), m.className a]).toList

def checker : Checker :=
  .stateless "layered-test-class-checker" "Checks that test classes don't inherit test methods"
    [inheritsTests] [.simple "classdef" notes]

end ConventionLint.Rule.InheritedTests
