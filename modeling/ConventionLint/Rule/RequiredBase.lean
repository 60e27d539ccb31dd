import ConventionLint.Check.Checker
import ConventionLint.Config.Basic

/-! A class that derives from one class may have to derive from others as well. Which ones is set by
pairs of full names with a colon between them. -/

namespace ConventionLint.Rule.RequiredBase
open ConventionLint.Check
open ConventionLint.Report (Message)
open ConventionLint.Tree (NodeId)

def missingBase : Message :=
  ⟨"E7645", "missing-required-base-class",
    "class \x7b\x7d is missing required base class \x7b\x7d",
    "Used when a class is missing a base class required by one of its other base classes."⟩

structure Requirement where
  child : String
  parent : String
  deriving DecidableEq, Repr

/-- Without a colon a text says nothing. -/
def Requirement.ofText? (s : String) : Option Requirement :=
  (Text.cutAt? [':'] s.toList).map fun (child, parent) =>
    ⟨String.ofList (Text.trim child), String.ofList (Text.trim parent)⟩

def requiredBy (rs : List Requirement) (child : String) : List String :=
  (((rs.filter fun r => r.child == child).map Requirement.parent).eraseDups).mergeSort
    fun a b => a ≤ b

def unmet (rs : List Requirement) (order : List String) : List (List String) :=
  (order.map (requiredBy rs)).filter fun required => !required.all order.contains

def notes (rs : List Requirement) (f : File) (i : NodeId) : List Note :=
  let m := f.model
  match m.mro? (.declared i) with
  | none => []
  | some order =>
    (unmet rs (order.map (m.qualifiedName f.module))).map fun required =>
      .at missingBase i [m.className (.declared i), ", ".intercalate required]

def checker (rs : List Requirement) : Checker :=
  .stateless "required-base-class-checker"
    "Checks that classes have the base classes their other bases require" [missingBase]
    [.simple "classdef" (notes rs)]

def ofSettings (s : Option CheckerSettings) : Checker :=
  checker (((s.map fun s => s.strings "required_base_class").getD []).filterMap
    Requirement.ofText?)

end ConventionLint.Rule.RequiredBase
