import ConventionLint.Check.Checker

/-! Functions that give a text in the language of the reader have to be called with a literal, because the
texts that need other languages are collected from the program itself. -/

namespace ConventionLint.Rule.LocalizedText
open ConventionLint.Check
open ConventionLint.Report (Message)
open ConventionLint.Tree (NodeId)

def notLiteral : Message :=
  ⟨"E7610", "translation-of-non-string",
    "i18n function \x7b\x7d() must be called with a literal string",
    "i18n functions must be called with a literal string"⟩

def functions : List String :=
  ["_", "gettext", "ngettext", "ngettext_lazy", "npgettext", "npgettext_lazy", "pgettext",
   "pgettext_lazy", "ugettext", "ugettext_lazy", "ugettext_noop", "ungettext", "ungettext_lazy"]

def notes (f : File) (i : NodeId) : List Note :=
  match f.tree.calleeIn? functions i with
  | none => []
  | some name =>
    if ((f.tree.args i).head? >>= f.tree.str?).isSome then [] else [.at notLiteral i [name]]

def checker : Checker :=
  .stateless "translation-string-checker"
    "Checks that i18n functions are called with literal strings" [notLiteral] [.simple "call" notes]

end ConventionLint.Rule.LocalizedText
