import ConventionLint.Check.Checker

/-! Tests that are run by pytest use plain assertions and no methods for them. -/

namespace ConventionLint.Rule.PlainAssert
open ConventionLint.Check
open ConventionLint.Report (Message)
open ConventionLint.Tree (NodeId)

def avoid : Message :=
  ⟨"C7699", "avoid-unittest-asserts",
    "\x7b\x7d should be replaced with a pytest assertion something like `\x7b\x7d`",
    "Avoid using unittest's assertion methods when using pytest, instead use the 'assert' statement"⟩

def replacements : List (String × String) :=
  [("assertTrue", "assert arg1"),
   ("assertFalse", "assert not arg1"),
   ("assertEqual", "assert arg1 == arg2"),
   ("assertEquals", "assert arg1 == arg2"),
   ("assertNotEqual", "assert arg1 != arg2"),
   ("assertNotEquals", "assert arg1 != arg2"),
   ("assert_", "assert arg1"),
   ("assertIn", "assert arg1 in arg2"),
   ("assertNotIn", "assert arg1 not in arg2"),
   ("assertLess", "assert arg1 < arg2"),
   ("assertLessEqual", "assert arg1 <= arg2"),
   ("assertGreater", "assert arg1 > arg2"),
   ("assertGreaterEqual", "assert arg1 >= arg2"),
   ("assertAlmostEqual", "assert math.isclose(arg1, arg2)"),
   ("assertNotAlmostEqual", "assert not math.isclose(arg1, arg2)"),
   ("assertIs", "assert arg1 is arg2"),
   ("assertIsNot", "assert arg1 is not arg2"),
   ("assertIsNone", "assert arg1 is None"),
   ("assertIsNotNone", "assert arg1 is not None"),
   ("assertIsInstance", "assert isinstance(arg1, arg2)"),
   ("assertNotIsInstance", "assert not isinstance(arg1, arg2)"),
   ("assertRaises", "pytest.raises(arg) or with pytest.raises(arg) as optional_var:")]

def notes (f : File) (i : NodeId) : List Note :=
  (do
    let method ← f.tree.func? i >>= f.tree.accessed?
    let replacement ← replacements.lookup method
    return Note.at avoid i [method, replacement]).toList

def checker : Checker :=
  .stateless "unittest-assert-checker" "Checks for unittest assert methods in pytest suites"
    [avoid] [.simple "call" notes]

end ConventionLint.Rule.PlainAssert
