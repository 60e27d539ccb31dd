import ConventionLint.Text.Cut

/-! The library classes that stand in for everything outside a file: where they come from, what they
derive from and which methods they define. -/

namespace ConventionLint.Inference

inductive WellKnown where
  | object | super | unitTestCase | simpleTestCase | transactionTestCase | testCase | publicFilter
  deriving DecidableEq, Repr

namespace WellKnown

def all : List WellKnown :=
  [.object, .super, .unitTestCase, .simpleTestCase, .transactionTestCase, .testCase, .publicFilter]

def path : WellKnown → String
  | .object => "builtins.object"
  | .super => "builtins.super"
  | .unitTestCase => "unittest.case.TestCase"
  | .simpleTestCase => "django.test.testcases.SimpleTestCase"
  | .transactionTestCase => "django.test.testcases.TransactionTestCase"
  | .testCase => "django.test.testcases.TestCase"
  | .publicFilter => "openedx_filters.tooling.OpenEdxPublicFilter"

def otherPath? : WellKnown → Option String
  | .object => some "object"
  | .super => some "super"
  | .unitTestCase => some "unittest.TestCase"
  | .simpleTestCase => some "django.test.SimpleTestCase"
  | .transactionTestCase => some "django.test.TransactionTestCase"
  | .testCase => some "django.test.TestCase"
  | .publicFilter => some "openedx_filters.OpenEdxPublicFilter"

def base? : WellKnown → Option WellKnown
  | .object => none
  | .simpleTestCase => some .unitTestCase
  | .transactionTestCase => some .simpleTestCase
  | .testCase => some .transactionTestCase
  | .super | .unitTestCase | .publicFilter => some .object

def methods : WellKnown → List String
  | .object => ["__init__", "__new__", "__repr__", "__str__", "__eq__", "__hash__"]
  | .super => ["__init__", "__getattribute__"]
  | .unitTestCase =>
    ["__init__", "setUp", "tearDown", "setUpClass", "tearDownClass", "addCleanup", "doCleanups",
     "run", "debug", "skipTest"]
  | .simpleTestCase => ["setUpClass", "tearDownClass", "__call__", "settings"]
  | .transactionTestCase => ["_pre_setup", "_post_teardown"]
  | .testCase => ["setUpClass", "tearDownClass", "setUpTestData"]
  | .publicFilter => ["run_pipeline", "get_pipeline_configuration"]

def ofPath? (p : String) : Option WellKnown :=
  all.find? fun k => k.path == p || k.otherPath? == some p

def shown (k : WellKnown) : String :=
  match Text.dropHead? "builtins.".toList k.path.toList with
  | some rest => String.ofList rest
  | none => k.path

def shortName (k : WellKnown) : String :=
  String.ofList ((Text.splitBy (· == '.') k.path.toList).getLastD [])

theorem mem_all (k : WellKnown) : k ∈ all := by cases k <;> decide

end WellKnown

end ConventionLint.Inference
