import ConventionLint.Storage.Path
import ConventionLint.Storage.Sealed
import ConventionLint.Text.Line

/-! Files of which every project may have a copy, and the texts that the copies are made from, line by line. A copy
is sealed and begins with a comment that warns of changes. -/

namespace ConventionLint.Copy.Master

def ofLines (lines : List String) : String := String.join (lines.map (· ++ "\n"))

def pylintrc : String := ofLines [
  "[MASTER]", "ignore = migrations", "persistent = yes",
  "load-plugins = edx_lint.pylint,pylint_django,pylint_celery", "", "[MESSAGES CONTROL]", "enable =",
  "    blacklisted-name,", "    line-too-long,", "", "    abstract-class-instantiated,",
  "    abstract-method,", "    anomalous-backslash-in-string,", "    arguments-differ,",
  "    assert-on-tuple,", "    bad-except-order,", "    dangerous-default-value,", "    duplicate-key,",
  "    literal-used-as-attribute,", "    missing-required-base-class,", "    non-parent-method-called,",
  "    simplifiable-range,", "    super-method-not-called,", "    test-inherits-tests,",
  "    translation-of-non-string,", "    unsafe-yaml-load,", "    wrong-assert-type,", "",
  "    feature-toggle-needs-doc,", "    illegal-waffle-usage,", "    toggle-no-name,",
  "    toggle-empty-description,", "    toggle-missing-target-removal-date,",
  "    toggle-non-boolean-default-value,", "    toggle-missing-annotation,",
  "    invalid-django-waffle-import,", "    toggle-incorrect-annotation,",
  "    setting-boolean-default-value,", "", "disable =", "    bad-indentation,",
  "    broad-exception-raised,", "    consider-using-f-string,", "    duplicate-code,",
  "    file-ignored,", "    fixme,", "    global-statement,", "    invalid-name,",
  "    locally-disabled,", "    no-else-return,", "    suppressed-message,",
  "    too-few-public-methods,", "    too-many-ancestors,", "    too-many-arguments,",
  "    too-many-branches,", "    too-many-instance-attributes,", "    too-many-lines,",
  "    too-many-locals,", "    too-many-public-methods,", "    too-many-return-statements,",
  "    ungrouped-imports,", "    unspecified-encoding,", "    unused-wildcard-import,",
  "    use-maxsplit-arg,", "", "[REPORTS]", "output-format = text", "reports = no", "score = no", "",
  "[BASIC]", "module-rgx = (([a-z_][a-z0-9_]*)|([A-Z][a-zA-Z0-9]+))$",
  "const-rgx = (([A-Z_][A-Z0-9_]*)|(__.*__)|log|urlpatterns|logger|User)$",
  "class-rgx = [A-Z_][a-zA-Z0-9]+$", "function-rgx = ([a-z_][a-z0-9_]\x7b2,40\x7d|test_[a-z0-9_]+)$",
  "method-rgx = ([a-z_][a-z0-9_]\x7b2,40\x7d|setUp|set[Uu]pClass|tearDown|tear[Dd]ownClass|assert[A-Z]\\w*|maxDiff|test_[a-z0-9_]+)$",
  "attr-rgx = [a-z_][a-z0-9_]\x7b2,30\x7d$", "argument-rgx = [a-z_][a-z0-9_]\x7b2,30\x7d$",
  "variable-rgx = [a-z_][a-z0-9_]\x7b2,30\x7d$", "good-names = f,i,j,k,db,ex,Run,_,__",
  "bad-names = foo,bar,baz,toto,tutu,tata",
  "no-docstring-rgx = __.*__$|test_.+|setUp$|setUpClass$|tearDown$|tearDownClass$|Meta$",
  "docstring-min-length = 5", "", "[FORMAT]", "max-line-length = 120",
  "ignore-long-lines = ^\\s*(# )?((<?https?://\\S+>?)|(\\.\\. \\w+: .*))$", "single-line-if-stmt = no",
  "max-module-lines = 1000", "indent-string = '    '", "", "[MISCELLANEOUS]", "notes = FIXME,XXX,TODO",
  "", "[SIMILARITIES]", "min-similarity-lines = 4", "ignore-comments = yes", "ignore-docstrings = yes",
  "ignore-imports = no", "", "[TYPECHECK]", "ignore-mixin-members = yes", "ignored-classes = SQLObject",
  "unsafe-load-any-extension = yes", "generated-members =", "    REQUEST,", "    acl_users,",
  "    aq_parent,", "    objects,", "    DoesNotExist,", "    can_read,", "    can_write,",
  "    get_url,", "    size,", "    content,", "    status_code,", "    create,", "    build,",
  "    fields,", "    tag,", "    org,", "    course,", "    category,", "    name,", "    revision,",
  "    _meta,", "", "[VARIABLES]", "init-import = no", "dummy-variables-rgx = _|dummy|unused|.*_unused",
  "additional-builtins =", "", "[CLASSES]", "defining-attr-methods = __init__,__new__,setUp",
  "valid-classmethod-first-arg = cls", "valid-metaclass-classmethod-first-arg = mcs", "", "[DESIGN]",
  "max-args = 5", "ignored-argument-names = _.*", "max-locals = 15", "max-returns = 6",
  "max-branches = 12", "max-statements = 50", "max-parents = 7", "max-attributes = 7",
  "min-public-methods = 2", "max-public-methods = 20", "", "[IMPORTS]",
  "deprecated-modules = regsub,TERMIOS,Bastion,rexec", "", "[EXCEPTIONS]",
  "overgeneral-exceptions = builtins.Exception"]

def editorconfig : String := ofLines [
  "[*]", "end_of_line = lf", "insert_final_newline = true", "charset = utf-8", "indent_style = space",
  "indent_size = 4", "max_line_length = 120", "trim_trailing_whitespace = true", "",
  "[\x7bMakefile, *.mk\x7d]", "indent_style = tab", "indent_size = 8", "", "[*.\x7byml,yaml,json\x7d]",
  "indent_size = 2", "", "[*.js]", "indent_size = 2", "", "[*.diff]",
  "trim_trailing_whitespace = false", "", "[.git/*]", "trim_trailing_whitespace = false", "",
  "[COMMIT_EDITMSG]", "max_line_length = 72", "", "[*.rst]", "max_line_length = 79"]

def sample : String := ofLines [
  "Nothing to see here.", "This file only exists to exercise the writer with a non-hash comment style."]

end ConventionLint.Copy.Master

namespace ConventionLint.Copy
open ConventionLint.Storage

structure Known where
  name : String
  format : String
  comment : String
  master : String
  deriving DecidableEq, Repr

def known : List Known :=
  [⟨"pylintrc", "ini", "# \x7b\x7d", Master.pylintrc⟩,
   ⟨".editorconfig", "ini", "# \x7b\x7d", Master.editorconfig⟩,
   ⟨"just_for_testing.txt", "txt", "-- \x7b\x7d", Master.sample⟩]

def warning (name : String) : List String :=
  ["***************************",
   "** DO NOT EDIT THIS FILE **",
   "***************************",
   "",
   "This file was generated by edx-lint: https://github.com/openedx/edx-lint",
   "",
   "To change it, edit the master copy in the edx-lint repo, release a new",
   "version, and then run:",
   "",
   "    $ edx-lint write " ++ name,
   "",
   "STAY AWAY FROM THIS FILE!"]

namespace Known

def ofName? (name : String) : Option Known := known.find? fun k => k.name == name

def commentLine (k : Known) (text : List Char) : List Char :=
  Text.trimEnd (Text.replaceFirst Sealed.mark text k.comment.toList)

def header (k : Known) : List Char :=
  (warning k.name).flatMap fun line => k.commentLine line.toList ++ ['\n']

def body (k : Known) : List Char := k.header ++ '\n' :: k.master.toList

def content (k : Known) : Text.Bytes :=
  Text.Utf8.encode (Sealed.render k.body k.comment.toList)

/-- Where a changed copy is kept: the mark comes before the last dot, unless the name begins with it. -/
def backupName (k : Known) : String :=
  match Path.splitName k.name with
  | (stem, some extension) => stem ++ "_backup." ++ extension
  | (stem, none) => stem ++ "_backup"

end Known

end ConventionLint.Copy
