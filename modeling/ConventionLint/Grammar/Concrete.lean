import ConventionLint.Grammar.Token

/-! Concrete trees of Python programs. A node has one of the kinds of the grammar, a span, the role
it plays in its parent, if that matters, and its children from left to right. Of the tokens without a
kind only those that carry meaning stay in the tree; comments do not. -/

namespace ConventionLint.Grammar

inductive Kind where
  | module | importStatement | importPrefix | relativeImport | futureImportStatement
  | importFromStatement | aliasedImport | wildcardImport | printStatement | chevron | assertStatement
  | expressionStatement | namedExpression | returnStatement | deleteStatement | raiseStatement
  | passStatement | breakStatement | continueStatement | ifStatement | elifClause | elseClause
  | matchStatement | caseClause | forStatement | whileStatement | tryStatement | exceptClause
  | exceptGroupClause | finallyClause | withStatement | withClause | withItem | functionDefinition
  | parameters | lambdaParameters | listSplat | dictionarySplat | globalStatement | nonlocalStatement
  | execStatement | typeAliasStatement | classDefinition | typeParameter | argumentList
  | decoratedDefinition | decorator | block | expressionList | dottedName | casePattern | asPattern
  | unionPattern | listPattern | tuplePattern | dictPattern | keywordPattern | splatPattern
  | classPattern | complexPattern | patternList | defaultParameter | typedDefaultParameter
  | listSplatPattern | dictionarySplatPattern | asPatternTarget | notOperator | booleanOperator
  | binaryOperator | unaryOperator | comparisonOperator | lambda | assignment | augmentedAssignment
  | yield | attribute | subscript | slice | ellipsis | call | typedParameter | type | splatType
  | genericType | unionType | constrainedType | memberType | keywordArgument | list | set | tuple
  | dictionary | pair | listComprehension | dictionaryComprehension | setComprehension
  | generatorExpression | parenthesizedExpression | forInClause | ifClause | conditionalExpression
  | concatenatedString | string | interpolation | formatSpecifier | formatExpression
  | typeConversion | integer | float | identifier | true | false | none | await
  | positionalSeparator | keywordSeparator
  deriving DecidableEq, Repr

def Kind.name : Kind → String
  | .module => "module" | .importStatement => "import_statement" | .importPrefix => "import_prefix"
  | .relativeImport => "relative_import" | .futureImportStatement => "future_import_statement"
  | .importFromStatement => "import_from_statement" | .aliasedImport => "aliased_import"
  | .wildcardImport => "wildcard_import" | .printStatement => "print_statement"
  | .chevron => "chevron" | .assertStatement => "assert_statement"
  | .expressionStatement => "expression_statement" | .namedExpression => "named_expression"
  | .returnStatement => "return_statement" | .deleteStatement => "delete_statement"
  | .raiseStatement => "raise_statement" | .passStatement => "pass_statement"
  | .breakStatement => "break_statement" | .continueStatement => "continue_statement"
  | .ifStatement => "if_statement" | .elifClause => "elif_clause" | .elseClause => "else_clause"
  | .matchStatement => "match_statement" | .caseClause => "case_clause"
  | .forStatement => "for_statement" | .whileStatement => "while_statement"
  | .tryStatement => "try_statement" | .exceptClause => "except_clause"
  | .exceptGroupClause => "except_group_clause" | .finallyClause => "finally_clause"
  | .withStatement => "with_statement" | .withClause => "with_clause" | .withItem => "with_item"
  | .functionDefinition => "function_definition" | .parameters => "parameters"
  | .lambdaParameters => "lambda_parameters" | .listSplat => "list_splat"
  | .dictionarySplat => "dictionary_splat" | .globalStatement => "global_statement"
  | .nonlocalStatement => "nonlocal_statement" | .execStatement => "exec_statement"
  | .typeAliasStatement => "type_alias_statement" | .classDefinition => "class_definition"
  | .typeParameter => "type_parameter" | .argumentList => "argument_list"
  | .decoratedDefinition => "decorated_definition" | .decorator => "decorator" | .block => "block"
  | .expressionList => "expression_list" | .dottedName => "dotted_name"
  | .casePattern => "case_pattern" | .asPattern => "as_pattern" | .unionPattern => "union_pattern"
  | .listPattern => "list_pattern" | .tuplePattern => "tuple_pattern"
  | .dictPattern => "dict_pattern" | .keywordPattern => "keyword_pattern"
  | .splatPattern => "splat_pattern" | .classPattern => "class_pattern"
  | .complexPattern => "complex_pattern" | .patternList => "pattern_list"
  | .defaultParameter => "default_parameter" | .typedDefaultParameter => "typed_default_parameter"
  | .listSplatPattern => "list_splat_pattern"
  | .dictionarySplatPattern => "dictionary_splat_pattern" | .asPatternTarget => "as_pattern_target"
  | .notOperator => "not_operator" | .booleanOperator => "boolean_operator"
  | .binaryOperator => "binary_operator" | .unaryOperator => "unary_operator"
  | .comparisonOperator => "comparison_operator" | .lambda => "lambda"
  | .assignment => "assignment" | .augmentedAssignment => "augmented_assignment"
  | .yield => "yield" | .attribute => "attribute" | .subscript => "subscript" | .slice => "slice"
  | .ellipsis => "ellipsis" | .call => "call" | .typedParameter => "typed_parameter"
  | .type => "type" | .splatType => "splat_type" | .genericType => "generic_type"
  | .unionType => "union_type" | .constrainedType => "constrained_type"
  | .memberType => "member_type" | .keywordArgument => "keyword_argument" | .list => "list"
  | .set => "set" | .tuple => "tuple" | .dictionary => "dictionary" | .pair => "pair"
  | .listComprehension => "list_comprehension"
  | .dictionaryComprehension => "dictionary_comprehension"
  | .setComprehension => "set_comprehension" | .generatorExpression => "generator_expression"
  | .parenthesizedExpression => "parenthesized_expression" | .forInClause => "for_in_clause"
  | .ifClause => "if_clause" | .conditionalExpression => "conditional_expression"
  | .concatenatedString => "concatenated_string" | .string => "string"
  | .interpolation => "interpolation" | .formatSpecifier => "format_specifier"
  | .formatExpression => "format_expression" | .typeConversion => "type_conversion"
  | .integer => "integer" | .float => "float" | .identifier => "identifier" | .true => "true"
  | .false => "false" | .none => "none" | .await => "await"
  | .positionalSeparator => "positional_separator" | .keywordSeparator => "keyword_separator"

inductive Role where
  | name | body | value | key | left | right | object | attribute | function | arguments
  | superclasses | parameters | definition | moduleName | newName | expression
  deriving DecidableEq, Repr

inductive Concrete where
  | token (text : String) (span : Span)
  | node (kind : Kind) (role : Option Role) (span : Span) (children : List Concrete)
  deriving Repr

namespace Concrete

def span : Concrete → Span
  | .token _ s => s
  | .node _ _ s _ => s

def kind? : Concrete → Option Kind
  | .token .. => none
  | .node k _ _ _ => some k

def role? : Concrete → Option Role
  | .token .. => none
  | .node _ r _ _ => r

def children : Concrete → List Concrete
  | .token .. => []
  | .node _ _ _ cs => cs

def withRole (r : Role) : Concrete → Concrete
  | .token t s => .token t s
  | .node k _ s cs => .node k (some r) s cs

def isNamed : Concrete → Bool
  | .token .. => false
  | .node .. => true

def named (c : Concrete) : List Concrete := c.children.filter isNamed

def child? (c : Concrete) (r : Role) : Option Concrete := c.children.find? fun d => d.role? == some r

def hasKind (c : Concrete) (k : Kind) : Bool := c.kind? == some k

mutual

def size : Concrete → Nat
  | .token .. => 1
  | .node _ _ _ cs => 1 + sizeAll cs

def sizeAll : List Concrete → Nat
  | [] => 0
  | c :: cs => size c + sizeAll cs

end

end Concrete

end ConventionLint.Grammar
