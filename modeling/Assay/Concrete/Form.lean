/-!
# Forms of concrete syntax

A concrete syntax tree comes from a JavaScript grammar, and each of its nodes has a `Form`. The
forms that have a meaning of their own here are listed; every other form, such as that of a single
token, is known by its name only.
-/

set_option autoImplicit false

namespace Assay

/-- The form of a concrete syntax node. -/
inductive Form where
  | program
  | expressionStatement
  | variableDeclaration
  | lexicalDeclaration
  | statementBlock
  | emptyStatement
  | debuggerStatement
  | ifStatement
  | switchStatement
  | forStatement
  | forInStatement
  | whileStatement
  | doStatement
  | tryStatement
  | returnStatement
  | throwStatement
  | breakStatement
  | continueStatement
  | labeledStatement
  | functionDeclaration
  | generatorFunctionDeclaration
  | classDeclaration
  | parenthesizedExpression
  | identifier
  | propertyIdentifier
  | shorthandPropertyIdentifier
  | shorthandPropertyIdentifierPattern
  | statementIdentifier
  | privatePropertyIdentifier
  | undefinedName
  | thisKeyword
  | superKeyword
  | trueKeyword
  | falseKeyword
  | nullKeyword
  | numberLiteral
  | stringLiteral
  | regexLiteral
  | templateString
  | arrayLiteral
  | objectLiteral
  | binaryExpression
  | unaryExpression
  | updateExpression
  | assignmentExpression
  | augmentedAssignmentExpression
  | ternaryExpression
  | callExpression
  | newExpression
  | memberExpression
  | subscriptExpression
  | sequenceExpression
  | awaitExpression
  | yieldExpression
  | spreadElement
  | metaProperty
  | arrowFunction
  | functionExpression
  | functionKeyword
  | generatorFunction
  | classKeyword
  | objectPattern
  | arrayPattern
  | assignmentPattern
  | restPattern
  | variableDeclarator
  | switchCase
  | classHeritage
  | methodDefinition
  | fieldDefinition
  | classStaticBlock
  | computedPropertyName
  | templateSubstitution
  | pair
  | pairPattern
  | objectAssignmentPattern
  | comment
  | htmlComment
  | hashBangLine
  | fault
  | importKeyword
  | importStatement
  | exportStatement
  | withStatement
  | decorator
  | jsxElement
  | jsxSelfClosingElement
  /-- A form without a meaning of its own. -/
  | other (name : String)
  deriving DecidableEq

namespace Form

/-- The forms with a meaning of their own. -/
def known : List Form :=
  [.program, .expressionStatement, .variableDeclaration, .lexicalDeclaration, .statementBlock,
   .emptyStatement, .debuggerStatement, .ifStatement, .switchStatement, .forStatement,
   .forInStatement, .whileStatement, .doStatement, .tryStatement, .returnStatement,
   .throwStatement, .breakStatement, .continueStatement, .labeledStatement, .functionDeclaration,
   .generatorFunctionDeclaration, .classDeclaration, .parenthesizedExpression, .identifier,
   .propertyIdentifier, .shorthandPropertyIdentifier, .shorthandPropertyIdentifierPattern,
   .statementIdentifier, .privatePropertyIdentifier, .undefinedName, .thisKeyword, .superKeyword,
   .trueKeyword, .falseKeyword, .nullKeyword, .numberLiteral, .stringLiteral, .regexLiteral,
   .templateString, .arrayLiteral, .objectLiteral, .binaryExpression, .unaryExpression,
   .updateExpression, .assignmentExpression, .augmentedAssignmentExpression, .ternaryExpression,
   .callExpression, .newExpression, .memberExpression, .subscriptExpression, .sequenceExpression,
   .awaitExpression, .yieldExpression, .spreadElement, .metaProperty, .arrowFunction,
   .functionExpression, .functionKeyword, .generatorFunction, .classKeyword, .objectPattern,
   .arrayPattern, .assignmentPattern, .restPattern, .variableDeclarator, .switchCase,
   .classHeritage, .methodDefinition, .fieldDefinition, .classStaticBlock, .computedPropertyName,
   .templateSubstitution, .pair, .pairPattern, .objectAssignmentPattern, .comment, .htmlComment,
   .hashBangLine, .fault, .importKeyword, .importStatement, .exportStatement, .withStatement,
   .decorator, .jsxElement, .jsxSelfClosingElement]

/-- The name of a form in the grammar. -/
def name : Form → String
  | .program => "program"
  | .expressionStatement => "expression_statement"
  | .variableDeclaration => "variable_declaration"
  | .lexicalDeclaration => "lexical_declaration"
  | .statementBlock => "statement_block"
  | .emptyStatement => "empty_statement"
  | .debuggerStatement => "debugger_statement"
  | .ifStatement => "if_statement"
  | .switchStatement => "switch_statement"
  | .forStatement => "for_statement"
  | .forInStatement => "for_in_statement"
  | .whileStatement => "while_statement"
  | .doStatement => "do_statement"
  | .tryStatement => "try_statement"
  | .returnStatement => "return_statement"
  | .throwStatement => "throw_statement"
  | .breakStatement => "break_statement"
  | .continueStatement => "continue_statement"
  | .labeledStatement => "labeled_statement"
  | .functionDeclaration => "function_declaration"
  | .generatorFunctionDeclaration => "generator_function_declaration"
  | .classDeclaration => "class_declaration"
  | .parenthesizedExpression => "parenthesized_expression"
  | .identifier => "identifier"
  | .propertyIdentifier => "property_identifier"
  | .shorthandPropertyIdentifier => "shorthand_property_identifier"
  | .shorthandPropertyIdentifierPattern => "shorthand_property_identifier_pattern"
  | .statementIdentifier => "statement_identifier"
  | .privatePropertyIdentifier => "private_property_identifier"
  | .undefinedName => "undefined"
  | .thisKeyword => "this"
  | .superKeyword => "super"
  | .trueKeyword => "true"
  | .falseKeyword => "false"
  | .nullKeyword => "null"
  | .numberLiteral => "number"
  | .stringLiteral => "string"
  | .regexLiteral => "regex"
  | .templateString => "template_string"
  | .arrayLiteral => "array"
  | .objectLiteral => "object"
  | .binaryExpression => "binary_expression"
  | .unaryExpression => "unary_expression"
  | .updateExpression => "update_expression"
  | .assignmentExpression => "assignment_expression"
  | .augmentedAssignmentExpression => "augmented_assignment_expression"
  | .ternaryExpression => "ternary_expression"
  | .callExpression => "call_expression"
  | .newExpression => "new_expression"
  | .memberExpression => "member_expression"
  | .subscriptExpression => "subscript_expression"
  | .sequenceExpression => "sequence_expression"
  | .awaitExpression => "await_expression"
  | .yieldExpression => "yield_expression"
  | .spreadElement => "spread_element"
  | .metaProperty => "meta_property"
  | .arrowFunction => "arrow_function"
  | .functionExpression => "function_expression"
  | .functionKeyword => "function"
  | .generatorFunction => "generator_function"
  | .classKeyword => "class"
  | .objectPattern => "object_pattern"
  | .arrayPattern => "array_pattern"
  | .assignmentPattern => "assignment_pattern"
  | .restPattern => "rest_pattern"
  | .variableDeclarator => "variable_declarator"
  | .switchCase => "switch_case"
  | .classHeritage => "class_heritage"
  | .methodDefinition => "method_definition"
  | .fieldDefinition => "field_definition"
  | .classStaticBlock => "class_static_block"
  | .computedPropertyName => "computed_property_name"
  | .templateSubstitution => "template_substitution"
  | .pair => "pair"
  | .pairPattern => "pair_pattern"
  | .objectAssignmentPattern => "object_assignment_pattern"
  | .comment => "comment"
  | .htmlComment => "html_comment"
  | .hashBangLine => "hash_bang_line"
  | .fault => "ERROR"
  | .importKeyword => "import"
  | .importStatement => "import_statement"
  | .exportStatement => "export_statement"
  | .withStatement => "with_statement"
  | .decorator => "decorator"
  | .jsxElement => "jsx_element"
  | .jsxSelfClosingElement => "jsx_self_closing_element"
  | .other name => name

/-- The form of a name in the grammar. -/
def ofName (name : String) : Form := (known.find? (·.name == name)).getD (.other name)

/-- Forms that may stand between any two tokens and mean nothing. -/
def isNoise : Form → Bool
  | .comment | .htmlComment | .hashBangLine => true
  | _ => false

/-- The words for a form that has no syntax tree. -/
def unsupportedName : Form → String
  | .importStatement | .exportStatement => "module syntax"
  | .importKeyword => "dynamic import"
  | .withStatement => "with statements"
  | .decorator => "decorators"
  | .jsxElement | .jsxSelfClosingElement => "JSX"
  | form => form.name

/-- Forms that make up chains of members and calls. -/
def isLink : Form → Bool
  | .callExpression | .memberExpression | .subscriptExpression => true
  | _ => false

end Form

end Assay
