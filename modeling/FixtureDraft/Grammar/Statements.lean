import FixtureDraft.Grammar.Declarations

/-!
# Statements and whole files

Statements, and the items of a file: directives, types, namespaces and statements.
-/

namespace FixtureDraft.Grammar

open FixtureDraft.Tree
open Pattern

/-- A statement. -/
def statement : Form := .rule .statement

/-- A block of statements. -/
def block : Form := .rule .block

/-- A block of statements in braces. -/
def blockRule : Form := form "block" <| braced (many statement)

/-- A condition in parentheses. -/
def test : Form := all [op "(", expression, op ")"]

/-- Words that cannot begin a type where a statement begins: those of other statements and
those of operands, except the two that begin a type as well. -/
def statementTypeExclusions : List String :=
  statementWords ++ operandKeywords.filter fun w => w != "ref" && w != "delegate"

/-- A type at the start of a statement. The word `yield` names a type there, but not before the
keywords that make it a statement. -/
def statementType : Form :=
  all [absent (kwIn statementTypeExclusions),
       absent (seq (kw "yield") (kwIn ["return", "break"])), declaredType]

/-- Variables declared in a statement. -/
def localVariables : Form := variableDeclaration statementType

/-! ## Statements with a keyword -/

/-- A loop over a counter or a condition. -/
def forStatement : Form :=
  let start := any [seq localVariables (op ";"), seq (listed expression) (op ";")]
  form "for_statement" <| all
    [kw "for", op "(", start, optional expression, op ";", listed expression, op ")", statement]

/-- A loop over the elements of a collection. -/
def foreachStatement : Form :=
  let element := any
    [all [declaredType, any [anyName, .rule .tuplePattern], kw "in"], seq expression (kw "in")]
  form "foreach_statement" <| all
    [optional (kw "await"), kw "foreach", op "(", element, expression, op ")", statement]

/-- A choice among sections. -/
def switchStatement : Form :=
  let guardClause := form "when_clause" (seq (kw "when") expression)
  let label := any
    [seq (kw "case") (any
       [all [.rule .matching, optional guardClause, op ":"], seq expression (op ":")]),
     seq (kw "default") (op ":")]
  let part := form "switch_section" (seq label (many statement))
  form "switch_statement" <| all
    [kw "switch", parenthesized, form "switch_body" (braced (many part))]

/-- A block whose faults are caught. -/
def tryStatement : Form :=
  let declared := form "catch_declaration" (all [op "(", declaredType, optional anyName, op ")"])
  let filter := form "catch_filter_clause" (seq (kw "when") test)
  let caught := form "catch_clause" (all [kw "catch", many (any [filter, declared]), block])
  form "try_statement" <| all
    [kw "try", block, many caught,
     optional (form "finally_clause" (seq (kw "finally") block))]

/-- A statement that uses something up. -/
def usingStatement : Form :=
  form "using_statement" <| all
    [optional (kw "await"), kw "using", op "(",
     any [seq localVariables (op ")"), seq expression (op ")")], statement]

/-- A statement that begins with a keyword. -/
def keywordStatement : Form :=
  any
    [form "if_statement" (all
       [kw "if", test, statement, optional (seq (kw "else") statement)]),
     form "return_statement" (all [kw "return", optional expression, op ";"]),
     forStatement,
     foreachStatement,
     form "while_statement" (all [kw "while", test, statement]),
     form "do_statement" (all [kw "do", statement, kw "while", test, op ";"]),
     switchStatement,
     tryStatement,
     usingStatement,
     form "break_statement" (seq (kw "break") (op ";")),
     form "continue_statement" (seq (kw "continue") (op ";")),
     form "goto_statement" (all
       [kw "goto",
        any [seq (kw "case") expression, seq (kw "default") (ahead (op ";")), expression],
        op ";"]),
     form "throw_statement" (all [kw "throw", optional expression, op ";"]),
     form "lock_statement" (all [kw "lock", test, statement]),
     form "fixed_statement" (all
       [kw "fixed", op "(", localVariables, op ")", statement]),
     form "unsafe_statement" (seq (kw "unsafe") block),
     form "checked_statement" (seq (kwIn ["checked", "unchecked"]) block),
     form "yield_statement" (all
       [kw "yield", any [seq (kw "return") expression, kw "break"], op ";"])]

/-! ## Other statements -/

/-- A function in a body. -/
def localFunction : Form :=
  form "local_function_statement" <| all
    [attributes, modifiers, .field .type statementType, .field .name anyName, signature,
     functionBody]

/-- Variables in a body. -/
def localDeclaration : Form :=
  form "local_declaration_statement" <| all
    [optional (kw "await"), optional (kw "using"), modifiers, localVariables, op ";"]

/-- A statement with a label. -/
def labeledStatement : Form :=
  form "labeled_statement" <| all
    [name (statementWords ++ expressionKeywords), op ":", statement]

/-- An assignment, a call or another expression with an effect. -/
def expressionStatement : Form :=
  form "expression_statement" <| all
    [absent (kwIn statementWords), assignedOperand true, .lastIs statementKinds, op ";"]

/-- A statement. -/
def statementRule : Form :=
  any
    [block, form "empty_statement" (op ";"), keywordStatement,
     conditional (many (.rule .topItem)), localFunction, localDeclaration, labeledStatement,
     expressionStatement]

/-! ## Files -/

/-- An item of a file. -/
def topItemRule : Form :=
  let externAlias := form "extern_alias_directive" <| all
    [kw "extern", kw "alias", .field .name anyName, op ";"]
  let globalAttribute := form "global_attribute" <| all
    [op "[", kwIn ["assembly", "module"], op ":", separated attributeItem, optional (op ","),
     op "]"]
  any
    [conditional (many (.rule .topItem)), externAlias, usingDirective, globalAttribute,
     namespaceDeclaration, fileScopedNamespace, typeDeclaration,
     form "global_statement" (seq
       (absent (all [attributes, modifiers, kwIn typeDeclarationWords])) statement)]

/-- A file. -/
def compilationUnit : Form := form "compilation_unit" (many (.rule .topItem))

/-- The grammar. -/
def grammar : Rule → Form
  | .type use => typeRule use
  | .typeRest use so => typeRestRule use so
  | .expression lambdas => expressionRule lambdas attributes parameterList
  | .unary => unaryRule parameterList
  | .cast => castRule
  | .queryBody => queryBodyRule
  | .matching => matchingRule
  | .matchingUnit => matchingUnitRule
  | .designation => designationRule
  | .tuplePattern => tuplePatternRule
  | .round => bracketed "(" ")"
  | .square => bracketed "[" "]"
  | .curly => bracketed "\x7b" "\x7d"
  | .condition => conditionRule
  | .statement => statementRule
  | .block => blockRule
  | .topItem => topItemRule
  | .declaration => declarationRule

end FixtureDraft.Grammar
