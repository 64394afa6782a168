import FixtureDraft.Grammar.Types

/-!
# Expressions and patterns

Expressions are read flat: operators of every rank follow one another from left to right, for
only where an expression ends matters to a reader of declarations. What may be assigned to and
what may stand as a statement is told by the kind of the node read last.
-/

namespace FixtureDraft.Grammar

open FixtureDraft.Tree
open Pattern

/-- An expression. -/
def expression : Form := .rule (.expression true)

/-- The kinds of expressions that can be assigned to. -/
def assignableKinds : List Kind :=
  .identifier :: .other "this" :: ["generic_name", "member_access_expression",
   "element_access_expression", "element_binding_expression", "tuple_expression",
   "pointer_indirection_expression", "parenthesized_assignable", "conditional_access_expression",
   "alias_qualified_name"].map kindNamed

/-- The kinds of expressions that can stand as a statement. -/
def statementKinds : List Kind :=
  ["assignment_expression", "invocation_expression", "postfix_unary_expression",
   "prefix_unary_expression", "pointer_indirection_expression", "await_expression",
   "object_creation_expression", "parenthesized_expression", "parenthesized_assignable"].map
    kindNamed

/-! ## Operators -/

/-- A mark that follows the token before it without a gap. -/
def gluedOp (m : String) : Form := seq .glued (op m)

/-- Operators between two operands. -/
def binaryOperator : Form :=
  any [opIn ["||", "&&", "??", "|", "^", "&", "==", "!=", "<", "<=", "<<", "+", "-", "*", "/",
             "%"],
       all [op ">", gluedOp ">", gluedOp ">", absent (gluedOp "=")],
       all [op ">", gluedOp ">", absent (gluedOp ">"), absent (gluedOp "=")],
       seq (op ">") (gluedOp "="),
       all [op ">", absent (gluedOp ">")]]

/-- Operators that assign. -/
def assignmentOperator : Form :=
  any [opIn ["=", "+=", "-=", "*=", "/=", "%=", "&=", "^=", "|=", "<<=", "??="],
       all [op ">", gluedOp ">", gluedOp "="],
       all [op ">", gluedOp ">", gluedOp ">", gluedOp "="]]

/-! ## Arguments -/

/-- A variable declared where it is passed on. -/
def declarationExpression : Form :=
  form "declaration_expression" <| all
    [.rule (.type .guessed), .field .name (name infixWords), ahead (opIn [",", ")", "]"])]

/-- An argument of a call. -/
def argument : Form :=
  form "argument" <| all
    [optional (seq (.field .name anyName) (op ":")), optional (kwIn ["ref", "out", "in"]),
     any [declarationExpression, expression]]

/-- The arguments of a call. -/
def argumentList : Form :=
  form "argument_list" <| all [op "(", listed argument, op ")"]

/-- Arguments in square brackets. -/
def bracketedArguments : Form :=
  form "bracketed_argument_list" <| all
    [op "[", separated argument, optional (op ","), op "]"]

/-- Elements in braces. -/
def initializer : Form :=
  form "initializer_expression" <| braced (listedLoosely expression)

/-- A parameter list of a lambda or a declaration; given by the declarations. -/
abbrev ParameterForm := Form

/-! ## Operands -/

/-- What may begin an operand behind a closed bracket, other than an infix operator. -/
def operandStart : Form :=
  any [name infixWords, literalToken, terminal (.leaf .quoteOpen (kindNamed "quote"))]

/-- A name in an expression. Behind type arguments no operand may begin, or they are none. -/
def simpleName (except : List String) : Form :=
  any [form "generic_name" (all
         [name except, typeArguments .guessed, absent operandStart,
          absent (opIn ["+", "-", "!", "~"])]),
       name except]

/-- A string with holes. -/
def interpolatedString : Form :=
  let hole := form "interpolation" <| all
    [terminal (.leaf .holeOpen (kindNamed "interpolation_brace")), expression,
     optional (seq (op ",") expression),
     optional (terminal (.leaf .format (kindNamed "interpolation_format_clause"))),
     terminal (.leaf .holeClose (kindNamed "interpolation_brace"))]
  form "interpolated_string_expression" <| all
    [terminal (.leaf .quoteOpen (kindNamed "interpolation_quote")),
     many (any [terminal (.leaf .quoteText (kindNamed "string_content")), hole]),
     terminal (.leaf .quoteClose (kindNamed "interpolation_quote"))]

/-- An expression in parentheses, or a tuple. -/
def parenthesized : Form :=
  let more := all [op ",", separated argument, .tag (kindNamed "tuple_expression")]
  let special := any
    [seq declarationExpression (op ","), seq anyName (op ":"), kwIn ["ref", "out", "in"]]
  form "parenthesized_expression" <| all
    [op "(",
     any [guarded special (seq argument more),
          seq expression (any
            [more,
             all [ahead (op ")"), .lastIs assignableKinds,
                  .tag (kindNamed "parenthesized_assignable")],
             ahead (op ")")])],
     op ")"]

/-- A new object, array or anonymous object. -/
def creation : Form :=
  let member := seq (optional (seq anyName (op "="))) expression
  form "object_creation_expression" <| seq (kw "new") <| any
    [all [argumentList, optional initializer,
          .tag (kindNamed "implicit_object_creation_expression")],
     all [op "[", many (op ","), op "]", initializer,
          .tag (kindNamed "implicit_array_creation_expression")],
     all [braced (listedLoosely member),
          .tag (kindNamed "anonymous_object_creation_expression")],
     seq declaredType (any
       [all [.lastIs [kindNamed "array_type"], optional initializer,
             .tag (kindNamed "array_creation_expression")],
        seq (optional argumentList) (optional initializer)])]

/-- Memory taken from the stack. -/
def stackAllocation : Form :=
  form "stackalloc_expression" <| seq (kw "stackalloc") <| any
    [all [op "[", op "]", initializer], seq declaredType (optional initializer)]

/-- An operand in parentheses behind a keyword. -/
def keywordCall (kind word : String) (inside : Form) : Form :=
  form kind <| all [kw word, op "(", inside, op ")"]

/-- A value converted to a type. What cannot be an expression is a type; a name is one if an
operand follows that no infix operator begins, or another conversion. -/
def castRule : Form :=
  let begun := any [operandStart, opIn ["~", "!", "++", "--"]]
  form "cast_expression" <| all
    [op "(", .rule (.type .guessed),
     any [all [.lastIs plainTypeKinds, op ")", .rule .unary],
          all [absent (.lastIs plainTypeKinds), op ")",
               any [guarded begun (.rule .unary), .rule .cast]]]]

/-- An operand without operators around it. -/
def primary (parameters : ParameterForm) : Form :=
  let anonymousMethod := form "anonymous_method_expression" <| all
    [many (.node .modifier (kwIn ["static", "async"])), kw "delegate", optional parameters,
     .rule .block]
  any
    [form "alias_qualified_name" (all
       [name expressionKeywords, op "::", simpleName []]),
     simpleName expressionKeywords,
     literalToken,
     interpolatedString,
     parenthesized,
     kwIn ["null", "true", "false", "this", "base"],
     creation,
     seq (form "predefined_type" (kwIn predefinedTypes)) (ahead (op ".")),
     keywordCall "typeof_expression" "typeof" declaredType,
     keywordCall "sizeof_expression" "sizeof" declaredType,
     form "default_expression" (seq (kw "default")
       (optional (all [op "(", declaredType, op ")"]))),
     keywordCall "checked_expression" "checked" expression,
     keywordCall "checked_expression" "unchecked" expression,
     keywordCall "makeref_expression" "__makeref" expression,
     keywordCall "reftype_expression" "__reftype" expression,
     keywordCall "refvalue_expression" "__refvalue" (all [expression, op ",", declaredType]),
     stackAllocation,
     anonymousMethod,
     form "element_binding_expression" (all [op "[", listedLoosely argument, op "]"]),
     initializer,
     conditional (optional expression)]

/-- What may follow an operand and belongs to it. -/
def postfixPart : Form :=
  any
    [grown "member_access_expression" (seq (opIn [".", "->"]) (.field .name (simpleName []))),
     grown "invocation_expression" argumentList,
     grown "element_access_expression" bracketedArguments,
     grown "conditional_access_expression" (all [op "?", op ".", simpleName []]),
     grown "conditional_access_expression" (all [op "?", .glued, bracketedArguments]),
     grown "postfix_unary_expression" (opIn ["++", "--", "!"])]

/-- An operand with the operators that bind it tightest. -/
def unaryRule (parameters : ParameterForm) : Form :=
  any
    [form "prefix_unary_expression" (seq (opIn ["+", "-", "!", "~", "++", "--", "&", "^"])
       (.rule .unary)),
     form "pointer_indirection_expression" (seq (op "*") (.rule .unary)),
     form "await_expression" (seq (kw "await") (.rule .unary)),
     form "ref_expression" (seq (kw "ref") expression),
     form "throw_expression" (seq (kw "throw") expression),
     .rule .cast,
     seq (primary parameters) (many postfixPart)]

/-! ## Lambdas and queries -/

/-- A function written in place. -/
def lambda (attributes : Form) (parameters : ParameterForm) : Form :=
  let modifier : Form := .node .modifier (kwIn ["static", "async"])
  let typed := .rule (.type .guessed)
  let body := seq (op "=>") (.field .body (any [.rule .block, expression]))
  form "lambda_expression" <| any
    [seq (form "implicit_parameter" (name expressionKeywords)) body,
     all [modifier, many modifier, form "implicit_parameter" (name expressionKeywords), body],
     guarded (all [many (.rule .square), many modifier, .rule .round, op "=>"])
       (all [attributes, many modifier, parameters, body]),
     guarded (all [many (.rule .square), many modifier, absent (kwIn operandKeywords), typed,
                   .rule .round, op "=>"])
       (all [attributes, many modifier, typed, parameters, body])]

/-- The variable of a query, with its type if it has one, up to `in`. -/
def rangeVariable : Form :=
  any [seq anyName (kw "in"), all [.rule (.type .guessed), anyName, kw "in"]]

/-- The clause that begins a query. -/
def fromClause : Form := form "from_clause" (all [kw "from", rangeVariable, expression])

/-- The clauses of a query behind the first. -/
def queryBodyRule : Form :=
  let ordering := seq expression (optional (kwIn ["ascending", "descending"]))
  let clause := any
    [fromClause,
     form "let_clause" (all [kw "let", anyName, op "=", expression]),
     form "where_clause" (seq (kw "where") expression),
     form "join_clause" (all
       [kw "join", rangeVariable, expression, kw "on", expression, kw "equals", expression,
        optional (seq (kw "into") anyName)]),
     form "order_by_clause" (seq (kw "orderby") (separated ordering))]
  all [many clause,
       any [form "select_clause" (seq (kw "select") expression),
            form "group_clause" (all [kw "group", expression, kw "by", expression])],
       optional (all [kw "into", anyName, .rule .queryBody])]

/-- A query. -/
def query : Form :=
  form "query_expression" <| guarded (seq (kw "from") rangeVariable)
    (seq fromClause (.rule .queryBody))

/-! ## Whole expressions -/

/-- An operand, and what is assigned to it if it can be assigned to. -/
def assignedOperand (lambdas : Bool) : Form :=
  seq (.rule .unary) <| optional <|
    seq (.lastIs assignableKinds)
      (grown "assignment_expression" (seq assignmentOperator (.rule (.expression lambdas))))

/-- An operand between two operators. -/
def operand (lambdas : Bool) (attributes : Form) (parameters : ParameterForm) : Form :=
  any <|
    (if lambdas then [lambda attributes parameters] else [])
      ++ [query,
          form "range_expression" (seq (op "..") (optional (.rule .unary))),
          assignedOperand lambdas]

/-- An arm of a switch expression. -/
def switchArm : Form :=
  form "switch_expression_arm" <| all
    [.rule .matching, optional (form "when_clause" (seq (kw "when") (.rule (.expression false)))),
     op "=>", expression]

/-- An expression. -/
def expressionRule (lambdas : Bool) (attributes : Form) (parameters : ParameterForm) : Form :=
  let next := operand lambdas attributes parameters
  let change := all [anyName, op "=", expression]
  seq next <| many <| any
    [grown "binary_expression" (seq binaryOperator next),
     grown "is_expression" (seq (kw "is") (.rule .matching)),
     grown "as_expression" (seq (kw "as") (.rule (.type .tested))),
     grown "conditional_expression" (all
       [op "?", expression, op ":", .rule (.expression lambdas)]),
     grown "switch_expression" (all
       [kw "switch", braced (listedLoosely switchArm)]),
     grown "with_expression" (seq (kw "with") (braced (listedLoosely change))),
     grown "range_expression" (seq (op "..") (optional (.rule .unary)))]

/-! ## Patterns of tests -/

/-- Words that cannot name what a pattern has matched. -/
def designationKeywords : List String := infixWords

/-- The name for a matched value, or names for its parts. -/
def designationRule : Form :=
  any [name designationKeywords,
       form "parenthesized_variable_designation" (all
         [op "(", listed (.rule .designation), op ")"])]

/-- A constant in a pattern: operands between operators, without choices and lambdas. -/
def patternConstant : Form :=
  seq (.rule .unary)
    (many (grown "binary_expression" (seq binaryOperator (.rule .unary))))

/-- A pattern in which no `and` and `or` stands outside brackets. -/
def matchingUnitRule : Form :=
  let part := seq
    (optional (all [anyName, many (seq (op ".") anyName), op ":"])) (.rule .matching)
  let positional := form "positional_pattern_clause" (all [op "(", listed part, op ")"])
  let properties := form "property_pattern_clause" (braced (listedLoosely part))
  let named : Form := optional (.rule .designation)
  let element := any
    [form "slice_pattern" (seq (op "..") (optional (.rule .matching))), .rule .matching]
  let typed := seq (absent (kwIn ("not" :: operandKeywords))) (.rule (.type .tested))
  let constant := seq (absent (kw "not")) patternConstant
  any
    [form "negated_pattern" (seq (kw "not") (.rule .matchingUnit)),
     form "relational_pattern" (seq
       (any [opIn ["<", "<="], seq (op ">") (gluedOp "="), op ">"]) patternConstant),
     form "list_pattern" (all [op "[", listedLoosely element, op "]", named]),
     form "var_pattern" (seq (kw "var") (.rule .designation)),
     seq (guarded (.rule .cast) patternConstant) (absent (.rule .designation)),
     form "recursive_pattern" (all [positional, optional properties, named]),
     form "recursive_pattern" (seq properties named),
     form "recursive_pattern" (seq typed (any
       [all [positional, optional properties, named], seq properties named,
        .rule .designation])),
     all [form "type_pattern" (seq typed (.lastIs (plainTypeKinds ++ [kindNamed "tuple_type"]))),
          absent (op ".")],
     form "constant_pattern" constant,
     form "type_pattern" typed]

/-- A pattern. -/
def matchingRule : Form :=
  seq (.rule .matchingUnit) <| many <| any
    [grown "and_pattern" (seq (kw "and") (.rule .matchingUnit)),
     grown "or_pattern" (seq (kw "or") (.rule .matchingUnit))]

end FixtureDraft.Grammar
