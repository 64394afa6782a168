import FixtureDraft.Grammar.Expressions

/-!
# Declarations

Attributes, parameters, members and types. All members begin alike, so a declaration is read
as one node whose kind is settled once its keyword or its shape is seen.
-/

namespace FixtureDraft.Grammar

open FixtureDraft.Tree
open Pattern

/-! ## Attributes and parameters -/

/-- The arguments of an attribute. -/
def attributeArgumentList : Form :=
  let inside := form "attribute_argument" <|
    seq (optional (seq anyName (opIn [":", "="]))) expression
  form "attribute_argument_list" <| all [op "(", listed inside, op ")"]

/-- An attribute. -/
def attributeItem : Form :=
  form "attribute" (seq (.field .name qualifiedName) (optional attributeArgumentList))

/-- Attributes in square brackets. -/
def attributeList : Form :=
  let target := kwIn ["field", "event", "method", "param", "property", "return", "type"]
  .node .attributeList <| all
    [op "[", optional (seq target (op ":")), separated attributeItem, optional (op ","), op "]"]

/-- The attributes before a declaration. -/
def attributes : Form :=
  many (any [attributeList, conditional (many attributeList)])

/-- A parameter. Some words before its type say how it is passed; without a type, it has a
name alone. -/
def parameter : Form :=
  let passing := .node .modifier <| any
    [kwIn ["this", "ref", "out", "in", "readonly"],
     guarded (seq (kw "scoped") (kwIn ["ref", "out", "in"])) (kw "scoped")]
  let bare := name (["this", "ref", "out", "in", "readonly", "params"] ++ predefinedTypes)
  .node .parameter <| all
    [attributes, many passing,
     any [seq (.field .type declaredType) (.field .name anyName), .field .name bare],
     optional (seq (op "=") expression)]

/-- Parameters; one that collects several arguments is no node of its own. -/
def parameterItems : Form :=
  let collecting := all
    [attributes, kw "params", .field .type declaredType, .field .name anyName]
  listed (any [collecting, parameter])

/-- The parameters of a declaration. -/
def parameterList : Form :=
  form "parameter_list" <| all [op "(", parameterItems, op ")"]

/-- The parameters of an indexer. -/
def bracketedParameterList : Form :=
  form "bracketed_parameter_list" <| all [op "[", parameterItems, op "]"]

/-! ## Variables and bodies -/

/-- Names for the parts of a value. -/
def tuplePatternRule : Form :=
  form "tuple_pattern" <| all [op "(", separated (any [.rule .tuplePattern, anyName]), op ")"]

/-- Variables of one type. -/
def variableDeclaration (ofType : Form) : Form :=
  let parts := seq (.lastIs [kindNamed "implicit_type"]) (.rule .tuplePattern)
  let declarator (names : Form) := form "variable_declarator" <| all
    [names, optional bracketedArguments, optional (seq (op "=") expression)]
  form "variable_declaration" <| all
    [.field .type ofType,
     any [seq parts (optional (seq (op "=") expression)),
          declarator (.field .name anyName)],
     many (seq (op ",") (declarator (.field .name anyName)))]

/-- A body that is one expression. -/
def arrowClause : Form := form "arrow_expression_clause" (seq (op "=>") expression)

/-- The body of a function, or the mark that there is none. -/
def functionBody : Form :=
  any [.field .body (.rule .block), seq (.field .body arrowClause) (op ";"), op ";"]

/-- The interface whose member is implemented, up to the last point. -/
def explicitInterface : Form :=
  let step := seq (simpleTypeName .declared []) (op ".")
  form "explicit_interface_specifier" <| all
    [optional (seq anyName (op "::")), step, many step]

/-- The functions behind a property or an event. -/
def accessorList : Form :=
  let accessor := form "accessor_declaration" <| all
    [attributes, modifiers, .field .name anyName, functionBody]
  form "accessor_list" <| braced (many accessor)

/-- A function's type parameters, parameters and constraints. -/
def signature : Form :=
  all [optional (.field (.other "type_parameters") (typeParameterList attributes)),
       .field .parameters parameterList, many typeConstraints]

/-! ## Types -/

/-- A semicolon right behind a closing brace. -/
def trailingSemicolon : Form := optional (gluedOp ";")

/-- Declarations in braces. -/
def declarationList : Form :=
  form "declaration_list" <| braced (many (.rule .declaration))

/-- The types that a type is derived from. -/
def baseList : Form :=
  form "base_list" <| seq (op ":") (separated (seq declaredType (optional argumentList)))

/-- What follows the keyword of an interface. -/
def interfaceTail : Form :=
  all [.field .name anyName,
       optional (.field (.other "type_parameters") (typeParameterList attributes)),
       optional baseList, many typeConstraints, .field .body declarationList, trailingSemicolon]

/-- What follows the keyword of a class, structure or record. -/
def typeTail : Form :=
  all [.field .name anyName,
       many (any [typeParameterList attributes, parameterList, baseList]),
       many typeConstraints,
       any [.field .body declarationList, op ";"],
       trailingSemicolon]

/-- What follows the keyword of an enumeration. -/
def enumTail : Form :=
  let member := form "enum_member_declaration" <| all
    [attributes, .field .name anyName, optional (seq (op "=") expression)]
  let ended := any [op ",", ahead (op "\x7d"), ahead (terminal (.directive "endif")),
    ahead (terminal (.directive "else")), ahead (terminal (.directive "elif"))]
  let members := many (seq member ended)
  let body := form "enum_member_declaration_list" <| braced
    (seq (many (any [seq member ended, seq (conditional members) (optional (op ","))]))
      (optional (op ",")))
  all [.field .name anyName, optional baseList, .field .body body, trailingSemicolon]

/-- A declaration of a type behind its attributes and modifiers. -/
def typeDeclarationRest : Form :=
  any
    [all [kw "class", .tag .classDeclaration, typeTail],
     all [optional (kw "ref"), kw "struct", .tag .structDeclaration, typeTail],
     all [kw "interface", .tag .interfaceDeclaration, interfaceTail],
     all [kw "enum", .tag .enumDeclaration, enumTail],
     all [kw "record", optional (kwIn ["class", "struct"]), .tag .recordDeclaration, typeTail],
     all [kw "delegate", absent (op "*"), .tag (kindNamed "delegate_declaration"),
          .field .type declaredType, .field .name anyName, signature, op ";"]]

/-- A declaration of a type. -/
def typeDeclaration : Form :=
  form "type_declaration" <| all [attributes, modifiers, typeDeclarationRest]

/-! ## Members -/

/-- A constructor. -/
def constructorRest : Form :=
  let chained := form "constructor_initializer" <| all
    [op ":", kwIn ["base", "this"], argumentList]
  all [.field .name (name typeKeywords), .field .parameters parameterList, optional chained,
       functionBody, .tag .constructorDeclaration]

/-- The name of a member behind its type, where indexers and operators have a keyword. -/
def memberName : Form := name ["this", "operator"]

/-- A method. -/
def methodRest : Form :=
  all [.field .returns declaredType, optional explicitInterface, .field .name memberName,
       signature, functionBody, .tag .methodDeclaration]

/-- An operator, an indexer or a property. -/
def typedMemberRest : Form :=
  let symbol := any
    [opIn ["!", "~", "++", "--", "+", "-", "*", "/", "%", "^", "|", "&", "<<", "==", "!=", "<=",
           "<"],
     kwIn ["true", "false"],
     all [op ">", many (gluedOp ">"), optional (gluedOp "=")]]
  let operatorRest := all
    [kw "operator", optional (kw "checked"), symbol, .field .parameters parameterList,
     functionBody, .tag (kindNamed "operator_declaration")]
  let indexerRest := all
    [kw "this", .field .parameters bracketedParameterList,
     any [accessorList, seq arrowClause (op ";")], .tag (kindNamed "indexer_declaration")]
  let propertyRest := all
    [.field .name memberName,
     any [seq accessorList (optional (all [op "=", expression, op ";"])),
          seq arrowClause (op ";")],
     .tag (kindNamed "property_declaration")]
  all [.field .type declaredType, optional explicitInterface,
       any [operatorRest, indexerRest, propertyRest]]

/-- A conversion. -/
def conversionRest : Form :=
  all [kwIn ["implicit", "explicit"], optional explicitInterface, kw "operator",
       optional (kw "checked"), .field .type declaredType, .field .parameters parameterList,
       functionBody, .tag (kindNamed "conversion_operator_declaration")]

/-- An event. -/
def eventRest : Form :=
  seq (kw "event") <| any
    [all [variableDeclaration declaredType, op ";", .tag (kindNamed "event_field_declaration")],
     all [.field .type declaredType, optional explicitInterface, .field .name anyName,
          any [accessorList, op ";"], .tag (kindNamed "event_declaration")]]

/-- A field. -/
def fieldRest : Form :=
  let fieldType := seq declaredType (absent (kwIn ["this", "operator"]))
  all [variableDeclaration fieldType, op ";", .tag (kindNamed "field_declaration")]

/-- A destructor behind its attributes; it has one modifier at most. -/
def destructorRest : Form :=
  all [optional (kw "extern"), op "~", .field .name anyName, .field .parameters parameterList,
       functionBody, .tag (kindNamed "destructor_declaration")]

/-- A member behind its attributes and modifiers. -/
def memberRest : Form :=
  any
    [seq (absent (kwIn memberKeywords)) (any
       [methodRest, constructorRest, typedMemberRest, fieldRest]),
     conversionRest, eventRest]

/-! ## Namespaces and using directives -/

/-- A using directive. -/
def usingDirective : Form :=
  .node .usingDirective <| all
    [optional (kw "global"), kw "using",
     any [all [optional (kw "unsafe"), .field .name anyName, op "=", declaredType],
          all [optional (kw "static"), optional (kw "unsafe"), qualifiedName]],
     op ";"]

/-- A namespace with its declarations in braces. -/
def namespaceDeclaration : Form :=
  .node .namespaceDeclaration <| all
    [kw "namespace", .field .name qualifiedName, .field .body declarationList,
     trailingSemicolon]

/-- A namespace for the rest of the file. -/
def fileScopedNamespace : Form :=
  .node .fileScopedNamespace <| all [kw "namespace", .field .name qualifiedName, op ";"]

/-- A declaration in a namespace or a type. -/
def declarationRule : Form :=
  any
    [conditional (many (.rule .declaration)), usingDirective, namespaceDeclaration,
     form "declaration" (seq attributes
       (any [destructorRest, seq modifiers (any [typeDeclarationRest, memberRest])]))]

end FixtureDraft.Grammar
