import FixtureDraft.Grammar.Rule

/-!
# Types and names

Qualified and generic names, and the types made from them.
-/

namespace FixtureDraft.Grammar

open FixtureDraft.Tree
open Pattern

/-- A type argument list, which may leave its arguments out. -/
def typeArguments (use : TypeUse) : Form :=
  form "type_argument_list" <| seq (op "<")
    (any [seq (many (op ",")) (op ">"), seq (separated (.rule (.type use))) (op ">")])

/-- A name with or without type arguments; `except` cannot be the name. -/
def simpleTypeName (use : TypeUse) (except : List String) : Form :=
  any [form "generic_name" (seq (name except) (typeArguments use)), name except]

/-- A name that points and aliases may qualify. -/
def qualifiedTypeName (use : TypeUse) : Form :=
  all [simpleTypeName use typeKeywords,
       optional (grown "alias_qualified_name" (seq (op "::") (simpleTypeName use []))),
       many (grown "qualified_name" (seq (op ".") (simpleTypeName use [])))]

/-- The name of a namespace, an attribute or a using directive. -/
def qualifiedName : Form := qualifiedTypeName .declared

/-- What may begin an operand behind a question mark. -/
def branchStart : Form :=
  any [name infixWords, literalToken, terminal (.leaf .quoteOpen (kindNamed "quote")),
       opIn ["(", "-", "+", "!", "~", "&", "*", "^", "++", "--", ".."],
       seq (op "[") (absent (opIn ["]", ","]))]

/-- The sizes of an array type. -/
def arrayRank (use : TypeUse) : Form :=
  let bare := seq (many (op ",")) (op "]")
  form "array_rank_specifier" <| seq (op "[") <|
    if use = .declared then any [bare, seq (separated (.rule (.expression true))) (op "]")]
    else bare

/-- What may follow a type that ends so. -/
def typeRestRule (use : TypeUse) (so : TypeEnd) : Form :=
  let nullable :=
    seq (grown "nullable_type"
      (if use = .tested then seq (op "?") (absent branchStart) else op "?"))
      (.rule (.typeRest use .nullable))
  let pointer := seq (grown "pointer_type" (op "*")) (.rule (.typeRest use .pointer))
  let array := seq (grown "array_type" (.field (.other "rank") (arrayRank use)))
    (.rule (.typeRest use .array))
  optional <| any <|
    (if so = .plain || so = .array then [nullable] else [])
      ++ (if so = .array || use = .tested then [] else [pointer]) ++ [array]

/-- A tuple type. -/
def tupleType (use : TypeUse) : Form :=
  let element := form "tuple_element" (seq (.rule (.type use)) (optional anyName))
  form "tuple_type" <| all [op "(", element, op ",", separated element, op ")"]

/-- A pointer to functions. -/
def functionPointerType (use : TypeUse) : Form :=
  let convention :=
    any [kw "managed", seq (kw "unmanaged") (optional (all [op "[", separated anyName, op "]"]))]
  let parameter := all
    [optional (kwIn ["ref", "out", "in"]), optional (kw "readonly"), .rule (.type use)]
  form "function_pointer_type" <| all
    [kw "delegate", op "*", optional convention, op "<", separated parameter, op ">"]

/-- A type. -/
def typeRule (use : TypeUse) : Form :=
  let inferred := form "implicit_type" (seq (kw "var") (absent (opIn [".", "::", "<"])))
  any
    [form "ref_type" (all
       [kw "ref", optional (kw "readonly"), .field .type (.rule (.type use))]),
     form "scoped_type" (all [kw "scoped", .field .type (.rule (.type use)), ahead anyName]),
     seq (functionPointerType use) (.rule (.typeRest use .pointer)),
     seq (any [form "predefined_type" (kwIn predefinedTypes), tupleType use, inferred,
               qualifiedTypeName use])
       (.rule (.typeRest use .plain))]

/-- A type of a declaration. -/
def declaredType : Form := .rule (.type .declared)

/-- The kinds of types that no expression looks like. -/
def plainTypeKinds : List Kind :=
  ["predefined_type", "array_type", "nullable_type", "pointer_type", "function_pointer_type",
   "ref_type", "scoped_type"].map kindNamed

/-- The type parameters of a declaration. -/
def typeParameterList (attributes : Form) : Form :=
  let parameter := form "type_parameter" <| all
    [attributes, optional (kwIn ["in", "out"]), .field .name anyName]
  form "type_parameter_list" <| all [op "<", separated parameter, op ">"]

/-- What a type parameter has to satisfy. -/
def typeConstraints : Form :=
  let constraint := any
    [seq (kw "class") (optional (op "?")), kw "struct", kw "notnull", kw "unmanaged",
     all [kw "new", op "(", op ")"], kw "default", all [kw "allows", kw "ref", kw "struct"],
     declaredType]
  form "type_parameter_constraints_clause" <| all
    [kw "where", anyName, op ":", separated constraint]

end FixtureDraft.Grammar
