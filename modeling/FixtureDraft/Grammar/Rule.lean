import FixtureDraft.Grammar.Pattern

/-!
# The rules of the grammar

The rules that refer to each other, and the words that count as keywords in several of them.
A word is a keyword only where the grammar looks for it, so each place has its own list of the
words that cannot be names there.
-/

namespace FixtureDraft.Grammar

open FixtureDraft.Tree
open Pattern

/-- What a type is read for: a declaration, where arrays may have sizes; a guess, which other
readings may replace; or a test, behind which a question mark may begin a choice. -/
inductive TypeUse
  | declared
  | guessed
  | tested
deriving DecidableEq, Repr

/-- How the type read so far ends, which decides what may follow. -/
inductive TypeEnd
  | plain
  | nullable
  | pointer
  | array
deriving DecidableEq, Repr

/-- The rules that other rules refer to. An expression may be barred from being a lambda. -/
inductive Rule
  | type (use : TypeUse)
  | typeRest (use : TypeUse) (so : TypeEnd)
  | expression (lambdas : Bool)
  | unary
  | cast
  | queryBody
  | matching
  | matchingUnit
  | designation
  | tuplePattern
  | round
  | square
  | curly
  | condition
  | statement
  | block
  | topItem
  | declaration
deriving DecidableEq, Repr

/-- Patterns of this grammar. -/
abbrev Form := Pattern Rule

/-- The kind of a node that only the grammar knows about. -/
def kindNamed (name : String) : Kind := .other name

/-- A node of such a kind. -/
def form (name : String) (p : Form) : Form := .node (kindNamed name) p

/-- A node of such a kind that takes over the node before it. -/
def grown (name : String) (p : Form) : Form := .onto (kindNamed name) p

/-- The types that have a keyword. -/
def predefinedTypes : List String :=
  ["bool", "byte", "char", "decimal", "double", "float", "int", "long", "object", "sbyte",
   "short", "string", "uint", "ulong", "ushort", "nint", "nuint", "void"]

/-- Words that cannot name a type. -/
def typeKeywords : List String := "ref" :: "delegate" :: predefinedTypes

/-- Words that begin an expression and are no names. -/
def operandKeywords : List String :=
  ["this", "base", "new", "typeof", "sizeof", "default", "checked", "unchecked", "null", "true",
   "false", "throw", "await", "async", "static", "delegate", "stackalloc", "ref", "__makeref",
   "__reftype", "__refvalue"]

/-- Words that cannot be a name where an expression begins. -/
def expressionKeywords : List String := predefinedTypes ++ operandKeywords

/-- Words between two operands, or behind one. -/
def infixWords : List String :=
  ["is", "as", "switch", "with", "and", "or", "when", "in", "on", "equals", "into", "by",
   "ascending", "descending", "orderby", "where", "select", "group", "join", "let", "from"]

/-- The modifiers of declarations. -/
def modifierWords : List String :=
  ["abstract", "async", "const", "extern", "file", "fixed", "internal", "new", "override",
   "partial", "private", "protected", "public", "readonly", "required", "sealed", "static",
   "unsafe", "virtual", "volatile"]

/-- Words that begin the declaration of a type or a namespace. -/
def typeDeclarationWords : List String :=
  ["class", "struct", "interface", "enum", "record", "delegate", "namespace"]

/-- Words that begin a statement and are no names there. -/
def statementWords : List String :=
  ["if", "for", "foreach", "while", "do", "switch", "return", "break", "continue", "goto",
   "throw", "try", "lock", "using", "checked", "unchecked", "case", "default", "abstract",
   "async", "const", "extern", "file", "fixed", "internal", "override", "partial", "private",
   "protected", "public", "readonly", "required", "sealed", "static", "unsafe", "virtual",
   "volatile"]

/-- Words that a member without attributes and modifiers cannot begin with, if it begins with
a type or a name. -/
def memberKeywords : List String :=
  ["class", "struct", "interface", "enum", "record", "event", "namespace", "using", "explicit",
   "implicit"] ++ modifierWords

/-- Any name. -/
def anyName : Form := name []

/-- The words that may modify a declaration, each as a node. -/
def modifiers : Form := many (.node .modifier (kwIn modifierWords))

/-- A string, number or character. -/
def literalToken : Form :=
  any [terminal (.leaf .number (kindNamed "number_literal")),
       terminal (.leaf .text (kindNamed "string_literal")),
       terminal (.leaf .character (kindNamed "character_literal"))]

/-- The end of a line behind a condition. -/
def lineEnd : Form := terminal (.leaf .lineEnd (kindNamed "line_end"))

/-- Parts under conditional directives: `content` is what each branch holds. -/
def conditional (content : Form) : Form :=
  form "preproc_if" <| all
    [terminal (.directive "if"), .field (.other "condition") (.rule .condition), lineEnd, content,
     many (form "preproc_elif" (all
       [terminal (.directive "elif"), .field (.other "condition") (.rule .condition), lineEnd,
        content])),
     optional (form "preproc_else" (seq (terminal (.directive "else")) content)),
     terminal (.directive "endif")]

/-- A condition behind a directive. -/
def conditionRule : Form :=
  let atom := seq (many (op "!"))
    (any [anyName, literalToken, all [op "(", .rule .condition, op ")"]])
  seq atom (many (seq (opIn ["||", "&&", "==", "!="]) atom))

/-- Brackets of one sort with balanced brackets between them. -/
def bracketed (opening closing : String) : Form :=
  all [op opening,
       many (any [.rule .round, .rule .square, .rule .curly,
                  terminal (.anyBut ["(", ")", "[", "]", "\x7b", "\x7d"])]),
       op closing]

end FixtureDraft.Grammar
