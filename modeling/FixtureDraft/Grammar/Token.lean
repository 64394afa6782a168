/-!
# Tokens

What a source text is read as. A token keeps the text it was read from, a directive its name
alone, and the bytes it spans.
Keywords are words: which words count as keywords depends on where they stand, so that is the
grammar's to say. A `>` is always a token of its own, because it may close a list of type
arguments; longer operators that begin with it are runs of tokens without a gap.
-/

namespace FixtureDraft.Grammar

/-- The kinds of tokens. The parts of an interpolated string are tokens, and so are the
conditional directives; `note` is any other directive, which no rule reads, and `fault` stands
where no token begins. -/
inductive TokenKind
  | word
  | mark
  | number
  | character
  | text
  | quoteOpen
  | quoteText
  | quoteClose
  | holeOpen
  | holeClose
  | format
  | directive
  | note
  | lineEnd
  | fault
deriving DecidableEq, Repr

/-- A token and the bytes from `start` up to `stop` that it spans. -/
structure Token where
  kind : TokenKind
  text : String
  start : Nat
  stop : Nat
deriving DecidableEq, Repr

end FixtureDraft.Grammar
