import NodeQuery.Selector.Kind

/-!
# Errors of selectors

A structure error says which rule a sequence, a path or a selector would break. A parse
error says why a text is no selector; it may be that the parts of the text break a rule of
structure. Each error has one message.
-/

namespace NodeQuery

/-- A rule of structure that would be broken. -/
inductive StructureError where
  /-- A kind that must come first would follow another item. -/
  | notFirstInSequence (kind : Kind)
  /-- A kind that cannot follow a path would do so. -/
  | notAfterPath (kind : Kind)
  /-- The first sequence would be joined to nothing. -/
  | combinatorOnFirstSequence
  /-- A later sequence would not be joined to the one before it. -/
  | missingCombinator
  /-- A path would start at a selector that names no stored path. -/
  | invalidPathRoot (kind : Kind)
  /-- A path would hold a selector after its start. -/
  | misplacedPathRoot
deriving DecidableEq, Repr

/-- The message of a structure error. -/
def StructureError.message : StructureError → String
  | notFirstInSequence kind => kind.title ++ " selector must be the first item of a sequence"
  | notAfterPath kind => kind.title ++ " selector cannot directly follow a path selector"
  | combinatorOnFirstSequence => "the first sequence of a selector cannot have a combinator"
  | missingCombinator => "a sequence after the first must be preceded by a combinator"
  | invalidPathRoot kind => "path root must be an id or role selector, found " ++ kind.title
  | misplacedPathRoot => "an embedded selector is only allowed as the first path item"

/-- Why a text is no selector. -/
inductive ParseError where
  /-- Nothing but blanks was given. -/
  | emptyPattern
  /-- No kind of simple selector starts like this. -/
  | unrecognizedSelector (token : String)
  /-- Text follows the universal selector. -/
  | unexpectedUniversalValue (token : String)
  /-- Nothing follows the sign of an id, role or class. -/
  | missingValue (kind : Kind)
  /-- An attribute selector holds nothing. -/
  | emptyAttributeName (pattern : String)
  /-- No operator is written like this. -/
  | invalidOperator (operator pattern : String)
  /-- A quoted value does not end. -/
  | unterminatedQuote (pattern : String)
  /-- An attribute selector does not end in its bracket. -/
  | unterminatedAttribute (token : String)
  /-- A pseudo selector has no name, or its value cannot be used. -/
  | invalidPseudo (pattern : String)
  /-- The value of a pseudo selector does not end. -/
  | missingClosingParen (pattern : String)
  /-- No order of sorting is written like this. -/
  | invalidSortOrder (order : String)
  /-- No sequence follows the combinator at this position. -/
  | danglingCombinator (position : Nat)
  /-- The parts break a rule of structure. -/
  | structural (error : StructureError)
deriving DecidableEq, Repr

/-- The message of a parse error. -/
def ParseError.message : ParseError → String
  | emptyPattern => "selector pattern is empty"
  | unrecognizedSelector token => s!"unrecognized simple selector \"{token}\""
  | unexpectedUniversalValue token =>
    s!"unexpected text after universal selector in \"{token}\""
  | missingValue kind => kind.title ++ " selector requires a value"
  | emptyAttributeName pattern => s!"attribute selector \"{pattern}\" has no attribute name"
  | invalidOperator operator pattern =>
    s!"invalid operator \"{operator}\" in attribute selector \"{pattern}\""
  | unterminatedQuote pattern => s!"unterminated quote in \"{pattern}\""
  | unterminatedAttribute token => s!"unterminated attribute selector \"{token}\""
  | invalidPseudo pattern => s!"invalid pseudo selector \"{pattern}\""
  | missingClosingParen pattern =>
    s!"missing closing parenthesis in pseudo selector \"{pattern}\""
  | invalidSortOrder order => s!"invalid sort order \"{order}\", expected asc or desc"
  | danglingCombinator position =>
    s!"combinator at position {position} is not followed by a sequence"
  | structural error => error.message

end NodeQuery
