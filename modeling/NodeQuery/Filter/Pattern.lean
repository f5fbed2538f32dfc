import NodeQuery.Text.Blank
import NodeQuery.Text.Escape

/-!
# Regular expression texts

Some terms of a filter hold a regular expression. A plain text becomes one by a backslash
before each character that has a meaning there. A path with wildcards becomes an anchored
expression: a wildcard stands for one segment, and for any number of them at the end.

A hand-written expression may start with a group of flags, which is split off.
-/

namespace NodeQuery.Filter

open Text

/-- The characters with a meaning in a regular expression, other than the backslash. -/
def patternSpecials : List Char :=
  ['.', '+', '*', '?', '(', ')', '|', '[', ']', '\x7b', '\x7d', '^', '$', '#', '&', '-', '~']

/-- The expression that matches a text literally. -/
def literalPattern (text : List Char) : List Char := escape patternSpecials text

/-- The segment that stands for any other. -/
def wildcardSegment : List Char := ['*']

/-- The expression of a segment that is not the last one. -/
def innerPattern (segment : List Char) : List Char :=
  if segment = wildcardSegment then ['[', '^', '/', ']', '+'] else literalPattern segment

/-- The expression of the last segment. -/
def lastPattern (segment : List Char) : List Char :=
  if segment = wildcardSegment then ['.', '*'] else literalPattern segment

/-- The expressions of the segments, each after a separator. -/
def segmentPatterns : List (List Char) → List Char
  | [] => []
  | [last] => '/' :: lastPattern last
  | segment :: next :: rest => '/' :: (innerPattern segment ++ segmentPatterns (next :: rest))

/-- The anchored expression of a path with wildcards. -/
def pathPattern (segments : List (List Char)) : List Char :=
  '^' :: (segmentPatterns segments ++ ['$'])

/-- The letters that stand for flags. -/
def flagLetters : List Char := ['i', 'm', 'x', 's']

/-- Splits off the flags in the group at the start of an expression. -/
def splitFlags? : List Char → Option (List Char × List Char)
  | '(' :: '?' :: rest =>
    let flags := rest.takeWhile flagLetters.contains
    match rest.dropWhile flagLetters.contains with
    | ')' :: pattern => if flags.isEmpty then none else some (flags, pattern)
    | _ => none
  | _ => none

end NodeQuery.Filter
