/-!
# Kinds of simple selector and combinators

A simple selector is one of eight kinds. Three of them name the node itself and may only
stand at the start of a sequence. A combinator says how the nodes of one sequence lie
relative to those of the next.

Main statements: each combinator is read back from its symbol, and the names of the kinds
are distinct.
-/

namespace NodeQuery

/-- The kind of a simple selector. -/
inductive Kind where
  /-- Every node. -/
  | universal
  /-- Nodes of a named type. -/
  | element
  /-- The node with an identifier. -/
  | id
  /-- Nodes carrying a role. -/
  | role
  /-- Nodes carrying a class. -/
  | className
  /-- Nodes stored under a path. -/
  | path
  /-- Nodes compared by an attribute. -/
  | attributeTest
  /-- A named change to the query. -/
  | pseudo
deriving DecidableEq, Repr

namespace Kind

/-- All kinds. -/
def all : List Kind :=
  [universal, element, id, role, className, path, attributeTest, pseudo]

/-- The name of a kind in lower case. -/
def name : Kind → String
  | universal => "universal"
  | element => "element"
  | id => "id"
  | role => "role"
  | className => "class"
  | path => "path"
  | attributeTest => "attribute"
  | pseudo => "pseudo"

/-- The name of a kind as messages give it. -/
def title : Kind → String
  | universal => "Universal"
  | element => "Element"
  | id => "Id"
  | role => "Role"
  | className => "Class"
  | path => "Path"
  | attributeTest => "Attribute"
  | pseudo => "Pseudo"

/-- Whether selectors of this kind may only stand first in a sequence. -/
def isLeading : Kind → Bool
  | universal | element | path => true
  | _ => false

/-- Whether selectors of this kind may stand right after a path. -/
def followsPath : Kind → Bool
  | attributeTest | pseudo => true
  | _ => false

/-- Distinct kinds have distinct names. -/
theorem name_injective {left right : Kind} (same : left.name = right.name) : left = right := by
  cases left <;> cases right <;> simp_all [name]

end Kind

/-- How the nodes of a sequence lie relative to those of the sequence before it. -/
inductive Combinator where
  /-- Anywhere below. -/
  | descendant
  /-- Right below. -/
  | child
  /-- Right after. -/
  | adjacentSibling
  /-- Anywhere after. -/
  | generalSibling
deriving DecidableEq, Repr

namespace Combinator

/-- All combinators. -/
def all : List Combinator := [descendant, child, adjacentSibling, generalSibling]

/-- The character that stands for a combinator. -/
def symbol : Combinator → Char
  | descendant => ' '
  | child => '>'
  | adjacentSibling => '+'
  | generalSibling => '~'

/-- The name of a combinator. -/
def name : Combinator → String
  | descendant => "descendant"
  | child => "child"
  | adjacentSibling => "adjacent-sibling"
  | generalSibling => "general-sibling"

/-- The combinator that a character stands for. -/
def ofChar? (value : Char) : Option Combinator := all.find? (·.symbol == value)

/-- The characters that stand for combinators. -/
def symbols : List Char := all.map symbol

/-- Each combinator is read back from its symbol. -/
theorem ofChar?_symbol (combinator : Combinator) :
    ofChar? combinator.symbol = some combinator := by
  cases combinator <;> decide

end Combinator

end NodeQuery
