/-!
Locator candidates: ways of finding an element on a page, tried in ascending order of their
ordinals, and the selectors that a browser understands. Values stand in double quotes; a quote
and a backslash inside are escaped by a backslash.
-/

set_option autoImplicit false

namespace Rehearsal

inductive Strategy where
  | id
  | className
  | css
  | xpath
  | name
  | tag
  | text
  | ariaLabel
  deriving DecidableEq

namespace Strategy

def all : List Strategy := [.id, .className, .css, .xpath, .name, .tag, .text, .ariaLabel]

def label : Strategy -> String
  | .id => "id"
  | .className => "class"
  | .css => "css"
  | .xpath => "xpath"
  | .name => "name"
  | .tag => "tag"
  | .text => "text"
  | .ariaLabel => "aria_label"

def ofLabel? (label : String) : Option Strategy := all.find? fun strategy => strategy.label == label

end Strategy

structure Candidate where
  ordinal : Nat
  strategy : Strategy
  value : String
  deriving DecidableEq

namespace Selector

def escapeChar (c : Char) : List Char := if c == '"' || c == '\\' then ['\\', c] else [c]

def quote (value : List Char) : List Char := '"' :: value.flatMap escapeChar ++ ['"']

/-- Reads up to the first quote that no backslash stands before. -/
def scan : List Char -> Option (List Char × List Char)
  | [] => none
  | '"' :: rest => some ([], rest)
  | '\\' :: c :: rest => (scan rest).map fun (value, after) => (c :: value, after)
  | c :: rest => (scan rest).map fun (value, after) => (c :: value, after)

def unquote : List Char -> Option (List Char × List Char)
  | '"' :: rest => scan rest
  | _ => none

def attributeTest (key comparison value : String) : String :=
  "[" ++ key ++ comparison ++ String.ofList (quote value.toList) ++ "]"

def build (strategy : Strategy) (value : String) : String :=
  match strategy with
  | .id => attributeTest "id" "=" value
  | .className => attributeTest "class" "~=" value
  | .css => value
  | .xpath => "xpath=" ++ value
  | .name => attributeTest "name" "=" value
  | .tag => "css=" ++ value
  | .text => "text=" ++ value
  | .ariaLabel => attributeTest "aria-label" "=" value

end Selector

end Rehearsal
