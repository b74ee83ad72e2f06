import Rehearsal.Table

/-!
Templates: texts with placeholders such as `$` followed by a name in braces. A name that begins
with `param.` is looked up in the parameters, one that begins with `data.` in the row of the
dataset. What cannot be looked up stays as it is written, and what is put in is not read again.
-/

set_option autoImplicit false

namespace Rehearsal.Template

inductive Piece where
  | literal (c : Char)
  | placeholder (name : List Char)
  deriving DecidableEq

def Piece.source : Piece -> List Char
  | .literal c => [c]
  | .placeholder name => '$' :: '{' :: name ++ ['}']

/-- The name in braces at the start of a text, if it is closed and not empty, and what follows. -/
def takeName? (text : List Char) : Option (List Char × List Char) :=
  match text.takeWhile (· != '}'), text.dropWhile (· != '}') with
  | c :: name, _ :: rest => some (c :: name, rest)
  | _, _ => none

theorem takeName?_length {text name rest : List Char} (taken : takeName? text = some (name, rest)) :
    rest.length < text.length := by
  have whole : (text.takeWhile (· != '}') ++ text.dropWhile (· != '}')).length = text.length := by
    rw [List.takeWhile_append_dropWhile]
  unfold takeName? at taken
  split at taken
  next _ _ _ _ first second =>
    simp only [Option.some.injEq, Prod.mk.injEq] at taken
    rw [first, second, taken.2] at whole
    simp at whole
    omega
  · simp at taken

/-- Reads a template from the left; placeholders never overlap. -/
def pieces (text : List Char) : List Piece :=
  match text with
  | [] => []
  | '$' :: '{' :: inside =>
    match _taken : takeName? inside with
    | some (name, after) => .placeholder name :: pieces after
    | none => .literal '$' :: pieces ('{' :: inside)
  | c :: rest => .literal c :: pieces rest
termination_by text.length
decreasing_by
  · have := takeName?_length _taken
    simp only [List.length_cons]
    omega
  · simp
  · simp

def lookup? (params : Table String) (row : Option (Table String)) (name : List Char) :
    Option String :=
  if "param.".toList.isPrefixOf name then params.get? (String.ofList (name.drop 6))
  else if "data.".toList.isPrefixOf name then row.bind (·.get? (String.ofList (name.drop 5)))
  else none

def Piece.fill (params : Table String) (row : Option (Table String)) : Piece -> List Char
  | .literal c => [c]
  | .placeholder name =>
    match lookup? params row name with
    | some value => value.toList
    | none => Piece.source (.placeholder name)

def fill (params : Table String) (row : Option (Table String)) (template : String) : String :=
  String.ofList ((pieces template.toList).flatMap (Piece.fill params row))

end Rehearsal.Template
