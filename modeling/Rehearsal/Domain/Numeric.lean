import Rehearsal.Number.Numeral
import Rehearsal.Text.Percent

/-!
Hosts that are given by a number instead of a name: four decimal groups between dots, or up to
eight hexadecimal ones between colons.
-/

set_option autoImplicit false

namespace Rehearsal.Domain

/-- A number up to 255 without zeros before it. -/
def isOctet (group : List Char) : Bool :=
  !group.isEmpty && group.all Char.isDigit && group.length <= 3
    && (group.length == 1 || group.head? != some '0') && Number.digitsValue group <= 255

def isFourGroups (text : List Char) : Bool :=
  let groups := text.splitOn '.'
  groups.length == 4 && groups.all isOctet

/-- Whether a text looks like four numbers with any characters between them. A digit inside a
longer run of digits may stand for such a character. -/
def looksNumeric (text : List Char) : Bool :=
  let between := text.countP fun c => !c.isDigit
  let runs := text.splitOnP fun c => !c.isDigit
  let spare := (runs.map fun run => (run.length - 1) / 2).foldl (· + ·) 0
  runs.all (fun run => !run.isEmpty) && between <= 3 && 3 <= between + spare

def isHexGroup (group : List Char) : Bool :=
  !group.isEmpty && group.length <= 4 && group.all Text.isHexDigit

/-- Four decimal groups at the end stand for two hexadecimal ones. -/
def withoutFourGroups (groups : List (List Char)) : Option (List (List Char)) :=
  match groups.getLast? with
  | some last =>
    if !last.contains '.' then some groups
    else if isFourGroups last then some (groups.dropLast ++ [['0'], ['0']])
    else none
  | none => none

/-- Where groups are left out inside. -/
def gapsOf (groups : List (List Char)) : List Nat :=
  (List.range groups.length).filter fun index =>
    0 < index && index + 1 < groups.length && groups[index]? == some []

/-- Groups beside a gap; a gap at the end of an address leaves one empty group there. -/
def besideGap (groups : List (List Char)) : List (List Char) :=
  if groups == [[]] then [] else groups

def isEightGroups (text : List Char) : Bool :=
  let parts := text.splitOn ':'
  3 <= parts.length && (withoutFourGroups parts).any fun groups =>
    match gapsOf groups with
    | [] => groups.length == 8 && groups.all isHexGroup
    | [gap] =>
      let around := besideGap (groups.take gap) ++ besideGap (groups.drop (gap + 1))
      around.length <= 7 && around.all isHexGroup
    | _ => false

/-- An address by eight groups, and behind a percent sign where it is valid. -/
def isScopedAddress (text : List Char) : Bool :=
  let address := text.takeWhile (· != '%')
  isEightGroups address && match text.dropWhile (· != '%') with
    | [] => true
    | _ :: scope => !scope.isEmpty && !scope.contains '%'

end Rehearsal.Domain
