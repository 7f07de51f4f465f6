/-! # Paths of files

A path is read as steps between slashes. Its normal form names the same file without detours, as
far as the text of the path tells: empty steps and single dots lead nowhere, and a double dot takes
back the step before it. A double dot with nothing before it to take back stays where it is, but
at the root there is nowhere to go up to.
-/

namespace Reckoner.Path

def up : List Char :=
  ['.', '.']

def isRooted (path : List Char) : Bool :=
  path.head? == some '/'

/-- The steps taken, the latest first, after one more. -/
def follow (rooted : Bool) (taken : List (List Char)) (step : List Char) : List (List Char) :=
  if step = [] ∨ step = ['.'] then taken
  else if step = up then
    match taken with
    | [] => if rooted then [] else [up]
    | last :: before => if last = up then up :: taken else before
  else step :: taken

def steps (path : List Char) : List (List Char) :=
  ((path.splitOn '/').foldl (follow (isRooted path)) []).reverse

/-- The normal form of a path. -/
def normalize (path : String) : String :=
  let way := ['/'].intercalate (steps path.toList)
  String.ofList
    (if isRooted path.toList then '/' :: way else if way.isEmpty then ['.'] else way)

/-- Whether a path leads to a place below the folder that it is read from. -/
def isBelow (path : String) : Bool :=
  !isRooted path.toList && (steps path.toList).head?.any (· != up)

example : normalize "./calc.log" = "calc.log" ∧ normalize "a/b/../../calc.log" = "calc.log" ∧
    normalize "../a//b/." = "../a/b" ∧ normalize "/../a/" = "/a" ∧ normalize "a/.." = "." := by
  decide +kernel
example : isBelow "a/../b" = true ∧ isBelow "../b" = false ∧ isBelow "/b" = false ∧
    isBelow "a/.." = false := by decide +kernel

end Reckoner.Path
