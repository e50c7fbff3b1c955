import CacheFill.Url.Percent

/-!
Paths of URLs as lists of segments. Segments that mean "here" and "one up" are resolved when a path
is read.
-/

set_option autoImplicit false

namespace CacheFill.Url

/-- A segment with its percent-encoded dots written out, so far as that is all there is to it. -/
def undotted (segment : List Char) : List Char :=
  match segment with
  | '%' :: '2' :: c :: rest =>
      if c = 'e' ∨ c = 'E' then '.' :: undotted rest else '%' :: '2' :: c :: rest
  | '.' :: rest => '.' :: undotted rest
  | segment => segment

/-- A segment that stays where it is. -/
def isHere (segment : List Char) : Bool := undotted segment = ['.']

/-- A segment that goes one up. -/
def isUp (segment : List Char) : Bool := undotted segment = ['.', '.']

/-- A segment that names a drive: a letter and a colon or a bar. No path leads out of a drive. -/
def isDrive : List Char → Bool
  | [letter, mark] => letter.isAlpha && (mark = ':' || mark = '|')
  | letter :: mark :: '\\' :: _ => letter.isAlpha && (mark = ':' || mark = '|')
  | _ => false

/-- Takes the last of some segments off; the root is above itself. -/
def parent (segments : List (List Char)) : List (List Char) :=
  if segments.getLast?.any isDrive then segments else segments.dropLast

/-- Goes from the segments so far to the next one. -/
def enter (segments : List (List Char)) (segment : List Char) : List (List Char) :=
  if isUp segment then parent segments
  else if isHere segment then segments
  else segments ++ [segment]

/-- The segments of a path that starts with a slash. A path that ends on its way up or here ends
with an empty segment. -/
def segmentsOf (path : List Char) : List (List Char) :=
  let written := (pieces '/' path).drop 1
  let isOpen := written.getLast?.any fun last => isUp last || isHere last
  written.foldl enter [] ++ (if isOpen then [[]] else [])

/-- The text of a path: a slash in front of each segment. -/
def pathText (segments : List (List Char)) : List Char := segments.flatMap ('/' :: ·)

end CacheFill.Url
