import TunnelRelay.Url.Percent

/-!
# Paths of a URL

A path is a list of segments. A segment of one dot stands for nothing and a segment of two dots
takes back the one before it, unless that names a drive; dots may be written as octets. A path that
ends in such a segment ends in a slash.
-/

namespace TunnelRelay.Url

/-- A dot, as it is or as an octet. -/
def dots : List Char → Option Nat
  | [] => some 0
  | '.' :: r => (dots r).map (· + 1)
  | '%' :: '2' :: 'e' :: r | '%' :: '2' :: 'E' :: r => (dots r).map (· + 1)
  | _ => none

/-- A letter and a colon or a bar. -/
def isDriveLetter : List Char → Bool
  | [c, d] => c.isAlpha && (d == ':' || d == '|')
  | _ => false

/-- The segments that two dots leave of those before them, in reverse. -/
def takeBack (before : List (List Char)) : List (List Char) :=
  if before.head?.any isDriveLetter then before else before.tail

/-- Adds a segment to those before it, which stand in reverse; `last` tells that none follows. -/
def addSegment (before : List (List Char)) (segment : List Char) (last : Bool) :
    List (List Char) :=
  match dots segment with
  | some 1 => if last then [] :: before else before
  | some 2 => if last then [] :: takeBack before else takeBack before
  | _ => segment :: before

/-- The segments that are left, in reverse. -/
def normalize (before : List (List Char)) : List (List Char) → List (List Char)
  | [] => before
  | [s] => addSegment before s true
  | s :: r => normalize (addSegment before s false) r

/-- The text of a path: every segment after a slash. -/
def joinPath (segments : List (List Char)) : List Char := segments.flatMap ('/' :: ·)

/-- The segments of a text, cut at every character that divides. -/
def segments (divides : Char → Bool) : List Char → List (List Char)
  | [] => [[]]
  | c :: cs =>
    if divides c then [] :: segments divides cs
    else
      match segments divides cs with
      | [] => [[c]]
      | s :: r => (c :: s) :: r

end TunnelRelay.Url
