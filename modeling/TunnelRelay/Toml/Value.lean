/-!
# Tables of values

A document is a table: values under keys, some of which are tables again. What may be added to a
table later depends on how it came about. One that a header opened is closed to dotted keys, one
that is written out in braces is closed to everything, and one that dotted keys made may not be
opened by a header.
-/

namespace TunnelRelay.Toml

/-- How a table came about. -/
inductive Origin where
  /-- A header opened it. -/
  | header
  /-- It lies on the way to a table that a header opened. -/
  | way
  /-- It lies on the way of a dotted key. -/
  | dotted
  /-- It is written out in braces. -/
  | braces
  deriving DecidableEq, Repr

/-- A value. Numbers with a fraction and times are checked but not kept: no setting holds one. -/
inductive Value where
  | text (s : String)
  | integer (n : Int)
  | boolean (b : Bool)
  | float
  | time
  | array (items : List Value)
  | table (origin : Origin) (entries : List (String × Value))
  /-- Tables that headers in double brackets opened, the last of them last. -/
  | rows (tables : List (List (String × Value)))
  deriving Repr, Inhabited

/-- Values under keys; no key has two. -/
abbrev Entries := List (String × Value)

namespace Entries

/-- Puts a value under a key, in place of the one that is there. -/
def set (key : String) (v : Value) : Entries → Entries
  | [] => [(key, v)]
  | (k, old) :: r => if k = key then (k, v) :: r else (k, old) :: set key v r

/-- Whether the way `made` may not lead into a table of that origin. -/
def isClosed (made origin : Origin) : Bool :=
  origin = .braces || (made = .dotted && origin = .header)

/-- Changes the table that a path leads to, which `f` sees with its origin. Tables on the way that
are not there yet are made; of tables in double brackets the last is meant. -/
def edit (made : Origin) (f : Origin → Entries → Option Entries) :
    List String → Origin → Entries → Option Entries
  | [], origin, es => f origin es
  | key :: path, _, es =>
    match es.lookup key with
    | none => do return es.set key (.table made (← edit made f path made []))
    | some (.table origin inner) =>
      if isClosed made origin then none
      else do return es.set key (.table origin (← edit made f path origin inner))
    | some (.rows tables) =>
      match tables.getLast? with
      | none => none
      | some inner => do
        return es.set key (.rows (tables.dropLast ++ [← edit made f path .header inner]))
    | some _ => none

/-- Adds a value under a dotted key, given by the way to it and its last part. Only a table that
dotted keys made is reached that way. -/
def add (es : Entries) (path : List String) (key : String) (v : Value) : Option Entries :=
  edit .dotted (fun origin inner =>
      if path ≠ [] ∧ origin ≠ .dotted then none
      else if (inner.lookup key).isSome then none
      else some (inner.set key v))
    path .header es

/-- Adds several values, one after the other. -/
def addAll (es : Entries) (pairs : List (List String × String × Value)) : Option Entries :=
  pairs.foldlM (fun es (path, key, v) => es.add path key v) es

/-- Adds the table of a header with the values below it. The table may lie on the way to earlier
ones. -/
def addTable (es : Entries) (path : List String) (key : String)
    (pairs : List (List String × String × Value)) : Option Entries :=
  edit .way (fun _ inner =>
      match inner.lookup key with
      | none => do return inner.set key (.table .header (← addAll [] pairs))
      | some (.table .way es) => do return inner.set key (.table .header (← addAll es pairs))
      | some _ => none)
    path .header es

/-- Adds one more table of a header in double brackets with the values below it. -/
def addRow (es : Entries) (path : List String) (key : String)
    (pairs : List (List String × String × Value)) : Option Entries :=
  edit .way (fun _ inner =>
      match inner.lookup key with
      | none => do return inner.set key (.rows [← addAll [] pairs])
      | some (.rows tables) => do
        return inner.set key (.rows (tables ++ [← addAll [] pairs]))
      | some _ => none)
    path .header es

end Entries

end TunnelRelay.Toml
