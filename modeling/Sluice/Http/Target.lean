/-!
# Request targets

A request names what it is for by a path, by a whole address with a scheme, or by an authority alone.

* `pathOf?`: a path up to its query, if no character in it or in the query is out of place.
* `authority?`: the rest of an address after its authority.
* `scheme?`: the rest of an address after its scheme.
* `targetPath?`: the path of a target, empty for an authority alone.
-/

namespace Sluice.Http

/-- Whether a character may stand in a path. -/
def isPathChar (c : Char) : Bool :=
  let n := c.toNat
  n = 0x21 || n = 0x22 || (0x24 ≤ n && n ≤ 0x3B) || n = 0x3D || (0x40 ≤ n && n ≤ 0x5F) || 0x61 ≤ n

/-- Whether a character may stand in a query. -/
def isQueryChar (c : Char) : Bool :=
  let n := c.toNat
  n = 0x21 || (0x24 ≤ n && n ≤ 0x3B) || n = 0x3D || 0x3F ≤ n

/-- The path up to its query, `/` if it is empty. A fragment does not count. -/
def pathOf? (s : List Char) : Option (List Char) :=
  let path := s.takeWhile fun c => c ≠ '?' && c ≠ '#'
  let query := match s.drop path.length with
    | '?' :: rest => rest.takeWhile (· ≠ '#')
    | _ => []
  if path.all isPathChar && query.all isQueryChar then
    some (if path.isEmpty then ['/'] else path)
  else none

/-- Whether a character may stand in a scheme. -/
def isSchemeChar (c : Char) : Bool := c.isAlphanum || c = '+' || c = '-' || c = '.'

/-- The rest after a scheme and its `://`, if there is one. -/
def scheme? (s : List Char) : Option (List Char) :=
  match s.dropWhile isSchemeChar with
  | ':' :: '/' :: '/' :: rest => if 3 < s.length then some rest else none
  | _ => none

/-- Whether a character may stand in an authority. -/
def isAuthorityChar (c : Char) : Bool :=
  c.isAlphanum || c ∈ "!$&'()*+,-.;=_~:[]@%".toList

/-- What has been read of an authority. -/
structure Authority where
  /-- The colons since the last bracket or at sign. -/
  colons : Nat := 0
  opened : Bool := false
  closed : Bool := false
  /-- Whether there is a percent sign since the last closing bracket or at sign. -/
  percent : Bool := false
  /-- Whether the last character is an at sign. -/
  atEnd : Bool := false

/-- Whether an authority may end here. -/
def Authority.complete (a : Authority) : Bool :=
  a.opened == a.closed && a.colons ≤ 1 && !a.atEnd && !a.percent

/-- The rest of an address after its authority. -/
def authority? (a : Authority) : List Char → Option (List Char)
  | [] => if a.complete then some [] else none
  | c :: cs =>
    if c = '/' || c = '?' || c = '#' then (if a.complete then some (c :: cs) else none)
    else if !isAuthorityChar c then none
    else
      let a := { a with atEnd := c = '@' }
      if c = ':' then
        if a.colons ≥ 8 then none else authority? { a with colons := a.colons + 1 } cs
      else if c = '[' then
        if a.percent || a.opened then none else authority? { a with opened := true } cs
      else if c = ']' then
        if !a.opened || a.closed then none
        else authority? { a with closed := true, colons := 0, percent := false } cs
      else if c = '@' then authority? { a with colons := 0, percent := false } cs
      else if c = '%' then authority? { a with percent := true } cs
      else authority? a cs

/-- The path of a target. -/
def targetPath? (s : List Char) : Option (List Char) :=
  match s with
  | [] => none
  | ['*'] => some ['*']
  | '/' :: _ => pathOf? s
  | _ =>
    match scheme? s with
    | none => if authority? {} s = some [] then some [] else none
    | some rest =>
      match authority? {} rest with
      | none => none
      | some path =>
        if path.length = rest.length || 64 < (s.takeWhile isSchemeChar).length then none
        else pathOf? path

end Sluice.Http
