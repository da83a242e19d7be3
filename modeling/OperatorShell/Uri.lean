import OperatorShell.Text.Basic

/-!
# Request targets

The URIs that name an agent or a method: an optional scheme, an authority, a path and a query. A
fragment is dropped unread.

* `Uri.parse`: the parts of a URI, or the first reason why it is none.
* `Uri.pathOrRoot`: the path by which requests are told apart.
-/

namespace OperatorShell

/-- Why a text is no URI. -/
inductive UriError where
  | empty
  | tooLong
  | schemeTooLong
  | badChar
  | badAuthority
  | badFormat
  deriving DecidableEq, Repr

/-- The wording of a URI's fault. -/
def UriError.message : UriError → Text
  | .empty => "empty string".toList
  | .tooLong => "uri too long".toList
  | .schemeTooLong => "scheme too long".toList
  | .badChar => "invalid uri character".toList
  | .badAuthority => "invalid authority".toList
  | .badFormat => "invalid format".toList

/-- A URI in parts. Only a URI with a scheme has an authority and a path at once. -/
structure Uri where
  scheme : Option Text := none
  authority : Text := []
  path : Text := []
  query : Option Text := none
  deriving DecidableEq, Repr

namespace Uri

/-- The most bytes of a URI. -/
def maxBytes : Nat := 65534

/-- The most characters of a scheme. -/
def maxScheme : Nat := 64

/-- The most colons of an authority before something sets them apart from a port. -/
def maxColons : Nat := 8

/-- Characters of a scheme. -/
def isSchemeChar (c : Char) : Bool := c.isAlphanum || ['+', '-', '.', '~'].contains c

/-- Characters of an authority that need no further look. -/
def isAuthorityChar (c : Char) : Bool := c.isAlphanum || "!$&'()*+,-.;=_~".toList.contains c

/-- Characters of a path. Beyond ASCII everything is allowed. -/
def isPathChar (c : Char) : Bool :=
  let n := c.toNat
  n == 0x21 || n == 0x22 || (0x24 ≤ n && n ≤ 0x3B) || n == 0x3D || (0x40 ≤ n && n ≤ 0x5F) ||
    (0x61 ≤ n && n ≠ 0x7F)

/-- Characters of a query. Beyond ASCII everything is allowed. -/
def isQueryChar (c : Char) : Bool :=
  let n := c.toNat
  n == 0x21 || (0x24 ≤ n && n ≤ 0x3B) || n == 0x3D || (0x3F ≤ n && n ≠ 0x7F)

/-! ## Scheme -/

/-- A scheme before `://`, and the text after that. -/
inductive SchemeSplit where
  | absent
  | found (scheme rest : Text)

/-- Looks for the end of a scheme; `seen` is what was passed, last first. -/
def scanScheme (seen : Text) : Text → SchemeSplit
  | ':' :: '/' :: '/' :: rest => .found seen.reverse rest
  | c :: rest => if isSchemeChar c then scanScheme (c :: seen) rest else .absent
  | [] => .absent

/-- Splits off a scheme. Three characters or fewer are never taken for one. -/
def splitScheme (t : Text) : Except UriError (Option Text × Text) :=
  if t.length ≤ 3 then .ok (none, t)
  else
    match scanScheme [] t with
    | .absent => .ok (none, t)
    | .found scheme rest =>
      if maxScheme < scheme.length then .error .schemeTooLong else .ok (some scheme, rest)

/-! ## Authority -/

/-- What has been met while reading an authority. Colons and percent signs are forgotten when a user
name or a bracketed host turns out to hold them. -/
structure AuthorityScan where
  colons : Nat := 0
  opened : Bool := false
  closed : Bool := false
  percent : Bool := false
  endsInAt : Bool := false

namespace AuthorityScan

/-- One more character of an authority. -/
def step (s : AuthorityScan) (c : Char) : Except UriError AuthorityScan :=
  let s := { s with endsInAt := false }
  if c = ':' then
    if maxColons ≤ s.colons then .error .badAuthority else .ok { s with colons := s.colons + 1 }
  else if c = '[' then
    if s.percent || s.opened then .error .badAuthority else .ok { s with opened := true }
  else if c = ']' then
    if !s.opened || s.closed then .error .badAuthority
    else .ok { s with closed := true, colons := 0, percent := false }
  else if c = '@' then .ok { s with endsInAt := true, colons := 0, percent := false }
  else if c = '%' then .ok { s with percent := true }
  else if isAuthorityChar c then .ok s
  else .error .badChar

/-- Whether an authority can end here. -/
def canEnd (s : AuthorityScan) : Bool :=
  s.opened == s.closed && s.colons ≤ 1 && !s.endsInAt && !s.percent

end AuthorityScan

/-- Reads an authority up to a slash, a question mark or a number sign. -/
def scanAuthority (s : AuthorityScan) (seen : Text) : Text → Except UriError (Text × Text)
  | [] => if s.canEnd then .ok (seen.reverse, []) else .error .badAuthority
  | c :: rest =>
    if c = '/' ∨ c = '?' ∨ c = '#' then
      if s.canEnd then .ok (seen.reverse, c :: rest) else .error .badAuthority
    else
      match s.step c with
      | .error e => .error e
      | .ok s => scanAuthority s (c :: seen) rest

/-! ## Path and query -/

/-- Checks the characters of a text. -/
def checked (allowed : Char → Bool) (t : Text) : Except UriError Text :=
  if t.all allowed then .ok t else .error .badChar

/-- Reads a path and the query after it, up to a number sign. -/
def readPath (t : Text) : Except UriError (Text × Option Text) := do
  let path ← checked isPathChar (t.takeWhile fun c => c ≠ '?' && c ≠ '#')
  match t.dropWhile fun c => c ≠ '?' && c ≠ '#' with
  | '?' :: rest => return (path, some (← checked isQueryChar (rest.takeWhile (· ≠ '#'))))
  | _ => return (path, none)

/-- The parts of a URI. One without a scheme is an authority alone, unless it starts with a slash.
-/
def parse (t : Text) : Except UriError Uri :=
  if maxBytes < Text.byteLength t then .error .tooLong
  else
    match t with
    | [] => .error .empty
    | ['*'] => .ok { path := ['*'] }
    | '/' :: _ => do
      let (path, query) ← readPath t
      return { path, query }
    | _ => do
      let (scheme, rest) ← splitScheme t
      if rest = [] then throw .empty
      let (authority, rest) ← scanAuthority {} [] rest
      match scheme with
      | none => if rest = [] then return { authority } else throw .badFormat
      | some scheme =>
        if authority = [] then throw .badFormat
        let (path, query) ← readPath rest
        return { scheme, authority, path, query }

/-- The path of a URI; the path of a URI with a scheme and no path is the root. -/
def pathOrRoot (u : Uri) : Text := if u.scheme.isSome && u.path = [] then ['/'] else u.path

end Uri

end OperatorShell
