import OperatorShell.Pattern.Basic
import OperatorShell.Pattern.Cursor

/-!
# What forms mean

Modes decide what a form means, and change inside the pattern. There are no tables of letter cases,
properties or Unicode words, so a form that needs one of them is refused, as is one that could match
a part of a character.

* `Form.meaning`: the pattern of a form.
-/

namespace OperatorShell.Pattern

/-- The modes that make a difference to what is matched. -/
structure Modes where
  caseless : Bool := false
  multiLine : Bool := false
  dotAll : Bool := false
  unicode : Bool := true
  carriageReturn : Bool := false
  deriving DecidableEq, Repr

/-- Modes after flags. -/
def Modes.after (m : Modes) (flags : List FlagItem) : Modes where
  caseless := (flagValue? flags .caseless).getD m.caseless
  multiLine := (flagValue? flags .multiLine).getD m.multiLine
  dotAll := (flagValue? flags .dotAll).getD m.dotAll
  unicode := (flagValue? flags .unicode).getD m.unicode
  carriageReturn := (flagValue? flags .carriageReturn).getD m.carriageReturn

/-! ## Characters -/

/-- The character of a literal. Outside of Unicode, a byte beyond ASCII is no character. -/
def Literal.value (m : Modes) (l : Literal) : Except Refusal Char :=
  if !m.unicode && l.isByte && 0x80 ≤ l.char.toNat then refuse .notUtf8 l.span else .ok l.char

/-- The pattern of a literal. -/
def Literal.meaning (m : Modes) (l : Literal) : Except Refusal Pattern := do
  let c ← l.value m
  if !m.caseless then return .char c
  if m.unicode then refuse .caseUnknown l.span
  if 0x80 ≤ c.toNat then refuse .unicodeForbidden l.span
  return if c.isAlpha then .set (CharSet.ofRange c c).withBothCases else .char c

/-- The character of a literal in brackets. -/
def Literal.member (m : Modes) (l : Literal) : Except Refusal Char := do
  let c ← l.value m
  if !m.unicode && 0x80 ≤ c.toNat then refuse .unicodeForbidden l.span
  return c

/-- A set with the letters of both cases, if case makes no difference. -/
def folded (m : Modes) (span : Span) (s : CharSet) : Except Refusal CharSet :=
  if !m.caseless then .ok s
  else if !m.unicode then .ok s.withBothCases
  else if s.isEmpty || s.settled then .ok s
  else refuse .caseUnknown span

/-- A set or its complement. -/
def foldedAndNegated (m : Modes) (span : Span) (negated : Bool) (s : CharSet) :
    Except Refusal CharSet := do
  let s ← folded m span s
  if !negated then return s
  if !m.unicode then refuse .notUtf8 span
  return s.complement

/-- The set of a digit, a blank or a word character. -/
def perlSet (m : Modes) (span : Span) (kind : AsciiClass) (negated : Bool) :
    Except Refusal CharSet :=
  if m.unicode then refuse .perlClassUnknown span
  else if negated then refuse .notUtf8 span
  else .ok kind.charSet

/-! ## Properties -/

/-- The name of a property as names are compared: in lower case, without an `is` before it, and
without spaces, underscores and hyphens. -/
def plainName (name : Text) : Text :=
  let name :=
    match name with
    | a :: b :: rest => if a.toLower = 'i' && b.toLower = 's' then rest else name
    | _ => name
  (name.filter fun c => c.toNat < 0x80 && c ≠ ' ' && c ≠ '_' && c ≠ '-').map Char.toLower

/-- Whether the name of a property gives a value too. -/
def hasValue (name : Text) : Bool := name.contains ':' || name.contains '='

/-- Names that are categories of characters before they are properties. -/
def categoryNames : List Text := ["cf".toList, "sc".toList, "lc".toList]

/-- Refuses a property, of which none is known. -/
def refuseProperty {α : Type} (m : Modes) (span : Span) (name : Text) : Except Refusal α :=
  if !m.unicode then refuse .unicodeForbidden span
  else if !hasValue name && categoryNames.contains (plainName name) then
    refuse .propertyValueUnknown span
  else refuse .propertyUnknown span

/-! ## Brackets -/

mutual

/-- The characters of a set in brackets. -/
def ClassSet.meaning (m : Modes) : ClassSet → Except Refusal CharSet
  | .item i => i.meaning m
  | .op _ kind left right => do
    let s ← left.meaning m
    let t ← right.meaning m
    let t ← folded m right.span t
    let s ← folded m left.span s
    return s.combine kind t

/-- The characters of an item in brackets. -/
def ClassItem.meaning (m : Modes) : ClassItem → Except Refusal CharSet
  | .empty _ => .ok .empty
  | .literal l => do
    let c ← l.member m
    return .ofRange c c
  | .range _ first last => do
    let a ← first.member m
    let b ← last.member m
    return .ofRange a b
  | .ascii span kind negated => foldedAndNegated m span negated kind.charSet
  | .property span name => refuseProperty m span name
  | .perl span kind negated => perlSet m span kind negated
  | .bracketed span negated inner => do
    let s ← inner.meaning m
    foldedAndNegated m span negated s
  | .union _ items => itemsMeaning m items

/-- The characters of items in brackets. -/
def itemsMeaning (m : Modes) : List ClassItem → Except Refusal CharSet
  | [] => .ok .empty
  | i :: rest => do
    let s ← i.meaning m
    let t ← itemsMeaning m rest
    return s.union t

end

/-! ## Forms -/

/-- The characters of a dot. -/
def dotSet (m : Modes) : CharSet :=
  if m.dotAll then CharSet.empty.complement
  else if m.carriageReturn then (CharSet.ofRanges [('\n', '\n'), ('\r', '\r')]).complement
  else (CharSet.ofRange '\n' '\n').complement

/-- The place that an assertion looks for. -/
def Assertion.meaning (m : Modes) : Assertion → Look
  | .startLine => if m.multiLine then .lineStart m.carriageReturn else .textStart
  | .endLine => if m.multiLine then .lineEnd m.carriageReturn else .textEnd
  | .startText => .textStart
  | .endText => .textEnd
  | .word e => .word e m.unicode

mutual

/-- The pattern of a form, and the modes after it. -/
def Form.meaning (m : Modes) : Form → Except Refusal (Pattern × Modes)
  | .empty _ => .ok (.empty, m)
  | .flags _ items => .ok (.empty, m.after items)
  | .literal l => do return (← l.meaning m, m)
  | .dot span => if m.unicode then .ok (.set (dotSet m), m) else refuse .notUtf8 span
  | .assertion _ a => .ok (.look (a.meaning m), m)
  | .property span name => refuseProperty m span name
  | .perl span kind negated => do return (.set (← perlSet m span kind negated), m)
  | .bracketed span negated inner => do
    let s ← inner.meaning m
    return (.set (← foldedAndNegated m span negated s), m)
  | .repetition _ least most sub => do
    let (p, m) ← sub.meaning m
    return (repeated least most p, m)
  | .group _ flags sub => do
    let (p, _) ← sub.meaning (m.after (flags.getD []))
    return (.group p, m)
  | .alternation _ subs => do
    let (ps, m) ← formsMeaning m subs
    return (.alternation ps, m)
  | .concat _ subs => do
    let (ps, m) ← formsMeaning m subs
    return (.concat ps, m)

/-- The patterns of forms one after the other, and the modes after them. -/
def formsMeaning (m : Modes) : List Form → Except Refusal (List Pattern × Modes)
  | [] => .ok ([], m)
  | f :: rest => do
    let (p, m) ← f.meaning m
    let (ps, m) ← formsMeaning m rest
    return (p :: ps, m)

end

end OperatorShell.Pattern
