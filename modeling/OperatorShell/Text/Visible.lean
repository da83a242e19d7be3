import OperatorShell.Text.Basic

/-!
# Visible texts

A text may hold codes for a terminal: control characters, and sequences that begin with an escape
character and set colors, move the cursor or name a window. The visible part of the text is what is
left of it where nothing understands codes.

* `visible`: a text without codes.
* `visible_visible`: taking codes out again changes nothing.
-/

namespace OperatorShell.Text

/-- Where in a code a reader of a text is. -/
inductive CodeState where
  /-- Outside of all codes. -/
  | outside
  /-- After an escape character. -/
  | escape
  /-- In an escape sequence, before its last character. -/
  | intermediate
  /-- In a control sequence, after its bracket. -/
  | control
  /-- In the name of a window, which ends at a bell. -/
  | title
  /-- In the parameters of a string for the device. -/
  | stringHead
  /-- In a string for the device. -/
  | stringBody
  deriving DecidableEq, Repr

/-- Blanks of ASCII that are shown even inside a short code, and end it. -/
def isLayoutBlank (c : Char) : Bool := c = '\t' || c = '\n' || c = '\x0c' || c = '\r'

/-- Whether the second or a later byte of a character beyond ASCII is the byte 9C, which ends a
string for the device. -/
def hidesTerminator (c : Char) : Bool :=
  let n := c.toNat
  0x80 ≤ n && (n % 0x40 == 0x1C || (0x800 ≤ n && n / 0x40 % 0x40 == 0x1C) ||
    (0x10000 ≤ n && n / 0x1000 % 0x40 == 0x1C))

namespace CodeState

/-- Whether a character is shown. -/
def shows (s : CodeState) (c : Char) : Bool :=
  match s with
  | outside => (0x20 ≤ c.toNat && c ≠ '\x7f') || isLayoutBlank c
  | escape | intermediate | control => isLayoutBlank c
  | title | stringHead | stringBody => false

/-- The state after an escape character and one more. -/
def afterEscape (c : Char) : CodeState :=
  let n := c.toNat
  if c = '[' then control
  else if c = ']' then title
  else if c = 'P' then stringHead
  else if c = 'X' || c = '^' || c = '_' then stringBody
  else if 0x20 ≤ n && n < 0x30 then intermediate
  else if 0x30 ≤ n && n < 0x7F then outside
  else escape

/-- The state after a character that is not shown. -/
def next (s : CodeState) (c : Char) : CodeState :=
  let n := c.toNat
  if c = '\x1b' then escape
  else if c = '\x18' || c = '\x1a' then outside
  else
    match s with
    | outside => outside
    | escape => afterEscape c
    | intermediate => if 0x30 ≤ n && n < 0x7F then outside else intermediate
    | control => if 0x40 ≤ n && n < 0x7F then outside else control
    | title => if c = '\x07' then outside else title
    | stringHead => if 0x40 ≤ n && n < 0x7F then stringBody else stringHead
    | stringBody => if hidesTerminator c then outside else stringBody

end CodeState

/-- The visible part of a text that begins in a state. -/
def visibleFrom (s : CodeState) : Text → Text
  | [] => []
  | c :: t => if s.shows c then c :: visibleFrom .outside t else visibleFrom (s.next c) t

/-- The visible part of a text. -/
def visible (t : Text) : Text := visibleFrom .outside t

/-! ## Laws -/

theorem CodeState.shows_outside {s : CodeState} {c : Char} (h : s.shows c = true) :
    CodeState.outside.shows c = true := by
  cases s <;> simp_all [CodeState.shows]

theorem visible_eq_self {t : Text} (h : ∀ c ∈ t, CodeState.outside.shows c = true) :
    visible t = t := by
  unfold visible
  induction t with
  | nil => rfl
  | cons c t ih =>
    rw [visibleFrom, if_pos (h c (by simp)), ih fun d hd => h d (by simp [hd])]

theorem shows_of_mem_visibleFrom {s : CodeState} {t : Text} {c : Char}
    (h : c ∈ visibleFrom s t) : CodeState.outside.shows c = true := by
  induction t generalizing s with
  | nil => simp [visibleFrom] at h
  | cons d t ih =>
    simp only [visibleFrom] at h
    split at h
    next hd =>
      rcases List.mem_cons.1 h with rfl | h
      · exact CodeState.shows_outside hd
      · exact ih h
    next => exact ih h

theorem visible_visible (t : Text) : visible (visible t) = visible t :=
  visible_eq_self fun _ h => shows_of_mem_visibleFrom h

end OperatorShell.Text
