import OperatorShell.Text.Basic

/-!
# Layout

* `spaces`, `padTo`: columns.
* `indented`: paragraphs that hang under their first line.
* `lines`: a text cut into its lines.
-/

namespace OperatorShell.Text

/-- So many spaces. -/
def spaces (n : Nat) : Text := List.replicate n ' '

/-- A text with spaces after it, up to a width. -/
def padTo (width : Nat) (t : Text) : Text := t ++ spaces (width - t.length)

/-- A text with every line after the first indented. -/
def indented (width : Nat) (t : Text) : Text :=
  t.flatMap fun c => if c = '\n' then '\n' :: spaces width else [c]

/-- A line without its end, which is a newline with or without a carriage return. -/
def dropLineEnd (t : Text) : Text :=
  if t.getLast? = some '\n' then
    let t := t.dropLast
    if t.getLast? = some '\r' then t.dropLast else t
  else t

/-- The lines of a text with their ends; `line` is the line so far, last character first. -/
def cutLines (line : Text) : Text → List Text
  | [] => if line = [] then [] else [line.reverse]
  | c :: t => if c = '\n' then (c :: line).reverse :: cutLines [] t else cutLines (c :: line) t

/-- The lines of a text. What follows the last line end is a line unless it is empty. -/
def lines (t : Text) : List Text := (cutLines [] t).map dropLineEnd

/-! ## Laws -/

theorem flatten_cutLines (line t : Text) : (cutLines line t).flatten = line.reverse ++ t := by
  induction t generalizing line with
  | nil => by_cases h : line = [] <;> simp [cutLines, h]
  | cons c t ih => by_cases h : c = '\n' <;> simp [cutLines, h, ih]

theorem cutLines_append {body : Text} (hbody : '\n' ∉ body) (front rest : Text) :
    cutLines front (body ++ '\n' :: rest) =
      (front.reverse ++ body ++ ['\n']) :: cutLines [] rest := by
  induction body generalizing front with
  | nil => simp [cutLines]
  | cons c body ih =>
    have hc : ¬c = '\n' := fun heq => hbody (heq ▸ List.mem_cons_self)
    have htail : '\n' ∉ body := fun hmem => hbody (List.mem_cons_of_mem _ hmem)
    rw [List.cons_append, cutLines, if_neg hc, ih htail]
    simp

theorem cutLines_flatMap_line {bodies : List Text} (h : ∀ body ∈ bodies, '\n' ∉ body) :
    cutLines [] (bodies.flatMap line) = bodies.map line := by
  induction bodies with
  | nil => rfl
  | cons body bodies ih =>
    have hbody : '\n' ∉ body := h body List.mem_cons_self
    have hrest : cutLines [] (bodies.flatMap line) = bodies.map line :=
      ih fun b hb => h b (List.mem_cons_of_mem _ hb)
    rw [List.flatMap_cons, line, List.append_assoc]
    show cutLines [] (body ++ '\n' :: bodies.flatMap line) = _
    rw [cutLines_append hbody, hrest]
    rfl

end OperatorShell.Text
