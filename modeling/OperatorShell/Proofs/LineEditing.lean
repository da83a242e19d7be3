import OperatorShell.LineInput
import OperatorShell.Proofs.Script

/-!
# Lines under the line editor

A backspace takes back the cluster before it, as long as no cluster of its line has 256 bytes or
more. After a longer one it takes back fewer bytes than the cluster has, and may fall inside a
character.

* `LineInput.kept`: the clusters that backspaces leave of a line.
* `edited?_eq`: a line of short clusters is read as what is left of it.
* `LineInput.Breaks`: an input that breaks the line editor before the operator quits.
* `not_breaks_of_shortClusters`: an input of short clusters never does.
-/

namespace OperatorShell.LineInput

/-- The clusters that backspaces leave of a line; `before` has those before it, the last first. -/
def kept (before : List Text) : List Text → List Text
  | [] => before.reverse
  | c :: rest => if c = [backspace] then kept before.tail rest else kept (c :: before) rest

theorem dropBytes_append (t u : Text) : dropBytes (Text.byteLength t) (t ++ u) = some u := by
  induction t with
  | nil => rw [Text.byteLength, List.nil_append, dropBytes]
  | cons c t ih =>
    have hpos := c.utf8Size_pos
    obtain ⟨n, hn⟩ := Nat.exists_eq_add_one_of_ne_zero
      (show Text.byteLength (c :: t) ≠ 0 by rw [Text.byteLength]; omega)
    have hfits : c.utf8Size ≤ n + 1 := by rw [← hn, Text.byteLength]; omega
    have hrest : n + 1 - c.utf8Size = Text.byteLength t := by rw [← hn, Text.byteLength]; omega
    rw [hn, List.cons_append, dropBytes, if_pos hfits, hrest, ih]

theorem byteLength_reverse (t : Text) : Text.byteLength t.reverse = Text.byteLength t := by
  induction t with
  | nil => rfl
  | cons c t ih =>
    rw [List.reverse_cons, Text.byteLength_append, ih, Text.byteLength, Text.byteLength,
      Text.byteLength]
    omega

theorem retype_eq (before : List Text) {clusters : List Text}
    (h : ∀ c ∈ clusters, Text.byteLength c < sizes) :
    retype (before.flatMap List.reverse) (before.map Text.byteLength) clusters =
      some (kept before clusters).flatten := by
  induction clusters generalizing before with
  | nil =>
    have hid : (List.reverse ∘ List.reverse : Text → Text) = id := funext List.reverse_reverse
    rw [retype, kept, List.flatMap_def, List.reverse_flatten, List.map_map, hid, List.map_id]
  | cons c rest ih =>
    have hrest : ∀ c ∈ rest, Text.byteLength c < sizes :=
      fun c hc => h c (List.mem_cons_of_mem _ hc)
    by_cases hback : c = [backspace]
    · have hdrop : dropBytes ((before.map Text.byteLength).headD 0)
          (before.flatMap List.reverse) = some (before.tail.flatMap List.reverse) := by
        cases before with
        | nil => rfl
        | cons g before =>
          rw [List.map_cons, List.headD_cons, List.flatMap_cons, List.tail_cons,
            ← byteLength_reverse, dropBytes_append]
      rw [retype, if_pos hback, hdrop, kept, if_pos hback, ← List.map_tail]
      exact ih before.tail hrest
    · have hsize : Text.byteLength c % sizes = Text.byteLength c :=
        Nat.mod_eq_of_lt (h c List.mem_cons_self)
      rw [retype, if_neg hback, kept, if_neg hback, hsize]
      exact ih (c :: before) hrest

/-- A line of short clusters is read as what backspaces leave of it. -/
theorem edited?_eq {ended : Bool} {t : Text}
    (h : ∀ c ∈ Text.clusters (dropReturn ended t), Text.byteLength c < sizes) :
    edited? ended t = some (kept [] (Text.clusters (dropReturn ended t))).flatten :=
  retype_eq [] h

/-- Whether all clusters of an input have fewer than 256 bytes. -/
def ShortClusters (input : Bytes) : Prop :=
  ∀ line ∈ cutLines [] input, ∀ t, Text.decodeUtf8? line.1 = some t →
    ∀ c ∈ Text.clusters (dropReturn line.2 t), Text.byteLength c < 256

theorem ending_eventsOfLines_ne_broken {lines : List (Bytes × Bool)}
    (h : ∀ line ∈ lines, ∀ t, Text.decodeUtf8? line.1 = some t →
      ∀ c ∈ Text.clusters (dropReturn line.2 t), Text.byteLength c < 256) :
    (eventsOfLines lines).2 ≠ .broken := by
  induction lines with
  | nil => simp [eventsOfLines]
  | cons line rest ih =>
    obtain ⟨bytes, ended⟩ := line
    have hrest := ih fun line hline => h line (List.mem_cons_of_mem _ hline)
    rw [eventsOfLines]
    cases hdecode : Text.decodeUtf8? bytes with
    | none => simp
    | some t =>
      dsimp only
      rw [edited?_eq (h (bytes, ended) List.mem_cons_self t hdecode)]
      exact hrest

/-- Whether an input breaks the line editor: at a line that the operator does not quit before. -/
def Breaks (input : Bytes) : Prop :=
  (events input).2 = .broken ∧ ¬Script.Quits (events input).1

theorem not_breaks_of_shortClusters {input : Bytes} (h : ShortClusters input) : ¬Breaks input :=
  fun hbreaks => ending_eventsOfLines_ne_broken h hbreaks.1

end OperatorShell.LineInput
