import OperatorShell.Style

/-!
# Decorated texts

A decorated text is put together from pieces: bare ones, and ones between a start code and a reset. A
piece without an escape character of its own cannot be taken for part of a code, so where a code stands
in such a text is known exactly: it opens or closes a piece.

* `Text.undecorated`: a text with every occurrence of the four codes deleted.
* `Piece`: a part of a text, which a style decorates or leaves bare.
* `Closed`: in texts written one after another, every start code is followed by a reset, within the
  same text and before the next start code.
* `undecorated_render`, `closed_render`: deleting the codes of colored pieces leaves the plain ones,
  and colored pieces are closed.
-/

namespace OperatorShell

/-! ## Codes -/

inductive Decoration where
  | bold
  | dim
  | red

/-- The code that starts a decoration, nothing in a plain style. -/
def Decoration.start (s : Style) : Decoration → Text
  | bold => s.bold
  | dim => s.dim
  | red => s.red

def Style.codes : List Text := [bold colored, dim colored, red colored, reset colored]

namespace Text

/-- Deletes every occurrence of a code, where `skip` more characters belong to the last one found. -/
def undecoratedFrom : Nat → Text → Text
  | _, [] => []
  | skip + 1, _ :: t => undecoratedFrom skip t
  | 0, c :: t =>
    match Style.codes.find? fun code => code.isPrefixOf (c :: t) with
    | some code => undecoratedFrom (code.length - 1) t
    | none => c :: undecoratedFrom 0 t

def undecorated (t : Text) : Text := undecoratedFrom 0 t

end Text

open Style (escape)

/-- A code is an escape character and then none. -/
def IsCode (code : Text) : Prop := ∃ tail, code = escape :: tail ∧ escape ∉ tail

theorem isCode_start (d : Decoration) : IsCode (d.start .colored) := by
  cases d <;> exact ⟨_, rfl, by decide⟩

theorem isCode_reset : IsCode (Style.reset .colored) := ⟨_, rfl, by decide⟩

theorem start_append_inj {d d' : Decoration} {t t' : Text}
    (h : d.start .colored ++ t = d'.start .colored ++ t') : d = d' ∧ t = t' := by
  cases d <;> cases d' <;>
    simp [Decoration.start, Style.bold, Style.dim, Style.red, Style.code] at h ⊢
  all_goals exact h

theorem reset_append_ne (d : Decoration) (t t' : Text) :
    Style.reset .colored ++ t ≠ d.start .colored ++ t' := by
  cases d <;> simp [Decoration.start, Style.bold, Style.dim, Style.red, Style.reset, Style.code]

/-! ## Where a code can stand -/

variable {t code more front rest : Text} {d : Decoration}

theorem exists_append_of_bare (ht : escape ∉ t) (hcode : IsCode code)
    (h : t ++ more = front ++ (code ++ rest)) :
    ∃ front', front = t ++ front' ∧ more = front' ++ (code ++ rest) := by
  rcases List.append_eq_append_iff.1 h with ⟨front', rfl, hmore⟩ | ⟨tail, rfl, hcodeRest⟩
  · exact ⟨front', rfl, hmore⟩
  · -- what is left of `t` starts the code, unless nothing is left
    cases tail with
    | nil => exact ⟨[], by simp, by simpa using hcodeRest.symm⟩
    | cons c tail =>
      obtain ⟨body, rfl, -⟩ := hcode
      have hc : escape = c := (List.cons.inj hcodeRest).1
      exact absurd (by simp [hc]) ht

theorem exists_append_of_code {code' : Text} (hcode' : IsCode code') (hcode : IsCode code)
    (h : code' ++ more = front ++ (code ++ rest)) :
    front = [] ∨ ∃ front', front = code' ++ front' ∧ more = front' ++ (code ++ rest) := by
  obtain ⟨tail, rfl, htail⟩ := hcode'
  cases front with
  | nil => exact .inl rfl
  | cons c front =>
    obtain ⟨rfl, hrest⟩ := List.cons.inj h
    obtain ⟨front', rfl, hmore⟩ := exists_append_of_bare htail hcode hrest
    exact .inr ⟨front', rfl, hmore⟩

theorem isPrefix_of_reset {inside : Text} (hinside : escape ∉ inside)
    (h : inside ++ (Style.reset .colored ++ more) = front ++ (d.start .colored ++ rest)) :
    inside ++ Style.reset .colored <+: front := by
  obtain ⟨front, rfl, hreset⟩ := exists_append_of_bare hinside (isCode_start d) h
  rcases exists_append_of_code isCode_reset (isCode_start d) hreset with rfl | ⟨front, rfl, -⟩
  · exact absurd hreset (reset_append_ne d _ _)
  · exact ⟨front, by rw [List.append_assoc]⟩

/-! ## Pieces -/

inductive Piece where
  | bare (t : Text)
  | decorated (d : Decoration) (t : Text)

namespace Piece

def body : Piece → Text
  | bare t | decorated _ t => t

def render (s : Style) : Piece → Text
  | bare t => t
  | decorated d t => d.start s ++ t ++ s.reset

end Piece

def renderAll (s : Style) (pieces : List Piece) : Text := pieces.flatMap (Piece.render s)

@[simp] theorem renderAll_nil (s : Style) : renderAll s [] = [] := rfl

@[simp] theorem renderAll_cons (s : Style) (piece : Piece) (pieces : List Piece) :
    renderAll s (piece :: pieces) = piece.render s ++ renderAll s pieces := rfl

theorem renderAll_flatMap {β : Type} (s : Style) (xs : List β) (pieces : β → List Piece) :
    renderAll s (xs.flatMap pieces) = xs.flatMap fun x => renderAll s (pieces x) :=
  List.flatMap_assoc

variable {piece : Piece} {pieces : List Piece}

theorem render_plain (piece : Piece) : piece.render .plain = piece.body := by
  cases piece with
  | bare t => rfl
  | decorated d t => cases d <;> simp [Piece.render, Piece.body, Decoration.start, Style.bold,
      Style.dim, Style.red, Style.reset, Style.code]

theorem not_mem_renderAll_plain (h : ∀ piece ∈ pieces, escape ∉ piece.body) :
    escape ∉ renderAll .plain pieces := by
  intro hmem
  obtain ⟨piece, hpiece, hin⟩ := List.mem_flatMap.1 hmem
  rw [render_plain] at hin
  exact h piece hpiece hin

/-! ## Deleting codes -/

theorem undecorated_append_of_bare (ht : escape ∉ t) (more : Text) :
    Text.undecorated (t ++ more) = t ++ Text.undecorated more := by
  induction t with
  | nil => rfl
  | cons c t ih =>
    rw [List.mem_cons, not_or] at ht
    -- no code starts with another character than the escape
    have hnone : (Style.codes.find? fun code => code.isPrefixOf (c :: (t ++ more))) = none := by
      have hc : ¬ '\x1b' = c := ht.1
      simp [Style.codes, Style.bold, Style.dim, Style.red, Style.reset, Style.code, escape, hc]
    rw [List.cons_append, Text.undecorated, Text.undecoratedFrom, hnone]
    exact congrArg (c :: ·) (ih ht.2)

theorem undecorated_start_append (d : Decoration) (more : Text) :
    Text.undecorated (d.start .colored ++ more) = Text.undecorated more := by
  cases d <;> rfl

theorem undecorated_reset_append (more : Text) :
    Text.undecorated (Style.reset .colored ++ more) = Text.undecorated more := rfl

theorem undecorated_render (h : ∀ piece ∈ pieces, escape ∉ piece.body) :
    Text.undecorated (renderAll .colored pieces) = renderAll .plain pieces := by
  induction pieces with
  | nil => rfl
  | cons piece pieces ih =>
    rw [List.forall_mem_cons] at h
    rw [renderAll_cons, renderAll_cons, render_plain]
    cases piece with
    | bare t =>
      have ht : escape ∉ t := h.1
      rw [Piece.render, Piece.body, undecorated_append_of_bare ht, ih h.2]
    | decorated d t =>
      have ht : escape ∉ t := h.1
      rw [Piece.render, Piece.body, List.append_assoc, List.append_assoc, undecorated_start_append,
        undecorated_append_of_bare ht, undecorated_reset_append, ih h.2]

/-! ## Closed texts -/

/-- In texts written one after another, a start code between `front` and `rest` stands in one of
them, and a reset follows it there; every start code in `rest` comes behind that reset. -/
def ClosedAt (texts : List Text) (d : Decoration) (front rest : Text) : Prop :=
  ∃ earlier own later ahead inside after,
    texts = earlier ++ own :: later ∧
      own = ahead ++ d.start .colored ++ inside ++ Style.reset .colored ++ after ∧
      front = earlier.flatten ++ ahead ∧
      ∀ (d' : Decoration) (front' rest' : Text), rest = front' ++ (d'.start .colored ++ rest') →
        inside ++ Style.reset .colored <+: front'

def Closed (texts : List Text) : Prop :=
  ∀ (d : Decoration) (front rest : Text), texts.flatten = front ++ (d.start .colored ++ rest) →
    ClosedAt texts d front rest

theorem start_in_piece (hpiece : escape ∉ piece.body)
    (h : piece.render .colored ++ more = front ++ (d.start .colored ++ rest)) :
    (∃ front', front = piece.render .colored ++ front' ∧
        more = front' ++ (d.start .colored ++ rest)) ∨
      front = [] ∧ piece = .decorated d piece.body ∧
        rest = piece.body ++ (Style.reset .colored ++ more) := by
  have hcode := isCode_start d
  cases piece with
  | bare t => exact .inl (exists_append_of_bare hpiece hcode h)
  | decorated d' t =>
    rw [Piece.render, List.append_assoc, List.append_assoc] at h
    rcases exists_append_of_code (isCode_start d') hcode h with rfl | ⟨front, rfl, hbody⟩
    · obtain ⟨rfl, hrest⟩ := start_append_inj h
      exact .inr ⟨rfl, rfl, hrest.symm⟩
    · obtain ⟨front, rfl, hreset⟩ := exists_append_of_bare hpiece hcode hbody
      rcases exists_append_of_code isCode_reset hcode hreset with rfl | ⟨front, rfl, hmore⟩
      · exact absurd hreset (reset_append_ne d _ _)
      · exact .inl ⟨front, by simp [Piece.render, Piece.body], hmore⟩

/-- A start code stands behind pieces, or opens one of them, which a reset closes. -/
theorem start_in_pieces (hpieces : ∀ piece ∈ pieces, escape ∉ piece.body)
    (h : renderAll .colored pieces ++ more = front ++ (d.start .colored ++ rest)) :
    (∃ front', front = renderAll .colored pieces ++ front' ∧
        more = front' ++ (d.start .colored ++ rest)) ∨
      ∃ inside after, escape ∉ inside ∧
        renderAll .colored pieces =
          front ++ d.start .colored ++ inside ++ Style.reset .colored ++ after ∧
        rest = inside ++ (Style.reset .colored ++ (after ++ more)) := by
  induction pieces generalizing front with
  | nil => exact .inl ⟨front, rfl, h⟩
  | cons piece pieces ih =>
    rw [List.forall_mem_cons] at hpieces
    rw [renderAll_cons, List.append_assoc] at h
    rcases start_in_piece hpieces.1 h with ⟨front, rfl, hbehind⟩ | ⟨rfl, hpiece, hrest⟩
    · rcases ih hpieces.2 hbehind with ⟨front, rfl, hmore⟩ | ⟨inside, after, hinside, hin, hrest⟩
      · exact .inl ⟨front, by simp, hmore⟩
      · exact .inr ⟨inside, after, hinside, by simp [hin], hrest⟩
    · refine .inr ⟨piece.body, renderAll .colored pieces, hpieces.1, ?_, hrest⟩
      rw [renderAll_cons, hpiece]
      rfl

theorem closed_render {texts : List (List Piece)}
    (h : ∀ pieces ∈ texts, ∀ piece ∈ pieces, escape ∉ piece.body) :
    Closed (texts.map (renderAll .colored)) := by
  induction texts with
  | nil =>
    intro d front rest heq
    obtain ⟨tail, hcode, -⟩ := isCode_start d
    simp [hcode] at heq
  | cons pieces texts ih =>
    rw [List.forall_mem_cons] at h
    intro d front rest heq
    rw [List.map_cons, List.flatten_cons] at heq
    -- the start code is in a later text, or the first one closes it
    rcases start_in_pieces h.1 heq with ⟨front, rfl, hmore⟩ | ⟨inside, after, hinside, hown, rfl⟩
    · obtain ⟨earlier, own, later, ahead, inside, after, htexts, hown, rfl, hnext⟩ :=
        ih h.2 d front rest hmore
      refine ⟨renderAll .colored pieces :: earlier, own, later, ahead, inside, after, ?_, hown, ?_,
        hnext⟩
      · rw [List.map_cons, htexts, List.cons_append]
      · rw [List.flatten_cons, List.append_assoc]
    · exact ⟨[], _, _, front, inside, after, rfl, hown, rfl,
        fun d' front' rest' hnext => isPrefix_of_reset hinside hnext⟩

end OperatorShell
