import OperatorShell.Proofs.Flags
import OperatorShell.Proofs.Tables
import OperatorShell.Settings.Load

/-!
# The order of fields

A record is read in the order in which its keys stand in the document, and a field changes the
record when its key comes. The fields do not get into each other's way, so the record is the one
that is read field by field, from what stands under each key: neither the order of the keys nor
those that no field knows make a difference.

* `Settings.readByField`: a record read field by field.
* `Settings.Independent`: fields that can take their values in any order.
* `Settings.foldlM_readKeyed_eq`: key by key is field by field.
-/

namespace OperatorShell.Settings

open Document (Node Entries)

variable {ρ α : Type}

/-- Takes the value of a field's key from a table, if it has the key. -/
def Field.take (es : Entries) (r : ρ) (f : Field ρ) : Option ρ :=
  match es.get? f.name with
  | some node => (f.read node r).toOption
  | none => some r

/-- Takes the values of keys in the order of the fields. -/
def readByField (fields : List (Field ρ)) (es : Entries) (r : ρ) : Option ρ :=
  fields.foldlM (Field.take es) r

/-- The order in which two fields take their values makes no difference. -/
def Field.Commutes (f g : Field ρ) : Prop :=
  ∀ n m r, ((f.read n r).toOption.bind fun r => (g.read m r).toOption) =
    (g.read m r).toOption.bind fun r => (f.read n r).toOption

/-- Fields with names of their own that take their values in any order. -/
structure Independent (fields : List (Field ρ)) : Prop where
  names : (fields.map Field.name).Nodup
  commute : fields.Pairwise Field.Commutes

theorem toOption_bind {ε β : Type} (x : Except ε α) (f : α → Except ε β) :
    (x >>= f).toOption = x.toOption.bind fun a => (f a).toOption := by
  cases x <;> rfl

theorem toOption_map {ε β : Type} (x : Except ε α) (f : α → β) :
    (x.map f).toOption = x.toOption.map f := by
  cases x <;> rfl

theorem commutes_of {β : Type} {name name' : String} {read : Node → Except ShapeError α}
    {read' : Node → Except ShapeError β} {set : α → ρ → ρ} {set' : β → ρ → ρ}
    (h : ∀ a b r, set' b (set a r) = set a (set' b r)) :
    (Field.of name read set).Commutes (Field.of name' read' set') := by
  intro n m r
  simp only [Field.of, toOption_map]
  cases (read n).toOption with
  | none => cases (read' m).toOption <;> rfl
  | some a =>
    cases (read' m).toOption with
    | none => rfl
    | some b => exact congrArg some (h a b r)

theorem readByField_congr {fields : List (Field ρ)} {es es' : Entries}
    (h : ∀ f ∈ fields, es.get? f.name = es'.get? f.name) (r : ρ) :
    readByField fields es r = readByField fields es' r := by
  induction fields generalizing r with
  | nil => rfl
  | cons f fields ih =>
    obtain ⟨hf, hfields⟩ := List.forall_mem_cons.1 h
    rw [readByField, readByField, List.foldlM_cons, List.foldlM_cons, Field.take, Field.take, hf]
    exact congrArg _ (funext fun r => ih hfields r)

theorem readByField_nil (fields : List (Field ρ)) (r : ρ) : readByField fields [] r = some r := by
  induction fields with
  | nil => rfl
  | cons f fields ih => exact ih

theorem take_readKeyed {f : Field ρ} {fields : List (Field ρ)} (hcomm : ∀ g ∈ fields, f.Commutes g)
    (es : Entries) (e : Text × Node) (r : ρ) :
    ((Field.take es r f).bind fun r => (readKeyed fields r e).toOption) =
      (readKeyed fields r e).toOption.bind fun r => Field.take es r f := by
  rw [Field.take.eq_def]
  cases hfind : fields.find? fun g => g.name = e.1 with
  | none =>
    have hkeep : ∀ r, (readKeyed fields r e).toOption = some r := by
      intro r
      rw [readKeyed, hfind]
      rfl
    simp only [hkeep, Option.bind_some, Option.bind_fun_some]
    rw [Field.take.eq_def]
  | some g =>
    have hread : ∀ r, readKeyed fields r e = g.read e.2 r := by
      intro r
      rw [readKeyed, hfind]
    simp only [hread, Field.take]
    cases es.get? f.name with
    | none => simp
    | some node => exact hcomm g (List.mem_of_find?_eq_some hfind) node e.2 r

theorem readByField_entry {fields : List (Field ρ)} (h : Independent fields) {k : Text} {n : Node}
    {es : Entries} (hk : es.get? k = none) (r : ρ) :
    readByField fields ((k, n) :: es) r =
      (readKeyed fields r (k, n)).toOption.bind fun r => readByField fields es r := by
  obtain ⟨hnames, hcomm⟩ := h
  induction fields generalizing r with
  | nil => rfl
  | cons f fields ih =>
    obtain ⟨hfresh, hnames⟩ := List.nodup_cons.1 hnames
    obtain ⟨hfirst, hcomm⟩ := List.pairwise_cons.1 hcomm
    rw [readByField, List.foldlM_cons, Field.take, Entries.get?_cons]
    by_cases hname : k = f.name
    · -- the other fields do not know the key, and the field does not find it a second time
      have hothers : ∀ r, readByField fields ((k, n) :: es) r = readByField fields es r := by
        refine readByField_congr fun g hg => ?_
        rw [Entries.get?_cons, if_neg]
        rintro rfl
        exact hfresh (hname ▸ List.mem_map_of_mem hg)
      have hread : readKeyed (f :: fields) r (k, n) = f.read n r := by
        rw [readKeyed, List.find?_cons_of_pos (by simpa using hname.symm)]
      have hskip : ∀ r, readByField (f :: fields) es r = readByField fields es r := by
        intro r
        rw [readByField, List.foldlM_cons, Field.take, ← hname, hk]
        rfl
      rw [if_pos hname, hread]
      simp only [hskip]
      exact congrArg _ (funext hothers)
    · have hread : ∀ r, readKeyed (f :: fields) r (k, n) = readKeyed fields r (k, n) := by
        intro r
        rw [readKeyed, List.find?_cons_of_neg (by simpa using fun h => hname h.symm), readKeyed]
      rw [if_neg hname, hread]
      have hrest : ∀ r, fields.foldlM (Field.take ((k, n) :: es)) r =
          (readKeyed fields r (k, n)).toOption.bind fun r => readByField fields es r :=
        fun r => ih r hnames hcomm
      have hswap := take_readKeyed hfirst es (k, n) r
      calc (Field.take es r f).bind (fun r => fields.foldlM (Field.take ((k, n) :: es)) r)
          = (Field.take es r f).bind fun r => (readKeyed fields r (k, n)).toOption.bind fun r =>
              readByField fields es r := by simp only [hrest]
        _ = ((Field.take es r f).bind fun r => (readKeyed fields r (k, n)).toOption).bind fun r =>
              readByField fields es r := (Option.bind_assoc _ _ _).symm
        _ = (readKeyed fields r (k, n)).toOption.bind fun r =>
              (Field.take es r f).bind fun r => readByField fields es r := by
            rw [hswap, Option.bind_assoc]

/-- **Key by key is field by field.** In a table without repeated keys, the order of the keys makes
no difference to whether a record is read from it, and to which. -/
theorem foldlM_readKeyed_eq {fields : List (Field ρ)} (h : Independent fields) {es : Entries}
    (hkeys : (es.map Prod.fst).Nodup) (r : ρ) :
    (es.foldlM (readKeyed fields) r).toOption = readByField fields es r := by
  induction es generalizing r with
  | nil => exact (readByField_nil fields r).symm
  | cons e es ih =>
    obtain ⟨k, n⟩ := e
    obtain ⟨hk, hkeys⟩ := List.nodup_cons.1 hkeys
    rw [List.foldlM_cons, toOption_bind, readByField_entry h (Entries.get?_eq_none_iff.2 hk)]
    simp only [ih hkeys]

end OperatorShell.Settings
