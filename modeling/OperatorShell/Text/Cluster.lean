import OperatorShell.Text.BreakClass

/-!
# Clusters

A cluster is what a reader takes for one character: a letter with its marks, a syllable, a flag, or
pictographs that are joined into one.

* `clusters`: a text cut into its clusters.
-/

namespace OperatorShell.Text

/-- How far a run of characters that only together keep a boundary away has come. -/
inductive Run where
  | none
  /-- After a pictograph and marks on it. -/
  | pictograph
  /-- After such and a joiner. -/
  | joined
  /-- After a consonant and marks on it. -/
  | consonant
  /-- After such and a mark that links it to the next. -/
  | linked
  /-- After the first half of a flag. -/
  | halfFlag
  deriving DecidableEq, Repr

namespace Run

/-- The run after one more character. -/
def next (r : Run) : BreakClass → Run
  | .pictograph => .pictograph
  | .consonant => .consonant
  | .regional => if r = halfFlag then none else halfFlag
  | .linker =>
    match r with
    | consonant | linked => linked
    | pictograph => pictograph
    | _ => none
  | .extend =>
    match r with
    | consonant | linked | pictograph => r
    | _ => none
  | .nonJoiner => if r = pictograph then pictograph else none
  | .joiner =>
    match r with
    | consonant | linked => r
    | pictograph => joined
    | _ => none
  | _ => none

end Run

/-- Whether characters of these classes belong together wherever they meet. -/
def attracts : BreakClass → BreakClass → Bool
  | .carriageReturn, after => after = .lineFeed
  | .lineFeed, _ | .control, _ => false
  | _, .carriageReturn | _, .lineFeed | _, .control => false
  | _, .extend | _, .joiner | _, .nonJoiner | _, .linker | _, .spacing => true
  | .prepended, _ => true
  | .leading, .leading | .leading, .vowel _ | .leading, .trailing true => true
  | .vowel _, .vowel false | .vowel _, .trailing false => true
  | .trailing _, .trailing false => true
  | _, _ => false

/-- Whether a run goes on in a character of a class without a boundary. -/
def Run.goesOn : Run → BreakClass → Bool
  | joined, .pictograph | linked, .consonant | halfFlag, .regional => true
  | _, _ => false

/-- The clusters of a text after a character of a class. The first of them is what belongs to the
cluster of that character, and may be empty. -/
def clustersAfter (before : BreakClass) (run : Run) : Text → Text × List Text
  | [] => ([], [])
  | c :: t =>
    let k := breakClass c
    let (own, others) := clustersAfter k (run.next k) t
    if attracts before k || run.goesOn k then (c :: own, others) else ([], (c :: own) :: others)

/-- The clusters of a text. -/
def clusters : Text → List Text
  | [] => []
  | c :: t =>
    let k := breakClass c
    let (own, others) := clustersAfter k (Run.next .none k) t
    (c :: own) :: others

/-! ## Laws -/

theorem flatten_clustersAfter (before : BreakClass) (run : Run) (t : Text) :
    (clustersAfter before run t).1 ++ (clustersAfter before run t).2.flatten = t := by
  induction t generalizing before run with
  | nil => rfl
  | cons c t ih =>
    simp only [clustersAfter]
    split <;> simp [ih]

theorem flatten_clusters (t : Text) : (clusters t).flatten = t := by
  cases t with
  | nil => rfl
  | cons c t => simp [clusters, flatten_clustersAfter]

end OperatorShell.Text
