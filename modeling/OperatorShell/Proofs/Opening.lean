import OperatorShell.Files
import Mathlib.Data.List.Basic
import Mathlib.Tactic.SplitIfs

/-!
# Files that are opened again

Opening a file for appending makes what is missing on the way to it, and no more. Once a file is
open, its path leads to the same place for as long as the directories stay, so to open it again
changes nothing, and to read it gives what is in that place.

* `Files.Keeps`: the directories of one state are directories of another.
* `Files.LeadsTo`: a path that can be opened and read, at one place, whatever else changes.
* `Files.openForAppend_eq_ok`: what an opening leaves.
-/

namespace OperatorShell

namespace Entry

/-- Whether a directory is at a place below an entry. -/
def IsDir (e : Entry) (place : Place) : Prop := ∃ entries, e.at? place = some (.dir entries)

variable {e new : Entry} {place : Place}

theorem at?_cons (entries : List (Text × Entry)) (name : Text) (rest : Place) :
    (dir entries).at? (name :: rest) = (child? entries name).bind (·.at? rest) := rfl

theorem put_cons (entries : List (Text × Entry)) (name : Text) (rest : Place) :
    put new (name :: rest) (dir entries) =
      dir (setChild entries name (put new rest ((child? entries name).getD (dir [])))) := rfl

theorem child?_setChild_of_ne {name other : Text} (h : other ≠ name)
    (entries : List (Text × Entry)) :
    child? (setChild entries name e) other = child? entries other := by
  have hname : ¬name = other := fun heq => h heq.symm
  rw [child?, child?, setChild, List.find?_cons_of_neg (by simpa using hname), List.find?_filter]
  congr 2
  funext entry
  by_cases heq : entry.1 = other
  · simp [heq, h]
  · simp [heq]

theorem at?_append_place (e : Entry) (place rest : Place) :
    e.at? (place ++ rest) = (e.at? place).bind (·.at? rest) := by
  induction place generalizing e with
  | nil => rfl
  | cons name place ih =>
    cases e with
    | file content => rfl
    | dir entries =>
      rw [List.cons_append, at?_cons, at?_cons, Option.bind_assoc]
      simp only [ih]

theorem IsDir.dropLast (h : e.IsDir place) : e.IsDir place.dropLast := by
  obtain rfl | ⟨front, name, rfl⟩ := List.eq_nil_or_concat place
  · exact h
  · obtain ⟨entries, hat⟩ := h
    rw [List.concat_eq_append, at?_append_place] at hat
    rw [List.concat_eq_append, List.dropLast_concat]
    obtain ⟨inner, hinner, hname⟩ := Option.bind_eq_some_iff.1 hat
    cases inner with
    | file content => simp [at?] at hname
    | dir entries' => exact ⟨entries', hinner⟩

theorem isDir_cons {entries : List (Text × Entry)} {name : Text} {rest : Place} :
    (dir entries).IsDir (name :: rest) ↔
      ∃ inner, child? entries name = some inner ∧ inner.IsDir rest := by
  constructor
  · rintro ⟨found, hfound⟩
    obtain ⟨inner, hinner, hrest⟩ := Option.bind_eq_some_iff.1 hfound
    exact ⟨inner, hinner, found, hrest⟩
  · rintro ⟨inner, hinner, found, hrest⟩
    exact ⟨found, Option.bind_eq_some_iff.2 ⟨inner, hinner, hrest⟩⟩

theorem not_isDir_file (content : Bytes) (place : Place) : ¬(file content).IsDir place := by
  rintro ⟨entries, hat⟩
  cases place <;> simp [at?] at hat

theorem IsDir.put {other : Place} (h : e.IsDir other) (hplace : ¬e.IsDir place) :
    (put new place e).IsDir other := by
  -- beside the place nothing changes, and on the way to it the directory is taken up again
  induction place generalizing e other with
  | nil =>
    cases e with
    | file content => exact absurd h (not_isDir_file content other)
    | dir entries => exact absurd ⟨entries, rfl⟩ hplace
  | cons name rest ih =>
    cases e with
    | file content => exact h
    | dir entries =>
      rw [put_cons]
      cases other with
      | nil => exact ⟨_, rfl⟩
      | cons other names =>
        obtain ⟨inner, hinner, hnames⟩ := isDir_cons.1 h
        rw [isDir_cons]
        by_cases hname : other = name
        · subst hname
          have hrest : ¬inner.IsDir rest := fun hdir => hplace (isDir_cons.2 ⟨inner, hinner, hdir⟩)
          refine ⟨_, child?_setChild entries other _, ?_⟩
          rw [hinner, Option.getD_some]
          exact ih hnames hrest
        · exact ⟨inner, (child?_setChild_of_ne hname entries).trans hinner, hnames⟩

theorem at?_put_of_isDir {name : Text} (h : e.IsDir place) :
    (Entry.put new (place ++ [name]) e).at? (place ++ [name]) = some new := by
  induction place generalizing e with
  | nil =>
    obtain ⟨entries, hentries⟩ := h
    obtain rfl : e = dir entries := Option.some.inj hentries
    rw [List.nil_append, put_cons, at?_cons, child?_setChild]
    rfl
  | cons other rest ih =>
    cases e with
    | file content => exact absurd h (not_isDir_file content _)
    | dir entries =>
      obtain ⟨inner, hinner, hrest⟩ := isDir_cons.1 h
      rw [List.cons_append, put_cons, at?_cons, child?_setChild, hinner, Option.getD_some]
      exact ih hrest

theorem at?_dir_nil_ne_file (place : Place) (content : Bytes) :
    (dir []).at? place ≠ some (.file content) := by
  cases place <;> simp [at?, child?]

theorem at?_of_at?_put_dir {other : Place} {content : Bytes} (hplace : e.at? place = none)
    (h : (Entry.put (.dir []) place e).at? other = some (.file content)) :
    e.at? other = some (.file content) := by
  -- what is made on the way where nothing was is empty, so it holds no file either
  induction place generalizing e other with
  | nil => simp [at?] at hplace
  | cons name rest ih =>
    cases e with
    | file content => exact h
    | dir entries =>
      cases other with
      | nil => simp [put_cons, at?] at h
      | cons other names =>
        rw [put_cons, at?_cons] at h
        rw [at?_cons]
        by_cases hname : other = name
        · subst hname
          rw [child?_setChild, Option.bind_some] at h
          rw [at?_cons] at hplace
          cases hchild : child? entries other with
          | some inner =>
            rw [hchild, Option.getD_some] at h
            rw [hchild, Option.bind_some] at hplace
            exact ih hplace h
          | none =>
            rw [hchild, Option.getD_none] at h
            cases rest with
            | nil => exact absurd h (at?_dir_nil_ne_file names content)
            | cons next rest => exact absurd (ih rfl h) (at?_dir_nil_ne_file names content)
        · rwa [child?_setChild_of_ne hname] at h

end Entry

namespace Files

variable {fs fs' : Files} {path : Text} {place : Place}

/-- Whether a directory is at a place. -/
def IsDir (fs : Files) (place : Place) : Prop := fs.root.IsDir place

/-- Every directory of one state is a directory of another, and the working directory is the
same. -/
structure Keeps (fs fs' : Files) : Prop where
  isDir : ∀ place, fs.IsDir place → fs'.IsDir place
  cwd : fs'.cwd = fs.cwd

theorem Keeps.refl (fs : Files) : fs.Keeps fs := ⟨fun _ h => h, rfl⟩

theorem Keeps.trans {fs'' : Files} (h : fs.Keeps fs') (h' : fs'.Keeps fs'') : fs.Keeps fs'' :=
  ⟨fun place hplace => h'.isDir place (h.isDir place hplace), h'.cwd.trans h.cwd⟩

theorem Keeps.startOf (h : fs.Keeps fs') (path : Text) : fs'.startOf path = fs.startOf path := by
  rw [Files.startOf, Files.startOf, h.cwd]

theorem keeps_put {new : Entry} (h : ¬fs.IsDir place) : fs.Keeps (fs.put place new) :=
  ⟨fun _ hdir => Entry.IsDir.put hdir h, rfl⟩

theorem not_isDir_of_at? {found : Option Entry} (h : fs.at? place = found)
    (hfound : ∀ entries, found ≠ some (.dir entries)) : ¬fs.IsDir place := by
  rintro ⟨entries, hdir⟩
  exact hfound entries (h.symm.trans hdir)

/-! ## Following parts -/

/-- Where one part leads from a directory. -/
def enter (place : Place) (part : Text) : Except FileError Place :=
  if part = Path.here then .ok place
  else if part = Path.above then .ok place.dropLast
  else if Path.maxPartBytes < Text.byteLength part then .error .nameTooLong
  else .ok (place ++ [part])

theorem follow_cons (h : fs.IsDir place) (part : Text) (rest : List Text) :
    fs.follow place (part :: rest) = (enter place part).bind (fs.follow · rest) := by
  obtain ⟨entries, hdir⟩ := h
  have hat : fs.at? place = some (.dir entries) := hdir
  rw [follow, hat, enter]
  dsimp only
  split_ifs <;> rfl

theorem isDir_of_follow {part : Text} {rest : List Text} {found : Place}
    (h : fs.follow place (part :: rest) = .ok found) : fs.IsDir place := by
  rw [follow] at h
  split at h
  · simp at h
  · simp at h
  · next entries hdir => exact ⟨entries, hdir⟩

theorem ok_of_follow_cons {part : Text} {rest : List Text} {found : Place}
    (h : fs.follow place (part :: rest) = .ok found) :
    fs.IsDir place ∧ ∃ next, enter place part = .ok next ∧ fs.follow next rest = .ok found := by
  have hdir : fs.IsDir place := isDir_of_follow h
  rw [follow_cons hdir] at h
  cases hnext : enter place part with
  | error e => simp [hnext, Except.bind] at h
  | ok next => exact ⟨hdir, next, rfl, by simpa [hnext, Except.bind] using h⟩

theorem follow_concat {parts : List Text} {parent : Place} (h : fs.follow place parts = .ok parent)
    (last : Text) : fs.follow place (parts ++ [last]) = fs.follow parent [last] := by
  induction parts generalizing place with
  | nil =>
    obtain rfl : place = parent := Except.ok.inj h
    rfl
  | cons part rest ih =>
    obtain ⟨hdir, next, hnext, hrest⟩ := ok_of_follow_cons h
    rw [List.cons_append, follow_cons hdir, hnext]
    exact ih hrest

theorem follow_of_keeps (h : fs.Keeps fs') {parts : List Text} {found : Place}
    (hfollow : fs.follow place parts = .ok found) : fs'.follow place parts = .ok found := by
  induction parts generalizing place with
  | nil => exact hfollow
  | cons part rest ih =>
    obtain ⟨hdir, next, hnext, hrest⟩ := ok_of_follow_cons hfollow
    rw [follow_cons (h.isDir place hdir), hnext]
    exact ih hrest

/-! ## Making directories -/

theorem keeps_makeDirsFrom (fs : Files) (place : Place) (made : Bool) (parts : List Text) :
    fs.Keeps (fs.makeDirsFrom place made parts).1 := by
  fun_induction makeDirsFrom fs place made parts with
  | case2 fs place made rest ih => exact ih
  | case3 fs place made rest hhere ih => exact ih
  | case5 fs place made part rest hhere habove hlong next entries hdir ih => exact ih
  | case7 fs place made part rest hhere habove hlong next hnone ih =>
    exact (keeps_put (not_isDir_of_at? hnone nofun)).trans ih
  | case1 | case4 | case6 => exact .refl _

theorem at?_of_makeDirsFrom {made : Bool} {parts : List Text} {other : Place} {content : Bytes}
    (h : (fs.makeDirsFrom place made parts).1.at? other = some (.file content)) :
    fs.at? other = some (.file content) := by
  fun_induction makeDirsFrom fs place made parts with
  | case2 fs place made rest ih => exact ih h
  | case3 fs place made rest hhere ih => exact ih h
  | case5 fs place made part rest hhere habove hlong next entries hdir ih => exact ih h
  | case7 fs place made part rest hhere habove hlong next hnone ih =>
    exact Entry.at?_of_at?_put_dir hnone (ih h)
  | case1 | case4 | case6 => exact h

theorem makeDirsFrom_of_isDir {part : Text} (hhere : part ≠ Path.here) (habove : part ≠ Path.above)
    (hlong : ¬Path.maxPartBytes < Text.byteLength part) (hnext : fs.IsDir (place ++ [part]))
    (made : Bool) (rest : List Text) :
    fs.makeDirsFrom place made (part :: rest) = fs.makeDirsFrom (place ++ [part]) made rest := by
  obtain ⟨entries, hdir⟩ := hnext
  have hat : fs.at? (place ++ [part]) = some (.dir entries) := hdir
  rw [makeDirsFrom, if_neg hhere, if_neg habove, if_neg hlong]
  dsimp only
  rw [hat]

theorem makeDirsFrom_again {made made' : Bool} {parts : List Text} (hplace : fs.IsDir place)
    (h : (fs.makeDirsFrom place made parts).2 = none)
    (hkeeps : (fs.makeDirsFrom place made parts).1.Keeps fs') :
    fs'.makeDirsFrom place made' parts = (fs', none) := by
  -- what each part meets or makes is a directory of the last state, and so of any later one
  fun_induction makeDirsFrom fs place made parts with
  | case1 fs place made => rfl
  | case2 fs place made rest ih =>
    rw [makeDirsFrom, if_pos rfl]
    exact ih hplace h hkeeps
  | case3 fs place made rest hhere ih =>
    rw [makeDirsFrom, if_neg hhere, if_pos rfl]
    exact ih hplace.dropLast h hkeeps
  | case4 | case6 => simp at h
  | case5 fs place made part rest hhere habove hlong next entries hdir ih =>
    have hnext : fs.IsDir next := ⟨entries, hdir⟩
    have hlater : fs'.IsDir next :=
      hkeeps.isDir next ((keeps_makeDirsFrom fs next made rest).isDir next hnext)
    rw [makeDirsFrom_of_isDir hhere habove hlong hlater]
    exact ih hnext h hkeeps
  | case7 fs place made part rest hhere habove hlong next hnone ih =>
    have hnext : (fs.put next (.dir [])).IsDir next := ⟨[], Entry.at?_put_of_isDir hplace⟩
    have hlater : fs'.IsDir next :=
      hkeeps.isDir next ((keeps_makeDirsFrom _ next true rest).isDir next hnext)
    rw [makeDirsFrom_of_isDir hhere habove hlong hlater]
    exact ih hnext h hkeeps

/-! ## Opening -/

/-- The file of a path can be opened at a place: the way to its directory is there, and the last
part of the path leads to that place. -/
structure Way (fs : Files) (path : Text) (parent : Place) (last : Text) (place : Place) :
    Prop where
  check : checkPath path = .ok ()
  noSlash : path.getLast? ≠ some '/'
  last_eq : (Path.parts path).getLast? = some last
  follow_above : fs.follow (fs.startOf path) (Path.parts path).dropLast = .ok parent
  isDir_parent : fs.IsDir parent
  follow_last : fs.follow parent [last] = .ok place

variable {parent : Place} {last : Text} {content : Bytes}

theorem Way.of_keeps (h : fs.Way path parent last place) (hkeeps : fs.Keeps fs') :
    fs'.Way path parent last place where
  check := h.check
  noSlash := h.noSlash
  last_eq := h.last_eq
  follow_above := by
    rw [hkeeps.startOf path]
    exact follow_of_keeps hkeeps h.follow_above
  isDir_parent := hkeeps.isDir parent h.isDir_parent
  follow_last := follow_of_keeps hkeeps h.follow_last

theorem Way.openFile (h : fs.Way path parent last place)
    (hfile : fs.at? place = some (.file content)) : fs.openFile path = .ok (fs, place) := by
  obtain ⟨entries, hdir⟩ := h.isDir_parent
  have hat : fs.at? parent = some (.dir entries) := hdir
  rw [Files.openFile, h.check]
  simp [bind, Except.bind, h.last_eq, h.follow_above, hat, h.noSlash, h.follow_last, hfile, pure,
    Except.pure]

theorem Way.read (h : fs.Way path parent last place)
    (hfile : fs.at? place = some (.file content)) : fs.read path = .ok content := by
  have hparts : (Path.parts path).dropLast ++ [last] = Path.parts path :=
    List.dropLast_append_getLast? last h.last_eq
  have hfollow : fs.follow (fs.startOf path) (Path.parts path) = .ok place := by
    rw [← hparts, follow_concat h.follow_above, h.follow_last]
  rw [Files.read, locate, h.check]
  simp [bind, Except.bind, h.noSlash, hfollow, hfile, pure, Except.pure]

theorem openFile_eq_ok {files : Files} (h : fs.openFile path = .ok (files, place)) :
    ∃ parent last, fs.Way path parent last place ∧
      ((∃ content, fs.at? place = some (.file content) ∧ files = fs) ∨
        fs.at? place = none ∧ files = fs.put place (.file [])) := by
  simp only [Files.openFile, bind, Except.bind, pure, Except.pure, throw, throwThe,
    MonadExceptOf.throw] at h
  cases hcheck : checkPath path with
  | error e => simp [hcheck] at h
  | ok _ =>
  cases hlast : (Path.parts path).getLast? with
  | none => simp [hcheck, hlast] at h
  | some last =>
  cases hparent : fs.follow (fs.startOf path) (Path.parts path).dropLast with
  | error e => simp [hcheck, hlast, hparent] at h
  | ok parent =>
  match hdir : fs.at? parent with
  | none => simp [hcheck, hlast, hparent, hdir] at h
  | some (.file content) => simp [hcheck, hlast, hparent, hdir] at h
  | some (.dir entries) =>
  by_cases hslash : path.getLast? = some '/'
  · simp [hcheck, hlast, hparent, hdir, hslash] at h
  cases hfollow : fs.follow parent [last] with
  | error e => simp [hcheck, hlast, hparent, hdir, hslash, hfollow] at h
  | ok found =>
  simp only [hcheck, hlast, hparent, hdir, hslash, hfollow, if_false] at h
  have hway : fs.Way path parent last found :=
    ⟨hcheck, hslash, hlast, hparent, ⟨entries, hdir⟩, hfollow⟩
  match hfound : fs.at? found with
  | some (.dir entries) => simp [hfound] at h
  | some (.file content) =>
    obtain ⟨rfl, rfl⟩ : fs = files ∧ found = place := by simpa [hfound] using h
    exact ⟨parent, last, hway, .inl ⟨content, hfound, rfl⟩⟩
  | none =>
    obtain ⟨rfl, rfl⟩ : fs.put found (.file []) = files ∧ found = place := by
      simpa [hfound] using h
    exact ⟨parent, last, hway, .inr ⟨hfound, rfl⟩⟩

theorem Way.at?_put {new : Entry} (h : fs.Way path parent last place)
    (hnone : fs.at? place = none) : (fs.put place new).at? place = some new := by
  have hplace : ¬fs.IsDir place := not_isDir_of_at? hnone nofun
  obtain ⟨-, next, hnext, hrest⟩ := ok_of_follow_cons h.follow_last
  obtain rfl : next = place := Except.ok.inj hrest
  unfold enter at hnext
  split_ifs at hnext
  -- a part that names no entry of its own leads to a directory, where something is
  · obtain rfl : parent = next := Except.ok.inj hnext
    exact absurd h.isDir_parent hplace
  · obtain rfl : parent.dropLast = next := Except.ok.inj hnext
    exact absurd h.isDir_parent.dropLast hplace
  · obtain rfl : parent ++ [last] = next := Except.ok.inj hnext
    exact Entry.at?_put_of_isDir h.isDir_parent

/-- A path leads to a place if the file there is opened and read by that path, whatever else has
changed, for as long as the directories stay. -/
def LeadsTo (fs : Files) (path : Text) (place : Place) : Prop :=
  ∀ fs' content, fs.Keeps fs' → fs'.at? place = some (.file content) →
    fs'.openForAppend path = (fs', .ok place) ∧ fs'.read path = .ok content

theorem LeadsTo.of_keeps (h : fs.LeadsTo path place) (hkeeps : fs.Keeps fs') :
    fs'.LeadsTo path place :=
  fun fs'' content hkeeps' => h fs'' content (hkeeps.trans hkeeps')

theorem isDir_startOf (h : fs.IsDir fs.cwd) (path : Text) : fs.IsDir (fs.startOf path) := by
  rw [startOf]
  split_ifs
  · rw [IsDir] at h ⊢
    cases hroot : fs.root with
    | file content =>
      rw [hroot] at h
      exact absurd h (Entry.not_isDir_file content _)
    | dir entries => exact ⟨entries, rfl⟩
  · exact h

/-- The directories above the file of a path, made if there are any. -/
def makeAbove (fs : Files) (path : Text) : Files × Option FileError :=
  let parent := (Path.parent? path).getD []
  if parent = [] then (fs, none) else fs.makeDirs parent

theorem openForAppend_eq (fs : Files) (path : Text) :
    fs.openForAppend path =
      match (fs.makeAbove path).2 with
      | some e => ((fs.makeAbove path).1, .error e)
      | none =>
        match (fs.makeAbove path).1.openFile path with
        | .ok (fs, place) => (fs, .ok place)
        | .error e => ((fs.makeAbove path).1, .error e) := rfl

theorem keeps_makeAbove (fs : Files) (path : Text) : fs.Keeps (fs.makeAbove path).1 := by
  unfold makeAbove makeDirs
  dsimp only
  split_ifs
  · exact .refl fs
  · split
    · exact .refl fs
    · exact keeps_makeDirsFrom _ _ _ _

theorem at?_of_makeAbove {other : Place}
    (h : (fs.makeAbove path).1.at? other = some (.file content)) :
    fs.at? other = some (.file content) := by
  unfold makeAbove makeDirs at h
  dsimp only at h
  split_ifs at h
  · exact h
  · split at h
    · exact h
    · exact at?_of_makeDirsFrom h

theorem makeAbove_again (hcwd : fs.IsDir fs.cwd) (h : (fs.makeAbove path).2 = none)
    (hkeeps : (fs.makeAbove path).1.Keeps fs') : fs'.makeAbove path = (fs', none) := by
  have hcwd' : fs'.cwd = fs.cwd := hkeeps.cwd.trans (keeps_makeAbove fs path).cwd
  unfold makeAbove makeDirs at h hkeeps ⊢
  dsimp only at h hkeeps ⊢
  split_ifs at h hkeeps ⊢
  · rfl
  · split at h
    · simp at h
    · next hcheck =>
      rw [hcheck] at hkeeps
      have hstart : fs'.startOf ((Path.parent? path).getD []) =
          fs.startOf ((Path.parent? path).getD []) := by rw [startOf, startOf, hcwd']
      rw [hstart]
      exact makeDirsFrom_again (isDir_startOf hcwd _) h hkeeps

/-- **Opening a file** that can be opened gives its place. The file has what it had, or nothing if
it was not there, and its path leads to that place from then on. -/
theorem openForAppend_eq_ok {files : Files} (hcwd : fs.IsDir fs.cwd)
    (h : fs.openForAppend path = (files, .ok place)) :
    files.LeadsTo path place ∧
      ∃ content, files.at? place = some (.file content) ∧
        (fs.at? place = some (.file content) ∨ content = []) := by
  rw [openForAppend_eq] at h
  split at h
  · cases h
  next habove =>
  split at h
  next files' place' hopen =>
    obtain ⟨rfl, heq⟩ := Prod.mk.inj h
    obtain rfl : place' = place := Except.ok.inj heq
    obtain ⟨parent, last, hway, hfound⟩ := openFile_eq_ok hopen
    have hkeeps : (fs.makeAbove path).1.Keeps files' := by
      obtain ⟨_, _, rfl⟩ | ⟨hnone, rfl⟩ := hfound
      · exact .refl _
      · exact keeps_put (not_isDir_of_at? hnone nofun)
    refine ⟨?_, ?_⟩
    · intro fs' content hlater hfile
      have hway' : fs'.Way path parent last place' := hway.of_keeps (hkeeps.trans hlater)
      have habove' : fs'.makeAbove path = (fs', none) :=
        makeAbove_again hcwd habove (hkeeps.trans hlater)
      refine ⟨?_, hway'.read hfile⟩
      rw [openForAppend_eq, habove']
      dsimp only
      rw [hway'.openFile hfile]
    · obtain ⟨content, hfile, rfl⟩ | ⟨hnone, rfl⟩ := hfound
      · exact ⟨content, hfile, .inl (at?_of_makeAbove hfile)⟩
      · exact ⟨[], hway.at?_put hnone, .inr rfl⟩
  · cases h

theorem keeps_append (fs : Files) (place : Place) (bytes : Bytes) :
    fs.Keeps (fs.append place bytes) := by
  unfold append
  split
  · next content hfile => exact keeps_put (not_isDir_of_at? hfile nofun)
  · exact .refl fs

end Files

end OperatorShell
