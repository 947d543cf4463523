import Chip8.Files.Tree
import Chip8.Proofs.Text.Fields

/-!
Trees of files that grow. Making directories and writing a file that is not there both leave every
entry where it was (`Grows`), and a path that led somewhere still leads there. The converse is what
needs care. In the larger tree a path can lead where it could not lead before; but if none of its
names steps up, it meets no old file that it did not meet before, since everything above such a
file was a directory already (`resolve_of_old`).
-/

namespace Chip8

namespace Path

theorem up_mem_names_iff {path : String} :
    ".." ∈ names path ↔ ['.', '.'] ∈ Text.fields '/' path.toList := by
  have hup (pieces : List (List Char)) : ".." ∈ pieces.map String.ofList ↔ ['.', '.'] ∈ pieces := by
    rw [List.mem_map]
    constructor
    · rintro ⟨piece, hpiece, heq⟩
      have hsame : piece = ['.', '.'] := by
        rw [← String.toList_ofList (l := piece), heq]
        rfl
      exact hsame ▸ hpiece
    · exact fun h => ⟨_, h, rfl⟩
  rw [names, hup]
  split_ifs <;> simp

/-- A path below another steps up only if one of its two parts does. -/
theorem up_not_mem_names_join {base name : String} (hbase : ".." ∉ names base)
    (hname : ".." ∉ names name) : ".." ∉ names (join base name) := by
  rw [up_mem_names_iff] at *
  unfold join
  split_ifs with hslash
  · rw [String.toList_append]
    rcases Bool.or_eq_true_iff.1 hslash with hempty | hlast
    · rwa [String.isEmpty_iff.1 hempty]
    · obtain ⟨front, hfront⟩ := List.getLast?_eq_some_iff.1 (eq_of_beq hlast)
      rw [hfront, Text.fields_append_mark, List.mem_append] at hbase
      rw [hfront, List.append_assoc]
      show _ ∉ Text.fields '/' (front ++ '/' :: name.toList)
      rw [Text.fields_append_mark, List.mem_append]
      exact not_or.2 ⟨fun h => hbase (.inl h), hname⟩
  · rw [String.toList_append, String.toList_append, List.append_assoc]
    show _ ∉ Text.fields '/' (base.toList ++ '/' :: name.toList)
    rw [Text.fields_append_mark, List.mem_append]
    exact not_or.2 ⟨hbase, hname⟩

end Path

namespace FileTree

variable {t t' t'' : FileTree} {here place : Place} {path : String} {names : List String}
  {entry : Entry} {bytes : ByteArray}

/-- The bytes of the file at a place. -/
def file? (t : FileTree) (place : Place) : Option ByteArray :=
  match t.get? place with
  | some (.file bytes) => some bytes
  | _ => none

theorem file?_eq_some_iff : t.file? place = some bytes ↔ t.get? place = some (.file bytes) := by
  unfold file?
  split <;> simp_all

theorem file?_eq_none_of_get? (h : t.get? place = none) : t.file? place = none := by
  rw [file?, h]

/-- A tree as systems keep it: every entry lies in a directory, and whoever makes a file can read
it. -/
structure WellFormed (t : FileTree) : Prop where
  parent : ∀ name place, (t.get? (name :: place)).isSome → t.get? place = some .directory
  readable : ∀ place, t.get? place = none → t.refusal? .read place = none

theorem get?_empty (place : Place) :
    ({} : FileTree).get? place = if place = [] then some .directory else none := by
  simp [get?]

theorem wellFormed_empty : WellFormed {} where
  parent name place h := by
    rw [get?_empty, if_neg (List.cons_ne_nil _ _)] at h
    cases h
  readable _ _ := rfl

/-- Nothing of `t` is lost in `t'`, and the same is permitted. -/
structure Grows (t t' : FileTree) : Prop where
  cwd : t'.cwd = t.cwd
  refusal : t'.refusal? = t.refusal?
  kept : ∀ place entry, t.get? place = some entry → t'.get? place = some entry

namespace Grows

theorem refl (t : FileTree) : Grows t t := ⟨rfl, rfl, fun _ _ h => h⟩

theorem trans (h : Grows t t') (h' : Grows t' t'') : Grows t t'' :=
  ⟨h'.cwd.trans h.cwd, h'.refusal.trans h.refusal, fun p e hp => h'.kept p e (h.kept p e hp)⟩

theorem get?_eq_none (h : Grows t t') (hnone : t'.get? place = none) : t.get? place = none := by
  cases hget : t.get? place with
  | none => rfl
  | some entry => cases (h.kept place entry hget).symm.trans hnone

theorem file? (h : Grows t t') (hfile : t.file? place = some bytes) :
    t'.file? place = some bytes :=
  file?_eq_some_iff.2 (h.kept _ _ (file?_eq_some_iff.1 hfile))

theorem origin (h : Grows t t') (path : String) : t'.origin path = t.origin path := by
  rw [FileTree.origin, FileTree.origin, h.cwd]

end Grows

/-! ### New entries -/

theorem ne_nil_of_get?_eq_none (h : t.get? place = none) : place ≠ [] := by
  rintro rfl
  cases h

theorem get?_put (hplace : place ≠ []) (p : Place) :
    (t.put place entry).get? p = if p = place then some entry else t.get? p := by
  by_cases hp : p = place
  · subst hp
    simp [FileTree.get?, put, hplace]
  · have hne : (place == p) = false := by simpa using fun heq => hp heq.symm
    simp [FileTree.get?, put, hp, hne, Std.HashMap.getElem?_insert]

theorem grows_put (hnone : t.get? place = none) (entry : Entry) : Grows t (t.put place entry) := by
  refine ⟨rfl, rfl, fun p e hp => ?_⟩
  rw [get?_put (ne_nil_of_get?_eq_none hnone), if_neg, hp]
  rintro rfl
  cases hnone.symm.trans hp

theorem file?_put_file (hplace : place ≠ []) (p : Place) :
    (t.put place (.file bytes)).file? p = if p = place then some bytes else t.file? p := by
  rw [FileTree.file?, get?_put hplace]
  split_ifs
  · rfl
  · rfl

theorem file?_put_directory (hnone : t.get? place = none) (p : Place) :
    (t.put place .directory).file? p = t.file? p := by
  rw [FileTree.file?, get?_put (ne_nil_of_get?_eq_none hnone)]
  split_ifs with hp
  · rw [hp, file?_eq_none_of_get? hnone]
  · rfl

/-! ### Where paths lead -/

/-- Names that never step up lead below the place where they begin. -/
theorem suffix_of_walk (hup : ".." ∉ names) (h : t.walk here names = .ok place) :
    here <:+ place := by
  fun_induction walk t here names with
  | case1 here =>
      cases h
      exact List.suffix_refl _
  | case5 here rest hget hsearch ih => exact ih (fun hmem => hup (List.mem_cons_of_mem _ hmem)) h
  | case6 here rest hget hsearch hdot ih => exact absurd List.mem_cons_self hup
  | case8 here name rest hget hsearch hdot hne hshort ih =>
      have hbelow := ih (fun hmem => hup (List.mem_cons_of_mem _ hmem)) h
      exact (List.suffix_cons name here).trans hbelow
  | _ => cases h

theorem WellFormed.directory_of_suffix (hwf : t.WellFormed) (hbelow : here <:+ place)
    (hne : here ≠ place) (hsome : (t.get? place).isSome) : t.get? here = some .directory := by
  induction place with
  | nil => exact absurd (List.suffix_nil.1 hbelow) hne
  | cons name rest ih =>
      have hparent := hwf.parent name rest hsome
      rcases List.suffix_cons_iff.1 hbelow with heq | hrest
      · exact absurd heq hne
      · by_cases heq : here = rest
        · exact heq ▸ hparent
        · exact ih hrest heq (by rw [hparent]; rfl)

/-- A path still leads where it led. -/
theorem walk_of_grows (hgrows : Grows t t') (h : t.walk here names = .ok place) :
    t'.walk here names = .ok place := by
  fun_induction walk t here names with
  | case1 here => exact h
  | case5 here rest hget hsearch ih =>
      simp [walk, hgrows.kept _ _ hget, hgrows.refusal, hsearch, ih h]
  | case6 here rest hget hsearch hdot ih =>
      simp [walk, hgrows.kept _ _ hget, hgrows.refusal, hsearch, ih h]
  | case8 here name rest hget hsearch hdot hup hshort ih =>
      simp [walk, hgrows.kept _ _ hget, hgrows.refusal, hsearch, hdot, hup, hshort, ih h]
  | _ => cases h

/-- A path that leads to an old file led there before. -/
theorem walk_of_old (hwf : t.WellFormed) (hgrows : Grows t t') (hup : ".." ∉ names)
    (h : t'.walk here names = .ok place) (hold : t.file? place = some bytes) :
    t.walk here names = .ok place := by
  have hget := file?_eq_some_iff.1 hold
  -- Every place on the way is a directory of the larger tree, so it is not the file.
  have hdirectory {here : Place} (hbelow : here <:+ place)
      (hthere : t'.get? here = some .directory) : t.get? here = some .directory := by
    refine hwf.directory_of_suffix hbelow ?_ (by rw [hget]; rfl)
    rintro rfl
    cases (hgrows.kept _ _ hget).symm.trans hthere
  fun_induction walk t' here names with
  | case1 here => exact h
  | case5 here rest hthere hsearch ih =>
      have hup' : ".." ∉ rest := fun hmem => hup (List.mem_cons_of_mem _ hmem)
      have hhere := hdirectory (suffix_of_walk hup' h) hthere
      simp [walk, hhere, ← hgrows.refusal, hsearch, ih hup' h]
  | case6 here rest hthere hsearch hdot ih => exact absurd List.mem_cons_self hup
  | case8 here name rest hthere hsearch hdot hne hshort ih =>
      have hup' : ".." ∉ rest := fun hmem => hup (List.mem_cons_of_mem _ hmem)
      have hbelow := (List.suffix_cons name here).trans (suffix_of_walk hup' h)
      have hhere := hdirectory hbelow hthere
      simp [walk, hhere, ← hgrows.refusal, hsearch, hdot, hne, hshort, ih hup' h]
  | _ => cases h

theorem resolve_of_grows (hgrows : Grows t t') (h : t.resolve path = .ok place) :
    t'.resolve path = .ok place := by
  unfold resolve at h ⊢
  split at h
  · cases h
  · split_ifs at h ⊢
    rw [hgrows.origin]
    exact walk_of_grows hgrows h

theorem resolve_of_old (hwf : t.WellFormed) (hgrows : Grows t t') (hup : ".." ∉ Path.names path)
    (h : t'.resolve path = .ok place) (hold : t.file? place = some bytes) :
    t.resolve path = .ok place := by
  unfold resolve at h ⊢
  split at h
  · cases h
  · split_ifs at h ⊢
    rw [hgrows.origin] at h
    exact walk_of_old hwf hgrows hup h hold

theorem isFile_iff : t.isFile path = true ↔
    ∃ place bytes, t.resolve path = .ok place ∧ t.file? place = some bytes := by
  unfold isFile file?
  cases t.resolve path with
  | error fault => simp
  | ok place =>
      simp only [Except.ok.injEq]
      split <;> simp_all

theorem isFile_empty (path : String) : ({} : FileTree).isFile path = false := by
  refine Bool.eq_false_iff.2 fun hfile => ?_
  obtain ⟨place, bytes, -, hbytes⟩ := isFile_iff.1 hfile
  rw [file?_eq_some_iff, get?_empty] at hbytes
  split_ifs at hbytes
  cases hbytes

theorem read_of_file? (h : t.resolve path = .ok place) (hfile : t.file? place = some bytes)
    (hread : t.refusal? .read place = none) : t.read path = .ok bytes := by
  simp [read, h, bind, Except.bind, file?_eq_some_iff.1 hfile, hread]

theorem isFile_of_grows (hgrows : Grows t t') (h : t.isFile path = true) :
    t'.isFile path = true := by
  obtain ⟨place, bytes, hplace, hfile⟩ := isFile_iff.1 h
  exact isFile_iff.2 ⟨place, bytes, resolve_of_grows hgrows hplace, hgrows.file? hfile⟩

/-! ### Making directories -/

/-- Whatever is new in `t'` is a directory. -/
structure NewDirectories (t t' : FileTree) : Prop extends Grows t t' where
  file?_eq : ∀ place, t'.file? place = t.file? place

theorem makeDirs_newDirectories (made : Bool) (t : FileTree) (here : Place) (names : List String) :
    NewDirectories t (makeDirs made t here names).2 := by
  fun_induction makeDirs made t here names with
  | case9 made t here name rest hsearch hdot hup hshort hnone hchange ih =>
      refine ⟨(grows_put hnone _).trans ih.toGrows, fun place => ?_⟩
      rw [ih.file?_eq, file?_put_directory hnone]
  | case3 | case4 | case6 => assumption
  | _ => exact ⟨.refl _, fun place => rfl⟩

theorem createDirs_newDirectories (t : FileTree) (path : String) :
    NewDirectories t (t.createDirs path).2 := by
  unfold createDirs
  split
  · exact ⟨.refl _, fun _ => rfl⟩
  · exact makeDirs_newDirectories _ _ _ _

/-- Making them again changes nothing, and it succeeds if it did before. -/
theorem makeDirs_again (made again : Bool) (t : FileTree) (here : Place) (names : List String) :
    (makeDirs again (makeDirs made t here names).2 here names).2 = (makeDirs made t here names).2 ∧
      (makeDirs again (makeDirs made t here names).2 here names).1.isOk =
        (makeDirs made t here names).1.isOk := by
  have hgrows := (makeDirs_newDirectories made t here names).toGrows
  fun_induction makeDirs made t here names with
  | case1 => exact ⟨rfl, rfl⟩
  | case2 made t here name rest fault hsearch =>
      simp [makeDirs, hsearch, Except.isOk, Except.toBool]
  | case3 made t here rest hsearch ih =>
      simpa [makeDirs, hgrows.refusal, hsearch] using ih hgrows
  | case4 made t here rest hsearch hdot ih =>
      simpa [makeDirs, hgrows.refusal, hsearch] using ih hgrows
  | case5 made t here name rest hsearch hdot hup hlong =>
      simp [makeDirs, hsearch, hdot, hup, hlong, Except.isOk, Except.toBool]
  | case6 made t here name rest hsearch hdot hup hshort hget ih =>
      simpa [makeDirs, hgrows.refusal, hsearch, hdot, hup, hshort, hgrows.kept _ _ hget]
        using ih hgrows
  | case7 made t here name rest hsearch hdot hup hshort bytes hget =>
      simp [makeDirs, hsearch, hdot, hup, hshort, hget, Except.isOk, Except.toBool]
  | case8 made t here name rest hsearch hdot hup hshort hnone fault hchange =>
      simp [makeDirs, hsearch, hdot, hup, hshort, hnone, hchange, Except.isOk, Except.toBool]
  | case9 made t here name rest hsearch hdot hup hshort hnone hchange ih =>
      have hmade := makeDirs_newDirectories true (t.put (name :: here) .directory)
        (name :: here) rest
      have hthere := hmade.kept (name :: here) .directory
        (by rw [get?_put (List.cons_ne_nil _ _), if_pos rfl])
      simpa [makeDirs, hgrows.refusal, hsearch, hdot, hup, hshort, hthere] using ih hmade.toGrows

theorem createDirs_again {result : Except Fault Unit} (h : t.createDirs path = (result, t')) :
    ∃ result', t'.createDirs path = (result', t') ∧ result'.isOk = result.isOk := by
  have hgrows := (createDirs_newDirectories t path).toGrows
  rw [h] at hgrows
  unfold createDirs at h ⊢
  cases hfault : pathFault? path with
  | some fault =>
      rw [hfault] at h
      cases h
      exact ⟨_, rfl, rfl⟩
  | none =>
      rw [hfault] at h
      obtain ⟨hsame, hok⟩ := makeDirs_again false false t (t.origin path) (Path.names path)
      dsimp only at h ⊢
      rw [h] at hsame hok
      rw [hgrows.origin]
      exact ⟨_, Prod.ext rfl hsame, hok⟩

/-- No path leads to a file that it did not lead to before. -/
theorem NewDirectories.isFile_eq (h : NewDirectories t t') (hwf : t.WellFormed)
    (hup : ".." ∉ Path.names path) : t'.isFile path = t.isFile path := by
  refine Bool.eq_iff_iff.2 ⟨fun hfound => ?_, isFile_of_grows h.toGrows⟩
  obtain ⟨place, bytes, hplace, hfile⟩ := isFile_iff.1 hfound
  rw [h.file?_eq] at hfile
  exact isFile_iff.2 ⟨place, bytes, resolve_of_old hwf h.toGrows hup hplace hfile, hfile⟩

/-! ### Making a file -/

/-- One file is new in `t'`, besides directories. -/
structure NewFile (t t' : FileTree) (place : Place) (bytes : ByteArray) : Prop
    extends Grows t t' where
  missing : t.get? place = none
  file?_eq : ∀ p, t'.file? p = if p = place then some bytes else t.file? p

theorem NewDirectories.newFile (h : NewDirectories t t') (hfile : NewFile t' t'' place bytes) :
    NewFile t t'' place bytes where
  toGrows := h.toGrows.trans hfile.toGrows
  missing := h.get?_eq_none hfile.missing
  file?_eq p := by rw [hfile.file?_eq, h.file?_eq]

theorem newFile_of_write (hmissing : t.isFile path = false) (h : t.write path bytes = .ok t') :
    ∃ place, t'.resolve path = .ok place ∧ NewFile t t' place bytes := by
  unfold write at h
  cases hplace : t.resolve path with
  | error fault =>
      rw [hplace] at h
      cases h
  | ok place =>
      rw [hplace] at h
      simp only [bind, Except.bind] at h
      split at h
      · cases h
      · next hdirectory =>
          have hnone : t.get? place = none := by
            rcases hget : t.get? place with _ | _ | old
            · rfl
            · exact absurd hget hdirectory
            · have hold := isFile_iff.2 ⟨place, old, hplace, file?_eq_some_iff.2 hget⟩
              cases hmissing.symm.trans hold
          have hgrows := grows_put hnone (.file bytes)
          split at h
          · cases h
          · cases h
            exact ⟨place, resolve_of_grows hgrows hplace, hgrows, hnone,
              file?_put_file (ne_nil_of_get?_eq_none hnone)⟩

namespace NewFile

theorem file? (h : NewFile t t' place bytes) : t'.file? place = some bytes := by
  rw [h.file?_eq, if_pos rfl]

theorem isFile (h : NewFile t t' place bytes) (hplace : t'.resolve path = .ok place) :
    t'.isFile path = true :=
  isFile_iff.2 ⟨place, bytes, hplace, h.file?⟩

theorem read (h : NewFile t t' place bytes) (hwf : t.WellFormed)
    (hplace : t'.resolve path = .ok place) : t'.read path = .ok bytes := by
  refine read_of_file? hplace h.file? ?_
  rw [h.refusal]
  exact hwf.readable place h.missing

/-- Whoever finds a file now and found none before finds the new one. -/
theorem resolve (h : NewFile t t' place bytes) (hwf : t.WellFormed)
    (hup : ".." ∉ Path.names path) (hmissing : t.isFile path = false)
    (hfound : t'.isFile path = true) : t'.resolve path = .ok place := by
  obtain ⟨p, found, hp, hfile⟩ := isFile_iff.1 hfound
  have hnew := h.file?_eq p
  split_ifs at hnew with heq
  · rw [hp, heq]
  · have hold := hnew.symm.trans hfile
    have hp' := resolve_of_old hwf h.toGrows hup hp hold
    cases hmissing.symm.trans (isFile_iff.2 ⟨p, found, hp', hold⟩)

end NewFile

end FileTree

end Chip8
