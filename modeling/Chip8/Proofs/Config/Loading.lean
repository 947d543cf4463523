import Chip8.Config.Load
import Chip8.Proofs.Config.Default
import Chip8.Proofs.Files.Growth

/-!
Loading the configuration from a tree of files, and loading it again. Only the last of the four
places where it is looked for is ever written to, and only when no file is there. What was written
can then be met in an earlier place, if two of the paths lead to it, so the second search need not
go the way of the first; but whatever new file it meets has the text of the default configuration.
-/

namespace Chip8

namespace FileTree

/-! ### Calls on a tree -/

theorem run_isFile (path : String) (t : FileTree) :
    (FileSystem.isFile path : StateM FileTree _).run t = pure (t.isFile path, t) := rfl

theorem run_createDirs (path : String) (t : FileTree) :
    (FileSystem.createDirs path : StateM FileTree _).run t = pure (t.createDirs path) := rfl

theorem run_write (path : String) (bytes : ByteArray) (t : FileTree) :
    (FileSystem.write path bytes : StateM FileTree _).run t =
      pure (match t.write path bytes with
        | .ok t' => (.ok (), t')
        | .error fault => (.error fault, t)) := by
  show StateT.run (match t.write path bytes with | .ok _ => _ | .error _ => _) t = _
  cases t.write path bytes <;> rfl

theorem fromUTF8?_toUTF8 (s : String) : String.fromUTF8? s.toUTF8 = some s :=
  dif_pos s.isValidUTF8

/-- The bytes of a file as text. -/
def readText (t : FileTree) (path : String) : Except Fault String :=
  match t.read path with
  | .error fault => .error fault
  | .ok bytes =>
    match String.fromUTF8? bytes with
    | some text => .ok text
    | none => .error .notText

theorem run_readText (path : String) (t : FileTree) :
    (FileSystem.readText path : StateM FileTree _).run t = pure (t.readText path, t) := by
  unfold FileSystem.readText readText
  show StateT.run (match t.read path with | .error _ => _ | .ok _ => _) t = _
  rcases t.read path with fault | bytes
  · rfl
  · show StateT.run (match String.fromUTF8? bytes with | some _ => _ | none => _) t = _
    cases hbytes : String.fromUTF8? bytes <;> simp [hbytes]

end FileTree

namespace Config

open FileTree

variable {t t' : FileTree} {env : Environment} {base path : String} {found : Option String}

/-! ### Searching -/

/-- The path of the configuration file below the user's directory `base`. -/
def userPath (base : String) : String :=
  Path.join (Path.join base directoryName) fileName

/-- The paths that are tried before that one. -/
def candidates (env : Environment) : List String :=
  env.configPath.toList ++ [fileName]

/-- What becomes of the user's file: its path, if it can be had, and the tree with it. -/
def searchBelow (base : String) (t : FileTree) : Option String × FileTree :=
  if t.isFile (userPath base) then (some (userPath base), t)
  else match t.createDirs (Path.join base directoryName) with
    | (.error _, t') => (none, t')
    | (.ok (), t') =>
      match t'.write (userPath base) defaultText.toUTF8 with
      | .error _ => (none, t')
      | .ok t'' => (some (userPath base), t'')

section

variable {result : Except Fault Unit} (huser : t.isFile (userPath base) = false)
  (hdirs : t.createDirs (Path.join base directoryName) = (result, t'))

include huser hdirs

theorem searchBelow_of_noDirectory (hresult : result.isOk = false) :
    searchBelow base t = (none, t') := by
  rw [searchBelow, if_neg (Bool.eq_false_iff.1 huser), hdirs]
  cases result with
  | error fault => rfl
  | ok u => cases hresult

theorem searchBelow_of_directory (hresult : result.isOk = true) :
    searchBelow base t =
      match t'.write (userPath base) defaultText.toUTF8 with
      | .error _ => (none, t')
      | .ok t'' => (some (userPath base), t'') := by
  rw [searchBelow, if_neg (Bool.eq_false_iff.1 huser), hdirs]
  cases result with
  | error fault => cases hresult
  | ok u => rfl

end

/-- The search for the configuration file, without what is logged: these paths are tried, one after
the other, and then the user's directory. -/
def search (env : Environment) (t : FileTree) : List String → Option String × FileTree
  | path :: rest => if t.isFile path then (some path, t) else search env t rest
  | [] =>
    match env.userDirectory? with
    | none => (none, t)
    | some base => searchBelow base t

theorem run_userFile (base : String) (t : FileTree) :
    ((userFile base : StateM FileTree _).run t).map (·.1.toOption) id = searchBelow base t := by
  unfold userFile searchBelow userPath
  simp only [StateT.run_bind, run_isFile, pure_bind]
  split
  · rfl
  · simp only [StateT.run_bind, run_createDirs, pure_bind]
    rcases t.createDirs (Path.join base directoryName) with ⟨fault | u, t'⟩
    · rfl
    · simp only [StateT.run_bind, run_write, pure_bind]
      cases t'.write (Path.join (Path.join base directoryName) fileName) defaultText.toUTF8 <;> rfl

theorem run_locateForUser (env : Environment) (t : FileTree) :
    ((locateForUser env : StateM FileTree _).run t).map (·.1) id = search env t [] := by
  unfold locateForUser search
  cases env.userDirectory? with
  | none => rfl
  | some base =>
      show ((userFile base >>= _ : StateM FileTree _).run t).map _ _ = searchBelow base t
      rw [← run_userFile, StateT.run_bind]
      rcases (userFile base : StateM FileTree _).run t with ⟨⟨e | path, log⟩, t'⟩ <;> rfl

theorem run_locateDefault (env : Environment) (t : FileTree) :
    ((locateDefault env : StateM FileTree _).run t).map (·.1) id = search env t [fileName] := by
  rw [search, ← run_locateForUser]
  unfold locateDefault
  rw [StateT.run_bind, run_isFile, pure_bind]
  cases t.isFile fileName <;> rfl

theorem run_locate (env : Environment) (t : FileTree) :
    ((locate env none : StateM FileTree _).run t).map (·.1) id = search env t (candidates env) := by
  unfold locate candidates
  cases env.configPath with
  | none => exact run_locateDefault env t
  | some path =>
      show _ = search env t (path :: [fileName])
      rw [search, ← run_locateDefault]
      show ((_ >>= _ : StateM FileTree _).run t).map _ _ = _
      rw [StateT.run_bind, run_isFile, pure_bind]
      cases t.isFile path <;> rfl

theorem search_cases (env : Environment) (t : FileTree) (paths : List String) :
    (∃ path ∈ paths, t.isFile path = true ∧ search env t paths = (some path, t)) ∨
      (∀ path ∈ paths, t.isFile path = false) ∧ search env t paths = search env t [] := by
  induction paths with
  | nil => exact .inr ⟨List.forall_mem_nil _, rfl⟩
  | cons path rest ih =>
      rw [search]
      cases hfile : t.isFile path with
      | true => exact .inl ⟨path, List.mem_cons_self, hfile, rfl⟩
      | false =>
          rcases ih with ⟨other, hother, hthere, hsearch⟩ | ⟨hmissing, hsearch⟩
          · exact .inl ⟨other, List.mem_cons_of_mem _ hother, hthere, hsearch⟩
          · exact .inr ⟨List.forall_mem_cons.2 ⟨hfile, hmissing⟩, hsearch⟩

/-! ### Reading -/

/-- What is loaded from a tree, once the file is chosen. -/
def outcome (t : FileTree) : Option String → Except LoadError Config
  | none => .ok {}
  | some path =>
    match t.readText path with
    | .error fault => .error (.unreadable .config path fault)
    | .ok text => (parse text).mapError (.invalidConfig path)

theorem run_ofFile (path : String) (t : FileTree) :
    (ofFile path : StateM FileTree _).run t = pure (outcome t (some path), t) := by
  unfold ofFile
  rw [StateT.run_bind, run_readText, pure_bind, outcome]
  rcases t.readText path with fault | text
  · rfl
  · dsimp only
    cases parse text <;> rfl

theorem outcome_of_read {text : String} (h : t.read path = .ok text.toUTF8) :
    outcome t (some path) = (parse text).mapError (.invalidConfig path) := by
  simp only [outcome, readText, h, fromUTF8?_toUTF8]

theorem outcome_of_read_defaultText (h : t.read path = .ok defaultText.toUTF8) :
    outcome t (some path) = .ok {} := by
  rw [outcome_of_read h, parse_defaultText]
  rfl

theorem run_load (env : Environment) (explicit : Option String) (t : FileTree) :
    ((load env explicit : StateM FileTree _).run t).map (·.1) id =
      let located := ((locate env explicit : StateM FileTree _).run t).map (·.1) id
      (outcome located.2 located.1, located.2) := by
  unfold load
  rw [StateT.run_bind, parse_defaultText]
  rcases (locate env explicit : StateM FileTree _).run t with ⟨⟨_ | path, log⟩, t'⟩
  · rfl
  · show ((ofFile path >>= _ : StateM FileTree _).run t').map _ _ = _
    rw [StateT.run_bind, run_ofFile]
    rfl

theorem load_of_search (h : search env t (candidates env) = (found, t')) :
    ((load env none : StateM FileTree _).run t).1.1 = outcome t' found ∧
      ((load env none : StateM FileTree _).run t).2 = t' := by
  have hload := run_load env none t
  rw [run_locate, h] at hload
  exact Prod.ext_iff.1 hload

/-- Nothing is searched for if a path is given. -/
theorem load_explicit (env : Environment) (path : String) (t : FileTree) :
    ((load env (some path) : StateM FileTree _).run t).2 = t :=
  (Prod.ext_iff.1 (run_load env (some path) t)).2

/-! ### Loading again -/

/-- What the search finds, and how it leaves the tree. -/
inductive Searched (env : Environment) (t : FileTree) : Option String → FileTree → Prop
  | untouched (found : Option String) : Searched env t found t
  | refused {base : String} {t' : FileTree}
      (hmissing : ∀ path ∈ candidates env, t.isFile path = false)
      (hbase : env.userDirectory? = some base) (hnew : NewDirectories t t')
      (hrefused : searchBelow base t' = (none, t')) : Searched env t none t'
  | seeded {base : String} {t' : FileTree} {place : Place}
      (hmissing : ∀ path ∈ candidates env, t.isFile path = false)
      (hbase : env.userDirectory? = some base) (huser : t.isFile (userPath base) = false)
      (hplace : t'.resolve (userPath base) = .ok place)
      (hnew : NewFile t t' place defaultText.toUTF8) : Searched env t (some (userPath base)) t'

theorem Searched.grows (h : Searched env t found t') : Grows t t' := by
  cases h with
  | untouched => exact .refl t
  | refused _ _ hnew => exact hnew.toGrows
  | seeded _ _ _ _ hnew => exact hnew.toGrows

theorem up_not_mem_names_userPath (hbase : ".." ∉ Path.names base) :
    ".." ∉ Path.names (userPath base) :=
  Path.up_not_mem_names_join (Path.up_not_mem_names_join hbase (by decide)) (by decide)

theorem searched_searchBelow (hwf : t.WellFormed)
    (hmissing : ∀ path ∈ candidates env, t.isFile path = false)
    (hbase : env.userDirectory? = some base) (hup : ".." ∉ Path.names base) :
    Searched env t (searchBelow base t).1 (searchBelow base t).2 := by
  have hup := up_not_mem_names_userPath hup
  cases huser : t.isFile (userPath base) with
  | true =>
      rw [searchBelow, if_pos huser]
      exact .untouched _
  | false =>
      have hnew := createDirs_newDirectories t (Path.join base directoryName)
      rcases hdirs : t.createDirs (Path.join base directoryName) with ⟨result, t'⟩
      rw [hdirs] at hnew
      have huser' := (hnew.isFile_eq hwf hup).trans huser
      obtain ⟨result', hagain, hok⟩ := createDirs_again hdirs
      cases hresult : result.isOk with
      | false =>
          rw [searchBelow_of_noDirectory huser hdirs hresult]
          have hrefused := searchBelow_of_noDirectory huser' hagain (hok.trans hresult)
          exact .refused hmissing hbase hnew hrefused
      | true =>
          rw [searchBelow_of_directory huser hdirs hresult]
          have hsecond := searchBelow_of_directory huser' hagain (hok.trans hresult)
          cases hwrite : t'.write (userPath base) defaultText.toUTF8 with
          | error fault =>
              rw [hwrite] at hsecond
              exact .refused hmissing hbase hnew hsecond
          | ok t'' =>
              obtain ⟨place, hplace, hfile⟩ := newFile_of_write huser' hwrite
              exact .seeded hmissing hbase huser hplace (hnew.newFile hfile)

theorem searched_search (hwf : t.WellFormed) (env : Environment)
    (hup : ∀ base ∈ env.userDirectory?, ".." ∉ Path.names base) :
    Searched env t (search env t (candidates env)).1 (search env t (candidates env)).2 := by
  rcases search_cases env t (candidates env) with ⟨path, -, -, hsearch⟩ | ⟨hmissing, hsearch⟩
  · rw [hsearch]
    exact .untouched _
  · rw [hsearch, search]
    cases hbase : env.userDirectory? with
    | none => exact .untouched _
    | some base => exact searched_searchBelow hwf hmissing hbase (hup base hbase)

/-- The second search may find another file than the first, but nothing else comes of it. -/
theorem search_again (hwf : t.WellFormed)
    (hpaths : ∀ path ∈ candidates env, ".." ∉ Path.names path)
    (hsearch : search env t (candidates env) = (found, t')) (hsearched : Searched env t found t') :
    ∃ found', search env t' (candidates env) = (found', t') ∧
      outcome t' found' = outcome t' found := by
  cases hsearched with
  | untouched => exact ⟨found, hsearch, rfl⟩
  | refused hmissing hbase hnew hrefused =>
      rcases search_cases env t' (candidates env) with ⟨path, hmem, hfile, -⟩ | ⟨-, hsearch'⟩
      · rw [hnew.isFile_eq hwf (hpaths path hmem), hmissing path hmem] at hfile
        cases hfile
      · rw [hsearch', search, hbase]
        exact ⟨none, hrefused, rfl⟩
  | seeded hmissing hbase huser hplace hnew =>
      rcases search_cases env t' (candidates env) with ⟨path, hmem, hfile, hsearch'⟩ | ⟨-, hsearch'⟩
      · have hpath := hnew.resolve hwf (hpaths path hmem) (hmissing path hmem) hfile
        refine ⟨some path, hsearch', ?_⟩
        rw [outcome_of_read_defaultText (hnew.read hwf hpath),
          outcome_of_read_defaultText (hnew.read hwf hplace)]
      · rw [hsearch', search, hbase]
        exact ⟨_, if_pos (hnew.isFile hplace), rfl⟩

/-- No file is changed by loading the configuration, and one is made at most, the one of the user's
directory with the default text, when there was none in any of the places. Loading again has the
same result, and changes nothing at all. -/
theorem load_idempotent (t : FileTree) (env : Environment) (explicit : Option String)
    (hwf : t.WellFormed) (hpath : ∀ path ∈ env.configPath, ".." ∉ Path.names path)
    (hbase : ∀ base ∈ env.userDirectory?, ".." ∉ Path.names base) :
    let first := (load env explicit : StateM FileTree _).run t
    let again := (load env explicit : StateM FileTree _).run first.2
    (∀ place bytes, t.file? place = some bytes → first.2.file? place = some bytes) ∧
    ((∀ place, first.2.file? place = t.file? place) ∨
      explicit = none ∧ (∀ path ∈ env.configPath, t.isFile path = false) ∧
      t.isFile fileName = false ∧
      ∃ base ∈ env.userDirectory?, t.isFile (userPath base) = false ∧
        ∃ place, first.2.resolve (userPath base) = .ok place ∧
          NewFile t first.2 place defaultText.toUTF8) ∧
    again.1.1 = first.1.1 ∧ again.2 = first.2 := by
  intro first again
  cases explicit with
  | some path =>
      have htree : first.2 = t := load_explicit env path t
      have hagain : again = first := congrArg (load env (some path) : StateM FileTree _).run htree
      rw [hagain, htree]
      exact ⟨fun _ _ h => h, .inl fun _ => rfl, rfl, rfl⟩
  | none =>
      have hpaths : ∀ path ∈ candidates env, ".." ∉ Path.names path := by
        intro path hmem
        rcases List.mem_append.1 hmem with hconfig | hlocal
        · exact hpath path (Option.mem_toList.1 hconfig)
        · rw [List.mem_singleton.1 hlocal]
          decide
      rcases hsearch : search env t (candidates env) with ⟨found, t'⟩
      have hsearched := searched_search hwf env hbase
      rw [hsearch] at hsearched
      obtain ⟨found', hsearch', hsame⟩ := search_again hwf hpaths hsearch hsearched
      obtain ⟨hresult, htree⟩ := load_of_search hsearch
      obtain ⟨hresult', htree'⟩ := load_of_search hsearch'
      have hagain : again = (load env none : StateM FileTree _).run t' :=
        congrArg (load env none : StateM FileTree _).run htree
      rw [hagain, hresult', htree', hsame, hresult, htree]
      refine ⟨fun _ _ => hsearched.grows.file?, ?_, rfl, rfl⟩
      cases hsearched with
      | untouched => exact .inl fun _ => rfl
      | refused _ _ hnew => exact .inl hnew.file?_eq
      | seeded hmissing huserDirectory huser hplace hnew =>
          refine .inr ⟨rfl, fun path hconfig => ?_, ?_, _, huserDirectory, huser, _, hplace, hnew⟩
          · exact hmissing path (List.mem_append_left _ (Option.mem_toList.2 hconfig))
          · exact hmissing fileName (List.mem_append_right _ (List.mem_singleton_self _))

/-- The file that is made on an empty disk is the one that the environment variable names. -/
theorem load_idempotent_seeded :
    let env : Environment :=
      { configPath := some "chip-8-interp/./chip8.toml", configHome := some "/" }
    let first := (load env none : StateM FileTree _).run {}
    let again := (load env none : StateM FileTree _).run first.2
    (∀ path, ({} : FileTree).isFile path = false) ∧
      first.2.isFile "/chip-8-interp/chip8.toml" = true ∧
      first.2.isFile "chip-8-interp/./chip8.toml" = true ∧
      first.1.1 = .ok {} ∧ again.1.1 = .ok {} ∧ again.2 = first.2 := by
  intro env first again
  let t : FileTree := ({} : FileTree).put ["chip-8-interp"] .directory
  have ht (place : Place) : t.get? place =
      if place = ["chip-8-interp"] then some .directory
      else if place = [] then some .directory else none := by
    rw [get?_put (by decide), get?_empty]
  have hallow (access : Access) (place : Place) : t.refusal? access place = none := rfl
  have hshort : ¬ maxNameSize < "chip-8-interp".utf8ByteSize ∧
      ¬ maxNameSize < "chip8.toml".utf8ByteSize := by decide
  have hdirs : ({} : FileTree).createDirs "/chip-8-interp" = (.ok (), t) := by
    rw [createDirs, show pathFault? "/chip-8-interp" = none by decide]
    show makeDirs false {} [] ["chip-8-interp"] = _
    simp [makeDirs, get?_empty, hshort, t]
  have hplace : t.resolve "/chip-8-interp/chip8.toml" = .ok ["chip8.toml", "chip-8-interp"] := by
    rw [resolve, show pathFault? "/chip-8-interp/chip8.toml" = none by decide]
    show walk t [] ["chip-8-interp", "chip8.toml"] = _
    simp [walk, ht, hallow, hshort]
  have hplace' : t.resolve "chip-8-interp/./chip8.toml" = .ok ["chip8.toml", "chip-8-interp"] := by
    rw [resolve, show pathFault? "chip-8-interp/./chip8.toml" = none by decide]
    show walk t [] ["chip-8-interp", ".", "chip8.toml"] = _
    simp [walk, ht, hallow, hshort]
  have huser : t.isFile "/chip-8-interp/chip8.toml" = false := by
    simp [FileTree.isFile, hplace, ht]
  have hwrite : t.write "/chip-8-interp/chip8.toml" defaultText.toUTF8 =
      .ok (t.put ["chip8.toml", "chip-8-interp"] (.file defaultText.toUTF8)) := by
    simp [write, hplace, bind, Except.bind, ht, hallow]
  have hdirectory : Path.join "/" directoryName = "/chip-8-interp" := by decide
  have hpathname : userPath "/" = "/chip-8-interp/chip8.toml" := by decide
  have hsearch : search env {} (candidates env) =
      (some "/chip-8-interp/chip8.toml",
        t.put ["chip8.toml", "chip-8-interp"] (.file defaultText.toUTF8)) := by
    rcases search_cases env {} (candidates env) with ⟨path, -, hfile, -⟩ | ⟨-, hsearch⟩
    · cases (isFile_empty path).symm.trans hfile
    · rw [← hdirectory] at hdirs
      rw [hsearch]
      refine (searchBelow_of_directory (isFile_empty _) hdirs rfl).trans ?_
      rw [hpathname, hwrite]
  obtain ⟨place, hnewPlace, hfile⟩ := newFile_of_write huser hwrite
  have hdirectories := createDirs_newDirectories {} "/chip-8-interp"
  rw [hdirs] at hdirectories
  have hnew := hdirectories.newFile hfile
  have hnamed := resolve_of_grows hfile.toGrows hplace'
  rw [← resolve_of_grows hfile.toGrows hplace, hnewPlace] at hnamed
  obtain ⟨hresult, htree⟩ := load_of_search hsearch
  rw [outcome_of_read_defaultText (hnew.read wellFormed_empty hnewPlace)] at hresult
  have hpath : ∀ path ∈ env.configPath, ".." ∉ Path.names path := by decide
  have hbase : ∀ base ∈ env.userDirectory?, ".." ∉ Path.names base := by decide
  obtain ⟨-, -, hsame, hsettled⟩ := load_idempotent {} env none wellFormed_empty hpath hbase
  have hfound : first.2.isFile "/chip-8-interp/chip8.toml" = true ∧
      first.2.isFile "chip-8-interp/./chip8.toml" = true := by
    rw [htree]
    exact ⟨hnew.isFile hnewPlace, hnew.isFile hnamed⟩
  exact ⟨isFile_empty, hfound.1, hfound.2, hresult, hsame.trans hresult, hsettled⟩

end Config

end Chip8
