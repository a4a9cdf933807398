import OrderedBuild.Proofs.FileTree
import OrderedBuild.Session
import OrderedBuild.Settings.Discovery

namespace OrderedBuild

namespace FileTree

variable {t t' : FileTree} {here here' : Location} {path : String}

/-- Two trees in which one path looks the same. -/
structure SameAt (t : FileTree) (here : Location) (t' : FileTree) (here' : Location)
    (path : String) : Prop where
  isFile_eq : t'.isFile here' path = t.isFile here path
  pathExists_eq : t'.pathExists here' path = t.pathExists here path
  read_eq : t'.read here' path = t.read here path

end FileTree

namespace Settings

variable {t t' : FileTree} {here here' : Location} {path sourceRoot sourceRoot' : String}
  {asked : Option String} {dirs dirs' : UserDirs} {read : Reader}

/-- What comes of a settings file, by what reading it gives. -/
inductive Yields (read : Reader) (path : String) :
    Except OsError ByteArray → Except SettingsError Settings → Prop
  | unreadable (e : OsError) : Yields read path (.error e) (.error (.readError path e.message))
  | notText {bytes : ByteArray} (h : String.fromUTF8? bytes = none) :
    Yields read path (.ok bytes) (.error (.readError path "stream did not contain valid UTF-8"))
  | malformed {bytes : ByteArray} {text e : String} (h : String.fromUTF8? bytes = some text)
    (hr : read text = .error e) : Yields read path (.ok bytes) (.error (.parseError path e))
  | settings {bytes : ByteArray} {text : String} {s : Settings}
    (h : String.fromUTF8? bytes = some text) (hr : read text = .ok s) :
    Yields read path (.ok bytes) (.ok s)

theorem yields_load (h : t.Shows here path) :
    Yields read path (t.read here path) (load t here path read) := by
  unfold load
  rw [FileTree.pathExists_iff.mpr h, Bool.not_true, if_neg Bool.false_ne_true]
  cases t.read here path with
  | error e => exact .unreadable e
  | ok bytes =>
    cases hb : String.fromUTF8? bytes with
    | none =>
      simp only [hb]
      exact .notText hb
    | some text =>
      simp only [hb]
      cases hr : read text with
      | error e => exact .malformed hb hr
      | ok s => exact .settings hb hr

theorem load_of_not_shows (h : ¬ t.Shows here path) : load t here path read = .ok {} := by
  unfold load
  rw [Bool.eq_false_iff.mpr (mt FileTree.pathExists_iff.mp h)]
  rfl

theorem load_congr (h : t.SameAt here t' here' path) :
    load t' here' path read = load t here path read := by
  unfold load
  rw [h.pathExists_eq, h.read_eq]

def projectFile (sourceRoot : String) : String :=
  Path.join sourceRoot projectFileName

/-- The paths that may be looked at, in order. -/
def places (sourceRoot : String) (asked : Option String) (dirs : UserDirs) : List String :=
  match asked with
  | some path => [path]
  | none => [projectFile sourceRoot, dirs.userConfig]

/-- The paths that are looked at: a file that is found ends the search. -/
def consulted (t : FileTree) (here : Location) (sourceRoot : String) (asked : Option String)
    (dirs : UserDirs) : List String :=
  match asked with
  | some path => [path]
  | none =>
    projectFile sourceRoot :: if t.isFile here (projectFile sourceRoot) then [] else [dirs.userConfig]

theorem discover_some (t : FileTree) (here : Location) (sourceRoot path : String)
    (dirs : UserDirs) (read : Reader) :
    discover t here sourceRoot (some path) dirs read =
      if t.isFile here path then load t here path read else .error (.notFound path) := by
  have hfile : decidingFile t here sourceRoot (some path) dirs =
    if t.isFile here path then .ok (.asked path) else .error (.notFound path) := rfl
  unfold discover
  rw [hfile]
  split
  · rfl
  · rfl

theorem discover_none (t : FileTree) (here : Location) (sourceRoot : String) (dirs : UserDirs)
    (read : Reader) :
    discover t here sourceRoot none dirs read =
      load t here (if t.isFile here (projectFile sourceRoot) then projectFile sourceRoot
        else dirs.userConfig) read := by
  have hfile : decidingFile t here sourceRoot none dirs =
    if t.isFile here (projectFile sourceRoot) then .ok (.project (projectFile sourceRoot))
      else .ok (.user dirs.userConfig) := rfl
  unfold discover
  rw [hfile]
  split
  · rfl
  · rfl

/-- The file that decides and what comes of it. Only a user's file may be missing. -/
inductive Decides (t : FileTree) (here : Location) (sourceRoot : String) (dirs : UserDirs)
    (read : Reader) : Option String → Except SettingsError Settings → Prop
  | notFound {path : String} (h : ¬ t.ShowsFile here path) :
    Decides t here sourceRoot dirs read (some path) (.error (.notFound path))
  | asked {path : String} {r : Except SettingsError Settings} (h : t.ShowsFile here path)
    (hr : Yields read path (t.read here path) r) :
    Decides t here sourceRoot dirs read (some path) r
  | project {r : Except SettingsError Settings} (h : t.ShowsFile here (projectFile sourceRoot))
    (hr : Yields read (projectFile sourceRoot) (t.read here (projectFile sourceRoot)) r) :
    Decides t here sourceRoot dirs read none r
  | user {r : Except SettingsError Settings} (h : ¬ t.ShowsFile here (projectFile sourceRoot))
    (hu : t.Shows here dirs.userConfig)
    (hr : Yields read dirs.userConfig (t.read here dirs.userConfig) r) :
    Decides t here sourceRoot dirs read none r
  | defaults (h : ¬ t.ShowsFile here (projectFile sourceRoot))
    (hu : ¬ t.Shows here dirs.userConfig) : Decides t here sourceRoot dirs read none (.ok {})

theorem decides_discover (t : FileTree) (here : Location) (sourceRoot : String)
    (asked : Option String) (dirs : UserDirs) (read : Reader) :
    Decides t here sourceRoot dirs read asked (discover t here sourceRoot asked dirs read) := by
  cases asked with
  | some path =>
    rw [discover_some]
    by_cases h : t.ShowsFile here path
    · rw [if_pos (FileTree.isFile_iff.mpr h)]
      exact .asked h (yields_load (FileTree.shows_of_showsFile h))
    · rw [if_neg (mt FileTree.isFile_iff.mp h)]
      exact .notFound h
  | none =>
    rw [discover_none]
    by_cases h : t.ShowsFile here (projectFile sourceRoot)
    · rw [if_pos (FileTree.isFile_iff.mpr h)]
      exact .project h (yields_load (FileTree.shows_of_showsFile h))
    · rw [if_neg (mt FileTree.isFile_iff.mp h)]
      by_cases hu : t.Shows here dirs.userConfig
      · exact .user h hu (yields_load hu)
      · rw [load_of_not_shows hu]
        exact .defaults h hu

theorem consulted_prefix_places (t : FileTree) (here : Location) (sourceRoot : String)
    (asked : Option String) (dirs : UserDirs) :
    consulted t here sourceRoot asked dirs <+: places sourceRoot asked dirs := by
  cases asked with
  | some path => exact List.prefix_rfl
  | none =>
    refine List.cons_prefix_cons.mpr ⟨rfl, ?_⟩
    split
    · exact List.nil_prefix
    · exact List.prefix_rfl

theorem discover_congr
    (hplaces : consulted t here sourceRoot asked dirs <+: places sourceRoot' asked dirs')
    (h : ∀ path ∈ consulted t here sourceRoot asked dirs, t.SameAt here t' here' path) :
    discover t' here' sourceRoot' asked dirs' read = discover t here sourceRoot asked dirs read := by
  cases asked with
  | some path =>
    have hsame : t.SameAt here t' here' path := h path List.mem_cons_self
    rw [discover_some, discover_some, hsame.isFile_eq, load_congr hsame]
  | none =>
    have hproject : t.SameAt here t' here' (projectFile sourceRoot) := h _ List.mem_cons_self
    obtain ⟨hroot, hrest⟩ := List.cons_prefix_cons.mp hplaces
    rw [discover_none, discover_none, ← hroot, hproject.isFile_eq]
    cases hf : t.isFile here (projectFile sourceRoot) with
    | true => exact load_congr hproject
    | false =>
      have huser : t.SameAt here t' here' dirs.userConfig := h _ (by simp [consulted, hf])
      rw [hf, if_neg Bool.false_ne_true, List.cons_prefix_cons] at hrest
      rw [if_neg Bool.false_ne_true, if_neg Bool.false_ne_true, ← hrest.1]
      exact load_congr huser

/-- One file decides: what comes of it is the result, and nothing makes a difference but what is
seen at the paths up to it. -/
theorem discover_goes_by_one_file (t : FileTree) (here : Location) (sourceRoot : String)
    (asked : Option String) (dirs : UserDirs) (read : Reader) :
    Decides t here sourceRoot dirs read asked (discover t here sourceRoot asked dirs read) ∧
    consulted t here sourceRoot asked dirs <+: places sourceRoot asked dirs ∧
    ∀ (t' : FileTree) (here' : Location) (sourceRoot' : String) (dirs' : UserDirs),
      consulted t here sourceRoot asked dirs <+: places sourceRoot' asked dirs' →
      (∀ path ∈ consulted t here sourceRoot asked dirs, t.SameAt here t' here' path) →
        discover t' here' sourceRoot' asked dirs' read =
          discover t here sourceRoot asked dirs read :=
  ⟨decides_discover t here sourceRoot asked dirs read,
    consulted_prefix_places t here sourceRoot asked dirs,
    fun _ _ _ _ => discover_congr⟩

theorem discover_of_refused {e e' : OsError} (hp : t.find here (projectFile sourceRoot) = .error e)
    (hu : t.find here dirs.userConfig = .error e') :
    discover t here sourceRoot none dirs read = .ok {} ∧
      ¬ Yields read (projectFile sourceRoot) (t.read here (projectFile sourceRoot)) (.ok {}) := by
  have hfile : t.isFile here (projectFile sourceRoot) = false := by simp [FileTree.isFile, hp]
  have huser : t.pathExists here dirs.userConfig = false := by
    rw [FileTree.pathExists, hu]
    rfl
  have hread : t.read here (projectFile sourceRoot) = .error e := by
    rw [FileTree.read, hp]
    rfl
  constructor
  · rw [discover_none, hfile, if_neg Bool.false_ne_true, load, huser]
    rfl
  · rw [hread]
    rintro ⟨⟩

def settingsNode : FileNode :=
  .file "[tools]\nbackend = \"project-scons\"\n".toUTF8 false

/-- A project file in a directory that may not be searched. -/
def closedProject : FileTree where
  nodes := [(["src"], .closed), (["src", projectFileName], settingsNode)]

def linkedProject : FileTree where
  nodes := [(["src"], .directory), (["src", "l"], .link "."),
    (["src", projectFileName], settingsNode)]

/-- The directory of the project by way of more links than are followed. -/
def linkedRoot : String :=
  "/".intercalate ("src" :: List.replicate 41 "l")

theorem projectFile_src : projectFile "src" ≠ "" ∧
    (projectFile "src").utf8ByteSize ≤ FileTree.longestPath ∧
    ¬ Path.isAbsolute (projectFile "src") ∧
    Text.splitOn '/' (projectFile "src") = ["src", projectFileName] := by
  decide +kernel

theorem projectFile_linkedRoot : projectFile linkedRoot ≠ "" ∧
    (projectFile linkedRoot).utf8ByteSize ≤ FileTree.longestPath ∧
    ¬ Path.isAbsolute (projectFile linkedRoot) ∧
    Text.splitOn '/' (projectFile linkedRoot) =
      "src" :: (List.replicate 41 "l" ++ [projectFileName]) := by
  decide +kernel

theorem leadsTo_closedProject :
    closedProject.LeadsTo [] (projectFile "src") settingsNode := by
  obtain ⟨hne, -, hrelative, hsplit⟩ := projectFile_src
  refine ⟨hne, ["src", projectFileName], ?_, rfl⟩
  rw [hsplit, if_neg hrelative]
  exact .enter rfl (by decide) rfl (by simp)
    (.enter rfl (by decide) rfl (by simp [settingsNode]) (.nil _))

theorem find_closedProject :
    closedProject.find [] (projectFile "src") = .error .permissionDenied := by
  obtain ⟨hne, hlength, hrelative, hsplit⟩ := projectFile_src
  refine FileTree.find_eq_error hne hlength ?_
  rw [hsplit, if_neg hrelative, FileTree.walk_enter rfl rfl (by decide) (by decide) rfl (by simp)]
  exact FileTree.walk_of_isClosedAt rfl (by decide) rfl

theorem leadsTo_linkedProject :
    linkedProject.LeadsTo [] (projectFile linkedRoot) settingsNode := by
  obtain ⟨hne, -, hrelative, hsplit⟩ := projectFile_linkedRoot
  refine ⟨hne, ["src", projectFileName], ?_, rfl⟩
  rw [hsplit, if_neg hrelative]
  refine .enter rfl (by decide) rfl (by simp) ?_
  exact FileTree.leads_replicate rfl (by decide) rfl
    (.enter rfl (by decide) rfl (by simp [settingsNode]) (.nil _)) 41

theorem find_linkedProject :
    linkedProject.find [] (projectFile linkedRoot) = .error .tooManyLinks := by
  obtain ⟨hne, hlength, hrelative, hsplit⟩ := projectFile_linkedRoot
  refine FileTree.find_eq_error hne hlength ?_
  rw [hsplit, if_neg hrelative, FileTree.walk_enter rfl rfl (by decide) (by decide) rfl (by simp)]
  exact FileTree.walk_replicate rfl rfl (by decide) (by decide) rfl (by decide)

theorem find_missing (t : FileTree) (h : t.node? ["user"] = none) :
    t.find [] (UserDirs.userConfig ⟨"user"⟩) = .error .notFound := by
  have hsplit : Text.splitOn '/' (UserDirs.userConfig ⟨"user"⟩) = ["user", "config.toml"] := by
    decide +kernel
  refine FileTree.find_eq_error (by decide +kernel) (by decide +kernel) ?_
  rw [hsplit, if_neg (by decide +kernel)]
  exact FileTree.walk_missing rfl rfl (by decide) (by decide) h (by simp)

/-- A project file that the system does not let see is passed over, though it is there and
cannot be read. -/
theorem discover_passes_over_hidden_file :
    (closedProject.LeadsTo [] (projectFile "src") settingsNode ∧
      discover closedProject [] "src" none ⟨"user"⟩ = .ok {} ∧
      ¬ Yields reader (projectFile "src") (closedProject.read [] (projectFile "src")) (.ok {})) ∧
    (linkedProject.LeadsTo [] (projectFile linkedRoot) settingsNode ∧
      discover linkedProject [] linkedRoot none ⟨"user"⟩ = .ok {} ∧
      ¬ Yields reader (projectFile linkedRoot) (linkedProject.read [] (projectFile linkedRoot))
        (.ok {})) :=
  ⟨⟨leadsTo_closedProject,
      discover_of_refused find_closedProject (find_missing closedProject rfl)⟩,
    leadsTo_linkedProject, discover_of_refused find_linkedProject (find_missing linkedProject rfl)⟩

end Settings

theorem Noting.result_mapError {α ε : Type} (r : Except ε α) (g : ε → Failure)
    (notes : List Message) :
    ((liftM (r.mapError g) : Noting α).run.run notes).1 = r.mapError g := by
  cases r with
  | error e => rfl
  | ok a => rfl

/-- A session has the settings that discovery finds, or fails as it does. -/
theorem Session.result_loadSettings (s : Surroundings) (sourceRoot : String)
    (asked : Option String) (notes : List Message) :
    ((loadSettings s sourceRoot asked).run.run notes).1 =
      (Settings.discover s.tree s.here sourceRoot asked s.dirs).mapError Failure.settings := by
  unfold loadSettings Settings.discover
  cases Settings.decidingFile s.tree s.here sourceRoot asked s.dirs with
  | error e => rfl
  | ok file =>
    cases file with
    | asked path | project path | user path => exact Noting.result_mapError _ _ _

end OrderedBuild
