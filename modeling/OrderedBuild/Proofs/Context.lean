import OrderedBuild.Context
import OrderedBuild.Proofs.Text.Splitting

namespace OrderedBuild

namespace Env

variable {env : Env} {name other value : String}

theorem get?_unset_of_ne (h : other ≠ name) : (env.unset name).get? other = env.get? other := by
  unfold unset get?
  induction env with
  | nil => rfl
  | cons v env ih =>
    obtain ⟨n, x⟩ := v
    by_cases hn : n = name
    · subst n
      rw [List.filter_cons_of_neg (by simp), List.lookup_cons, beq_eq_false_iff_ne.mpr h, ih]
    · rw [List.filter_cons_of_pos (by simpa using hn), List.lookup_cons, List.lookup_cons, ih]

theorem get?_unset_self (env : Env) (name : String) : (env.unset name).get? name = none := by
  unfold unset get?
  rw [List.lookup_eq_none_iff]
  intro v hv
  have hne : v.1 ≠ name := by simpa using (List.mem_filter.mp hv).2
  simpa using hne.symm

theorem get?_set_self (env : Env) (name value : String) :
    (env.set name value).get? name = some value := by
  have hnone := get?_unset_self env name
  unfold get? at hnone
  simp [set, get?, List.lookup_append, hnone]

theorem get?_set_of_ne (h : other ≠ name) : (env.set name value).get? other = env.get? other := by
  have hkeep : (env.unset name).lookup other = env.lookup other := get?_unset_of_ne h
  simp [set, get?, List.lookup_append, hkeep, List.lookup_cons, beq_eq_false_iff_ne.mpr h]

theorem names_set (env : Env) (name value : String) :
    (env.set name value).map Prod.fst = (env.map Prod.fst).filter (· ≠ name) ++ [name] := by
  simp [set, unset, List.filter_map, Function.comp_def]

theorem mem_names_set_iff :
    other ∈ (env.set name value).map Prod.fst ↔ other ∈ env.map Prod.fst ∨ other = name := by
  rw [names_set, List.mem_append, List.mem_filter, List.mem_singleton]
  by_cases h : other = name
  · simp [h]
  · simp [h]

theorem nodup_names_set (h : (env.map Prod.fst).Nodup) :
    ((env.set name value).map Prod.fst).Nodup := by
  rw [names_set]
  exact List.nodup_append.mpr ⟨h.filter _, List.pairwise_singleton _ name, by simp⟩

end Env

namespace Path

theorem mem_join_iff {a b : String} {c : Char} (hb : isAbsolute b = false) (hc : c ≠ '/') :
    c ∈ (join a b).toList ↔ c ∈ a.toList ∨ c ∈ b.toList := by
  unfold join
  rw [hb, if_neg Bool.false_ne_true]
  split
  · rw [String.toList_append, List.mem_append]
  · simp [String.toList_append, hc]

end Path

namespace SearchPath

variable {entry directory value : String} {entries : List String} {existing : Option String}

/-- The directories on a path that may be absent; an empty path has none. -/
def inherited : Option String → List String
  | none => []
  | some s => if s = "" then [] else split s

theorem prepend?_eq (entry : String) (existing : Option String) :
    prepend? entry existing = join? (entry :: inherited existing) := by
  unfold prepend?
  split
  · rfl
  · rfl
  next s hs => rw [inherited, if_neg hs]

theorem notMem_of_mem_inherited {e : String} (h : e ∈ inherited existing) : ':' ∉ e.toList := by
  cases existing with
  | none => cases h
  | some s =>
    by_cases hs : s = ""
    · simp [inherited, hs] at h
    · rw [inherited, if_neg hs] at h
      exact Text.notMem_of_mem_splitOn h

theorem join?_eq_none_iff : join? entries = none ↔ ∃ e ∈ entries, ':' ∈ e.toList := by
  unfold join?
  split
  next h => simpa using h
  next h => simpa using h

theorem split_of_join?_eq_some (hne : entries ≠ []) (h : join? entries = some value) :
    split value = entries := by
  unfold join? at h
  split at h
  · cases h
  next hany =>
    obtain rfl := Option.some.inj h
    exact Text.splitOn_intercalate hne (by simpa using hany)

/-- A search path with a directory in front of what was inherited. -/
structure Extends (directory : String) (existing : Option String) (value : String) : Prop where
  split_eq : split value = directory :: inherited existing
  eq_append : ∀ s, existing = some s → s ≠ "" → value = directory ++ ":" ++ s

theorem extends_of_split_eq (h : split value = directory :: inherited existing) :
    Extends directory existing value := by
  refine ⟨h, ?_⟩
  rintro s rfl hs
  rw [inherited, if_neg hs] at h
  have hne : split s ≠ [] := by
    simp [split, Text.splitOn, Text.splitChars_eq_splitOn, List.splitOn_ne_nil]
  have hjoin : ":".intercalate (split s) = s := Text.intercalate_splitOn ':' s
  calc value = ":".intercalate (split value) := (Text.intercalate_splitOn ':' value).symm
    _ = directory ++ ":" ++ ":".intercalate (split s) := by
      rw [h, String.intercalate_cons_of_ne_nil hne]
    _ = directory ++ ":" ++ s := by rw [hjoin]

/-- What was inherited has been split at colons, so only the new directory can hold one. -/
theorem prepend?_eq_none_iff : prepend? directory existing = none ↔ ':' ∈ directory.toList := by
  rw [prepend?_eq, join?_eq_none_iff]
  constructor
  · rintro ⟨e, he, hcolon⟩
    rcases List.mem_cons.mp he with rfl | he
    · exact hcolon
    · exact absurd hcolon (notMem_of_mem_inherited he)
  · exact fun h => ⟨directory, List.mem_cons_self, h⟩

theorem extends_of_prepend?_eq_some (h : prepend? directory existing = some value) :
    Extends directory existing value := by
  rw [prepend?_eq] at h
  exact extends_of_split_eq (split_of_join?_eq_some (List.cons_ne_nil _ _) h)

theorem exists_prepend?_eq_some (h : ':' ∉ directory.toList) (existing : Option String) :
    ∃ value, prepend? directory existing = some value ∧ Extends directory existing value := by
  cases hp : prepend? directory existing with
  | none => exact absurd (prepend?_eq_none_iff.mp hp) h
  | some value => exact ⟨value, rfl, extends_of_prepend?_eq_some hp⟩

end SearchPath

namespace ExecutionContext

variable {installPrefix : String}

/-- The variables for tests: nothing but the two search paths and the data variable, which wins
over a search path of its name. -/
structure IsTestEnv (c : ExecutionContext) (installPrefix testDir dataVariable : String)
    (env : Env) : Prop where
  nodup : (env.map Prod.fst).Nodup
  mem_iff : ∀ name, name ∈ env.map Prod.fst ↔
    name = libraryVariable ∨ name = pathVariable ∨ name = dataVariable
  data_eq : env.get? dataVariable = some testDir
  library : dataVariable ≠ libraryVariable → ∃ value, env.get? libraryVariable = some value ∧
    SearchPath.Extends (Path.join installPrefix "lib") c.libraryPath value
  path : dataVariable ≠ pathVariable → ∃ value, env.get? pathVariable = some value ∧
    SearchPath.Extends (Path.join installPrefix "bin") c.path value

theorem testEnv_of_mem (c : ExecutionContext) (testDir dataVariable : String)
    (h : ':' ∈ installPrefix.toList) :
    c.testEnv installPrefix testDir dataVariable = .error (searchPathError libraryVariable) := by
  have hlib : ':' ∈ (Path.join installPrefix "lib").toList :=
    (Path.mem_join_iff (by decide) (by decide)).mpr (.inl h)
  have hnone : SearchPath.prepend? (Path.join installPrefix "lib") c.libraryPath = none :=
    SearchPath.prepend?_eq_none_iff.mpr hlib
  simp [testEnv, prepend, hnone, bind, Except.bind]

theorem exists_testEnv_eq_ok (c : ExecutionContext) (testDir dataVariable : String)
    (h : ':' ∉ installPrefix.toList) :
    ∃ env, c.testEnv installPrefix testDir dataVariable = .ok env ∧
      c.IsTestEnv installPrefix testDir dataVariable env := by
  have hdir {name : String} (hname : Path.isAbsolute name = false) (hcolon : ':' ∉ name.toList) :
      ':' ∉ (Path.join installPrefix name).toList := by
    rw [Path.mem_join_iff hname (by decide)]
    exact fun hmem => hmem.elim h hcolon
  have hlib : ':' ∉ (Path.join installPrefix "lib").toList := hdir (by decide) (by decide)
  have hbin : ':' ∉ (Path.join installPrefix "bin").toList := hdir (by decide) (by decide)
  obtain ⟨library, hl, hlibrary⟩ := SearchPath.exists_prepend?_eq_some hlib c.libraryPath
  obtain ⟨path, hp, hpath⟩ := SearchPath.exists_prepend?_eq_some hbin c.path
  refine ⟨((Env.set [] libraryVariable library).set pathVariable path).set dataVariable testDir,
    ?_, ?_⟩
  · simp [testEnv, prepend, hl, hp, bind, Except.bind, pure, Except.pure, Env.override]
  · have hne : libraryVariable ≠ pathVariable := by decide
    constructor
    · exact Env.nodup_names_set (Env.nodup_names_set (Env.nodup_names_set List.nodup_nil))
    · intro name
      simp [Env.mem_names_set_iff, or_assoc]
    · exact Env.get?_set_self _ _ _
    · intro hd
      refine ⟨library, ?_, hlibrary⟩
      rw [Env.get?_set_of_ne hd.symm, Env.get?_set_of_ne hne, Env.get?_set_self]
    · intro hd
      refine ⟨path, ?_, hpath⟩
      rw [Env.get?_set_of_ne hd.symm, Env.get?_set_self]

/-- Tests lack an environment exactly if the install prefix holds a colon; otherwise both search
paths are what was inherited behind a directory of the install prefix. -/
theorem testEnv_extends_search_paths (c : ExecutionContext)
    (installPrefix testDir dataVariable : String) :
    (':' ∈ installPrefix.toList ↔
      c.testEnv installPrefix testDir dataVariable = .error (searchPathError libraryVariable)) ∧
    (':' ∉ installPrefix.toList ↔
      ∃ env, c.testEnv installPrefix testDir dataVariable = .ok env ∧
        c.IsTestEnv installPrefix testDir dataVariable env) := by
  by_cases h : ':' ∈ installPrefix.toList
  · have he := testEnv_of_mem c testDir dataVariable h
    refine ⟨iff_of_true h he, iff_of_false (not_not_intro h) ?_⟩
    rintro ⟨env, hok, -⟩
    cases he.symm.trans hok
  · obtain ⟨env, hok, henv⟩ := exists_testEnv_eq_ok c testDir dataVariable h
    refine ⟨iff_of_false h fun he => ?_, iff_of_true h ⟨env, hok, henv⟩⟩
    cases he.symm.trans hok

/-- Empty entries stay where they are, at both ends and in between. -/
example :
    testEnv ⟨"/src", "tests", some ":/usr/lib::", some ""⟩ "/opt/" "/src/casa/tests" "DATA" =
      .ok [("LD_LIBRARY_PATH", "/opt/lib::/usr/lib::"), ("PATH", "/opt/bin"),
        ("DATA", "/src/casa/tests")] :=
  rfl

end ExecutionContext

end OrderedBuild
