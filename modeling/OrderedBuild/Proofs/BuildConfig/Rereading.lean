import OrderedBuild.Proofs.BuildConfig.Locations

namespace OrderedBuild.BuildConfig

variable {t : DependencyTable} {d d' : InstallDefaults} {c c' : BuildConfig}
  {words user : List String} {location : Option String} {casacoredir key word : String}

theorem userWords_eq_self (h : ∀ w ∈ words, w ∉ t.names) : userWords t words = words :=
  List.filter_eq_self.mpr fun w hw => decide_eq_true (h w hw)

theorem filter_contains_eq_nil (h : ∀ w ∈ words, w ∉ t.names) : words.filter t.contains = [] :=
  List.filter_eq_nil_iff.mpr fun w hw hc => h w hw (Depends.contains_iff.mp hc)

theorem firstValue_eq_of_mem_iff {value : Option String}
    (h : ∀ v, key ++ v ∈ words ↔ value = some v) : firstValue key words = value := by
  cases hf : firstValue key words with
  | none =>
    cases value with
    | none => rfl
    | some v => exact absurd ((h v).mpr rfl) (firstValue_eq_none_iff.mp hf v)
  | some v =>
    obtain ⟨before, after, hwords, -⟩ := firstValue_eq_some_iff.mp hf
    have hmem : key ++ v ∈ words := by simp [hwords]
    exact ((h v).mp hmem).symm

section

variable {jobs : Option Nat}

theorem casacoredir_mem_toolWords_iff {v : String} :
    "casacoredir=" ++ v ∈ toolWords user location casacoredir jobs ↔
      some casacoredir = some v := by
  have hloc : isLocationWord ("casacoredir=" ++ v) :=
    isLocationWord_iff.mpr (.inr (.inr ⟨v, rfl⟩))
  have hinstall : "casacoredir=" ++ v ≠ "install" := (Text.Apart.ne_append (by decide) v).symm
  have hplace : "casacoredir=" ++ v ∉ (location.map ("prefix=" ++ ·)).toList := by
    simp only [Option.mem_toList, Option.map_eq_some_iff, not_exists, not_and]
    exact fun u _ => Text.Apart.append_ne_append (by decide) u v
  rw [mem_toolWords_iff hloc]
  unfold locationWords
  simp only [List.mem_append, List.mem_singleton, hinstall, hplace, false_or]
  constructor
  · intro he
    have hafter := Text.after?_append "casacoredir=" v
    rwa [he, Text.after?_append] at hafter
  · intro h
    rw [Option.some.inj h]

theorem installLocation_toolWords (d : InstallDefaults) :
    installLocation (toolWords user location casacoredir jobs) d =
      .system location casacoredir := by
  have hinstall : installWord ∈ toolWords user location casacoredir jobs := by
    simp [toolWords, locationWords, installWord]
  have hplace : firstValue prefixKey (toolWords user location casacoredir jobs) = location :=
    firstValue_eq_of_mem_iff fun _ => prefix_mem_toolWords_iff
  have hcasa : firstValue casacoredirKey (toolWords user location casacoredir jobs) =
      some casacoredir := firstValue_eq_of_mem_iff fun _ => casacoredir_mem_toolWords_iff
  unfold installLocation
  rw [if_pos hinstall, hplace, hcasa]
  rfl

end

theorem isLocationWord_of_mem_locationWords (h : word ∈ locationWords location casacoredir) :
    isLocationWord word := by
  rw [isLocationWord_iff]
  simp only [locationWords, List.mem_append, List.mem_singleton, Option.mem_toList,
    Option.map_eq_some_iff] at h
  rcases h with (rfl | ⟨v, -, rfl⟩) | rfl
  · exact .inl rfl
  · exact .inr (.inl ⟨v, rfl⟩)
  · exact .inr (.inr ⟨casacoredir, rfl⟩)

theorem toolWords_none (user : List String) (location : Option String) (casacoredir : String) :
    toolWords user location casacoredir none =
      forwardedWords user ++ locationWords location casacoredir :=
  List.append_nil _

theorem forwardedWords_toolWords :
    forwardedWords (toolWords user location casacoredir none) = forwardedWords user := by
  have hnone : forwardedWords (locationWords location casacoredir) = [] := by
    rw [← filter_not_isLocationWord, List.filter_eq_nil_iff]
    intro w hw
    simp [isLocationWord_of_mem_locationWords hw]
  have hself : forwardedWords (forwardedWords user) = forwardedWords user := by
    rw [← filter_not_isLocationWord (forwardedWords user), List.filter_eq_self]
    intro w hw
    simp [not_isLocationWord_of_mem_forwardedWords hw]
  have happend : ∀ xs ys, forwardedWords (xs ++ ys) = forwardedWords xs ++ forwardedWords ys :=
    fun xs ys => List.filter_append xs ys
  rw [toolWords_none, happend, hself, hnone, List.append_nil]

theorem testsValue?_of_isLocationWord (h : isLocationWord word) : testsValue? word = none :=
  testsValue?_eq_none_iff.mpr fun ht => ht.not_isLocationWord h

theorem filterMap_testsValue?_forwardedWords (user : List String) :
    (forwardedWords user).filterMap testsValue? = user.filterMap testsValue? := by
  rw [← filter_not_isLocationWord, List.filterMap_filter]
  apply List.filterMap_congr
  intro w _
  by_cases hw : isLocationWord w
  · simp [hw, testsValue?_of_isLocationWord hw]
  · simp [hw]

theorem asksForTests_toolWords :
    asksForTests (toolWords user location casacoredir none) = asksForTests user := by
  have hlocation : (locationWords location casacoredir).filterMap testsValue? = [] :=
    List.filterMap_eq_nil_iff.mpr fun w hw =>
      testsValue?_of_isLocationWord (isLocationWord_of_mem_locationWords hw)
  apply asksForTests_congr
  rw [toolWords_none, List.filterMap_append, filterMap_testsValue?_forwardedWords, hlocation,
    List.append_nil]

theorem mem_of_mem_forwardedWords (h : word ∈ forwardedWords user) : word ∈ user :=
  List.mem_of_mem_filter h

theorem help_notMem_toolWords (h : "-h" ∉ user) :
    "-h" ∉ toolWords user location casacoredir none := by
  have hhelp : ¬ isLocationWord "-h" := by decide
  rw [toolWords_none, List.mem_append]
  rintro (hw | hw)
  · exact h (mem_of_mem_forwardedWords hw)
  · exact hhelp (isLocationWord_of_mem_locationWords hw)

theorem notMem_names_of_mem_toolWords (hnames : ∀ w, isLocationWord w → w ∉ t.names) :
    ∀ w ∈ toolWords (userWords t words) location casacoredir none, w ∉ t.names := by
  intro w hw
  rw [toolWords_none, List.mem_append] at hw
  rcases hw with hw | hw
  · exact (mem_userWords_iff.mp (mem_of_mem_forwardedWords hw)).2
  · exact hnames w (isLocationWord_of_mem_locationWords hw)

theorem ofWords_toolWords (hnames : ∀ w, isLocationWord w → w ∉ t.names)
    (h : "-h" ∉ userWords t words) :
    ofWords t d (toolWords (userWords t words) location casacoredir none) =
      ⟨[], forwardedWords (userWords t words), .system location casacoredir,
        asksForTests (userWords t words), none⟩ := by
  have hnot : ∀ w ∈ toolWords (userWords t words) location casacoredir none, w ∉ t.names :=
    notMem_names_of_mem_toolWords hnames
  have huser := userWords_eq_self hnot
  have hhelp : "-h" ∉ userWords t (toolWords (userWords t words) location casacoredir none) := by
    rw [huser]
    exact help_notMem_toolWords h
  rw [ofWords_of_no_help hhelp, huser, filter_contains_eq_nil hnot, forwardedWords_toolWords,
    installLocation_toolWords, asksForTests_toolWords]

theorem ofWords_userWords (h : "-h" ∈ userWords t words) :
    ofWords t d (userWords t words) = ⟨[], userWords t words, .passThrough, false, none⟩ := by
  have hnot : ∀ w ∈ userWords t words, w ∉ t.names := fun w hw => (mem_userWords_iff.mp hw).2
  have huser := userWords_eq_self hnot
  have hhelp : "-h" ∈ userWords t (userWords t words) := by rwa [huser]
  rw [ofWords_of_help hhelp, huser, filter_contains_eq_nil hnot]

theorem testPrefix?_congr (ht : c'.tests = c.tests) (hp : c'.installPrefix? = c.installPrefix?) :
    c'.testPrefix? = c.testPrefix? := by
  unfold testPrefix?
  rw [ht, hp]

/-- As long as no package is called like a word about locations, reading the words for the build
tool again changes nothing, whatever the defaults are by then. -/
theorem ofWords_backendArgs_configures_the_same (hinstall : "install" ∉ t.names)
    (hplace : ∀ v, "prefix=" ++ v ∉ t.names) (hcasa : ∀ v, "casacoredir=" ++ v ∉ t.names)
    (d d' : InstallDefaults) (words : List String) :
    (ofWords t d' (ofWords t d words).backendArgs).targets = [] ∧
    (ofWords t d' (ofWords t d words).backendArgs).backendArgs =
      (ofWords t d words).backendArgs ∧
    (ofWords t d' (ofWords t d words).backendArgs).tests = (ofWords t d words).tests ∧
    (ofWords t d' (ofWords t d words).backendArgs).installPrefix? =
      (ofWords t d words).installPrefix? ∧
    (ofWords t d' (ofWords t d words).backendArgs).testPrefix? =
      (ofWords t d words).testPrefix? := by
  by_cases h : "-h" ∈ userWords t words
  · have hargs : (ofWords t d words).backendArgs = userWords t words := by
      rw [ofWords_of_help h]
      rfl
    rw [hargs, ofWords_userWords h, ofWords_of_help h]
    exact ⟨rfl, rfl, rfl, rfl, rfl⟩
  · have hnames : ∀ w, isLocationWord w → w ∉ t.names := by
      intro w hw
      rcases isLocationWord_iff.mp hw with rfl | ⟨v, rfl⟩ | ⟨v, rfl⟩
      · exact hinstall
      · exact hplace v
      · exact hcasa v
    -- A staged build names its locations in the words of a system install, so it is read as one.
    obtain ⟨location, casacoredir, hl, -⟩ := exists_settles (userWords t words) d
    have hargs : (ofWords t d words).backendArgs =
        toolWords (userWords t words) location casacoredir none :=
      backendArgs_configure none h hl
    have hlocation : (ofWords t d words).installPrefix? = location :=
      installPrefix?_configure none h hl
    have htests : (ofWords t d words).tests = asksForTests (userWords t words) := by
      rw [ofWords_of_no_help h]
    have hagain : ofWords t d' (ofWords t d words).backendArgs =
        ⟨[], forwardedWords (userWords t words), .system location casacoredir,
          asksForTests (userWords t words), none⟩ := by
      rw [hargs, ofWords_toolWords hnames h]
    rw [hagain]
    refine ⟨rfl, ?_, htests.symm, hlocation.symm, testPrefix?_congr htests.symm hlocation.symm⟩
    rw [hargs]
    exact backendArgs_eq rfl

theorem ofWords_backendArgs_casacore_configures_the_same :
    "install" ∉ DependencyTable.casacore.names ∧
    (∀ v, "prefix=" ++ v ∉ DependencyTable.casacore.names) ∧
    (∀ v, "casacoredir=" ++ v ∉ DependencyTable.casacore.names) ∧
    (ofWords .casacore ⟨"/src/stage", "/usr"⟩ ["prefix=/opt", "ms", "tests"]).backendArgs =
      ["tests", "install", "prefix=/src/stage", "casacoredir=/src/stage"] ∧
    (ofWords .casacore ⟨"/home", "/usr"⟩
      ["tests", "install", "prefix=/src/stage", "casacoredir=/src/stage"]).backendArgs =
      ["tests", "install", "prefix=/src/stage", "casacoredir=/src/stage"] ∧
    (ofWords .casacore ⟨"/home", "/usr"⟩
      ["tests", "install", "prefix=/src/stage", "casacoredir=/src/stage"]).testPrefix? =
      some "/src/stage" := by
  have hnone : ∀ n ∈ DependencyTable.casacore.names, Text.beginsWith "prefix=" n = false ∧
      Text.beginsWith "casacoredir=" n = false := by decide
  have hinstall : "install" ∉ DependencyTable.casacore.names := by decide
  have hplace : ∀ v, "prefix=" ++ v ∉ DependencyTable.casacore.names := fun v hv =>
    absurd (Text.beginsWith_append "prefix=" v) (by simp [(hnone _ hv).1])
  have hcasa : ∀ v, "casacoredir=" ++ v ∉ DependencyTable.casacore.names := fun v hv =>
    absurd (Text.beginsWith_append "casacoredir=" v) (by simp [(hnone _ hv).2])
  have hargs : (ofWords .casacore ⟨"/src/stage", "/usr"⟩ ["prefix=/opt", "ms", "tests"]).backendArgs =
      ["tests", "install", "prefix=/src/stage", "casacoredir=/src/stage"] := by decide +kernel
  have htests : (ofWords .casacore ⟨"/src/stage", "/usr"⟩
      ["prefix=/opt", "ms", "tests"]).testPrefix? = some "/src/stage" := by decide +kernel
  obtain ⟨-, hsame, -, -, hagain⟩ := ofWords_backendArgs_configures_the_same hinstall hplace hcasa
    ⟨"/src/stage", "/usr"⟩ ⟨"/home", "/usr"⟩ ["prefix=/opt", "ms", "tests"]
  rw [hargs] at hsame hagain
  exact ⟨hinstall, hplace, hcasa, hargs, hsame, hagain.trans htests⟩

end OrderedBuild.BuildConfig
