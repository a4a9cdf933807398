import OrderedBuild.Proofs.BuildConfig.Words

namespace OrderedBuild

def InstallLocation.locations? : InstallLocation → Option (Option String × String)
  | .staged dir => some (some dir, dir)
  | .system location casacoredir => some (location, casacoredir)
  | .passThrough => none

namespace BuildConfig

variable {t : DependencyTable} {d : InstallDefaults} {c : BuildConfig} {words user : List String}
  {location : Option String} {casacoredir word : String} {jobs : Option Nat}

/-- What the build tool is told of the words of a user. -/
def forwardedWords (user : List String) : List String :=
  user.filter fun w =>
    !(w = "install" || Text.beginsWith "prefix=" w || Text.beginsWith "casacoredir=" w)

/-- The words that name the locations to the build tool. -/
def locationWords (location : Option String) (casacoredir : String) : List String :=
  ["install"] ++ (location.map ("prefix=" ++ ·)).toList ++ ["casacoredir=" ++ casacoredir]

/-- The words of a user, those for the locations, and the number of jobs last. -/
def toolWords (user : List String) (location : Option String) (casacoredir : String)
    (jobs : Option Nat) : List String :=
  forwardedWords user ++ locationWords location casacoredir ++
    (jobs.map ("-j" ++ toString ·)).toList

def configure (t : DependencyTable) (d : InstallDefaults) (words : List String)
    (jobs : Option Nat) : BuildConfig :=
  jobs.elim (ofWords t d words) (ofWords t d words).withJobs

/-- The locations that the words of a user and the defaults settle. -/
structure Settles (user : List String) (d : InstallDefaults) (location : Option String)
    (casacoredir : String) : Prop where
  staged : "install" ∉ user → location = some d.stageDir ∧ casacoredir = d.stageDir
  location_iff : "install" ∈ user → ∀ v, location = some v ↔ FirstValue "prefix=" user v
  given : "install" ∈ user → ∀ v, FirstValue "casacoredir=" user v → casacoredir = v
  derived : "install" ∈ user → (∀ v, "casacoredir=" ++ v ∉ user) →
    casacoredir = location.getD d.systemPrefix

theorem exists_settles (user : List String) (d : InstallDefaults) :
    ∃ location casacoredir,
      (installLocation user d).locations? = some (location, casacoredir) ∧
        Settles user d location casacoredir := by
  unfold installLocation
  by_cases hi : installWord ∈ user
  · rw [if_pos hi]
    refine ⟨_, _, rfl, fun hn => absurd hi hn, fun _ v => firstValue_eq_some_iff,
      fun _ v hv => ?_, fun _ hnone => ?_⟩
    · have hfirst : firstValue casacoredirKey user = some v := firstValue_eq_some_iff.mpr hv
      rw [hfirst]
      rfl
    · have hfirst : firstValue casacoredirKey user = none := firstValue_eq_none_iff.mpr hnone
      rw [hfirst]
      rfl
  · rw [if_neg hi]
    exact ⟨_, _, rfl, fun _ => ⟨rfl, rfl⟩, fun h => absurd h hi, fun h => absurd h hi,
      fun h => absurd h hi⟩

theorem filter_not_isLocationWord (user : List String) :
    user.filter (!isLocationWord ·) = forwardedWords user := rfl

theorem not_isLocationWord_of_mem_forwardedWords (h : word ∈ forwardedWords user) :
    ¬ isLocationWord word := by
  rw [← filter_not_isLocationWord, List.mem_filter] at h
  simpa using h.2

theorem not_isLocationWord_of_mem_jobs
    (h : word ∈ (jobs.map fun n => "-j" ++ toString n).toList) : ¬ isLocationWord word := by
  obtain ⟨n, -, rfl⟩ := Option.map_eq_some_iff.mp (Option.mem_toList.mp h)
  rw [isLocationWord_iff]
  rintro (h | ⟨v, h⟩ | ⟨v, h⟩)
  · exact Text.Apart.ne_append (by decide) _ h.symm
  · exact Text.Apart.append_ne_append (by decide) _ v h
  · exact Text.Apart.append_ne_append (by decide) _ v h

/-- Whatever holds of words for locations only holds of no other word for the build tool. -/
theorem countP_toolWords {p : String → Bool} (h : ∀ w, p w → isLocationWord w) :
    (toolWords user location casacoredir jobs).countP p =
      (locationWords location casacoredir).countP p := by
  have huser : (forwardedWords user).countP p = 0 :=
    List.countP_eq_zero.mpr fun w hw hp => not_isLocationWord_of_mem_forwardedWords hw (h w hp)
  have hjobs : (jobs.map ("-j" ++ toString ·)).toList.countP p = 0 :=
    List.countP_eq_zero.mpr fun w hw hp => not_isLocationWord_of_mem_jobs hw (h w hp)
  rw [toolWords, List.countP_append, List.countP_append, huser, hjobs, Nat.zero_add, Nat.add_zero]

theorem mem_toolWords_iff (h : isLocationWord word) :
    word ∈ toolWords user location casacoredir jobs ↔ word ∈ locationWords location casacoredir := by
  unfold toolWords
  rw [List.mem_append, List.mem_append]
  constructor
  · rintro ((hw | hw) | hw)
    · exact absurd h (not_isLocationWord_of_mem_forwardedWords hw)
    · exact hw
    · exact absurd h (not_isLocationWord_of_mem_jobs hw)
  · exact fun hw => .inl (.inr hw)

theorem count_install_toolWords : (toolWords user location casacoredir jobs).count "install" = 1 := by
  have hloc : ∀ w, (w == "install") = true → isLocationWord w := fun w hw =>
    isLocationWord_iff.mpr (.inl (by simpa using hw))
  have hplace : ∀ v, "prefix=" ++ v ≠ "install" := fun v =>
    (Text.Apart.ne_append (by decide) v).symm
  have hcasa : "casacoredir=" ++ casacoredir ≠ "install" :=
    (Text.Apart.ne_append (by decide) casacoredir).symm
  rw [List.count, countP_toolWords hloc]
  cases location with
  | none => simp [locationWords, hcasa]
  | some v => simp [locationWords, hcasa, hplace v]

theorem countP_casacoredir_toolWords :
    (toolWords user location casacoredir jobs).countP (Text.beginsWith "casacoredir=") = 1 := by
  have hloc : ∀ w, Text.beginsWith "casacoredir=" w → isLocationWord w := fun w hw =>
    isLocationWord_iff.mpr (.inr (.inr (Text.beginsWith_iff.mp hw)))
  have hinstall : Text.beginsWith "casacoredir=" "install" = false := by decide
  have hplace : ∀ v, Text.beginsWith "casacoredir=" ("prefix=" ++ v) = false := fun v =>
    Text.Apart.beginsWith_append (by decide) v
  have hcasa := Text.beginsWith_append "casacoredir=" casacoredir
  rw [countP_toolWords hloc]
  cases location with
  | none => simp [locationWords, hinstall, hcasa]
  | some v => simp [locationWords, hinstall, hcasa, hplace v]

theorem countP_prefix_toolWords :
    (toolWords user location casacoredir jobs).countP (Text.beginsWith "prefix=") ≤ 1 := by
  have hloc : ∀ w, Text.beginsWith "prefix=" w → isLocationWord w := fun w hw =>
    isLocationWord_iff.mpr (.inr (.inl (Text.beginsWith_iff.mp hw)))
  have hinstall : Text.beginsWith "prefix=" "install" = false := by decide
  have hcasa : Text.beginsWith "prefix=" ("casacoredir=" ++ casacoredir) = false :=
    Text.Apart.beginsWith_append (by decide) casacoredir
  rw [countP_toolWords hloc]
  cases location with
  | none => simp [locationWords, hinstall, hcasa]
  | some v => simp [locationWords, hinstall, hcasa, Text.beginsWith_append]

theorem prefix_mem_toolWords_iff {v : String} :
    "prefix=" ++ v ∈ toolWords user location casacoredir jobs ↔ location = some v := by
  have hloc : isLocationWord ("prefix=" ++ v) := isLocationWord_iff.mpr (.inr (.inl ⟨v, rfl⟩))
  have hinstall : "prefix=" ++ v ≠ "install" := (Text.Apart.ne_append (by decide) v).symm
  have hcasa : "prefix=" ++ v ≠ "casacoredir=" ++ casacoredir :=
    Text.Apart.append_ne_append (by decide) v casacoredir
  rw [mem_toolWords_iff hloc]
  unfold locationWords
  simp only [List.mem_append, List.mem_singleton, hinstall, hcasa, false_or, or_false,
    Option.mem_toList, Option.map_eq_some_iff]
  constructor
  · rintro ⟨u, hu, he⟩
    have hafter := Text.after?_append "prefix=" u
    rw [he, Text.after?_append] at hafter
    rw [hu, hafter]
  · exact fun h => ⟨v, h, rfl⟩

theorem locations?_eq_some_iff {l : InstallLocation} :
    l.locations? = some (location, casacoredir) ↔
      (l = .staged casacoredir ∧ location = some casacoredir) ∨ l = .system location casacoredir := by
  cases l with
  | staged dir =>
    simp only [InstallLocation.locations?, Option.some.injEq, Prod.mk.injEq,
      InstallLocation.staged.injEq, reduceCtorEq, or_false]
    constructor
    · rintro ⟨rfl, rfl⟩
      exact ⟨rfl, rfl⟩
    · rintro ⟨rfl, rfl⟩
      exact ⟨rfl, rfl⟩
  | system l r => simp [InstallLocation.locations?]
  | passThrough => simp [InstallLocation.locations?]

theorem backendArgs_eq (h : c.install.locations? = some (location, casacoredir)) :
    c.backendArgs = c.forwarded ++ locationWords location casacoredir ++
      (c.jobs.map ("-j" ++ toString ·)).toList := by
  have hjobs : c.jobsWords = (c.jobs.map ("-j" ++ toString ·)).toList := by
    unfold jobsWords
    cases c.jobs with
    | none => rfl
    | some n => rfl
  unfold backendArgs
  rw [hjobs]
  rcases locations?_eq_some_iff.mp h with ⟨hi, rfl⟩ | hi
  · rw [hi]
    rfl
  · rw [hi]
    simp only [locationWords, installWord, prefixKey, casacoredirKey, List.append_assoc]

theorem installPrefix?_eq (h : c.install.locations? = some (location, casacoredir)) :
    c.installPrefix? = location := by
  unfold installPrefix?
  rcases locations?_eq_some_iff.mp h with ⟨hi, rfl⟩ | hi
  · rw [hi]
  · rw [hi]

theorem testPrefix?_eq_some_iff {v : String} :
    c.testPrefix? = some v ↔ c.tests ∧ c.installPrefix? = some v := by
  unfold testPrefix?
  by_cases ht : c.tests
  · simp [ht]
  · simp [ht]

theorem ofWords_of_help (h : "-h" ∈ userWords t words) :
    ofWords t d words =
      ⟨words.filter t.contains, userWords t words, .passThrough, false, none⟩ := by
  have hh : helpWord ∈ userWords t words := h
  unfold ofWords
  simp only [filter_not_contains]
  rw [if_pos hh]

theorem ofWords_of_no_help (h : "-h" ∉ userWords t words) :
    ofWords t d words =
      ⟨words.filter t.contains, forwardedWords (userWords t words),
        installLocation (userWords t words) d, asksForTests (userWords t words), none⟩ := by
  have hh : helpWord ∉ userWords t words := h
  unfold ofWords
  simp only [filter_not_contains, filter_not_isLocationWord]
  rw [if_neg hh]

theorem jobs_ofWords (t : DependencyTable) (d : InstallDefaults) (words : List String) :
    (ofWords t d words).jobs = none := by
  by_cases h : "-h" ∈ userWords t words
  · rw [ofWords_of_help h]
  · rw [ofWords_of_no_help h]

theorem configure_eq (t : DependencyTable) (d : InstallDefaults) (words : List String)
    (jobs : Option Nat) : configure t d words jobs = { ofWords t d words with jobs := jobs } := by
  have hjobs := jobs_ofWords t d words
  unfold configure
  cases jobs with
  | none =>
    generalize ofWords t d words = c at hjobs ⊢
    cases c
    rw [Option.elim_none, ← hjobs]
  | some n => rfl

theorem configure_of_no_help (h : "-h" ∉ userWords t words) (jobs : Option Nat) :
    configure t d words jobs =
      ⟨words.filter t.contains, forwardedWords (userWords t words),
        installLocation (userWords t words) d, asksForTests (userWords t words), jobs⟩ := by
  rw [configure_eq, ofWords_of_no_help h]

theorem backendArgs_configure (jobs : Option Nat) (h : "-h" ∉ userWords t words)
    (hl : (installLocation (userWords t words) d).locations? = some (location, casacoredir)) :
    (configure t d words jobs).backendArgs =
      toolWords (userWords t words) location casacoredir jobs := by
  rw [configure_of_no_help h]
  exact backendArgs_eq hl

theorem installPrefix?_configure (jobs : Option Nat) (h : "-h" ∉ userWords t words)
    (hl : (installLocation (userWords t words) d).locations? = some (location, casacoredir)) :
    (configure t d words jobs).installPrefix? = location := by
  rw [configure_of_no_help h]
  exact installPrefix?_eq hl

/-- Unless the user asks for the help of the build tool, its words name the place of casacore once
and at most one install location, both settled by the user and the defaults. Tests run exactly if
the user asks for them last and a location is named, and then against that one. -/
theorem backendArgs_name_one_location (t : DependencyTable) (d : InstallDefaults)
    (words : List String) (jobs : Option Nat) :
    ("-h" ∉ userWords t words → ∃ location casacoredir,
      Settles (userWords t words) d location casacoredir ∧
      (configure t d words jobs).backendArgs =
        toolWords (userWords t words) location casacoredir jobs ∧
      (configure t d words jobs).backendArgs.count "install" = 1 ∧
      (configure t d words jobs).backendArgs.countP (Text.beginsWith "casacoredir=") = 1 ∧
      (configure t d words jobs).backendArgs.countP (Text.beginsWith "prefix=") ≤ 1 ∧
      ∀ v, (configure t d words jobs).testPrefix? = some v ↔
        LastWantsTests (userWords t words) ∧
          "prefix=" ++ v ∈ (configure t d words jobs).backendArgs) ∧
    ("-h" ∈ userWords t words →
      (configure t d words jobs).backendArgs = userWords t words ∧
      (configure t d words jobs).testPrefix? = none) := by
  constructor
  · intro h
    obtain ⟨location, casacoredir, hl, hs⟩ := exists_settles (userWords t words) d
    have hargs := backendArgs_configure jobs h hl
    have htests : (configure t d words jobs).tests = asksForTests (userWords t words) := by
      rw [configure_of_no_help h]
    refine ⟨location, casacoredir, hs, hargs, ?_, ?_, ?_, fun v => ?_⟩
    · rw [hargs]
      exact count_install_toolWords
    · rw [hargs]
      exact countP_casacoredir_toolWords
    · rw [hargs]
      exact countP_prefix_toolWords
    · rw [testPrefix?_eq_some_iff, installPrefix?_configure jobs h hl, htests, asksForTests_iff, hargs,
        prefix_mem_toolWords_iff]
  · intro h
    rw [configure_eq, ofWords_of_help h]
    exact ⟨rfl, rfl⟩

example :
    let c := configure .casacore ⟨"/src/stage", "/usr"⟩
      ["tests=off", "tables", "prefix=/opt", "install", "prefix=/home", "tests"] (some 4)
    c.backendArgs = ["tests=off", "tests", "install", "prefix=/opt", "casacoredir=/opt", "-j4"] ∧
      c.testPrefix? = some "/opt" := by decide +kernel

end BuildConfig

end OrderedBuild
