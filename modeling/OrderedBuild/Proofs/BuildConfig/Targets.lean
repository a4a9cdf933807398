import OrderedBuild.Proofs.Package.Plan
import OrderedBuild.Proofs.Package.Reach
import OrderedBuild.Proofs.Session

namespace OrderedBuild

variable {t : DependencyTable} {d' : Depends} {d : InstallDefaults} {words names : List String}
  {jobs : Option Nat}

namespace BuildPlan

theorem forPackages_congr (h : t.Sound) (hnames : ∀ n ∈ names, n ∈ t.names)
    (hsame : ∀ p ∈ t.names, d'.find? p = t.depends.find? p) :
    forPackages d' names = forPackages t.depends names := by
  unfold forPackages
  rw [h.closed.planAll_congr hnames hsame]

end BuildPlan

namespace BuildConfig

theorem targets_configure (t : DependencyTable) (d : InstallDefaults) (words : List String)
    (jobs : Option Nat) : (configure t d words jobs).targets = words.filter (· ∈ t.names) := by
  rw [configure_eq, ← filter_contains]
  by_cases h : "-h" ∈ userWords t words
  · rw [ofWords_of_help h]
  · rw [ofWords_of_no_help h]

theorem request_congr {c c' : BuildConfig} (h : c.targets = c'.targets) : c.request = c'.request := by
  unfold request
  rw [h]

theorem userWords_prefix_backendArgs (d : InstallDefaults) (jobs : Option Nat)
    (h : "-h" ∈ userWords t words) :
    userWords t words <+: (configure t d words jobs).backendArgs := by
  rw [configure_eq, ofWords_of_help h]
  exact List.prefix_refl _

theorem forwardedWords_prefix_backendArgs (d : InstallDefaults) (jobs : Option Nat)
    (h : "-h" ∉ userWords t words) :
    forwardedWords (userWords t words) <+: (configure t d words jobs).backendArgs := by
  obtain ⟨location, casacoredir, hl, -⟩ := exists_settles (userWords t words) d
  rw [backendArgs_configure jobs h hl, toolWords, List.append_assoc]
  exact List.prefix_append _ _

/-- There is a plan for any packages, it is made of packages, and no other name is looked up. -/
theorem exists_plan_of_targets (h : t.Sound) {c : BuildConfig} (hc : ∀ p ∈ c.targets, p ∈ t.names) :
    ∃ plan, BuildPlan.ofRequest t c.request = .ok plan ∧
      (∀ p ∈ plan.packages, p ∈ t.names) ∧
      (∀ p ∈ c.targets, p ∈ plan.packages) ∧
      (c.targets = [] → plan.packages = t.defaultOrder.eraseDups) ∧
      ∀ d' : Depends, (∀ p ∈ t.names, d'.find? p = t.depends.find? p) →
        BuildPlan.ofRequest ⟨d', t.defaultOrder⟩ c.request = .ok plan := by
  by_cases he : c.targets = []
  · have hr : c.request = .all := by
      unfold request
      rw [he]
      rfl
    rw [hr, he]
    refine ⟨BuildPlan.all t, rfl, fun p hp => ?_, by simp, fun _ => rfl, fun _ _ => rfl⟩
    exact h.safeOrder.mem_names p (List.mem_eraseDups.mp hp)
  · have hr : c.request = .packages c.targets := by
      unfold request
      rw [if_neg (by simpa using he)]
    obtain ⟨plan, hplan, hmem, -, -⟩ := BuildPlan.exists_forPackages_eq_ok h c.targets
    rw [hr]
    refine ⟨plan, hplan, fun p hp => ?_, fun p hp => (hmem p).mpr (.inl hp), fun hn => absurd hn he,
      fun d' hsame => (BuildPlan.forPackages_congr h hc hsame).trans hplan⟩
    rcases (hmem p).mp hp with hp | ⟨n, -, hp⟩
    · exact hc p hp
    · exact h.closed.mem_names_of_needs hp

/-- The words that name packages are the targets, and all others are told to the build tool, those
about locations apart. The targets are planned with what they require, and nothing but packages is:
whatever is said of other names, even that they need themselves, does not change the plan. -/
theorem configure_conserves_words (h : t.Accepted) (d : InstallDefaults) (words : List String)
    (jobs : Option Nat) :
    (configure t d words jobs).targets = words.filter (· ∈ t.names) ∧
    ("-h" ∈ userWords t words →
      userWords t words <+: (configure t d words jobs).backendArgs) ∧
    ("-h" ∉ userWords t words →
      forwardedWords (userWords t words) <+: (configure t d words jobs).backendArgs) ∧
    ∃ plan, BuildPlan.ofRequest t (configure t d words jobs).request = .ok plan ∧
      (∀ p ∈ plan.packages, p ∈ t.names) ∧
      (∀ p ∈ (configure t d words jobs).targets, p ∈ plan.packages) ∧
      ((∀ w ∈ words, w ∉ t.names) → plan.packages = t.defaultOrder.eraseDups) ∧
      (∀ d' : Depends, (∀ p ∈ t.names, d'.find? p = t.depends.find? p) →
        BuildPlan.ofRequest ⟨d', t.defaultOrder⟩ (configure t d words jobs).request = .ok plan) ∧
      ∀ (s : Surroundings) (o : Options) (session : Session) (notes notes' : List Message),
        (Session.prepare s o).run.run notes = (.ok session, notes') → session.table = t →
          o.args = words → session.plan = plan := by
  have htargets := targets_configure t d words jobs
  have hknown : ∀ p ∈ (configure t d words jobs).targets, p ∈ t.names := by
    intro p hp
    rw [htargets] at hp
    simpa using (List.mem_filter.mp hp).2
  obtain ⟨plan, hplan, hnames, hwanted, hall, hlookups⟩ := exists_plan_of_targets h.sound hknown
  refine ⟨htargets, userWords_prefix_backendArgs d jobs, forwardedWords_prefix_backendArgs d jobs,
    plan, hplan, hnames, hwanted, fun hnone => hall ?_, hlookups, ?_⟩
  · rw [htargets, List.filter_eq_nil_iff]
    simpa using hnone
  · intro s o session notes notes' hs ht hw
    obtain ⟨-, ⟨defaults, jobs', hconfig⟩, hsession⟩ := Session.prepared_of_prepare_eq_ok hs
    have hrequest : session.config.request = (configure t d words jobs).request := by
      apply request_congr
      rw [hconfig, ht, hw, targets_configure, htargets]
    rw [ht, hrequest, hplan] at hsession
    exact (Except.ok.inj hsession).symm

def keywords : DependencyTable :=
  ⟨.ofList [("-h", ["install", "prefix=/opt"]), ("install", []), ("prefix=/opt", ["install"])],
    ["install"]⟩

theorem accepted_keywords : keywords.Accepted := by
  have htopological :
      keywords.depends.topologicalOrder = .ok ["install", "prefix=/opt", "-h"] := by decide +kernel
  exact .of_checkOrder (by decide) htopological (by decide)

theorem configure_keywords_conserves_words :
    keywords.Accepted ∧
    let c := configure keywords ⟨"/src/stage", "/usr"⟩ ["prefix=/", "-h", "tests", "-h"] (some 2)
    c.targets = ["-h", "-h"] ∧ ["tests"] <+: c.backendArgs ∧
    ∃ plan, BuildPlan.ofRequest keywords c.request = .ok plan ∧
      (∀ p ∈ plan.packages, p ∈ keywords.names) ∧ "-h" ∈ plan.packages ∧
      BuildPlan.ofRequest ⟨keywords.depends.insert "tests" ["tests"], keywords.defaultOrder⟩
        c.request = .ok plan := by
  obtain ⟨htargets, -, hforwards, plan, hplan, hnames, hwanted, -, hlookups, -⟩ :=
    configure_conserves_words accepted_keywords ⟨"/src/stage", "/usr"⟩
      ["prefix=/", "-h", "tests", "-h"] (some 2)
  have hsame : ∀ p ∈ keywords.names,
      (keywords.depends.insert "tests" ["tests"]).find? p = keywords.depends.find? p := by decide
  exact ⟨accepted_keywords, htargets, hforwards (by decide), plan, hplan, hnames,
    hwanted "-h" (by decide), hlookups _ hsame⟩

end BuildConfig

end OrderedBuild
