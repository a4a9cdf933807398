import OrderedBuild.Proofs.BuildConfig.Rereading
import OrderedBuild.Proofs.BuildConfig.Targets

namespace OrderedBuild

/-- A list put together from two others, each kept in its order. -/
inductive Interleaves {α : Type} : List α → List α → List α → Prop
  | nil : Interleaves [] [] []
  | left (x : α) {xs ys zs : List α} (h : Interleaves xs ys zs) : Interleaves (x :: xs) ys (x :: zs)
  | right (y : α) {xs ys zs : List α} (h : Interleaves xs ys zs) :
    Interleaves xs (y :: ys) (y :: zs)

namespace Interleaves

variable {α : Type} {xs ys zs : List α} {a : α}

theorem mem_iff (h : Interleaves xs ys zs) : a ∈ zs ↔ a ∈ xs ∨ a ∈ ys := by
  induction h with
  | nil => simp
  | left x _ ih => rw [List.mem_cons, List.mem_cons, ih, or_assoc]
  | right y _ ih => rw [List.mem_cons, List.mem_cons, ih, or_left_comm]

theorem filter_eq (h : Interleaves xs ys zs) {keep : α → Bool} (hys : ∀ y ∈ ys, ¬ keep y) :
    zs.filter keep = xs.filter keep := by
  induction h with
  | nil => rfl
  | left x _ ih => rw [List.filter_cons, List.filter_cons, ih hys]
  | right y _ ih =>
    obtain ⟨hy, hys⟩ := List.forall_mem_cons.mp hys
    rw [List.filter_cons_of_neg hy, ih hys]

end Interleaves

namespace BuildConfig

variable {t : DependencyTable} {d : InstallDefaults} {words words' extra : List String}
  {word : String}

theorem ofWords_congr (htargets : words'.filter (· ∈ t.names) = words.filter (· ∈ t.names))
    (huser : userWords t words' = userWords t words) : ofWords t d words' = ofWords t d words := by
  rw [← filter_contains t words, ← filter_contains t words'] at htargets
  by_cases h : "-h" ∈ userWords t words
  · have h' : "-h" ∈ userWords t words' := huser ▸ h
    rw [ofWords_of_help h, ofWords_of_help h', htargets, huser]
  · have h' : "-h" ∉ userWords t words' := huser ▸ h
    rw [ofWords_of_no_help h, ofWords_of_no_help h', htargets, huser]

/-- A staged build goes by the words that give no location. -/
theorem ofWords_of_staged (hhelp : "-h" ∉ userWords t words)
    (hinstall : "install" ∉ userWords t words) :
    ofWords t d words =
      ⟨words.filter (· ∈ t.names), forwardedWords (userWords t words), .staged d.stageDir,
        asksForTests (forwardedWords (userWords t words)), none⟩ := by
  have hlocation : installLocation (userWords t words) d = .staged d.stageDir := if_neg hinstall
  have htests : asksForTests (forwardedWords (userWords t words)) =
      asksForTests (userWords t words) :=
    asksForTests_congr (filterMap_testsValue?_forwardedWords _)
  rw [ofWords_of_no_help hhelp, hlocation, htests, filter_contains]

def GivesLocation (word : String) : Prop :=
  (∃ v, word = "prefix=" ++ v) ∨ ∃ v, word = "casacoredir=" ++ v

theorem GivesLocation.isLocationWord (h : GivesLocation word) : isLocationWord word :=
  isLocationWord_iff.mpr (.inr h)

theorem not_givesLocation (hplace : Text.Apart word "prefix=")
    (hcasa : Text.Apart word "casacoredir=") : ¬ GivesLocation word := by
  rintro (⟨v, h⟩ | ⟨v, h⟩)
  · exact hplace.ne_append v h
  · exact hcasa.ne_append v h

theorem forwardedWords_of_interleaves (h : Interleaves words extra words')
    (hextra : ∀ w ∈ extra, GivesLocation w) :
    forwardedWords (userWords t words') = forwardedWords (userWords t words) := by
  rw [← filter_not_isLocationWord, ← filter_not_isLocationWord, userWords, userWords,
    List.filter_filter, List.filter_filter]
  exact h.filter_eq fun w hw => by simp [(hextra w hw).isLocationWord]

theorem notMem_userWords_of_interleaves (h : Interleaves words extra words')
    (hextra : word ∉ extra) (hw : word ∉ userWords t words) : word ∉ userWords t words' := by
  rw [mem_userWords_iff] at hw ⊢
  rw [h.mem_iff, or_iff_left hextra]
  exact hw

/-- The words of a staged build may be mixed with any words that give locations and name no package:
it is staged all the same, in the same place and with the same words for the build tool. Whatever is
asked for, targets may be mixed with the other words as one likes. -/
theorem ofWords_ignores_placement (t : DependencyTable) (d : InstallDefaults) :
    (∀ words extra words', Interleaves words extra words' →
      (∀ w ∈ extra, GivesLocation w ∧ w ∉ t.names) →
      "install" ∉ userWords t words → "-h" ∉ userWords t words →
      ofWords t d words' = ofWords t d words ∧
        (ofWords t d words').install = .staged d.stageDir) ∧
    ∀ words words', words'.filter (· ∈ t.names) = words.filter (· ∈ t.names) →
      words'.filter (· ∉ t.names) = words.filter (· ∉ t.names) →
      ofWords t d words' = ofWords t d words := by
  constructor
  · intro words extra words' h hextra hinstall hhelp
    have hinstall' : "install" ∉ userWords t words' :=
      notMem_userWords_of_interleaves h
        (fun hw => not_givesLocation (by decide) (by decide) (hextra _ hw).1) hinstall
    have hhelp' : "-h" ∉ userWords t words' :=
      notMem_userWords_of_interleaves h
        (fun hw => not_givesLocation (by decide) (by decide) (hextra _ hw).1) hhelp
    have htargets : words'.filter (· ∈ t.names) = words.filter (· ∈ t.names) :=
      h.filter_eq fun w hw => by simp [(hextra w hw).2]
    have hforwarded : forwardedWords (userWords t words') = forwardedWords (userWords t words) :=
      forwardedWords_of_interleaves h fun w hw => (hextra w hw).1
    rw [ofWords_of_staged hhelp hinstall, ofWords_of_staged hhelp' hinstall', htargets, hforwarded]
    exact ⟨rfl, rfl⟩
  · exact fun words words' htargets huser => ofWords_congr htargets huser

theorem ofWords_keywords_ignores_placement :
    Interleaves ["install", "tests", "-h"] ["prefix=/home", "casacoredir=/"]
      ["prefix=/home", "install", "tests", "casacoredir=/", "-h"] ∧
    (∀ w ∈ ["prefix=/home", "casacoredir=/"], GivesLocation w ∧ w ∉ keywords.names) ∧
    "install" ∉ userWords keywords ["install", "tests", "-h"] ∧
    "-h" ∉ userWords keywords ["install", "tests", "-h"] ∧
    ofWords keywords ⟨"/src/stage", "/usr"⟩
        ["prefix=/home", "install", "tests", "casacoredir=/", "-h"] =
      ofWords keywords ⟨"/src/stage", "/usr"⟩ ["tests", "install", "-h"] ∧
    (ofWords keywords ⟨"/src/stage", "/usr"⟩
      ["prefix=/home", "install", "tests", "casacoredir=/", "-h"]).install =
      .staged "/src/stage" := by
  have hmixed : Interleaves ["install", "tests", "-h"] ["prefix=/home", "casacoredir=/"]
      ["prefix=/home", "install", "tests", "casacoredir=/", "-h"] :=
    .right _ (.left _ (.left _ (.right _ (.left _ .nil))))
  have hextra : ∀ w ∈ ["prefix=/home", "casacoredir=/"],
      GivesLocation w ∧ w ∉ keywords.names := by
    refine List.forall_mem_cons.mpr ⟨⟨.inl ⟨"/home", by decide⟩, by decide⟩, ?_⟩
    exact List.forall_mem_singleton.mpr ⟨.inr ⟨"/", by decide⟩, by decide⟩
  have hinstall : "install" ∉ userWords keywords ["install", "tests", "-h"] := by decide
  have hhelp : "-h" ∉ userWords keywords ["install", "tests", "-h"] := by decide
  obtain ⟨hinserted, hmoved⟩ := ofWords_ignores_placement keywords ⟨"/src/stage", "/usr"⟩
  obtain ⟨hsame, hstaged⟩ := hinserted _ _ _ hmixed hextra hinstall hhelp
  have hfront := hmoved ["tests", "install", "-h"] ["install", "tests", "-h"] (by decide) (by decide)
  exact ⟨hmixed, hextra, hinstall, hhelp, hsame.trans hfront, hstaged⟩

end BuildConfig

end OrderedBuild
