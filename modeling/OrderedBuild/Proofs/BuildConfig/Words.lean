import OrderedBuild.BuildConfig
import OrderedBuild.Proofs.Package.Needs

namespace OrderedBuild.BuildConfig

variable {t : DependencyTable} {key value word : String} {words more : List String}

/-- The words that name no package. -/
def userWords (t : DependencyTable) (words : List String) : List String :=
  words.filter (· ∉ t.names)

theorem filter_contains (t : DependencyTable) (words : List String) :
    words.filter t.contains = words.filter (· ∈ t.names) := by
  apply List.filter_congr
  intro w _
  rw [Bool.eq_iff_iff, decide_eq_true_iff]
  exact Depends.contains_iff

theorem filter_not_contains (t : DependencyTable) (words : List String) :
    words.filter (!t.contains ·) = userWords t words := by
  apply List.filter_congr
  intro w _
  by_cases hw : w ∈ t.names
  · have hc : t.contains w = true := Depends.contains_iff.mpr hw
    simp [hw, hc]
  · have hc : t.contains w = false := by
      rw [← Bool.not_eq_true]
      exact fun h => hw (Depends.contains_iff.mp h)
    simp [hw, hc]

theorem mem_userWords_iff : word ∈ userWords t words ↔ word ∈ words ∧ word ∉ t.names := by
  simp [userWords]

/-- What the first word that begins with a key gives as its value. -/
def FirstValue (key : String) (words : List String) (value : String) : Prop :=
  ∃ before after, words = before ++ (key ++ value) :: after ∧ ∀ w ∈ before, ∀ v, w ≠ key ++ v

theorem firstValue_eq_some_iff : firstValue key words = some value ↔ FirstValue key words value := by
  unfold firstValue FirstValue
  rw [List.findSome?_eq_some_iff]
  constructor
  · rintro ⟨before, w, after, rfl, hw, hbefore⟩
    obtain rfl := Text.after?_eq_some_iff.mp hw
    exact ⟨before, after, rfl, fun u hu => Text.after?_eq_none_iff.mp (hbefore u hu)⟩
  · rintro ⟨before, after, rfl, hbefore⟩
    refine ⟨before, key ++ value, after, rfl, Text.after?_append key value, fun u hu => ?_⟩
    exact Text.after?_eq_none_iff.mpr (hbefore u hu)

theorem firstValue_eq_none_iff : firstValue key words = none ↔ ∀ v, key ++ v ∉ words := by
  unfold firstValue
  rw [List.findSome?_eq_none_iff]
  constructor
  · intro h v hv
    exact Text.after?_eq_none_iff.mp (h _ hv) v rfl
  · intro h w hw
    apply Text.after?_eq_none_iff.mpr
    rintro v rfl
    exact h v hw

theorem isLocationWord_iff :
    isLocationWord word ↔
      word = "install" ∨ (∃ v, word = "prefix=" ++ v) ∨ ∃ v, word = "casacoredir=" ++ v := by
  simp only [isLocationWord, Bool.or_eq_true, decide_eq_true_eq, Text.beginsWith_iff, or_assoc]
  rfl

def IsTestsWord (word : String) : Prop :=
  word = "tests" ∨ ∃ v, word = "tests=" ++ v

/-- A word that asks for tests, alone or with a value that does not deny them. -/
def WantsTests (word : String) : Prop :=
  word = "tests" ∨
    ∃ v, word = "tests=" ++ v ∧ Text.lowerAscii v ∉ ["", "0", "false", "no", "off"]

def LastWantsTests (words : List String) : Prop :=
  ∃ before w after, words = before ++ w :: after ∧ WantsTests w ∧ ∀ u ∈ after, ¬ IsTestsWord u

theorem testsValue?_eq_none_iff : testsValue? word = none ↔ ¬ IsTestsWord word := by
  unfold testsValue? IsTestsWord
  by_cases hw : word = "tests"
  · simp [hw]
  · rw [if_neg hw, Text.after?_eq_none_iff]
    simp [hw]

theorem exists_testsValue?_iff :
    (∃ v, testsValue? word = some v ∧ Text.lowerAscii v ∉ ["", "0", "false", "no", "off"]) ↔
      WantsTests word := by
  unfold testsValue? WantsTests
  by_cases hw : word = "tests"
  · have hone : Text.lowerAscii "1" ∉ ["", "0", "false", "no", "off"] := by decide
    rw [if_pos hw]
    exact iff_of_true ⟨"1", rfl, hone⟩ (.inl hw)
  · rw [if_neg hw, or_iff_right hw]
    exact exists_congr fun v => and_congr_left fun _ => Text.after?_eq_some_iff

theorem asksForTests_iff : asksForTests words ↔ LastWantsTests words := by
  have hlast : asksForTests words ↔ ∃ v, (words.filterMap testsValue?).getLast? = some v ∧
      Text.lowerAscii v ∉ ["", "0", "false", "no", "off"] := by
    unfold asksForTests
    cases (words.filterMap testsValue?).getLast? with
    | none => simp
    | some v => simp
  rw [hlast, List.getLast?_filterMap]
  constructor
  · rintro ⟨v, hv, hmeans⟩
    obtain ⟨later, w, earlier, hwords, hw, hlater⟩ := List.findSome?_eq_some_iff.mp hv
    have hsplit : words = earlier.reverse ++ w :: later.reverse := by
      rw [← List.reverse_reverse words, hwords]
      simp
    refine ⟨_, w, _, hsplit, exists_testsValue?_iff.mp ⟨v, hw, hmeans⟩, fun u hu => ?_⟩
    exact testsValue?_eq_none_iff.mp (hlater u (List.mem_reverse.mp hu))
  · rintro ⟨before, w, after, rfl, hw, hafter⟩
    obtain ⟨v, hv, hmeans⟩ := exists_testsValue?_iff.mpr hw
    refine ⟨v, List.findSome?_eq_some_iff.mpr ⟨after.reverse, w, before.reverse, ?_, hv, ?_⟩, hmeans⟩
    · simp
    · intro u hu
      exact testsValue?_eq_none_iff.mpr (hafter u (List.mem_reverse.mp hu))

theorem IsTestsWord.not_isLocationWord (h : IsTestsWord word) : ¬ isLocationWord word := by
  rw [isLocationWord_iff]
  rcases h with rfl | ⟨v, rfl⟩
  · rintro (h | ⟨u, h⟩ | ⟨u, h⟩)
    · exact absurd h (by decide)
    · exact Text.Apart.ne_append (by decide) u h
    · exact Text.Apart.ne_append (by decide) u h
  · rintro (h | ⟨u, h⟩ | ⟨u, h⟩)
    · exact Text.Apart.ne_append (by decide) v h.symm
    · exact Text.Apart.append_ne_append (by decide) v u h
    · exact Text.Apart.append_ne_append (by decide) v u h

theorem asksForTests_congr (h : words.filterMap testsValue? = more.filterMap testsValue?) :
    asksForTests words = asksForTests more := by
  unfold asksForTests
  rw [h]

end OrderedBuild.BuildConfig
