namespace OrderedBuild.Text

/-- What follows `key` in a text that begins with it. -/
def after? (key s : String) : Option String :=
  if key.toList.isPrefixOf s.toList then some (String.ofList (s.toList.drop key.toList.length))
  else none

def beginsWith (key s : String) : Bool :=
  key.toList.isPrefixOf s.toList

def occursIn (m : List Char) : List Char → Bool
  | [] => m.isEmpty
  | c :: cs => m.isPrefixOf (c :: cs) || occursIn m cs

def contains (s m : String) : Bool :=
  occursIn m.toList s.toList

/-- The parts between the separators; a text without one is its own only part. -/
def splitChars (sep : Char) : List Char → List (List Char)
  | [] => [[]]
  | c :: cs =>
    if c = sep then [] :: splitChars sep cs
    else match splitChars sep cs with
      | [] => [[c]]
      | p :: ps => (c :: p) :: ps

def splitOn (sep : Char) (s : String) : List String :=
  (splitChars sep s.toList).map String.ofList

def lowerAscii (s : String) : String :=
  String.ofList (s.toList.map Char.toLower)

theorem after?_append (key s : String) : after? key (key ++ s) = some s := by
  simp [after?, String.toList_append]

theorem after?_eq_some_iff {key s rest : String} : after? key s = some rest ↔ s = key ++ rest := by
  constructor
  · intro h
    unfold after? at h
    split at h
    next hp =>
      obtain ⟨t, ht⟩ := List.isPrefixOf_iff_prefix.mp hp
      obtain rfl := Option.some.inj h
      rw [← String.toList_inj, String.toList_append, String.toList_ofList, ← ht, List.drop_left]
    next hp => cases h
  · rintro rfl
    exact after?_append key rest

theorem after?_eq_none_iff {key s : String} : after? key s = none ↔ ∀ rest, s ≠ key ++ rest := by
  simp only [Option.eq_none_iff_forall_ne_some, ne_eq, after?_eq_some_iff]

theorem beginsWith_iff {key s : String} : beginsWith key s ↔ ∃ r, s = key ++ r := by
  simp only [beginsWith, List.isPrefixOf_iff_prefix]
  constructor
  · rintro ⟨t, h⟩
    exact ⟨String.ofList t, by rw [← String.toList_inj]; simp [h]⟩
  · rintro ⟨r, rfl⟩
    exact ⟨r.toList, by simp⟩

theorem beginsWith_append (key s : String) : beginsWith key (key ++ s) = true :=
  beginsWith_iff.mpr ⟨s, rfl⟩

/-- Neither text begins with the other. -/
def Apart (a b : String) : Prop :=
  ¬ beginsWith a b ∧ ¬ beginsWith b a

instance (a b : String) : Decidable (Apart a b) :=
  inferInstanceAs (Decidable (_ ∧ _))

namespace Apart

variable {a b : String}

theorem append_ne_append (h : Apart a b) (r s : String) : a ++ r ≠ b ++ s := by
  intro he
  have ha : a.toList <+: (b ++ s).toList := ⟨r.toList, by rw [← String.toList_append, he]⟩
  have hb : b.toList <+: (b ++ s).toList := ⟨s.toList, by rw [String.toList_append]⟩
  rcases List.prefix_or_prefix_of_prefix ha hb with hab | hba
  · exact h.1 (List.isPrefixOf_iff_prefix.mpr hab)
  · exact h.2 (List.isPrefixOf_iff_prefix.mpr hba)

theorem ne_append (h : Apart a b) (s : String) : a ≠ b ++ s := by
  have hne := h.append_ne_append "" s
  rwa [String.append_empty] at hne

theorem beginsWith_append (h : Apart a b) (s : String) : beginsWith a (b ++ s) = false := by
  rw [← Bool.not_eq_true, beginsWith_iff]
  rintro ⟨r, hr⟩
  exact h.append_ne_append r s hr.symm

end Apart

theorem occursIn_iff {m s : List Char} : occursIn m s ↔ ∃ p q, s = p ++ m ++ q := by
  induction s with
  | nil => simp [occursIn, List.append_eq_nil_iff]
  | cons c cs ih =>
    simp only [occursIn, Bool.or_eq_true, List.isPrefixOf_iff_prefix, ih]
    constructor
    · rintro (⟨q, h⟩ | ⟨p, q, h⟩)
      · exact ⟨[], q, by simp [h]⟩
      · exact ⟨c :: p, q, by simp [h]⟩
    · rintro ⟨p, q, h⟩
      cases p with
      | nil => exact .inl ⟨q, by simpa using h.symm⟩
      | cons d p =>
        simp only [List.cons_append, List.cons.injEq] at h
        exact .inr ⟨p, q, h.2⟩

theorem contains_iff {s m : String} : contains s m ↔ m.toList <:+: s.toList := by
  unfold contains
  rw [occursIn_iff]
  constructor
  · rintro ⟨before, after, h⟩
    exact ⟨before, after, h.symm⟩
  · rintro ⟨before, after, h⟩
    exact ⟨before, after, h.symm⟩

end OrderedBuild.Text
