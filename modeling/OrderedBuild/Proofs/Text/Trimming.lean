import Mathlib.Data.List.Basic
import OrderedBuild.Text.Blank

namespace OrderedBuild.Text

variable {cs m xs ys : List Char} {s : String} {sep : Char}

/-- What spans a separator holds it. -/
theorem infix_append_cons_iff (h : sep ∉ m) : m <:+: xs ++ sep :: ys ↔ m <:+: xs ∨ m <:+: ys := by
  have hempty : ∀ l, sep ∉ l → l <+: sep :: ys → l = [] := by
    intro l hl hp
    rcases List.prefix_cons_iff.mp hp with rfl | ⟨l', rfl, -⟩
    · rfl
    · exact absurd List.mem_cons_self hl
  rw [List.infix_append_iff, List.infix_cons_iff]
  constructor
  · rintro (hx | (hp | hy) | ⟨l, l', rfl, hs, hp⟩)
    · exact .inl hx
    · rw [hempty m h hp]
      exact .inl List.nil_infix
    · exact .inr hy
    · rw [hempty l' (fun hl => h (List.mem_append_right l hl)) hp, List.append_nil]
      exact .inl hs.isInfix
  · rintro (hx | hy)
    · exact .inl hx
    · exact .inr (.inl (.inr hy))

structure Trimmed (cs : List Char) : Prop where
  head : ∀ c ∈ cs.head?, ¬ isBlank c
  last : ∀ c ∈ cs.getLast?, ¬ isBlank c

theorem trimmed_iff :
    Trimmed cs ↔ cs.head?.all (!isBlank ·) ∧ cs.getLast?.all (!isBlank ·) := by
  have hall : ∀ o : Option Char, (∀ c ∈ o, ¬ isBlank c) ↔ o.all (!isBlank ·) := by
    simp [Option.all_eq_true]
  exact ⟨fun h => ⟨(hall _).mp h.head, (hall _).mp h.last⟩,
    fun h => ⟨(hall _).mpr h.1, (hall _).mpr h.2⟩⟩

instance (cs : List Char) : Decidable (Trimmed cs) :=
  decidable_of_iff _ trimmed_iff.symm

theorem Trimmed.append_cons (hx : Trimmed xs) (hy : Trimmed ys) (hxs : xs ≠ []) (hys : ys ≠ []) :
    Trimmed (xs ++ sep :: ys) := by
  constructor
  · rw [List.head?_append_of_ne_nil _ hxs]
    exact hx.head
  · rw [List.append_cons, List.getLast?_append_of_ne_nil _ hys]
    exact hy.last

theorem head_trimStart (cs : List Char) : ∀ c ∈ (trimStart cs).head?, ¬ isBlank c := by
  intro c hc
  have h := List.head?_dropWhile_not isBlank cs
  unfold trimStart at hc
  rw [Option.mem_def.mp hc] at h
  simpa using h

theorem exists_blanks_append_trimStart (cs : List Char) :
    ∃ blanks, (∀ c ∈ blanks, isBlank c) ∧ blanks ++ trimStart cs = cs :=
  ⟨cs.takeWhile isBlank, List.all_eq_true.mp List.all_takeWhile, List.takeWhile_append_dropWhile⟩

theorem trimStart_suffix (cs : List Char) : trimStart cs <:+ cs :=
  List.dropWhile_suffix _

theorem trimEnd_prefix (cs : List Char) : trimEnd cs <+: cs := by
  have h := trimStart_suffix cs.reverse
  rwa [← List.reverse_prefix, List.reverse_reverse] at h

theorem infix_trimStart_iff (h : ∀ c ∈ m.head?, ¬ isBlank c) :
    m <:+: trimStart cs ↔ m <:+: cs := by
  refine ⟨fun hm => hm.trans (trimStart_suffix cs).isInfix, fun hm => ?_⟩
  obtain ⟨blanks, hblanks, hsplit⟩ := exists_blanks_append_trimStart cs
  have hempty : ∀ l, l <:+: blanks → (∀ c ∈ l.head?, ¬ isBlank c) → l = [] := by
    intro l hl hhead
    cases l with
    | nil => rfl
    | cons c l => exact absurd (hblanks c (hl.subset List.mem_cons_self)) (hhead c rfl)
  rw [← hsplit, List.infix_append_iff] at hm
  rcases hm with hm | hm | ⟨l, l', rfl, hs, hp⟩
  · rw [hempty m hm h]
    exact List.nil_infix
  · exact hm
  · -- What stands before the first character that is kept is blank, and the part begins otherwise.
    obtain rfl : l = [] :=
      hempty l hs.isInfix fun c hc => h c (List.mem_head?_append_of_mem_head? hc)
    exact hp.isInfix

theorem infix_trimEnd_iff (h : ∀ c ∈ m.getLast?, ¬ isBlank c) :
    m <:+: trimEnd cs ↔ m <:+: cs := by
  have hhead : ∀ c ∈ m.reverse.head?, ¬ isBlank c := by rwa [List.head?_reverse]
  rw [← List.reverse_infix, trimEnd, List.reverse_reverse, infix_trimStart_iff hhead,
    List.reverse_infix]

theorem infix_trim_iff (s : String) (h : Trimmed m) : m <:+: (trim s).toList ↔ m <:+: s.toList := by
  rw [trim, String.toList_ofList, infix_trimEnd_iff h.last, infix_trimStart_iff h.head]

theorem trimmed_trim (s : String) : Trimmed (trim s).toList := by
  rw [trim, String.toList_ofList]
  constructor
  · intro c hc
    obtain ⟨rest, hrest⟩ := trimEnd_prefix (trimStart s.toList)
    apply head_trimStart s.toList c
    rw [← hrest]
    exact List.mem_head?_append_of_mem_head? hc
  · intro c hc
    rw [trimEnd, List.getLast?_reverse] at hc
    exact head_trimStart _ c hc

theorem trim_eq_empty_iff : trim s = "" ↔ ∀ c ∈ s.toList, isBlank c := by
  have hrest : trim s = "" ↔ ∀ c ∈ trimStart s.toList, isBlank c := by
    rw [← String.toList_eq_nil_iff, trim, String.toList_ofList, trimEnd, List.reverse_eq_nil_iff,
      trimStart_eq_nil_iff]
    simp only [List.mem_reverse]
  rw [hrest]
  constructor
  · intro h
    obtain ⟨blanks, hblanks, hsplit⟩ := exists_blanks_append_trimStart s.toList
    rw [← hsplit]
    exact List.forall_mem_append.mpr ⟨hblanks, h⟩
  · exact fun h c hc => h c ((trimStart_suffix _).subset hc)

end OrderedBuild.Text
