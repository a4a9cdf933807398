import Mathlib.Data.List.Induction

namespace OrderedBuild

variable {α β : Type} {xs ys : List α} {p : α} {owes : List α → α → Prop}

theorem eq_take_append_cons_drop {i : Nat} (h : xs[i]? = some p) :
    xs = xs.take i ++ p :: xs.drop (i + 1) := by
  obtain ⟨hlt, hp⟩ := List.getElem?_eq_some_iff.mp h
  rw [← hp, ← List.drop_eq_getElem_cons hlt, List.take_append_drop]

theorem extract_eq_of_suffix_take {n : Nat} (hn : n ≤ xs.length) (h : ys <:+ xs.take n) :
    ys.length ≤ n ∧ xs.extract (n - ys.length) n = ys := by
  have hlen : (xs.take n).length = n := List.length_take_of_le hn
  have hdrop := List.suffix_iff_eq_drop.mp h
  rw [hlen] at hdrop
  refine ⟨hlen ▸ h.length_le, ?_⟩
  rw [List.extract_eq_take_drop, ← List.drop_take]
  exact hdrop.symm

theorem forall_split_concat_iff :
    (∀ before r after, xs ++ [p] = before ++ r :: after → owes before r) ↔
      (∀ before r after, xs = before ++ r :: after → owes before r) ∧ owes xs p := by
  constructor
  · intro h
    refine ⟨fun before r after hr => h before r (after ++ [p]) (by simp [hr]), ?_⟩
    exact h xs p [] rfl
  · rintro ⟨hxs, hp⟩ before r after hr
    rcases List.eq_nil_or_concat after with rfl | ⟨after, b, rfl⟩
    · obtain ⟨rfl, rfl⟩ : xs = before ∧ p = r := by simpa using hr
      exact hp
    · have hr : xs ++ [p] = (before ++ r :: after) ++ [b] := by simpa using hr
      exact hxs before r after (List.append_inj_left' hr rfl)

theorem forall_split_append
    (hxs : ∀ before p after, xs = before ++ p :: after → owes before p)
    (hys : ∀ before p after, ys = before ++ p :: after → owes (xs ++ before) p) :
    ∀ before p after, xs ++ ys = before ++ p :: after → owes before p := by
  induction ys using List.reverseRecOn with
  | nil => simpa using hxs
  | append_singleton ys r ih =>
    obtain ⟨hys, hr⟩ := forall_split_concat_iff.mp hys
    rw [← List.append_assoc]
    exact forall_split_concat_iff.mpr ⟨ih hys, hr⟩

/-- What is owed within each part is owed in all of them together, if more entries before it pay
no less. -/
theorem forall_split_flatMap {parts : List β} {part : β → List α}
    (hfront : ∀ front before p, owes before p → owes (front ++ before) p)
    (h : ∀ x ∈ parts, ∀ before p after, part x = before ++ p :: after → owes before p) :
    ∀ before p after, parts.flatMap part = before ++ p :: after → owes before p := by
  induction parts with
  | nil => simp
  | cons x parts ih =>
    obtain ⟨hx, hparts⟩ := List.forall_mem_cons.mp h
    rw [List.flatMap_cons]
    exact forall_split_append hx fun before p after hp =>
      hfront (part x) before p (ih hparts before p after hp)

end OrderedBuild
