import OrderedBuild.Package.Table
import OrderedBuild.Proofs.Package.Order
import OrderedBuild.Proofs.Text.ByteOrder

namespace OrderedBuild

namespace Depends

variable {d : Depends} {order xs before rest front back : List String} {p q : String}

/-- An order for building everything lists only packages of the map, each for the first time after
its direct prerequisites. -/
structure SafeOrder (d : Depends) (order : List String) : Prop where
  mem_names : ∀ p ∈ order, p ∈ d.names
  mem_before : ∀ before p after, order = before ++ p :: after → p ∉ before →
    ∀ q ∈ d.prerequisites p, q ∈ before

/-- What a name owes the names listed before it. -/
def Admits (d : Depends) (before : List String) (p : String) : Prop :=
  p ∈ d.names ∧ (p ∉ before → ∀ q ∈ d.prerequisites p, q ∈ before)

theorem safeOrder_nil : d.SafeOrder [] := by
  constructor <;> simp

theorem safeOrder_concat_iff : d.SafeOrder (xs ++ [p]) ↔ d.SafeOrder xs ∧ d.Admits xs p := by
  constructor
  · rintro ⟨hnames, hbefore⟩
    obtain ⟨hxs, hp⟩ := List.forall_mem_append.mp hnames
    obtain ⟨hbefore, hlast⟩ := forall_split_concat_iff.mp hbefore
    exact ⟨⟨hxs, hbefore⟩, hp p List.mem_cons_self, hlast⟩
  · rintro ⟨⟨hnames, hbefore⟩, hp, hlast⟩
    exact {
      mem_names := List.forall_mem_append.mpr ⟨hnames, List.forall_mem_singleton.mpr hp⟩
      mem_before := forall_split_concat_iff.mpr ⟨hbefore, hlast⟩ }

/-- A later occurrence is safe because the first one is. -/
theorem SafeOrder.ordered (h : d.SafeOrder order) : d.Ordered order := by
  rintro before p after rfl q hq
  by_cases hp : p ∈ before
  · obtain ⟨front, back, rfl, hf⟩ := List.eq_append_cons_of_mem hp
    have hfirst := h.mem_before front p (back ++ p :: after) (by simp) hf q hq
    exact List.mem_append_left _ hfirst
  · exact h.mem_before before p after rfl hp q hq

theorem Ordered.safeOrder (h : d.Ordered order) (hnames : ∀ p ∈ order, p ∈ d.names) :
    d.SafeOrder order :=
  ⟨hnames, fun before p after hp _ => h before p after hp⟩

/-- An order that is not safe has a first name that is out of place. -/
theorem exists_not_admits (h : ¬ d.SafeOrder order) :
    ∃ before p after, order = before ++ p :: after ∧ d.SafeOrder before ∧ ¬ d.Admits before p := by
  induction order using List.reverseRecOn with
  | nil => exact absurd safeOrder_nil h
  | append_singleton xs p ih =>
    by_cases hxs : d.SafeOrder xs
    · have hp : ¬ d.Admits xs p := fun hp => h (safeOrder_concat_iff.mpr ⟨hxs, hp⟩)
      exact ⟨xs, p, [], rfl, hxs, hp⟩
    · obtain ⟨before, r, after, rfl, hbefore, hr⟩ := ih hxs
      exact ⟨before, r, after ++ [p], by simp, hbefore, hr⟩

end Depends

namespace DependencyTable

open Depends

variable {d : Depends} {order xs before rest front back : List String} {p q : String}
  {o : Option (List String)} {t : DependencyTable}

/-- Checks the rest of an order by the names before it. -/
def checkAfter (d : Depends) (before : List String) : List String → Except ResolverError Unit
  | [] => .ok ()
  | name :: rest =>
    match d.find? name with
    | none => .error (.unknownPackage name)
    | some deps =>
      if name ∈ before then checkAfter d (before ++ [name]) rest
      else match deps.find? (· ∉ before) with
        | some dep => .error (.unsafeOrder name dep)
        | none => checkAfter d (before ++ [name]) rest

theorem occursBefore_append_iff :
    occursBefore (before ++ rest) before.length q ↔ q ∈ before := by
  rw [← List.isSome_idxOf?]
  unfold occursBefore List.idxOf?
  rw [List.findIdx?_append]
  cases hi : before.findIdx? (· == q) with
  | none => cases rest.findIdx? (· == q) with
    | none => simp
    | some j => simp
  | some i =>
    obtain ⟨hlt, -⟩ := List.findIdx?_eq_some_iff_findIdx_eq.mp hi
    simpa using hlt

theorem not_occursBefore_append : (!occursBefore (before ++ rest) before.length ·) =
    fun q => decide (q ∉ before) := by
  funext q
  have hq : occursBefore (before ++ rest) before.length q ↔ q ∈ before := occursBefore_append_iff
  rw [decide_not, ← decide_eq_decide.mpr hq, Bool.decide_coe]

theorem checkFrom_eq_checkAfter {seen : List String} (hseen : ∀ p, p ∈ seen ↔ p ∈ before) :
    checkFrom d (before ++ rest) seen before.length rest = checkAfter d before rest := by
  induction rest generalizing before seen with
  | nil => rfl
  | cons p rest ih =>
    have hrest {seen : List String} (h : ∀ q, q ∈ seen ↔ q ∈ before ∨ q = p) :
        checkFrom d (before ++ p :: rest) seen (before.length + 1) rest =
          checkAfter d (before ++ [p]) rest := by
      have hlast : checkFrom d (before ++ [p] ++ rest) seen (before ++ [p]).length rest =
          checkAfter d (before ++ [p]) rest := ih fun q => by simp [h q]
      rwa [List.append_assoc, List.singleton_append, List.length_append] at hlast
    rw [checkFrom, checkAfter, not_occursBefore_append]
    cases d.find? p with
    | none => rfl
    | some deps =>
      by_cases hp : p ∈ before
      · have hsame : ∀ q, q ∈ seen ↔ q ∈ before ∨ q = p := fun q => by
          rw [hseen q]
          exact ⟨.inl, fun h => h.elim id (· ▸ hp)⟩
        simp only [if_pos hp, if_pos ((hseen p).mpr hp)]
        exact hrest hsame
      · have hmore : ∀ q, q ∈ seen.insert p ↔ q ∈ before ∨ q = p := fun q => by
          rw [List.mem_insert_iff, hseen q, or_comm]
        have hnew : p ∉ seen := mt (hseen p).mp hp
        cases hlater : deps.find? fun q => decide (q ∉ before) with
        | none => simp only [if_neg hp, if_neg hnew, hlater, hrest hmore]
        | some q => simp only [if_neg hp, if_neg hnew, hlater]

theorem checkOrder_eq_checkAfter (d : Depends) (order : List String) :
    checkOrder d order = checkAfter d [] order := by
  have hcheck : checkFrom d ([] ++ order) [] ([] : List String).length order =
    checkAfter d [] order := checkFrom_eq_checkAfter fun _ => .rfl
  exact hcheck

theorem checkAfter_cons_of_notMem_names (h : p ∉ d.names) :
    checkAfter d before (p :: rest) = .error (.unknownPackage p) := by
  have hf : d.find? p = none := by
    cases hf : d.find? p with
    | none => rfl
    | some deps => exact absurd (mem_names_of_find? hf) h
  simp [checkAfter, hf]

theorem checkAfter_cons_of_mem_names (h : p ∈ d.names) :
    checkAfter d before (p :: rest) =
      if p ∈ before then checkAfter d (before ++ [p]) rest
      else match (d.prerequisites p).find? (· ∉ before) with
        | some q => .error (.unsafeOrder p q)
        | none => checkAfter d (before ++ [p]) rest := by
  obtain ⟨deps, hf⟩ := Option.isSome_iff_exists.mp (contains_iff.mpr h)
  have hdeps : d.prerequisites p = deps := by rw [prerequisites, hf, Option.getD_some]
  have hstep := checkAfter.eq_2 d before p rest
  rw [hf] at hstep
  rw [hdeps]
  exact hstep

theorem checkAfter_cons_of_admits (h : d.Admits before p) :
    checkAfter d before (p :: rest) = checkAfter d (before ++ [p]) rest := by
  rw [checkAfter_cons_of_mem_names h.1]
  by_cases hp : p ∈ before
  · rw [if_pos hp]
  · have hnone : (d.prerequisites p).find? (fun q => decide (q ∉ before)) = none :=
      List.find?_eq_none.mpr fun q hq => by simpa using h.2 hp q hq
    rw [if_neg hp, hnone]

theorem checkOrder_append (h : d.SafeOrder xs) (rest : List String) :
    checkOrder d (xs ++ rest) = checkAfter d xs rest := by
  induction xs using List.reverseRecOn generalizing rest with
  | nil => exact checkOrder_eq_checkAfter d rest
  | append_singleton xs p ih =>
    obtain ⟨hxs, hp⟩ := safeOrder_concat_iff.mp h
    rw [List.append_assoc, List.singleton_append, ih hxs, checkAfter_cons_of_admits hp]

theorem checkOrder_eq_ok (h : d.SafeOrder order) : checkOrder d order = .ok () := by
  rw [← List.append_nil order, checkOrder_append h]
  rfl

theorem exists_checkOrder_eq_error (h : ¬ d.SafeOrder order) :
    ∃ before p after, order = before ++ p :: after ∧ d.SafeOrder before ∧
      ((p ∉ d.names ∧ checkOrder d order = .error (.unknownPackage p)) ∨
        (p ∈ d.names ∧ p ∉ before ∧ ∃ front q back, d.prerequisites p = front ++ q :: back ∧
          (∀ r ∈ front, r ∈ before) ∧ q ∉ before ∧
          checkOrder d order = .error (.unsafeOrder p q))) := by
  obtain ⟨before, p, after, rfl, hbefore, hp⟩ := exists_not_admits h
  refine ⟨before, p, after, rfl, hbefore, ?_⟩
  rw [checkOrder_append hbefore]
  by_cases hnames : p ∈ d.names
  · right
    obtain ⟨hnew, q, hq, hqb⟩ : p ∉ before ∧ ∃ q ∈ d.prerequisites p, q ∉ before := by
      simpa [Admits, hnames] using hp
    have hsome : ((d.prerequisites p).find? fun q => decide (q ∉ before)).isSome :=
      List.find?_isSome.mpr ⟨q, hq, by simpa using hqb⟩
    obtain ⟨r, hr⟩ := Option.isSome_iff_exists.mp hsome
    obtain ⟨hrb, front, back, hdeps, hfront⟩ := List.find?_eq_some_iff_append.mp hr
    refine ⟨hnames, hnew, front, r, back, hdeps, by simpa using hfront, by simpa using hrb, ?_⟩
    rw [checkAfter_cons_of_mem_names hnames, if_neg hnew, hr]
  · exact .inl ⟨hnames, checkAfter_cons_of_notMem_names hnames⟩

theorem checkOrder_eq_ok_iff : checkOrder d order = .ok () ↔ d.SafeOrder order := by
  refine ⟨fun h => ?_, checkOrder_eq_ok⟩
  by_contra hs
  obtain ⟨_, _, _, _, _, ⟨_, he⟩ | ⟨_, _, _, _, _, _, _, _, he⟩⟩ := exists_checkOrder_eq_error hs
  · simp [he] at h
  · simp [he] at h

example : checkOrder diamond ["base", "left", "base", "top", "right"] =
    .error (.unsafeOrder "top" "right") := by decide

theorem undeclared?_eq_none_iff : undeclared? d = none ↔ d.Closed := by
  unfold undeclared?
  rw [closed_iff, List.findSome?_eq_none_iff]
  refine forall₂_congr fun e _ => ?_
  rw [Option.map_eq_none_iff, List.find?_eq_none]
  exact forall₂_congr fun q _ => by simp [contains_iff]

theorem exists_undeclared?_eq_some (h : ¬ d.Closed) :
    ∃ p front q back, d.prerequisites p = front ++ q :: back ∧ (∀ r ∈ front, r ∈ d.names) ∧
      q ∉ d.names ∧ (∀ p' < p, ∀ r ∈ d.prerequisites p', r ∈ d.names) ∧
      undeclared? d = some (p, q) := by
  have hsome : (undeclared? d).isSome :=
    Option.isSome_iff_ne_none.mpr fun hnone => h (undeclared?_eq_none_iff.mp hnone)
  obtain ⟨⟨p, q⟩, hpq⟩ := Option.isSome_iff_exists.mp hsome
  have hfirst := hpq
  unfold undeclared? at hfirst
  obtain ⟨es, ⟨p', deps⟩, es', hes, hfound, hnone⟩ := List.findSome?_eq_some_iff.mp hfirst
  obtain ⟨q', hq, hpq'⟩ := Option.map_eq_some_iff.mp hfound
  obtain ⟨rfl, rfl⟩ : p' = p ∧ q' = q := by simpa using hpq'
  obtain ⟨hqn, front, back, hdeps, hfront⟩ := List.find?_eq_some_iff_append.mp hq
  have hmem : (p', deps) ∈ d.entries := by simp [hes]
  refine ⟨p', front, q', back, ?_, ?_, ?_, ?_, hpq⟩
  · exact (prerequisites_of_mem_entries hmem).trans hdeps
  · exact fun r hr => contains_iff.mp (by simpa using hfront r hr)
  · exact fun hqm => by simp [contains_iff.mpr hqm] at hqn
  · intro r hr x hx
    obtain ⟨deps', hf⟩ := exists_find?_of_mem_prerequisites hx
    have hrm := find?_eq_some_iff.mp hf
    have hclean := hnone _ (mem_of_entries_eq_append hes hrm hr)
    rw [Option.map_eq_none_iff, List.find?_eq_none] at hclean
    rw [prerequisites_of_mem_entries hrm] at hx
    exact contains_iff.mp (by simpa using hclean x hx)

theorem ofDepends_of_undeclared? (h : undeclared? d = some (p, q)) :
    ofDepends d o = .error (.missingDependency p q) := by
  unfold ofDepends
  rw [h]

theorem ofDepends_of_topologicalOrder_eq_error {e : ResolverError} (hd : d.Closed)
    (h : d.topologicalOrder = .error e) : ofDepends d o = .error e := by
  unfold ofDepends
  rw [undeclared?_eq_none_iff.mpr hd, h]
  rfl

theorem ofDepends_none (hd : d.Closed) (h : d.topologicalOrder = .ok xs) :
    ofDepends d none = .ok ⟨d, xs⟩ := by
  unfold ofDepends
  rw [undeclared?_eq_none_iff.mpr hd, h]
  rfl

theorem ofDepends_some (hd : d.Closed) (h : d.topologicalOrder = .ok xs) :
    ofDepends d (some order) = (checkOrder d order).map fun _ => ⟨d, order⟩ := by
  unfold ofDepends
  rw [undeclared?_eq_none_iff.mpr hd, h]
  simp only [bind, Except.bind]
  cases checkOrder d order with
  | error e => rfl
  | ok u => rfl

structure Sound (t : DependencyTable) : Prop where
  closed : t.depends.Closed
  acyclic : t.depends.Acyclic
  safeOrder : t.depends.SafeOrder t.defaultOrder

theorem cases_of_ofDepends_eq_ok (h : ofDepends d o = .ok t) :
    t.Sound ∧ t.depends = d ∧ ((o = none ∧ d.topologicalOrder = .ok t.defaultOrder) ∨
      o = some t.defaultOrder) := by
  by_cases hd : d.Closed
  · cases ht : d.topologicalOrder with
    | error e => simp [ofDepends_of_topologicalOrder_eq_error hd ht] at h
    | ok xs =>
      have ha := exists_topologicalOrder_eq_ok_iff.mp ⟨xs, ht⟩
      cases o with
      | none =>
        rw [ofDepends_none hd ht] at h
        obtain rfl := Except.ok.inj h
        have hxs := (ordered_of_topologicalOrder ht).safeOrder fun p =>
          (hd.mem_topologicalOrder_iff ht).mp
        exact ⟨⟨hd, ha, hxs⟩, rfl, .inl ⟨rfl, rfl⟩⟩
      | some order =>
        rw [ofDepends_some hd ht] at h
        by_cases hs : d.SafeOrder order
        · rw [checkOrder_eq_ok hs] at h
          obtain rfl := Except.ok.inj h
          exact ⟨⟨hd, ha, hs⟩, rfl, .inr rfl⟩
        · cases ho : checkOrder d order with
          | error e => simp [ho, Except.map] at h
          | ok u => exact absurd (checkOrder_eq_ok_iff.mp ho) hs
  · obtain ⟨_, _, _, _, _, _, _, _, hu⟩ := exists_undeclared?_eq_some hd
    simp [ofDepends_of_undeclared? hu] at h

theorem exists_ofDepends_eq_ok (hd : d.Closed) (ha : d.Acyclic)
    (ho : ∀ order, o = some order → d.SafeOrder order) : ∃ t, ofDepends d o = .ok t := by
  obtain ⟨xs, hxs⟩ := exists_topologicalOrder_eq_ok_iff.mpr ha
  cases o with
  | none => exact ⟨_, ofDepends_none hd hxs⟩
  | some order =>
    refine ⟨⟨d, order⟩, ?_⟩
    rw [ofDepends_some hd hxs, checkOrder_eq_ok (ho order rfl)]
    rfl

theorem sound_casacore : casacore.Sound := by
  have hs : casacore.depends.SafeOrder casacore.defaultOrder := checkOrder_eq_ok_iff.mp rfl
  have hall : ∀ p ∈ casacore.depends.names, p ∈ casacore.defaultOrder := by decide
  exact ⟨by decide, fun p hp => hs.ordered.not_needs_self (hall p hp.mem_names) hp, hs⟩

/-- The tables that a program can have: those it was given and found in order, and its own. -/
inductive Accepted : DependencyTable → Prop
  | casacore : Accepted casacore
  | ofDepends {d : Depends} {o : Option (List String)} {t : DependencyTable}
      (h : ofDepends d o = .ok t) : Accepted t

theorem Accepted.sound (h : t.Accepted) : t.Sound := by
  cases h with
  | casacore => exact sound_casacore
  | ofDepends h => exact (cases_of_ofDepends_eq_ok h).1

theorem Accepted.of_checkOrder {order : List String} (hd : d.Closed)
    (ht : d.topologicalOrder = .ok xs) (hc : checkOrder d order = .ok ()) :
    Accepted ⟨d, order⟩ := by
  refine .ofDepends (d := d) (o := some order) ?_
  rw [ofDepends_some hd ht, hc]
  rfl

/-- Exactly the safe tables are accepted, as they are given. Of several faults the one blamed is a
prerequisite that is no package, else a cycle, else the first name of the order out of place. -/
theorem ofDepends_accepts_safe_tables (d : Depends) (o : Option (List String)) :
    ((∃ t, ofDepends d o = .ok t) ↔
      d.Closed ∧ (∀ p, ¬ d.Needs p p) ∧ ∀ order, o = some order → d.SafeOrder order) ∧
    (∀ t, ofDepends d o = .ok t → t.depends = d ∧
      (∀ order, o = some order → t.defaultOrder = order) ∧
      (o = none → d.topologicalOrder = .ok t.defaultOrder)) ∧
    (¬ d.Closed → ∃ p front q back, d.prerequisites p = front ++ q :: back ∧
      (∀ r ∈ front, r ∈ d.names) ∧ q ∉ d.names ∧
      (∀ p', Text.bytes p' < Text.bytes p → ∀ r ∈ d.prerequisites p', r ∈ d.names) ∧
      ofDepends d o = .error (.missingDependency p q)) ∧
    (d.Closed → ¬ (∀ p, ¬ d.Needs p p) →
      ∃ cycle, d.IsCycle cycle ∧ ofDepends d o = .error (.circularDependency cycle)) ∧
    ∀ order, o = some order → d.Closed → (∀ p, ¬ d.Needs p p) → ¬ d.SafeOrder order →
      ∃ before p after, order = before ++ p :: after ∧ d.SafeOrder before ∧
        ((p ∉ d.names ∧ ofDepends d o = .error (.unknownPackage p)) ∨
          (p ∈ d.names ∧ p ∉ before ∧ ∃ front q back, d.prerequisites p = front ++ q :: back ∧
            (∀ r ∈ front, r ∈ before) ∧ q ∉ before ∧
            ofDepends d o = .error (.unsafeOrder p q))) := by
  refine ⟨⟨?_, ?_⟩, ?_, ?_, ?_, ?_⟩
  · rintro ⟨t, h⟩
    obtain ⟨⟨hd, ha, hs⟩, rfl, ⟨rfl, -⟩ | rfl⟩ := cases_of_ofDepends_eq_ok h
    · exact ⟨hd, ha, by simp⟩
    · exact ⟨hd, ha, fun order ho => Option.some.inj ho ▸ hs⟩
  · rintro ⟨hd, ha, ho⟩
    exact exists_ofDepends_eq_ok hd ha ho
  · intro t h
    obtain ⟨-, hdep, ⟨rfl, ht⟩ | rfl⟩ := cases_of_ofDepends_eq_ok h
    · exact ⟨hdep, by simp, fun _ => ht⟩
    · exact ⟨hdep, fun order ho => Option.some.inj ho, by simp⟩
  · intro hd
    obtain ⟨p, front, q, back, hdeps, hfront, hq, hleast, hu⟩ := exists_undeclared?_eq_some hd
    exact ⟨p, front, q, back, hdeps, hfront, hq,
      fun p' hp' => hleast p' (Text.bytes_lt_bytes_iff.mp hp'), ofDepends_of_undeclared? hu⟩
  · intro hd ha
    cases ht : d.topologicalOrder with
    | error e =>
      obtain ⟨cycle, rfl, hcycle⟩ := exists_isCycle_of_topologicalOrder_eq_error ht
      exact ⟨cycle, hcycle, ofDepends_of_topologicalOrder_eq_error hd ht⟩
    | ok xs => exact absurd (exists_topologicalOrder_eq_ok_iff.mp ⟨xs, ht⟩) ha
  · rintro order rfl hd ha hs
    obtain ⟨xs, ht⟩ := exists_topologicalOrder_eq_ok_iff.mpr ha
    obtain ⟨before, p, after, ho, hbefore, hfault⟩ := exists_checkOrder_eq_error hs
    refine ⟨before, p, after, ho, hbefore, ?_⟩
    rw [ofDepends_some hd ht]
    rcases hfault with ⟨hp, he⟩ | ⟨hp, hnew, front, q, back, hdeps, hfront, hq, he⟩
    · exact .inl ⟨hp, by rw [he]; rfl⟩
    · exact .inr ⟨hp, hnew, front, q, back, hdeps, hfront, hq, by rw [he]; rfl⟩

theorem ofDepends_diamond_accepts_repeated_names :
    ∃ t, ofDepends diamond (some ["base", "left", "base"]) = .ok t ∧ t.depends = diamond ∧
      t.defaultOrder = ["base", "left", "base"] := by
  have hsafe : diamond.SafeOrder ["base", "left", "base"] := checkOrder_eq_ok_iff.mp rfl
  have hacyclic : diamond.Acyclic :=
    exists_topologicalOrder_eq_ok_iff.mp ⟨["base", "left", "right", "top"], by decide +kernel⟩
  obtain ⟨haccepts, hkeeps, -⟩ :=
    ofDepends_accepts_safe_tables diamond (some ["base", "left", "base"])
  obtain ⟨t, ht⟩ := haccepts.mpr ⟨by decide, hacyclic, fun order ho => Option.some.inj ho ▸ hsafe⟩
  obtain ⟨hdepends, horder, -⟩ := hkeeps t ht
  exact ⟨t, ht, hdepends, horder _ rfl⟩

end DependencyTable

end OrderedBuild
