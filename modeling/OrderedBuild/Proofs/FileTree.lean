import OrderedBuild.FileTree.Query
import OrderedBuild.Proofs.Text.Splitting
import OrderedBuild.Proofs.Traversal

namespace OrderedBuild

namespace FileTree

def Special (name : String) : Prop :=
  name = "" ∨ name = "." ∨ name = ".."

instance : DecidablePred Special :=
  fun name => inferInstanceAs (Decidable (name = "" ∨ name = "." ∨ name = ".."))

/-- Where names lead from a location if all links are followed. Nobody is kept out, and neither
the number of links nor the length of names is limited. -/
inductive Leads (t : FileTree) : Location → List String → Location → Prop
  | nil (here : Location) : Leads t here [] here
  | stay {here l : Location} {name : String} {rest : List String} (hd : t.isDirectoryAt here)
    (hn : name = "" ∨ name = ".") (h : Leads t here rest l) : Leads t here (name :: rest) l
  | up {here l : Location} {rest : List String} (hd : t.isDirectoryAt here)
    (h : Leads t here.dropLast rest l) : Leads t here (".." :: rest) l
  | enter {here l : Location} {name : String} {rest : List String} {n : FileNode}
    (hd : t.isDirectoryAt here) (hs : ¬ Special name) (hn : t.node? (here ++ [name]) = some n)
    (hlink : ∀ target, n ≠ .link target) (h : Leads t (here ++ [name]) rest l) :
    Leads t here (name :: rest) l
  | follow {here l : Location} {name target : String} {rest : List String}
    (hd : t.isDirectoryAt here) (hs : ¬ Special name)
    (hn : t.node? (here ++ [name]) = some (.link target)) (ht : target ≠ "")
    (h : Leads t (if Path.isAbsolute target then [] else here)
      (Text.splitOn '/' target ++ rest) l) : Leads t here (name :: rest) l

/-- Refusals that tell nothing about what a path leads to. -/
inductive Refusal : OsError → Prop
  | permissionDenied : Refusal .permissionDenied
  | nameTooLong : Refusal .nameTooLong
  | tooManyLinks : Refusal .tooManyLinks

variable {t : FileTree} {here l : Location} {names : List String} {links : Nat} {n : FileNode}
  {path : String}

theorem leads_of_walk_eq_ok (h : t.walk true links here names = .ok ⟨l, some n⟩) :
    t.Leads here names l ∧ t.node? l = some n := by
  have hdir {here : Location} (hd : ¬ (!t.isDirectoryAt here) = true) : t.isDirectoryAt here := by
    simpa using hd
  have hspecial {name : String} (h₁ : ¬ name = "") (h₂ : ¬ name = ".") (h₃ : ¬ name = "..") :
      ¬ Special name := fun hs => hs.elim h₁ fun hs => hs.elim h₂ h₃
  fun_induction FileTree.walk t true links here names with
  | case1 links here =>
    obtain ⟨rfl, hn⟩ := Place.mk.inj (Except.ok.inj h)
    exact ⟨.nil here, hn⟩
  | case2 | case4 | case7 | case8 | case9 | case11 | case12 => cases h
  | case10 _ _ _ _ _ _ _ _ _ _ _ _ hlast => simp at hlast
  | case3 links here rest hd ih => exact ⟨.stay (hdir hd) (.inl rfl) (ih h).1, (ih h).2⟩
  | case5 links here rest hd _ _ ih => exact ⟨.stay (hdir hd) (.inr rfl) (ih h).1, (ih h).2⟩
  | case6 links here rest hd _ _ _ ih => exact ⟨.up (hdir hd) (ih h).1, (ih h).2⟩
  | case13 here name rest hd h₁ _ h₂ h₃ _ target hn _ links ht ih =>
    rw [dite_eq_ite] at ih
    exact ⟨.follow (hdir hd) (hspecial h₁ h₂ h₃) hn ht (ih h).1, (ih h).2⟩
  | case14 links here name rest hd h₁ _ h₂ h₃ _ n' hlink hn ih =>
    exact ⟨.enter (hdir hd) (hspecial h₁ h₂ h₃) hn hlink (ih h).1, (ih h).2⟩

section

variable {name target : String} {rest : List String} (hd : t.isDirectoryAt here)

include hd

theorem walk_empty : t.walk true links here ("" :: rest) = t.walk true links here rest := by
  rw [walk]
  simp [hd]

theorem walk_of_isClosedAt (hname : name ≠ "") (hc : t.isClosedAt here) :
    t.walk true links here (name :: rest) = .error .permissionDenied := by
  rw [walk]
  simp [hd, hname, hc]

variable (hc : t.isClosedAt here = false)

include hc

theorem walk_dot : t.walk true links here ("." :: rest) = t.walk true links here rest := by
  rw [walk]
  simp [hd, hc]

theorem walk_up : t.walk true links here (".." :: rest) = t.walk true links here.dropLast rest := by
  rw [walk]
  simp [hd, hc]

variable (hs : ¬ Special name)

include hs

theorem walk_eq : t.walk true links here (name :: rest) =
    if longestName < name.utf8ByteSize then .error .nameTooLong
    else match t.node? (here ++ [name]) with
      | none => if rest.isEmpty then .ok ⟨here ++ [name], none⟩ else .error .notFound
      | some (.link target) =>
        match links with
        | 0 => .error .tooManyLinks
        | links + 1 =>
          if target = "" then .error .notFound
          else t.walk true links (if Path.isAbsolute target then [] else here)
            (Text.splitOn '/' target ++ rest)
      | some _ => t.walk true links (here ++ [name]) rest := by
  obtain ⟨h₁, h₂, h₃⟩ : name ≠ "" ∧ name ≠ "." ∧ name ≠ ".." := by simpa [Special] using hs
  rw [walk]
  cases hn : t.node? (here ++ [name]) with
  | none => simp [hd, hc, h₁, h₂, h₃]
  | some n =>
    cases n with
    | link target => cases links with
      | zero => simp [hd, hc, h₁, h₂, h₃]
      | succ links => simp [hd, hc, h₁, h₂, h₃]
    | _ => simp [hd, hc, h₁, h₂, h₃]

theorem walk_of_long (hlong : longestName < name.utf8ByteSize) :
    t.walk true links here (name :: rest) = .error .nameTooLong := by
  rw [walk_eq hd hc hs, if_pos hlong]

variable (hlength : name.utf8ByteSize ≤ longestName)

include hlength

theorem walk_missing (hn : t.node? (here ++ [name]) = none) (hrest : rest ≠ []) :
    t.walk true links here (name :: rest) = .error .notFound := by
  rw [walk_eq hd hc hs, if_neg (Nat.not_lt.mpr hlength), hn]
  simp [hrest]

theorem walk_enter (hn : t.node? (here ++ [name]) = some n) (hlink : ∀ target, n ≠ .link target) :
    t.walk true links here (name :: rest) = t.walk true links (here ++ [name]) rest := by
  rw [walk_eq hd hc hs, if_neg (Nat.not_lt.mpr hlength), hn]
  cases n with
  | link target => exact absurd rfl (hlink target)
  | _ => rfl

theorem walk_follow_zero (hn : t.node? (here ++ [name]) = some (.link target)) :
    t.walk true 0 here (name :: rest) = .error .tooManyLinks := by
  rw [walk_eq hd hc hs, if_neg (Nat.not_lt.mpr hlength), hn]

theorem walk_follow (hn : t.node? (here ++ [name]) = some (.link target)) (ht : target ≠ "") :
    t.walk true (links + 1) here (name :: rest) =
      t.walk true links (if Path.isAbsolute target then [] else here)
        (Text.splitOn '/' target ++ rest) := by
  rw [walk_eq hd hc hs, if_neg (Nat.not_lt.mpr hlength), hn]
  exact if_neg ht

end

theorem refused_or_open (hd : t.isDirectoryAt here) {name : String} (hs : ¬ Special name)
    (links : Nat) (rest : List String) :
    (t.isClosedAt here = false ∧ name.utf8ByteSize ≤ longestName) ∨
      ∃ e, Refusal e ∧ t.walk true links here (name :: rest) = .error e := by
  cases hc : t.isClosedAt here with
  | true =>
    exact .inr ⟨_, .permissionDenied, walk_of_isClosedAt hd (fun he => hs (.inl he)) hc⟩
  | false =>
    by_cases hlength : name.utf8ByteSize ≤ longestName
    · exact .inl ⟨rfl, hlength⟩
    · exact .inr ⟨_, .nameTooLong, walk_of_long hd hc hs (Nat.lt_of_not_le hlength)⟩

/-- A walk ends where the names lead, or it is refused on the way. -/
theorem walk_of_leads (h : t.Leads here names l) (hn : t.node? l = some n) (links : Nat) :
    t.walk true links here names = .ok ⟨l, some n⟩ ∨
      ∃ e, Refusal e ∧ t.walk true links here names = .error e := by
  -- Each link that is followed leaves one less, so the number left is kept general.
  induction h generalizing links with
  | nil here =>
    left
    rw [walk, hn]
  | @stay here l name rest hd hname h ih =>
    by_cases hempty : name = ""
    · subst name
      rw [walk_empty hd]
      exact ih hn links
    · obtain rfl := hname.resolve_left hempty
      cases hc : t.isClosedAt here with
      | true => exact .inr ⟨_, .permissionDenied, walk_of_isClosedAt hd hempty hc⟩
      | false =>
        rw [walk_dot hd hc]
        exact ih hn links
  | @up here l rest hd h ih =>
    cases hc : t.isClosedAt here with
    | true => exact .inr ⟨_, .permissionDenied, walk_of_isClosedAt hd (by decide) hc⟩
    | false =>
      rw [walk_up hd hc]
      exact ih hn links
  | @enter here l name rest node hd hs hnode hlink h ih =>
    rcases refused_or_open hd hs links rest with ⟨hc, hlength⟩ | hrefused
    · rw [walk_enter hd hc hs hlength hnode hlink]
      exact ih hn links
    · exact .inr hrefused
  | @follow here l name target rest hd hs hnode ht h ih =>
    rcases refused_or_open hd hs links rest with ⟨hc, hlength⟩ | hrefused
    · cases links with
      | zero => exact .inr ⟨_, .tooManyLinks, walk_follow_zero hd hc hs hlength hnode⟩
      | succ links =>
        rw [walk_follow hd hc hs hlength hnode ht]
        exact ih hn links
    · exact .inr hrefused

/-- What a path leads to, links followed. -/
def LeadsTo (t : FileTree) (here : Location) (path : String) (n : FileNode) : Prop :=
  path ≠ "" ∧ ∃ l, t.Leads (if Path.isAbsolute path then [] else here) (Text.splitOn '/' path) l ∧
    t.node? l = some n

def Refuses (t : FileTree) (here : Location) (path : String) : Prop :=
  ∃ e, Refusal e ∧ t.find here path = .error e

theorem locate_eq_ok_iff {p : Place} : t.locate true here path = .ok p ↔
    path ≠ "" ∧ path.utf8ByteSize ≤ longestPath ∧
      t.walk true mostLinks (if Path.isAbsolute path then [] else here) (Text.splitOn '/' path) =
        .ok p := by
  rw [locate]
  by_cases hempty : path = ""
  · simp [hempty]
  · by_cases hlong : longestPath < path.utf8ByteSize
    · simp [hempty, hlong, Nat.not_le.mpr hlong]
    · simp [hempty, hlong, Nat.not_lt.mp hlong]

theorem find_eq_ok_iff :
    t.find here path = .ok (l, n) ↔ t.locate true here path = .ok ⟨l, some n⟩ := by
  rw [find, Traversal.bind_eq_ok_iff]
  constructor
  · rintro ⟨⟨l', n' | n'⟩, hlocate, hnode⟩
    · cases hnode
    · cases hnode
      exact hlocate
  · exact fun hlocate => ⟨_, hlocate, rfl⟩

theorem find_eq_error {e : OsError} (hne : path ≠ "") (hlength : path.utf8ByteSize ≤ longestPath)
    (hwalk : t.walk true mostLinks (if Path.isAbsolute path then [] else here)
      (Text.splitOn '/' path) = .error e) : t.find here path = .error e := by
  rw [find, locate, if_neg hne, if_neg (Nat.not_lt.mpr hlength), hwalk]
  rfl

theorem leadsTo_of_find_eq_ok (h : t.find here path = .ok (l, n)) : t.LeadsTo here path n := by
  obtain ⟨hne, -, hwalk⟩ := locate_eq_ok_iff.mp (find_eq_ok_iff.mp h)
  exact ⟨hne, l, leads_of_walk_eq_ok hwalk⟩

theorem find_of_leadsTo (h : t.LeadsTo here path n) :
    (∃ l, t.find here path = .ok (l, n)) ∨ t.Refuses here path := by
  obtain ⟨hne, l, hleads, hn⟩ := h
  by_cases hlength : path.utf8ByteSize ≤ longestPath
  · rcases walk_of_leads hleads hn mostLinks with hwalk | ⟨e, he, hwalk⟩
    · exact .inl ⟨l, find_eq_ok_iff.mpr (locate_eq_ok_iff.mpr ⟨hne, hlength, hwalk⟩)⟩
    · exact .inr ⟨e, he, find_eq_error hne hlength hwalk⟩
  · refine .inr ⟨_, .nameTooLong, ?_⟩
    rw [find, locate, if_neg hne, if_pos (Nat.lt_of_not_le hlength)]
    rfl

/-- A regular file that the path leads to and that the system does not refuse to look for. -/
def ShowsFile (t : FileTree) (here : Location) (path : String) : Prop :=
  (∃ n, t.LeadsTo here path n ∧ n.isRegular) ∧ ¬ t.Refuses here path

def Shows (t : FileTree) (here : Location) (path : String) : Prop :=
  (∃ n, t.LeadsTo here path n) ∧ ¬ t.Refuses here path

theorem shows_of_showsFile (h : t.ShowsFile here path) : t.Shows here path := by
  obtain ⟨⟨n, hleads, -⟩, hrefuses⟩ := h
  exact ⟨⟨n, hleads⟩, hrefuses⟩

theorem isFile_iff : t.isFile here path ↔ t.ShowsFile here path := by
  unfold isFile
  constructor
  · intro h
    cases hf : t.find here path with
    | error e => simp [hf] at h
    | ok p =>
      refine ⟨⟨p.2, leadsTo_of_find_eq_ok hf, by simpa [hf] using h⟩, ?_⟩
      rintro ⟨e, -, he⟩
      simp [hf] at he
  · rintro ⟨⟨n, hleads, hn⟩, hrefuses⟩
    obtain ⟨l, hf⟩ := (find_of_leadsTo hleads).resolve_right hrefuses
    simpa [hf] using hn

theorem pathExists_iff : t.pathExists here path ↔ t.Shows here path := by
  unfold pathExists
  constructor
  · intro h
    cases hf : t.find here path with
    | error e => simp [hf, Except.isOk, Except.toBool] at h
    | ok p =>
      refine ⟨⟨p.2, leadsTo_of_find_eq_ok hf⟩, ?_⟩
      rintro ⟨e, -, he⟩
      simp [hf] at he
  · rintro ⟨⟨n, hleads⟩, hrefuses⟩
    obtain ⟨l, hf⟩ := (find_of_leadsTo hleads).resolve_right hrefuses
    rw [hf]
    rfl

section

variable {name : String} {rest : List String}

theorem splitOn_dot : Text.splitOn '/' "." = ["."] := by
  decide +kernel

/-- A link to the directory it is in leads nowhere else, however often it is followed. -/
theorem leads_replicate (hd : t.isDirectoryAt here) (hs : ¬ Special name)
    (hn : t.node? (here ++ [name]) = some (.link ".")) (h : t.Leads here rest l) (k : Nat) :
    t.Leads here (List.replicate k name ++ rest) l := by
  induction k with
  | zero => exact h
  | succ k ih =>
    refine .follow hd hs hn (by decide) ?_
    rw [splitOn_dot]
    exact .stay hd (.inr rfl) ih

theorem walk_replicate (hd : t.isDirectoryAt here) (hc : t.isClosedAt here = false)
    (hs : ¬ Special name) (hlength : name.utf8ByteSize ≤ longestName)
    (hn : t.node? (here ++ [name]) = some (.link ".")) {k : Nat} (hk : links < k) :
    t.walk true links here (List.replicate k name ++ rest) = .error .tooManyLinks := by
  obtain ⟨k, rfl⟩ := Nat.exists_eq_add_one_of_ne_zero (Nat.ne_zero_of_lt hk)
  induction links generalizing k with
  | zero => exact walk_follow_zero hd hc hs hlength hn
  | succ links ih =>
    have hk' : links < k := Nat.lt_of_succ_lt_succ hk
    obtain ⟨k, rfl⟩ := Nat.exists_eq_add_one_of_ne_zero (Nat.ne_zero_of_lt hk')
    rw [List.replicate_succ, List.cons_append, walk_follow hd hc hs hlength hn (by decide),
      splitOn_dot]
    exact (walk_dot hd hc).trans (ih k hk')

end

end FileTree

end OrderedBuild
