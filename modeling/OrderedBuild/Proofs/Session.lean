import OrderedBuild.Proofs.BuildConfig.Locations
import OrderedBuild.Proofs.Package.Table
import OrderedBuild.Session

namespace OrderedBuild

variable {α β : Type} {notes notes' : List Message}

namespace Noting

variable {x : Noting α} {f : α → Noting β} {a a' : α} {b : β}

theorem exists_of_bind_eq_ok (h : (x >>= f).run.run notes = (.ok b, notes')) :
    ∃ a between, x.run.run notes = (.ok a, between) ∧
      (f a).run.run between = (.ok b, notes') := by
  rw [ExceptT.run_bind, StateT.run_bind] at h
  rcases hx : x.run.run notes with ⟨e | a, between⟩
  · rw [hx] at h
    cases congrArg Prod.fst h
  · rw [hx] at h
    exact ⟨a, between, rfl, h⟩

theorem exists_of_ite_note_eq_ok {p : Prop} [Decidable p] {level : Level} {text : String}
    (h : (if p then note level text >>= fun _ => x else x).run.run notes = (.ok a, notes')) :
    ∃ between, x.run.run between = (.ok a, notes') := by
  by_cases hp : p
  · rw [if_pos hp] at h
    obtain ⟨_, between, -, h⟩ := exists_of_bind_eq_ok h
    exact ⟨between, h⟩
  · rw [if_neg hp] at h
    exact ⟨notes, h⟩

theorem eq_of_pure_eq_ok (h : (pure a : Noting α).run.run notes = (.ok a', notes')) : a = a' := by
  cases congrArg Prod.fst h
  rfl

theorem eq_ok_of_mapError_eq_ok {ε : Type} {r : Except ε α} {g : ε → Failure}
    (h : (liftM (r.mapError g) : Noting α).run.run notes = (.ok a, notes')) : r = .ok a := by
  cases r with
  | error e => cases congrArg Prod.fst h
  | ok a' =>
    cases congrArg Prod.fst h
    rfl

end Noting

theorem Settings.accepted_of_dependencyTable_eq_ok {s : Settings} {t : DependencyTable}
    (h : s.dependencyTable = .ok t) : t.Accepted := by
  unfold dependencyTable at h
  cases hp : s.packages with
  | none =>
    rw [hp] at h
    obtain rfl := Except.ok.inj h
    exact .casacore
  | some p =>
    rw [hp] at h
    exact .ofDepends h

namespace Session

variable {s : Surroundings} {o : Options} {settings : Settings} {sourceRoot : String}
  {t : DependencyTable} {c : BuildConfig} {session : Session}

theorem exists_eq_configure
    (h : (configure s settings sourceRoot t o).run.run notes = (.ok c, notes')) :
    ∃ jobs, c = BuildConfig.configure t (settings.installDefaults sourceRoot) o.args jobs := by
  unfold configure at h
  obtain ⟨_, h⟩ := Noting.exists_of_ite_note_eq_ok h
  cases hj : o.jobs.or settings.build.jobs with
  | none =>
    rw [hj] at h
    exact ⟨none, (Noting.eq_of_pure_eq_ok h).symm⟩
  | some jobs =>
    rw [hj] at h
    exact ⟨some _, (Noting.eq_of_pure_eq_ok h).symm⟩

/-- What a session holds once it has been prepared. -/
structure Prepared (o : Options) (session : Session) : Prop where
  accepted : session.table.Accepted
  config_eq : ∃ defaults jobs,
    session.config = BuildConfig.configure session.table defaults o.args jobs
  plan_eq : BuildPlan.ofRequest session.table session.config.request = .ok session.plan

theorem prepared_of_prepare_eq_ok (h : (prepare s o).run.run notes = (.ok session, notes')) :
    session.Prepared o := by
  unfold prepare at h
  obtain ⟨sourceRoot, _, -, h⟩ := Noting.exists_of_bind_eq_ok h
  obtain ⟨settings, _, -, h⟩ := Noting.exists_of_bind_eq_ok h
  obtain ⟨table, _, htable, h⟩ := Noting.exists_of_bind_eq_ok h
  obtain ⟨config, _, hconfig, h⟩ := Noting.exists_of_bind_eq_ok h
  obtain ⟨plan, _, hplan, h⟩ := Noting.exists_of_bind_eq_ok h
  obtain ⟨_, _, -, h⟩ := Noting.exists_of_bind_eq_ok h
  obtain rfl := Noting.eq_of_pure_eq_ok h
  obtain ⟨jobs, hjobs⟩ := exists_eq_configure hconfig
  exact {
    accepted := Settings.accepted_of_dependencyTable_eq_ok (Noting.eq_ok_of_mapError_eq_ok htable)
    config_eq := ⟨_, jobs, hjobs⟩
    plan_eq := Noting.eq_ok_of_mapError_eq_ok hplan }

end Session

end OrderedBuild
