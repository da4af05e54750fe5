import DataMethods.Settings.Build
import DataMethods.Settings.Process
import Mathlib.Data.List.Induction

/-!
# Kept settings

What a process answers when it is asked for its settings depends on all that has happened to it. The
last request that was granted still counts, unless the settings were forgotten since then, and
whatever became of the environment. In all other histories the settings are built from the
environment as it is, and are kept if that succeeds. Nothing is asked of the builder.

## Key results

- `kept_run_eq_some_iff`: a process keeps the settings of such a request and no others
- `settings_after_history`: the answer to a request, and what is kept after it, for every history
-/

namespace DataMethods.SettingsProcess

/-- What may happen to a process: a variable of its environment gets a value or is removed, its
    settings are asked for, or they are forgotten. -/
inductive Step where
  | set (name value : String)
  | unset (name : String)
  | get
  | clear
deriving Repr, DecidableEq

namespace Step

/-- The process after a step. Settings that are asked for are not always granted. -/
def apply (build : Settings.Builder) (p : SettingsProcess) : Step → SettingsProcess
  | .set name value => p.setVariable name value
  | .unset name => p.unsetVariable name
  | .get => (p.settings build).2
  | .clear => p.clear

/-- The environment after a step. -/
def change (env : Environment) : Step → Environment
  | .set name value => env.set name value
  | .unset name => env.unset name
  | .get => env
  | .clear => env

end Step

/-- The process after steps. -/
def run (p : SettingsProcess) (build : Settings.Builder) (steps : List Step) : SettingsProcess :=
  steps.foldl (Step.apply build) p

/-- The environment after steps. -/
def environmentAfter (env : Environment) (steps : List Step) : Environment :=
  steps.foldl Step.change env

/-- A request for the settings was granted, and they have not been forgotten since. -/
def GrantedSince (build : Settings.Builder) (env : Environment) (steps : List Step)
    (s : Settings) : Prop :=
  ∃ earlier since, steps = earlier ++ .get :: since ∧ .clear ∉ since ∧
    (((start env).run build earlier).settings build).1 = .ok s

/-! ## Requests -/

section

variable {build : Settings.Builder} {p : SettingsProcess} {s : Settings}

/-- Kept settings are the answer. -/
theorem settings_of_kept (h : p.kept = some s) : p.settings build = (.ok s, p) := by
  rw [settings, h]

/-- If none are kept they are built, and then kept. -/
theorem settings_of_build (hkept : p.kept = none)
    (hbuild : build [] p.environment = .ok s) :
    p.settings build = (.ok s, ⟨p.environment, some s⟩) := by
  simp only [settings, hkept, hbuild]

/-- A failure leaves the process as it was. -/
theorem settings_of_build_error {problems : List Problem} (hkept : p.kept = none)
    (hbuild : build [] p.environment = .error problems) :
    p.settings build = (.error problems, p) := by
  simp only [settings, hkept, hbuild]

/-- After a request the process keeps what it has answered. -/
theorem kept_settings_eq_some_iff :
    (p.settings build).2.kept = some s ↔ (p.settings build).1 = .ok s := by
  cases hkept : p.kept with
  | some s' =>
    rw [settings_of_kept hkept, hkept]
    simp
  | none =>
    cases hbuild : build [] p.environment with
    | ok s' =>
      rw [settings_of_build hkept hbuild]
      simp
    | error problems =>
      rw [settings_of_build_error hkept hbuild, hkept]
      simp

theorem environment_settings : (p.settings build).2.environment = p.environment := by
  cases hkept : p.kept with
  | some s' => rw [settings_of_kept hkept]
  | none =>
    cases hbuild : build [] p.environment with
    | ok s' => rw [settings_of_build hkept hbuild]
    | error problems => rw [settings_of_build_error hkept hbuild]

end

/-! ## Histories -/

theorem run_concat (build : Settings.Builder) (p : SettingsProcess) (steps : List Step)
    (step : Step) : p.run build (steps ++ [step]) = step.apply build (p.run build steps) :=
  List.foldl_append

/-- Requests and forgetting leave the environment as it is. -/
theorem environment_run (build : Settings.Builder) (p : SettingsProcess) (steps : List Step) :
    (p.run build steps).environment = environmentAfter p.environment steps := by
  induction steps generalizing p with
  | nil => rfl
  | cons step steps ih =>
    have hstep : (step.apply build p).environment = step.change p.environment := by
      cases step with
      | get => exact environment_settings
      | set => rfl
      | unset => rfl
      | clear => rfl
    have hrest : (p.run build (step :: steps)).environment =
        environmentAfter (step.apply build p).environment steps := ih _
    rw [hrest, hstep]
    rfl

section

variable {build : Settings.Builder} {env : Environment} {steps : List Step} {s : Settings}

theorem not_grantedSince_nil : ¬ GrantedSince build env [] s := by
  rintro ⟨earlier, since, hsplit, -⟩
  simp at hsplit

/-- One more step: it is the request itself, or it comes after the request and does not make the
    process forget. -/
theorem grantedSince_concat_iff {step : Step} :
    GrantedSince build env (steps ++ [step]) s ↔
      (step = .get ∧ (((start env).run build steps).settings build).1 = .ok s) ∨
      (step ≠ .clear ∧ GrantedSince build env steps s) := by
  constructor
  · rintro ⟨earlier, since, hsplit, hclear, hgranted⟩
    obtain rfl | ⟨since, last, rfl⟩ := List.eq_nil_or_concat since
    · obtain ⟨rfl, hstep⟩ := List.append_inj' hsplit rfl
      exact .inl ⟨by simpa using hstep, hgranted⟩
    · rw [List.concat_eq_append, ← List.cons_append, ← List.append_assoc] at hsplit
      obtain ⟨rfl, hstep⟩ := List.append_inj' hsplit rfl
      obtain rfl : step = last := by simpa using hstep
      simp only [List.concat_eq_append, List.mem_append, List.mem_singleton, not_or] at hclear
      exact .inr ⟨Ne.symm hclear.2, earlier, since, rfl, hclear.1, hgranted⟩
  · rintro (⟨rfl, hgranted⟩ | ⟨hstep, earlier, since, rfl, hclear, hgranted⟩)
    · exact ⟨steps, [], rfl, List.not_mem_nil, hgranted⟩
    · refine ⟨earlier, since ++ [step], by simp, ?_, hgranted⟩
      simp [hclear, Ne.symm hstep]

/-- A process keeps the settings of the request that still counts, and none if there is no such
    request. -/
theorem kept_run_eq_some_iff :
    ((start env).run build steps).kept = some s ↔ GrantedSince build env steps s := by
  -- By induction on the history, from its beginning to its last step.
  induction steps using List.reverseRecOn with
  | nil =>
    have hnone : ((start env).run build []).kept = none := rfl
    rw [hnone]
    exact iff_of_false (Option.some_ne_none s).symm not_grantedSince_nil
  | append_singleton steps step ih =>
    rw [run_concat, grantedSince_concat_iff, ← ih]
    cases step with
    | set name value => simp [Step.apply, setVariable]
    | unset name => simp [Step.apply, unsetVariable]
    | clear => simp [Step.apply, clear]
    | get =>
      -- A request that counts already has the same answer as this one.
      have hsame (h : ((start env).run build steps).kept = some s) :
          (((start env).run build steps).settings build).1 = .ok s :=
        congrArg Prod.fst (settings_of_kept h)
      simp only [Step.apply, kept_settings_eq_some_iff]
      simpa using hsame

theorem kept_run_eq_none (h : ¬ ∃ s, GrantedSince build env steps s) :
    ((start env).run build steps).kept = none := by
  refine Option.eq_none_iff_forall_ne_some.mpr fun s hs => h ⟨s, ?_⟩
  exact kept_run_eq_some_iff.mp hs

/-- While nothing is asked for, a process that keeps nothing does not begin to. -/
theorem kept_run_of_not_mem_get {p : SettingsProcess} (hkept : p.kept = none)
    (hget : .get ∉ steps) : (p.run build steps).kept = none := by
  induction steps generalizing p with
  | nil => exact hkept
  | cons step steps ih =>
    rw [List.mem_cons, not_or] at hget
    refine ih ?_ hget.2
    cases step with
    | get => exact absurd rfl hget.1
    | set => exact hkept
    | unset => exact hkept
    | clear => rfl

end

/-- The answer to a request for the settings, after every history that began without kept settings,
    whatever builds the settings.

    If a request was granted and the settings have not been forgotten since, they are the answer
    again, whatever the environment has become, and nothing changes. Otherwise the settings are
    built from the environment as it is now. If this succeeds they are the answer and are kept, if
    it fails the problems are the answer and nothing is kept. So once the environment is repaired
    the next request is granted, though nothing was forgotten after the one that failed. -/
theorem settings_after_history (build : Settings.Builder) (env : Environment) (steps : List Step) :
    let p := (start env).run build steps
    p.environment = environmentAfter env steps ∧
    (∀ s, GrantedSince build env steps s → p.settings build = (.ok s, p)) ∧
    ((¬ ∃ s, GrantedSince build env steps s) →
      (∀ s, build [] p.environment = .ok s →
        p.settings build = (.ok s, ⟨p.environment, some s⟩)) ∧
      ∀ problems, build [] p.environment = .error problems →
        p.settings build = (.error problems, ⟨p.environment, none⟩)) ∧
    ∀ problems, (p.settings build).1 = .error problems → ∀ changes s, .get ∉ changes →
      build [] (environmentAfter p.environment changes) = .ok s →
      (((start env).run build (steps ++ .get :: changes)).settings build).1 = .ok s := by
  intro p
  refine ⟨environment_run build (start env) steps, ?granted, ?built, ?repaired⟩
  case granted =>
    intro s hgranted
    exact settings_of_kept (kept_run_eq_some_iff.mpr hgranted)
  case built =>
    intro hnone
    have hkept : p.kept = none := kept_run_eq_none hnone
    refine ⟨fun s hbuild => settings_of_build hkept hbuild, fun problems hbuild => ?_⟩
    rw [settings_of_build_error hkept hbuild, ← hkept]
  case repaired =>
    intro problems hfailed changes s hget hbuild
    -- The request that failed has left nothing that is kept, and the changes do not add to that.
    have hkept : (p.settings build).2.kept = none := by
      refine Option.eq_none_iff_forall_ne_some.mpr fun s' hs' => ?_
      rw [kept_settings_eq_some_iff, hfailed] at hs'
      contradiction
    have hlast : (start env).run build (steps ++ .get :: changes) =
        (p.settings build).2.run build changes := List.foldl_append
    have henv : ((p.settings build).2.run build changes).environment =
        environmentAfter p.environment changes := by
      rw [environment_run, environment_settings]
    rw [hlast, settings_of_build (kept_run_of_not_mem_get hkept hget) (henv ▸ hbuild)]

/-- A variable holds no truth value, so the first request fails. A second variable for the same
    setting repairs this, and a third one comes too late to count. -/
theorem settings_after_history_repaired :
    let broken := [Step.set "REPOGEN_EMIT_OVERRIDE" "maybe"]
    let repair := [Step.set "repogen_emit_override" "no"]
    let repaired := broken ++ .get :: repair
    let late := repaired ++ [.get, .set "Repogen_Emit_Override" "yes"]
    let problems : List Problem := [⟨"emit_override", .unreadableTruth⟩]
    let found : Settings := ⟨"jakarta.annotation.Nonnull", "\t", .pass, false, by decide⟩
    let build := Settings.build
    let after := (start []).run build
    (¬ ∃ s, GrantedSince build [] broken s) ∧
    build [] (after broken).environment = .error problems ∧
    (after broken).settings build = (.error problems, ⟨(after broken).environment, none⟩) ∧
    build [] (environmentAfter (after broken).environment repair) = .ok found ∧
    ((after repaired).settings build).1 = .ok found ∧
    (¬ ∃ s, GrantedSince build [] repaired s) ∧
    build [] (after repaired).environment = .ok found ∧
    (after repaired).settings build = (.ok found, ⟨(after repaired).environment, some found⟩) ∧
    GrantedSince build [] late found ∧ (after late).settings build = (.ok found, after late) := by
  intro broken repair repaired late problems found build after
  obtain ⟨-, -, hbroken, hrepair⟩ := settings_after_history build [] broken
  obtain ⟨-, -, hrepaired, -⟩ := settings_after_history build [] repaired
  obtain ⟨-, hlate, -, -⟩ := settings_after_history build [] late
  have hnone : ¬ ∃ s, GrantedSince build [] broken s := by
    rintro ⟨s, hs⟩
    cases kept_run_eq_some_iff.mpr hs
  have hfails : build [] (after broken).environment = .error problems := by decide +kernel
  have hfailed := (hbroken hnone).2 problems hfails
  have hbuild : build [] (environmentAfter (after broken).environment repair) = .ok found := by
    decide +kernel
  have hgranted : ((after repaired).settings build).1 = .ok found :=
    hrepair problems (congrArg Prod.fst hfailed) repair found (by decide) hbuild
  have hnone' : ¬ ∃ s, GrantedSince build [] repaired s := by
    rintro ⟨s, hs⟩
    have hkept : (after repaired).kept = none := by decide +kernel
    rw [kept_run_eq_some_iff.mpr hs] at hkept
    contradiction
  have hbuild' : build [] (after repaired).environment = .ok found := by decide +kernel
  have hcounts : GrantedSince build [] late found := ⟨repaired, _, rfl, by decide, hgranted⟩
  exact ⟨hnone, hfails, hfailed, hbuild, hgranted, hnone', hbuild', (hrepaired hnone').1 _ hbuild',
    hcounts, hlate _ hcounts⟩

end DataMethods.SettingsProcess
