import Tugtainer.Cli.Words
import Tugtainer.Container.MapArgs

/-!
# Health checks

The arguments of the health check should check what the container was checked for. A check
that is disabled is not disabled again, and the arguments of a command are joined with
blanks, so that the shell splits them into the same ones only where none has anything to
quote: `keepsHealthcheck_iff`.
-/

namespace Tugtainer

open Python Cli

/-- A duration of whole seconds is the same number of seconds; none is zero. -/
def KeepsDuration (ns sec : Option ℤ) : Prop :=
  ∀ k, ns.getD 0 = k * 1000000000 → sec.getD 0 = k

/-- The arguments check what the health check checked. -/
structure KeepsHealthcheck (cfg : ContainerHealthCheck) (kwargs : HealthKwargs) : Prop where
  disabled : cfg.test = some ["NONE"] → kwargs.healthcheck = false
  cmd : ∀ arg args, cfg.test = some ("CMD" :: arg :: args) →
    kwargs.healthcheck = true ∧ kwargs.healthCmd.bind words = some (arg :: args)
  cmdShell : ∀ s, cfg.test = some ["CMD-SHELL", s] →
    kwargs.healthcheck = true ∧ kwargs.healthCmd = some s
  interval : KeepsDuration cfg.interval kwargs.healthInterval
  timeout : KeepsDuration cfg.timeout kwargs.healthTimeout
  startPeriod : KeepsDuration cfg.startPeriod kwargs.healthStartPeriod
  retries : kwargs.healthRetries = cfg.retries

theorem keepsDuration_nsToSec (ns : Option ℤ) : KeepsDuration ns (nsToSec ns) := by
  intro k hk
  cases ns with
  | none =>
      have hzero : 0 = k * 1000000000 := hk
      have hk : k = 0 := by omega
      rw [hk]
      rfl
  | some n =>
      have hn : n = k * 1000000000 := hk
      rw [nsToSec]
      split
      next hzero =>
        have hk : k = 0 := by omega
        rw [hk]
        rfl
      next => rw [Option.getD_some, hn, Int.mul_tdiv_cancel _ (by decide)]

section

variable {cfg : ContainerHealthCheck} {kind arg : String} {args : List String}

theorem healthCmd_mapHealthcheckToKwargs (htest : cfg.test = some (kind :: arg :: args))
    (hkind : kind = "CMD" ∨ kind = "CMD-SHELL") :
    (mapHealthcheckToKwargs (some cfg)).healthCmd = some (join " " (arg :: args)) := by
  simp only [mapHealthcheckToKwargs, htest, if_pos hkind]

end

/-- The health check is kept if and only if it is not disabled and, where it is a command,
none of its arguments has anything to quote. -/
theorem keepsHealthcheck_iff (cfg : ContainerHealthCheck) :
    KeepsHealthcheck cfg (mapHealthcheckToKwargs (some cfg)) ↔
      cfg.test ≠ some ["NONE"] ∧
        ∀ args, cfg.test = some ("CMD" :: args) → ∀ a ∈ args, IsPlainWord a := by
  constructor
  · intro h
    refine ⟨fun hnone => Bool.noConfusion (h.disabled hnone), ?_⟩
    intro args htest
    cases args with
    | nil => simp
    | cons arg args =>
        obtain ⟨-, hwords⟩ := h.cmd arg args htest
        rw [healthCmd_mapHealthcheckToKwargs htest (.inl rfl), Option.bind_some] at hwords
        exact (words_join_iff _).1 hwords
  · rintro ⟨hnone, hplain⟩
    exact
      { disabled := fun htest => absurd htest hnone
        cmd := by
          intro arg args htest
          refine ⟨rfl, ?_⟩
          rw [healthCmd_mapHealthcheckToKwargs htest (.inl rfl), Option.bind_some]
          exact (words_join_iff _).2 (hplain _ htest)
        cmdShell := by
          intro s htest
          refine ⟨rfl, ?_⟩
          rw [healthCmd_mapHealthcheckToKwargs htest (.inr rfl)]
          simp [join]
        interval := keepsDuration_nsToSec _
        timeout := keepsDuration_nsToSec _
        startPeriod := keepsDuration_nsToSec _
        retries := rfl }

/-- A disabled check is enabled again, and a command whose argument has a blank becomes
another one. -/
theorem healthcheck_changes :
    (¬ KeepsHealthcheck { test := some ["NONE"] }
        (mapHealthcheckToKwargs (some { test := some ["NONE"] }))) ∧
      words "sh -c exit 1" = some ["sh", "-c", "exit", "1"] ∧
      ¬ KeepsHealthcheck { test := some ["CMD", "sh", "-c", "exit 1"] }
        (mapHealthcheckToKwargs (some { test := some ["CMD", "sh", "-c", "exit 1"] })) := by
  refine ⟨fun h => absurd (h.disabled rfl) (by decide), by decide, fun h => ?_⟩
  obtain ⟨-, hwords⟩ := h.cmd "sh" ["-c", "exit 1"] rfl
  exact absurd hwords (by decide)

end Tugtainer
