import FirmwareUpgrade.Proofs.Run

/-!
# The order of the operations

While no device is detached the operations of an upgrade follow its schedule, whatever the driver
answers and whenever it completes them, and each waits for the success of all before it.
-/
namespace FirmwareUpgrade.Installation

variable {δ κ : Type}

/-- The operations of a run without a detach are a prefix of the schedule for the interface that was
bound, and when one is issued the worker has taken up the success of each one before it. -/
theorem calls_prefix_schedule (drv : Driver δ) (driver : δ) (image : Bytes) (config : Config)
    {i : Installation δ κ}
    (h : Run drv (fun m => m.isDetach = false) (new driver image config) i) :
    (calls i.effects = [] ∨ ∃ x, i.controller.boundInterface = some x ∧
      calls i.effects <+: (Task.mk image config x).schedule) ∧
    ∀ n target request x result,
      i.effects[n]? = some (.exchange (.call target request x result)) →
      fulfilled (i.effects.take n) = issued (i.effects.take n) := by
  have hu := h.upholds (T := ⟨image, config, True⟩) (upholds_new driver image config _)
    (fun _ hm _ => hm) (.inl trivial)
  refine ⟨?_, fun n target request x result hn => ?_⟩
  · by_cases hc : calls i.effects = []
    · exact .inl hc
    · exact .inr (hu.course.base.schedule trivial hc)
  · have hs := hu.sound n _ hn
    exact (hs trivial).1

theorem ordinary_calls_prefix_schedule :
    calls ((blank 7).moves obliging (ordinary 7)).effects = [] ∨
      ∃ x, ((blank 7).moves obliging (ordinary 7)).controller.boundInterface = some x ∧
        calls ((blank 7).moves obliging (ordinary 7)).effects <+:
          (Task.mk #[7] .standard x).schedule :=
  (calls_prefix_schedule (i := (blank 7).moves obliging (ordinary 7)) obliging 0 #[7] .standard
    (.of_plays (by decide +kernel))).1

end FirmwareUpgrade.Installation
