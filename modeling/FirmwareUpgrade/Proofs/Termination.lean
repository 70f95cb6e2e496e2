import FirmwareUpgrade.Proofs.Draining
import FirmwareUpgrade.Proofs.FirstFault

/-!
# A simulation comes to an end

A simulation is a loop around a loop: the worker handles requests until none waits, among them
those that are sent meanwhile, then the accelerator calls the oldest completion that it holds, and
so on until it holds none. The loops are written down without any bound. `Worker.Drains` and `Loops`
say that a loop came to an end, in how many requests, and in which state; a loop that goes on
forever has no such end. With the accelerator plugged in there always is one, as there is a bound on
the requests that are left (`Session.Paced`), and the bounds that a run is given do not cut it short.
-/
namespace FirmwareUpgrade

namespace Simulation

open Session

variable {image : Bytes} {config : Config} {s : Rig Empty} {i j k : Simulation} {m n : Nat}

/-! ## The loops -/

/-- The worker handles what waits, and that is reported. -/
def Rounds (i : Simulation) (n : Nat) (j : Simulation) : Prop :=
  ∃ worker, i.worker.Drains (Session.handle Accelerator.driver) n worker ∧
    j = ({ i with worker }.note (.handled n)).note
      (.roundFinished n worker.service.state.controller.phase)

/-- Rounds alternate with completions, until a round leaves none to be called. `n` requests are
handled in all. -/
inductive Loops : Simulation → Nat → Simulation → Prop
  | stop {i j : Simulation} {n : Nat} : Rounds i n j → j.driver.held = [] → Loops i n j
  | again {i j k : Simulation} {m n : Nat} : Rounds i m j → j.driver.held ≠ [] →
    Loops (j.deliverNext Accelerator.backlog) n k → Loops i (m + n) k

theorem Rounds.unique (h : Rounds i n j) (h' : Rounds i m k) : m = n ∧ k = j := by
  obtain ⟨v, hv, rfl⟩ := h
  obtain ⟨w, hw, rfl⟩ := h'
  obtain ⟨rfl, rfl⟩ := hv.unique hw
  exact ⟨rfl, rfl⟩

theorem Loops.unique (h : Loops i n j) : ∀ {m : Nat} {k : Simulation},
    Loops i m k → m = n ∧ k = j := by
  induction h with
  | stop hround hheld =>
    intro m k h'
    cases h' with
    | stop hround' => exact hround.unique hround'
    | again hround' hheld' =>
      obtain ⟨-, rfl⟩ := hround.unique hround'
      exact absurd hheld hheld'
  | again hround hheld _ ih =>
    intro m k h'
    cases h' with
    | stop hround' hheld' =>
      obtain ⟨-, rfl⟩ := hround.unique hround'
      exact absurd hheld' hheld
    | again hround' _ h' =>
      obtain ⟨rfl, rfl⟩ := hround.unique hround'
      obtain ⟨rfl, rfl⟩ := ih h'
      exact ⟨rfl, rfl⟩

/-! ## Their ends -/

/-- A round that leaves nothing waiting was not cut short. -/
theorem rounds_round (h : (round j).channel.waiting = []) :
    Rounds j (j.drain Accelerator.driver).2 (round j) := by
  obtain ⟨n, hdrains, hcount⟩ :
      ∃ n, j.worker.Drains (Session.handle Accelerator.driver) n
          (j.worker.drain (Session.handle Accelerator.driver) j.drainBudget 0).1 ∧
        (j.worker.drain (Session.handle Accelerator.driver) j.drainBudget 0).2 = 0 + n :=
    Worker.drains_of_drain j.drainBudget h
  obtain rfl : (j.drain Accelerator.driver).2 = n := hcount.trans (Nat.zero_add n)
  exact ⟨_, hdrains, rfl⟩

/-- The loop is left behind a round that leaves nothing to do. -/
theorem loops_of_idle (hrest : (round j).channel.waiting = []) (hheld : (round j).driver.held = [])
    (fuel count : Nat) : Loops j (j.drain Accelerator.driver).2
      (Installation.settleFrom round Accelerator.backlog fuel j count).1 := by
  rw [settleFrom_of_idle hheld]
  exact .stop (rounds_round hrest) hheld

/-- Where completions are held back the loop comes to an end, and any bound that is large enough
leads there. Every round brings the simulation nearer to it, or leaves no completion to be
called. -/
theorem loops_settleFrom (fuel : Nat) :
    ∀ {s : Rig Empty} {n : Nat} {j : Simulation} (count : Nat), Level s j.session →
      Served Accelerator.driver image config s → Paced s n → n ≤ 8 * image.size + 16 → n ≤ fuel →
      ∃ m ≤ n, Loops j m (Installation.settleFrom round Accelerator.backlog fuel j count).1 := by
  induction fuel with
  | zero =>
    intro s n j count h hserved hpaced hn hle
    obtain ⟨k, u, -, -, rfl, ⟨hk, hrest, hlevel⟩ | ⟨⟨m, hm, -⟩, -⟩⟩ :=
      level_round h hserved hpaced hn
    · have hnone := List.map_eq_nil_iff.mp (hlevel.requests_eq.symm.trans hrest)
      exact ⟨_, hk, loops_of_idle hnone hlevel.held.2 0 count⟩
    · omega
  | succ fuel ih =>
    intro s n j count h hserved hpaced hn hle
    obtain ⟨k, u, -, hu, rfl, ⟨hk, hrest, hlevel⟩ | ⟨⟨m, hm, hkm, hpaced'⟩, hapart⟩⟩ :=
      level_round h hserved hpaced hn
    · have hnone := List.map_eq_nil_iff.mp (hlevel.requests_eq.symm.trans hrest)
      exact ⟨_, hk, loops_of_idle hnone hlevel.held.2 (fuel + 1) count⟩
    · obtain ⟨-, -, -, -, -, hrest, -⟩ := id hapart
      have hround := rounds_round (List.map_eq_nil_iff.mp hrest)
      obtain ⟨x, r, d, htake, hlevel⟩ := hapart.level
      rw [← Installation.session_deliverNext htake] at hlevel
      obtain ⟨l, hl, hloops⟩ := ih (count + 1) hlevel hu hpaced' (by omega) (by omega)
      have hheld : (round j).driver.held ≠ [] := fun hnone => by
        simp [Accelerator.takeHeld, hnone] at htake
      rw [settleFrom_of_held htake]
      exact ⟨_, by omega, .again hround hheld hloops⟩

/-- Where completions are called at once a single round is enough. -/
theorem loops_run_of_prompt (image : Bytes) (config : Config) (faults : Faults) :
    ∃ n ≤ 8 * image.size + 16,
      Loops (plugged image config faults false) n (run image config faults false) := by
  obtain ⟨n, u, hn, hworks, hrest, -, hend⟩ := works_run image config faults
  obtain ⟨hservice, hcount⟩ :=
    hworks.drain hrest 0 (w := (plugged image config faults false).worker) rfl
      (hn.trans (le_drainBudget_plugged ..))
  have hidle : (round (plugged image config faults false)).channel.waiting = [] := by
    refine Eq.trans ?_ (List.map_eq_nil_iff.mp hrest)
    exact congrArg (·.channel.waiting) hservice
  have hheld : (round (plugged image config faults false)).driver.held = [] :=
    (congrArg (·.state.driver.held) hservice).trans hend.held.1
  obtain rfl := hcount.trans (Nat.zero_add n)
  exact ⟨_, hn, loops_of_idle hidle hheld _ 0⟩

theorem loops_run (image : Bytes) (config : Config) (faults : Faults) (deferred : Bool) :
    ∃ n ≤ 8 * image.size + 16,
      Loops (plugged image config faults deferred) n (run image config faults deferred) := by
  cases deferred with
  | false => exact loops_run_of_prompt image config faults
  | true =>
    obtain ⟨hlevel, hserved, hpaced⟩ := level_plugged image config faults
    exact loops_settleFrom _ 0 hlevel hserved hpaced le_rfl (le_settleBudget_plugged ..)

/-- For any image, settings and faults, and whether or not the accelerator holds its completions
back, the loops of a simulation come to an end, which is the one that a run arrives at. They handle
a number of requests that grows with the image, and there is no other way for them to go. In the end
no request waits and no completion is held, and the upgrade is complete or has failed. -/
theorem run_terminates (image : Bytes) (config : Config) (faults : Faults) (deferred : Bool) :
    let start := plugged image config faults deferred
    let final := run image config faults deferred
    (∃ n ≤ 8 * image.size + 16, Loops start n final ∧
        ∀ m j, Loops start m j → m = n ∧ j = final) ∧
      final.channel.waiting = [] ∧ final.driver.held = [] ∧
      (final.controller.phase = .complete ∨ final.controller.phase = .error) := by
  intro start final
  obtain ⟨n, hn, hloops⟩ := loops_run image config faults deferred
  obtain ⟨hended, hwaiting⟩ : Ended final.session ⟨image, config, Accelerator.interface⟩ faults ∧
      final.channel.waiting = [] :=
    ended_run ⟨image, config, Accelerator.interface⟩ rfl faults deferred
  refine ⟨⟨n, hn, hloops, fun m j hj => hloops.unique hj⟩, hwaiting, ?_⟩
  cases hended with
  | failed cause hfailed hstopped => exact ⟨hstopped.held, .inr hfailed.phase⟩
  | done hphase _ _ hspared => exact ⟨hspared.held, .inl hphase⟩

end Simulation

end FirmwareUpgrade
