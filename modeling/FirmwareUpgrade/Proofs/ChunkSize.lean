import FirmwareUpgrade.Proofs.FirstFault

/-!
# Simulations with chunks of different sizes

An accelerator without faults ends up with the whole image if the image has at most `2 ^ 16` blocks.
With more blocks their numbers wrap around, and the device takes the next block zero for the start of
another image. How much it has lost in the end depends on the size of the chunks, and so does how the
simulation ends.
-/
namespace FirmwareUpgrade

namespace Faults

theorem strike?_none (call : DeviceCall) : none.strike? call = .none := by
  cases call <;> simp [strike?, rejection?, stall?, badStatus?, none]

end Faults

/-- Where nothing is planted nothing is found. -/
theorem Task.finding_none (t : Task) (k : Nat) : t.finding Faults.none k = none :=
  (t.clear_iff _).mpr ⟨fun call _ => Faults.strike?_none call, rfl⟩ k

namespace Simulation

open Session

/-- What is seen of two simulations that end in the same way. -/
structure SameEnd (s s' : Simulation) : Prop where
  phase : s.controller.phase = s'.controller.phase
  lastError : s.controller.lastError = s'.controller.lastError
  memory : s.driver.memory = s'.driver.memory

/-- Without faults a simulation ends well if no byte of the image is lost on the device. Otherwise the
comparison stops behind the bytes that are left. -/
inductive Faultless (s : Simulation) (t : Task) : Prop
  | whole : t.overwritten = 0 → s.controller.phase = .complete → s.controller.lastError = none →
    s.driver.memory = t.image → Faultless s t
  | short : t.overwritten ≠ 0 → s.controller.phase = .error →
    s.controller.lastError = some (.verificationMismatch (t.image.size - t.overwritten)) →
    s.driver.memory = t.image.extract t.overwritten t.image.size → Faultless s t

theorem faultless_run (t : Task) (hi : t.interface = Accelerator.interface) (deferred : Bool) :
    Faultless (run t.image t.config Faults.none deferred) t := by
  obtain ⟨hended, -⟩ := ended_run t hi Faults.none deferred
  cases hended with
  | done hp he _ hspared =>
    have hmemory : (run t.image t.config Faults.none deferred).driver.memory = t.kept :=
      hspared.memory
    rw [t.kept_of_overwritten_eq_zero hspared.whole] at hmemory
    exact .whole hspared.whole hp he hmemory
  | failed cause hfailed hstopped =>
    obtain ⟨k, -, -, hfound | ⟨hlost, rfl⟩⟩ := hstopped.place
    · rw [t.finding_none k] at hfound
      cases hfound
    · have hmemory : (run t.image t.config Faults.none deferred).driver.memory = t.kept :=
        hstopped.compared _ rfl
      have herror := hfailed.lastError
      rw [t.size_kept] at herror
      exact .short hlost hfailed.phase herror (hmemory.trans t.kept_eq)

theorem Faultless.sameEnd_iff {s s' : Simulation} {t t' : Task} (h : Faultless s t)
    (h' : Faultless s' t') (himage : t.image = t'.image) :
    SameEnd s s' ↔ t.overwritten = t'.overwritten := by
  have hle := t.overwritten_le
  have hle' := t'.overwritten_le
  cases h with
  | whole hz hp he hm =>
    cases h' with
    | whole hz' hp' he' hm' =>
      exact iff_of_true ⟨hp.trans hp'.symm, he.trans he'.symm, hm.trans (himage.trans hm'.symm)⟩
        (hz.trans hz'.symm)
    | short hlost hp' _ _ =>
      refine iff_of_false (fun hsame => ?_) (by omega)
      rw [hsame.phase, hp'] at hp
      cases hp
  | short hlost hp he hm =>
    cases h' with
    | whole hz' hp' _ _ =>
      refine iff_of_false (fun hsame => ?_) (by omega)
      rw [hsame.phase, hp'] at hp
      cases hp
    | short hlost' hp' he' hm' =>
      rw [himage] at hle he hm
      constructor
      · intro hsame
        have hoffset := hsame.lastError
        rw [he, he', Option.some.injEq, UpgradeError.verificationMismatch.injEq] at hoffset
        omega
      · intro hsame
        exact ⟨hp.trans hp'.symm, by rw [he, he', hsame], by rw [hm, hm', hsame]⟩

/-- Two simulations without faults that differ in the size of the chunks end in the same way exactly if
the device loses the same number of bytes in both. It loses none if the image has at most `2 ^ 16`
blocks, and then the simulation is complete and the device holds the image. -/
theorem chunkSize_immaterial_iff (image : Bytes) (config : Config) (c c' : UInt16)
    (deferred deferred' : Bool) :
    let t : Task := ⟨image, { config with chunkSize := c }, Accelerator.interface⟩
    let t' : Task := ⟨image, { config with chunkSize := c' }, Accelerator.interface⟩
    let s := run image t.config Faults.none deferred
    let s' := run image t'.config Faults.none deferred'
    (SameEnd s s' ↔ t.overwritten = t'.overwritten) ∧
      (t.overwritten = 0 ↔ t.blockCount ≤ 65536) ∧
      (t.overwritten = 0 ↔ s.controller.phase = .complete ∧ s.controller.lastError = none ∧
        s.driver.memory = image) := by
  intro t t' s s'
  have h : Faultless s t := faultless_run t rfl deferred
  refine ⟨h.sameEnd_iff (faultless_run t' rfl deferred') rfl, t.overwritten_eq_zero_iff, ?_⟩
  cases h with
  | whole hz hp he hm => exact iff_of_true hz ⟨hp, he, hm⟩
  | short hlost hp _ _ =>
    refine iff_of_false hlost fun hend => ?_
    rw [hp] at hend
    cases hend.1

/-- With chunks of one byte the last of `65537` bytes goes into another block zero, and the device is
left with this byte alone. Chunks of 256 bytes do no harm. -/
theorem exists_chunkSize_matters :
    let image : Bytes := Array.replicate 65537 0
    let s := run image { Config.standard with chunkSize := 1 } Faults.none false
    let s' := run image { Config.standard with chunkSize := 256 } Faults.none false
    ¬SameEnd s s' ∧ s.controller.lastError = some (.verificationMismatch 1) ∧
      s.driver.memory = #[0] ∧ s'.controller.phase = .complete ∧ s'.driver.memory = image := by
  intro image s s'
  let t : Task := ⟨image, { Config.standard with chunkSize := 1 }, Accelerator.interface⟩
  let t' : Task := ⟨image, { Config.standard with chunkSize := 256 }, Accelerator.interface⟩
  have hsize : image.size = 65537 := Array.size_replicate
  have hlost : t.overwritten = 65536 := by
    have hblock : t.blockSize = 1 := rfl
    simp [Task.overwritten, Task.restart, Task.blockCount, hblock, show t.image.size = 65537 from hsize]
  have hwhole : t'.overwritten = 0 := by
    have hblock : t'.blockSize = 256 := rfl
    rw [t'.overwritten_eq_zero_iff, Task.blockCount, hblock, show t'.image.size = 65537 from hsize]
    decide
  have h : Faultless s t := faultless_run t rfl false
  have h' : Faultless s' t' := faultless_run t' rfl false
  have hdiffer : ¬SameEnd s s' := by
    rw [h.sameEnd_iff h' rfl, hlost, hwhole]
    decide
  cases h with
  | whole hz _ _ _ => omega
  | short _ _ he hm =>
    cases h' with
    | short hz _ _ _ => exact absurd hwhole hz
    | whole _ hp' _ hm' =>
      rw [hlost, show t.image.size = 65537 from hsize] at he hm
      refine ⟨hdiffer, he, hm.trans ?_, hp', hm'⟩
      show (Array.replicate 65537 (0 : UInt8)).extract 65536 65537 = #[0]
      rw [Array.extract_replicate]
      rfl

end Simulation

end FirmwareUpgrade
