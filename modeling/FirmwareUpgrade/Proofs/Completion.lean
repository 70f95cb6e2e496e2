import FirmwareUpgrade.Proofs.Run

/-!
# What completion stands for

A phase change that was queued before a detach is handled after the next attach, if it still waits
then. The upgrade of the new attachment begins with it, and may come to its end without having gone
through the image. It is said here exactly when.
-/
namespace FirmwareUpgrade.Installation

variable {δ κ : Type}

/-- In a run of fewer than `2 ^ 32` operations, the upgrade is complete with all of the image sent
and compared since the class was last initialised exactly if it then began early enough: with the
selection of the interface, the first status check or the first block, or, if the image is empty,
before the device is asked to detach. -/
theorem justified_iff_early (drv : Driver δ) (driver : δ) (image : Bytes) (config : Config)
    {i : Installation δ κ} (h : Run drv (fun _ => True) (new driver image config) i)
    (hk : (calls i.effects).length < 2 ^ 32) {n : Nat}
    (hn : i.effects[n]? = some (.watch .complete)) :
    (Attachment.ofEffects (i.effects.take (n + 1))).Justified image ↔
      Attachment.Early image (Attachment.ofEffects (i.effects.take (n + 1))).opening := by
  rw [length_calls] at hk
  have hu := h.upholds (T := ⟨image, config, False⟩) (upholds_new driver image config _)
    (fun _ _ hT => hT.elim) (.inr hk)
  have hs := hu.sound n _ hn
  have ht : i.effects.take (n + 1) = i.effects.take n ++ [.watch .complete] := by
    rw [List.take_add_one, hn]
    rfl
  rw [ht]
  exact hs

theorem ordinary_justified_iff_early :
    (Attachment.ofEffects (((blank 7).moves obliging (ordinary 7)).effects.take 63)).Justified
        #[7] ↔
      Attachment.Early #[7]
        (Attachment.ofEffects (((blank 7).moves obliging (ordinary 7)).effects.take 63)).opening :=
  justified_iff_early (i := (blank 7).moves obliging (ordinary 7)) (n := 62) obliging 0 #[7]
    .standard (.of_plays (by decide +kernel)) (by decide +kernel)
    (Effect.eq_watch_of_watched? (by decide +kernel))

/-- The device is detached and attached again while the last status reply of the read-back waits to
be handled. The step that the reply leads to is then handled in the new attachment. -/
def staleDetach : List (Move Nat) :=
  [ordinaryTransfer 7,
    [.complete ⟨6, .getStatus⟩ (.ok wellStatus),
      .event dfuVendor dfuProduct Accelerator.host Accelerator.device .detach],
    enumeration, [.work, .work, .work, .work, .work, .work], fulfil 7 .detach #[]].flatten

theorem exists_complete_not_justified :
    ∃ i : Installation Nat Unit, Run obliging (fun _ => True) (blank 7) i ∧
      (calls i.effects).length < 2 ^ 32 ∧
      ∃ n, i.effects[n]? = some (.watch .complete) ∧
        ¬(Attachment.ofEffects (i.effects.take (n + 1))).Justified #[7] :=
  ⟨(blank 7).moves obliging staleDetach, .of_plays (by decide +kernel), by decide +kernel, 76,
    Effect.eq_watch_of_watched? (by decide +kernel), by decide +kernel⟩

end FirmwareUpgrade.Installation
