import FirmwareUpgrade.Accelerator

/-!
# What can come of an operation

What the accelerator does when it is asked for an operation depends on a few of its fields and
changes a few. `respond_frame` says which, and `Submission` lists in what state and with what answer
the accelerator can come out: it refuses the operation, holds the completion back, or calls it at
once. The two demands for a class handle end in one of two ways each.
-/
namespace FirmwareUpgrade

namespace Accelerator

variable {α : Type} (a : Accelerator α)

/-! ## To carry out an operation -/

/-- To carry out an operation concerns the memory, the place of the next upload and the state of the
device, and what comes of it depends on these and the faults. -/
theorem respond_frame {b : Accelerator α} (hfaults : b.faults = a.faults)
    (hmemory : b.memory = a.memory) (hoffset : b.uploadOffset = a.uploadOffset)
    (hstate : b.state = a.state) (request : ClassCall) :
    b.respond request =
      ({ b with
          memory := (a.respond request).1.memory
          uploadOffset := (a.respond request).1.uploadOffset
          state := (a.respond request).1.state },
        (a.respond request).2) := by
  obtain ⟨faults, _, memory, uploadOffset, state, _⟩ := b
  subst hfaults hmemory hoffset hstate
  cases request with
  | dnload block data =>
    unfold respond
    dsimp only
    split
    · rfl
    · split <;> rfl
  | _ => rfl

theorem deferred_respond (request : ClassCall) : (a.respond request).1.deferred = a.deferred := by
  rw [a.respond_frame rfl rfl rfl rfl request]

/-! ## To ask for an operation -/

/-- The operation may go ahead. -/
def Admits (a : Accelerator α) (target : ClassHandle) (request : ClassCall) : Prop :=
  isForeign request = false ∧ a.liveClass = some target ∧
    a.faults.reject ≠ some request.operation

/-- What can come of an operation: it is refused, or its completion held back behind all others, or
called at once. -/
inductive Submission (a : Accelerator α) (target : ClassHandle) (request : ClassCall) (x : α) :
    Accelerator α × Answer α → Prop
  | refused (cause : UsbError) (calls : Array DeviceCall) : ¬a.Admits target request →
    Submission a target request x ({ a with calls }, .refused cause)
  | held (memory : Bytes) (uploadOffset : Nat) (state : UInt8) (calls : Array DeviceCall)
    (notices : List Notice) : a.Admits target request → a.deferred = true →
    Submission a target request x
      ({ a with
          memory, uploadOffset, state, calls
          held := a.held ++ [(x, (a.respond request).2.1)]
          outstanding := a.outstanding + 1
          maxOutstanding := max a.maxOutstanding (a.outstanding + 1) },
        ⟨.ok (), notices, []⟩)
  | called (memory : Bytes) (uploadOffset : Nat) (state : UInt8) (calls : Array DeviceCall)
    (notices : List Notice) : a.Admits target request → a.deferred = false →
    Submission a target request x
      ({ a with
          memory, uploadOffset, state, calls
          maxOutstanding := max a.maxOutstanding (a.outstanding + 1) },
        ⟨.ok (), notices, [(x, (a.respond request).2.1)]⟩)

theorem submission (target : ClassHandle) (request : ClassCall) (x : α) :
    Submission a target request x (a.submit target request x) := by
  unfold submit
  split
  · rename_i hforeign
    exact .refused _ a.calls fun h => by simp [h.1] at hforeign
  rename_i hforeign
  dsimp only
  split
  · rename_i hlive
    exact .refused _ _ fun h => hlive h.2.1
  rename_i hlive
  split
  · rename_i hreject
    exact .refused _ _ fun h => h.2.2 hreject
  rename_i hreject
  have hadmits : a.Admits target request :=
    ⟨Bool.eq_false_iff.mpr hforeign, Decidable.not_not.mp hlive, hreject⟩
  rw [a.respond_frame (b := a.log request.record) rfl rfl rfl rfl request]
  unfold conclude
  dsimp only
  split
  · rename_i hdeferred
    exact .held _ _ _ _ _ hadmits hdeferred
  · rename_i hprompt
    exact .called _ _ _ _ _ hadmits (Bool.eq_false_iff.mpr hprompt)

/-- The same, for those who do not ask what becomes of the memory. -/
theorem submit_cases (target : ClassHandle) (request : ClassCall) (x : α) :
    (a.submit target request x).1.deferred = a.deferred ∧
      ((∃ cause, (a.submit target request x).2 = .refused cause ∧
          (a.submit target request x).1.held = a.held) ∨
        (∃ notices r, (a.submit target request x).2 = ⟨.ok (), notices, []⟩ ∧
          a.deferred = true ∧ (a.submit target request x).1.held = a.held ++ [(x, r)]) ∨
        ∃ notices r, (a.submit target request x).2 = ⟨.ok (), notices, [(x, r)]⟩ ∧
          a.deferred = false ∧ (a.submit target request x).1.held = a.held) := by
  have hs := a.submission target request x
  generalize a.submit target request x = answer at hs ⊢
  cases hs with
  | refused cause => exact ⟨rfl, .inl ⟨cause, rfl, rfl⟩⟩
  | held _ _ _ _ notices _ hd => exact ⟨rfl, .inr (.inl ⟨notices, _, rfl, hd, rfl⟩)⟩
  | called _ _ _ _ notices _ hd => exact ⟨rfl, .inr (.inr ⟨notices, _, rfl, hd, rfl⟩)⟩

/-- Whatever comes of it, the class handle in force stays. -/
theorem liveClass_submit (target : ClassHandle) (request : ClassCall) (x : α) :
    (a.submit target request x).1.liveClass = a.liveClass := by
  have hs := a.submission target request x
  generalize a.submit target request x = answer at hs
  cases hs <;> rfl

theorem init_cases (wanted : DeviceHandle) :
    (∃ cause, a.init wanted = ({ a with calls := a.calls.push .init }, .error cause)) ∨
      a.init wanted =
        ({ a with
            calls := a.calls.push .init
            liveClass := some ⟨a.nextClass⟩
            nextClass := a.nextClass + 1 },
          .ok ⟨a.nextClass⟩) := by
  unfold init
  dsimp only
  split
  · exact .inl ⟨_, rfl⟩
  · exact .inr rfl

/-- The same, for those who ask neither for the calls nor for the number of the next handle. -/
theorem init_answers (wanted : DeviceHandle) :
    (∃ b cause, a.init wanted = (b, .error cause) ∧ b.held = a.held) ∨
      ∃ b target, a.init wanted = (b, .ok target) ∧ b.held = a.held ∧
        b.liveClass = some target := by
  rcases a.init_cases wanted with ⟨cause, h⟩ | h
  · exact .inl ⟨_, cause, h, rfl⟩
  · exact .inr ⟨_, _, h, rfl, rfl⟩

theorem deinit_cases (target : ClassHandle) :
    a.liveClass ≠ some target ∧
        a.deinit target = ({ a with calls := a.calls.push .deinit }, .error .invalidHandle) ∨
      a.liveClass = some target ∧
        a.deinit target =
          ({ a with calls := a.calls.push .deinit, liveClass := none }, .ok ()) := by
  unfold deinit
  dsimp only
  split
  · exact .inl ⟨‹_›, rfl⟩
  · exact .inr ⟨Decidable.not_not.mp ‹_›, rfl⟩

end Accelerator

end FirmwareUpgrade
