import FirmwareUpgrade.Proofs.Deferral
import FirmwareUpgrade.Proofs.StatusCheck
import FirmwareUpgrade.Proofs.Storage

/-!
# Where planted faults show

The calls that an upgrade without faults makes are those of its trace. A fault strikes at the first
call whose result it changes so that the upgrade ends: `Task.finding` says for each place of the
trace what failure the result amounts to there, if any. A device with faults goes along the schedule
up to the first finding (`Bears`) and has gone no further afterwards (`Stopped`).
-/
namespace FirmwareUpgrade

/-! ## Findings -/

namespace Faults

variable (f : Faults)

/-- The failure that a refusal of an operation amounts to. -/
def rejection? (operation : Operation) : Option UpgradeError :=
  if f.reject = some operation then some (.classCall operation .busy) else .none

/-- The failure that a status reply amounts to. -/
def badStatus? : Option UpgradeError :=
  match f.statusCode with
  | some code => if code = 0 then .none else some (.status code Status.dfuError)
  | .none => .none

/-- The failure that the download of a block amounts to. -/
def stall? (block : UInt16) (length : Nat) : Option UpgradeError :=
  if length ≠ 0 ∧ f.failBlock = some block then some (.transfer .dnload .stall) else .none

/-- The failure that a call amounts to by its own result. -/
def strike? : DeviceCall → Option UpgradeError
  | .init => if f.failInit then some (.classInit .notSupported) else .none
  | .setInterface _ => f.rejection? .setInterface
  | .dnload block length => f.rejection? .dnload <|> f.stall? block length
  | .upload .. => f.rejection? .upload
  | .getStatus => f.rejection? .getStatus <|> f.badStatus?
  | .detach _ => f.rejection? .detach
  | .deinit | .busReset | .reEnumerate => .none

/-- The failure that the reply to an operation amounts to, if it is not refused. -/
def reply? : ClassCall → Option UpgradeError
  | .dnload block data => f.stall? block data.size
  | .getStatus => f.badStatus?
  | _ => .none

/-- An operation may be refused, and if it is not its reply may be a failure. -/
theorem strike?_record (request : ClassCall) :
    f.strike? request.record = (f.rejection? request.operation <|> f.reply? request) := by
  cases request with
  | getStatus | dnload => rfl
  | _ => simp [strike?, reply?, ClassCall.record, ClassCall.operation]

/-- The failure that the comparison with an image amounts to. -/
def corruption? (image : Bytes) : Option UpgradeError :=
  match f.corruptOffset with
  | some offset => if offset < image.size then some (.verificationMismatch offset) else .none
  | .none => .none

end Faults

namespace Task

variable (t : Task) (f : Faults)

/-- The place in the trace of the last status check of the read-back. The comparison comes with
it. -/
def comparison : Nat := t.schedule.length - t.closing.length

/-- The failure that the upgrade finds with a call of its trace. -/
def finding (k : Nat) : Option UpgradeError :=
  t.trace[k]?.bind f.strike? <|> if k = t.comparison then f.corruption? t.image else none

/-- The fault that comes first in the trace shows at this place, as this failure. -/
def FirstFinding (k : Nat) (cause : UpgradeError) : Prop :=
  t.finding f k = some cause ∧ ∀ j < k, t.finding f j = none

variable {t f} in
/-- There is one first finding at most. -/
theorem FirstFinding.unique {j k : Nat} {cause cause' : UpgradeError}
    (h : t.FirstFinding f j cause) (h' : t.FirstFinding f k cause') : j = k ∧ cause = cause' := by
  have hjk : ¬j < k := fun hlt => by simpa [h.1] using h'.2 j hlt
  have hkj : ¬k < j := fun hlt => by simpa [h'.1] using h.2 k hlt
  obtain rfl : j = k := by omega
  exact ⟨rfl, Option.some.inj (h.1.symm.trans h'.1)⟩

end Task

/-! ## The place of an operation in the trace -/

namespace Task

variable {t : Task} {p q : Phase} {i j : Nat} {request : ClassCall} {f : Faults}

theorem closing_ne_nil (t : Task) : t.closing.length ≠ 0 := by simp [closing]

/-- Behind the commit comes at least one operation before the closing. -/
theorem length_reading_zero (t : Task) : t.closing.length < (t.reading 0).length := by
  unfold reading
  split
  · simp
  · have hu : t.uploads 0 = t.upload 0 ++ t.uploads 1 := t.uploads_of_lt (by omega)
    simp only [hu, upload, List.length_append, List.length_cons]
    omega

/-- The comparison is reached when only the closing is left behind the operation. -/
theorem Step.length_agenda_eq_iff (h : t.Step p i request q j) :
    (t.agenda p i).length = t.closing.length + 1 ↔ p = .getStatusRead ∧ i = t.blockCount := by
  have hreading := t.length_reading_zero
  have hclosing := t.closing_ne_nil
  cases h with
  | setInterface | more | enough | transfer | commit =>
    simp only [Task.agenda, loading, committing, List.length_cons, List.length_append]
    constructor
    · omega
    · simp
  | readBack hi =>
    have hn : ¬t.blockCount = 0 := by omega
    have hu := t.uploads_of_lt hi
    simp only [Task.agenda, reading, hn, if_false, hu, upload, List.length_cons, List.length_append]
    constructor
    · omega
    · simp
  | again hi =>
    have hu := t.uploads_of_lt hi
    simp only [Task.agenda, hu, upload, List.length_cons, List.length_append]
    constructor <;> omega
  | compare => simp [Task.agenda, t.uploads_of_le]
  | detach =>
    simp only [Task.agenda]
    constructor
    · omega
    · simp
  | checkStatus =>
    simp only [Task.agenda, List.length_singleton]
    constructor
    · omega
    · simp

theorem length_closing_lt (t : Task) : t.closing.length < t.schedule.length := by
  simp only [schedule, List.length_cons, List.length_append]
  omega

/-- Behind the calls so far the trace goes on with the operation. -/
theorem Step.trace_eq (h : t.Step p i request q j) {calls : List DeviceCall}
    (hcalls : calls ++ (t.agenda p i).map ClassCall.record =
      .init :: t.schedule.map ClassCall.record) :
    ∃ rest, t.trace = calls ++ request.record :: rest := by
  rw [h.agenda, List.map_cons] at hcalls
  rw [Task.trace_eq, ← hcalls, List.append_assoc, List.cons_append]
  exact ⟨_, rfl⟩

/-- What is found with the operation comes of its own result, or of the comparison. -/
theorem Step.finding_eq (h : t.Step p i request q j) {calls : List DeviceCall}
    (hcalls : calls ++ (t.agenda p i).map ClassCall.record =
      .init :: t.schedule.map ClassCall.record) :
    t.finding f calls.length = (f.strike? request.record <|>
      if p = .getStatusRead ∧ i = t.blockCount then f.corruption? t.image else none) := by
  obtain ⟨rest, htrace⟩ := h.trace_eq hcalls
  have hlength := congrArg List.length hcalls
  simp only [List.length_append, List.length_map, List.length_cons] at hlength
  have hplace : calls.length = t.comparison ↔ p = .getStatusRead ∧ i = t.blockCount := by
    have hlt := t.length_closing_lt
    rw [← h.length_agenda_eq_iff, comparison]
    omega
  have hget : t.trace[calls.length]? = some request.record := by simp [htrace]
  simp only [finding, hget, hplace, Option.bind_some]

theorem finding_zero (t : Task) (f : Faults) :
    t.finding f 0 = if f.failInit then some (.classInit .notSupported) else none := by
  have hlt := t.length_closing_lt
  have hplace : ¬0 = t.comparison := by
    unfold comparison
    omega
  have hget : t.trace[0]? = some .init := rfl
  simp [finding, hget, hplace, Faults.strike?]

/-! ## When nothing is found -/

/-- Nothing is found exactly if no call is struck and the comparison finds no corrupted byte. -/
theorem clear_iff (t : Task) (f : Faults) :
    (∀ k, t.finding f k = none) ↔
      (∀ call ∈ t.trace, f.strike? call = none) ∧ f.corruption? t.image = none := by
  constructor
  · intro h
    refine ⟨fun call hcall => ?_, ?_⟩
    · obtain ⟨k, hk⟩ := List.mem_iff_getElem?.mp hcall
      have hclear := h k
      rw [finding, hk, Option.bind_some] at hclear
      cases hstrike : f.strike? call with
      | none => rfl
      | some cause => simp [hstrike] at hclear
    · have hclear := h t.comparison
      rw [finding, if_pos rfl] at hclear
      cases hcorruption : f.corruption? t.image with
      | none => rfl
      | some cause => simp [hcorruption] at hclear
  · rintro ⟨hstrike, hcorruption⟩ k
    have hbind : t.trace[k]?.bind f.strike? = none :=
      Option.bind_eq_none_iff.mpr fun call hcall => hstrike call (List.mem_of_getElem? hcall)
    simp [finding, hbind, hcorruption]

theorem mem_trace_iff (t : Task) (call : DeviceCall) :
    call ∈ t.trace ↔
      call ∈ [.init, .setInterface 0, .getStatus, .dnload (UInt16.ofNat t.blockCount) 0,
        .detach t.config.detachTimeout, .busReset, .deinit, .reEnumerate] ∨
      ∃ k < t.blockCount, call = .dnload (UInt16.ofNat k) (t.block k).size ∨
        call = .upload (UInt16.ofNat k) (UInt16.ofNat (t.block k).size) := by
  have hreading : call ∈ (if t.blockCount = 0 then [DeviceCall.getStatus]
        else (List.range t.blockCount).flatMap t.uploadCalls) ↔
      call = .getStatus ∧ t.blockCount = 0 ∨ ∃ k < t.blockCount, call ∈ t.uploadCalls k := by
    split
    · simp [*]
    · simp [*]
  have hchecking : call ∈ (if t.config.checkStatusAfterDetach then [DeviceCall.getStatus] else []) ↔
      call = .getStatus ∧ t.config.checkStatusAfterDetach = true := by
    split <;> simp [*]
  simp only [trace, List.mem_cons, List.mem_append, List.mem_flatMap, List.mem_range, hreading, hchecking,
    downloadCalls, uploadCalls, t.size_block, List.not_mem_nil, or_false]
  grind

end Task

/-- Faults that do not show in an upgrade of at most `2 ^ 16` blocks. -/
structure Faults.Harmless (f : Faults) (t : Task) : Prop where
  init : f.failInit = false
  status : f.statusCode = .none ∨ f.statusCode = some 0
  reject : f.reject = .none ∨ f.reject = some .upload ∧ t.image = #[]
  block : ∀ b, f.failBlock = some b → t.blockCount ≤ b.toNat
  offset : ∀ offset, f.corruptOffset = some offset → t.image.size ≤ offset

namespace Faults

variable {f : Faults} {t : Task}

theorem badStatus?_eq_none_iff :
    f.badStatus? = .none ↔ f.statusCode = .none ∨ f.statusCode = some 0 := by
  unfold badStatus?
  cases f.statusCode with
  | none => simp
  | some code => by_cases hcode : code = 0 <;> simp [hcode]

theorem corruption?_eq_none_iff {image : Bytes} :
    f.corruption? image = .none ↔ ∀ offset, f.corruptOffset = some offset → image.size ≤ offset := by
  unfold corruption?
  cases f.corruptOffset with
  | none => simp
  | some offset => simp

/-- Only uploads may be refused, if there are none. -/
theorem Harmless.rejection?_eq_none (h : f.Harmless t) {operation : Operation}
    (ho : operation ≠ .upload ∨ t.image ≠ #[]) : f.rejection? operation = .none := by
  refine if_neg fun hreject => ?_
  rcases h.reject with hnone | ⟨hupload, himage⟩
  · simp [hnone] at hreject
  · rw [hupload, Option.some.injEq] at hreject
    exact ho.elim (· hreject.symm) (· himage)

theorem Harmless.strike?_eq_none (h : f.Harmless t) (hn : t.blockCount ≤ 65536) {call : DeviceCall}
    (hcall : call ∈ t.trace) : f.strike? call = .none := by
  have hreject : ∀ operation, operation ≠ .upload → f.rejection? operation = .none :=
    fun _ ho => h.rejection?_eq_none (.inl ho)
  rcases (t.mem_trace_iff call).mp hcall with hcall | ⟨k, hk, rfl | rfl⟩
  · simp only [List.mem_cons, List.not_mem_nil, or_false] at hcall
    rcases hcall with rfl | rfl | rfl | rfl | rfl | rfl | rfl | rfl
    · simp [strike?, h.init]
    · exact hreject _ (by simp)
    · rw [strike?, hreject _ (by simp), badStatus?_eq_none_iff.mpr h.status]
      rfl
    · rw [strike?, hreject _ (by simp)]
      simp [stall?]
    · exact hreject _ (by simp)
    all_goals rfl
  · have hblock : f.failBlock ≠ some (UInt16.ofNat k) := fun hb => by
      have hle := h.block _ hb
      rw [UInt16.toNat_ofNat', Nat.mod_eq_of_lt (by omega)] at hle
      omega
    rw [strike?, hreject _ (by simp)]
    simp [stall?, hblock]
  · refine h.rejection?_eq_none (.inr fun himage => ?_)
    have hlt := t.lt_blockCount_iff.mp hk
    simp [himage] at hlt

/-- In an upgrade of at most `2 ^ 16` blocks nothing is found exactly if the faults are harmless. -/
theorem harmless_iff (hn : t.blockCount ≤ 65536) : f.Harmless t ↔ ∀ k, t.finding f k = .none := by
  rw [t.clear_iff]
  constructor
  · intro h
    exact ⟨fun call hcall => h.strike?_eq_none hn hcall, corruption?_eq_none_iff.mpr h.offset⟩
  · rintro ⟨hstrike, hcorruption⟩
    have hinit := hstrike .init ((t.mem_trace_iff _).mpr (by simp))
    have hset := hstrike (.setInterface 0) ((t.mem_trace_iff _).mpr (by simp))
    have hstatus := hstrike .getStatus ((t.mem_trace_iff _).mpr (by simp))
    have hcommit := hstrike (.dnload (UInt16.ofNat t.blockCount) 0) ((t.mem_trace_iff _).mpr (by simp))
    have hdetach := hstrike (.detach t.config.detachTimeout) ((t.mem_trace_iff _).mpr (by simp))
    simp only [strike?, Option.orElse_eq_orElse, Option.orElse_eq_or, Option.or_eq_none_iff]
      at hinit hset hstatus hcommit hdetach
    refine ⟨by simpa using hinit, badStatus?_eq_none_iff.mp hstatus.2, ?_, fun b hb => ?_,
      corruption?_eq_none_iff.mp hcorruption⟩
    · have hnot : ∀ operation, f.rejection? operation = .none → f.reject ≠ some operation :=
        fun _ hrejection hreject => by simp [rejection?, hreject] at hrejection
      cases hreject : f.reject with
      | none => exact .inl rfl
      | some operation =>
        cases operation with
        | setInterface => exact absurd hreject (hnot _ hset)
        | dnload => exact absurd hreject (hnot _ hcommit.1)
        | getStatus => exact absurd hreject (hnot _ hstatus.1)
        | detach => exact absurd hreject (hnot _ hdetach)
        | upload =>
          refine .inr ⟨rfl, ?_⟩
          by_contra himage
          have hsize : t.image.size ≠ 0 := fun hz => himage (Array.size_eq_zero_iff.mp hz)
          have hcount : 0 < t.blockCount := by
            have hz := t.blockCount_eq_zero_iff
            omega
          exact hnot _ (hstrike (.upload _ _) ((t.mem_trace_iff _).mpr (.inr ⟨0, hcount, .inr rfl⟩)))
            hreject
    · by_contra hlt
      have hk : b.toNat < t.blockCount := by omega
      have hsize := t.size_block b.toNat
      have hlast := t.lt_blockCount_iff.mp hk
      have hpos := t.blockSize_pos
      have hblock := hstrike (.dnload _ _) ((t.mem_trace_iff _).mpr (.inr ⟨b.toNat, hk, .inl rfl⟩))
      have hne : (t.block b.toNat).size ≠ 0 := by omega
      rw [UInt16.ofNat_toNat] at hblock
      simp [strike?, stall?, hb, hne] at hblock

end Faults

/-! ## What is made of a reply -/

/-- What the upgrade makes of the reply to the operation of a phase, when the device gives back `m`
in all: it goes on, or the reply amounts to a failure. -/
inductive Task.Judged (t : Task) (m : Bytes) (p : Phase) (i : Nat) (request : ClassCall) :
    Reply → Option UpgradeError → Prop
  | fits {data : Bytes} : t.Fits m p i request data → t.Judged m p i request (.ok data) none
  | failed (cause : UsbError) :
    t.Judged m p i request (.error cause) (some (.transfer request.operation cause))
  | bad {data : Bytes} {cause : UpgradeError} : p = .getStatus ∨ p = .getStatusRead →
    StatusFault data cause → t.Judged m p i request (.ok data) (some cause)
  | short {data : Bytes} {offset : Nat} : p = .readBack → data.size < (t.block i).size →
    offset = i * t.blockSize + data.size →
    t.Judged m p i request (.ok data) (some (.verificationMismatch offset))
  | differs {data : Bytes} {status : Status} {offset : Nat} :
    p = .getStatusRead → i = t.blockCount → Status.decode data = .ok status →
    status.check = .ok () → m.firstDifference t.image = some offset →
    t.Judged m p i request (.ok data) (some (.verificationMismatch offset))

namespace Accelerator

variable {α : Type}

/-- What a device has in memory, and where it reads on, when `i` blocks are through. -/
def Holds (a : Accelerator α) (t : Task) : Phase → Nat → Prop
  | .setInterface, _ => a.memory = #[]
  | .getStatus, i | .transfer, i => a.memory = t.stored i
  | .zeroLengthTransfer, _ => a.memory = t.kept
  | .readBack, i | .getStatusRead, i =>
    a.memory = t.kept ∧ a.uploadOffset = min (i * t.blockSize) t.image.size ∧
      a.uploadOffset ≤ t.kept.size
  | _, _ => a.memory = t.kept ∧ t.overwritten = 0

/-- A device with faults, of which none has shown when an upgrade has come to the entry of phase `p`
with `i` blocks through. It calls completions at once. -/
structure Bears (a : Accelerator α) (t : Task) (f : Faults) (target : ClassHandle) (p : Phase)
    (i : Nat) : Prop where
  faults : a.faults = f
  immediate : a.deferred = false
  held : a.held = []
  live : a.liveClass = some target
  state : a.state ≠ Status.dfuError
  calls : a.calls.toList ++ (t.agenda p i).map ClassCall.record =
    .init :: t.schedule.map ClassCall.record
  clear : ∀ k < a.calls.size, t.finding f k = none
  /-- The status was good when it was asked for the first time. -/
  sound : p ≠ .setInterface → p ≠ .getStatus → f.badStatus? = none
  holds : a.Holds t p i

/-- A device that was called up to the first finding. If bytes of the image were lost the upgrade may
have ended before that, with the block that comes back short. -/
structure Stopped (a : Accelerator α) (t : Task) (f : Faults) (cause : UpgradeError) : Prop where
  held : a.held = []
  place : ∃ k, a.calls.toList = t.trace.take (k + 1) ∧ (∀ j < k, t.finding f j = none) ∧
    (t.finding f k = some cause ∨ t.overwritten ≠ 0 ∧ cause = .verificationMismatch t.kept.size)
  stalled : cause = .transfer .dnload .stall →
    ∃ i < t.blockCount, f.failBlock = some (UInt16.ofNat i) ∧ a.memory = t.stored i
  compared : ∀ offset, cause = .verificationMismatch offset → a.memory = t.kept

/-- A device that made it through all calls of the trace. -/
structure Spared (a : Accelerator α) (t : Task) (f : Faults) : Prop where
  held : a.held = []
  calls : a.calls.toList = t.trace
  clear : ∀ k, t.finding f k = none
  memory : a.memory = t.kept
  whole : t.overwritten = 0

/-! ## One operation -/

section
variable {a : Accelerator α} {t : Task} {f : Faults} {target : ClassHandle} {p q : Phase} {i j : Nat}
  {request : ClassCall} {cause : UpgradeError}

theorem respond_getStatus (h : a.faults.badStatus? = none) :
    a.respond .getStatus = (a, .ok (Status.ofCode 0 a.state).encode, []) := by
  unfold Faults.badStatus? at h
  cases hcode : a.faults.statusCode with
  | none => simp only [respond, statusNow, hcode]
  | some code =>
    rw [hcode] at h
    obtain rfl : code = 0 := by
      by_contra hz
      simp [hz] at h
    simp only [respond, statusNow, hcode, if_true]

/-- A planted status code is reported together with the error state. -/
theorem respond_getStatus_bad (h : a.faults.badStatus? = some cause) :
    ∃ data, a.respond .getStatus = ({ a with state := Status.dfuError }, .ok data, []) ∧
      StatusFault data cause := by
  unfold Faults.badStatus? at h
  split at h
  · rename_i code hcode
    by_cases hz : code = 0
    · simp [hz] at h
    · rw [if_neg hz, Option.some.injEq] at h
      subst h
      refine ⟨(Status.ofCode code Status.dfuError).encode, by simp [respond, statusNow, hcode, hz], ?_⟩
      exact .bad code Status.dfuError (by simp [Status.encode]) rfl rfl (.inl hz)
  · simp at h

/-- What the device is asked for lies within the image, and it gives back what it has of that. -/
theorem respond_upload (hf : a.faults = f) (hm : a.memory = t.kept)
    (ho : a.uploadOffset = i * t.blockSize) (hle : a.uploadOffset ≤ t.kept.size) (block : UInt16) :
    a.respond (.upload block (UInt16.ofNat (t.block i).size)) =
      ({ a with
          uploadOffset := min (i * t.blockSize + (t.block i).size) t.kept.size
          state := Status.uploadIdle },
        .ok ((t.kept.flawed f.corruptOffset).extract (i * t.blockSize)
          (min (i * t.blockSize + (t.block i).size) t.kept.size)), []) := by
  have hfirst : min a.uploadOffset t.kept.size = i * t.blockSize := by omega
  simp only [respond, window, t.toNat_size_block, hf, hm, hfirst, Bytes.readFlawed_eq_extract]

/-- What is found with an operation that is not refused. -/
theorem Bears.finding_eq (h : a.Bears t f target p i) (hs : t.Step p i request q j)
    (hr : f.rejection? request.operation = none) :
    t.finding f a.calls.size = (f.reply? request <|>
      if p = .getStatusRead ∧ i = t.blockCount then f.corruption? t.image else none) := by
  have hfinding := hs.finding_eq (f := f) h.calls
  rw [f.strike?_record, hr] at hfinding
  exact hfinding

/-- Nothing was found with the operation, and the device holds what it should for the next one. -/
theorem Bears.advance (h : a.Bears t f target p i) (hs : t.Step p i request q j) (memory : Bytes)
    (uploadOffset : Nat) {state : UInt8} (hclear : t.finding f a.calls.size = none)
    (hstate : state ≠ Status.dfuError) (hsound : q ≠ .getStatus → f.badStatus? = none)
    (hholds : Holds { a with memory, uploadOffset } t q j) :
    Bears { a.log request.record with memory, uploadOffset, state } t f target q j where
  faults := h.faults
  immediate := h.immediate
  held := h.held
  live := h.live
  state := hstate
  calls := by
    rw [← h.calls, hs.agenda]
    simp [log]
  clear k hk := by
    have hsize : k < a.calls.size + 1 := by simpa [log] using hk
    rcases Nat.lt_succ_iff_lt_or_eq.mp hsize with hlt | rfl
    · exact h.clear k hlt
    · exact hclear
  sound _ := hsound
  holds := by cases q <;> exact hholds

/-- With the operation the upgrade ends. -/
theorem Bears.stop (h : a.Bears t f target p i) (hs : t.Step p i request q j) (uploadOffset : Nat)
    (state : UInt8)
    (hfound : t.finding f a.calls.size = some cause ∨
      t.overwritten ≠ 0 ∧ cause = .verificationMismatch t.kept.size)
    (hstalled : cause = .transfer .dnload .stall →
      ∃ i < t.blockCount, f.failBlock = some (UInt16.ofNat i) ∧ a.memory = t.stored i)
    (hcompared : ∀ offset, cause = .verificationMismatch offset → a.memory = t.kept) :
    Stopped { a.log request.record with uploadOffset, state } t f cause where
  held := h.held
  place := by
    obtain ⟨rest, htrace⟩ := hs.trace_eq h.calls
    refine ⟨a.calls.size, ?_, h.clear, hfound⟩
    rw [htrace, ← Array.length_toList, List.take_append]
    simp [log]
  stalled := hstalled
  compared := hcompared

/-- The device after an operation with the success of which the upgrade is at phase `q` with `j`
blocks through. -/
def After (a : Accelerator α) (t : Task) (f : Faults) (target : ClassHandle) (q : Phase) (j : Nat) :
    Option UpgradeError → Prop
  | none => a.Bears t f target q j
  | some cause => a.Stopped t f cause

/-- Unless it is the last one of the read-back, a status reply is judged by itself. -/
theorem Bears.respond_getStatus (h : a.Bears t f target p i) (hs : t.Step p i .getStatus q j)
    (hr : f.rejection? .getStatus = none) (hholds : a.Holds t q j)
    (hlast : p = .getStatusRead ∧ i = t.blockCount → f.corruption? t.image = none ∧
      (t.kept.flawed f.corruptOffset).firstDifference t.image = none) :
    ∃ b r notices v, (a.log ClassCall.getStatus.record).respond .getStatus = (b, r, notices) ∧
      t.Judged (t.kept.flawed f.corruptOffset) p i .getStatus r v ∧ b.After t f target q j v := by
  have hfinding := h.finding_eq hs hr
  have hfaults : (a.log ClassCall.getStatus.record).faults = f := h.faults
  cases hbad : f.badStatus? with
  | none =>
    have hclear : t.finding f a.calls.size = none := by
      rw [hfinding, Faults.reply?, hbad]
      split
      · exact (hlast ‹_›).1
      · rfl
    refine ⟨_, _, _, none, Accelerator.respond_getStatus (hfaults ▸ hbad), .fits ⟨fun _ => ?_, ?_, ?_⟩,
      h.advance hs a.memory a.uploadOffset hclear h.state (fun _ => hbad) hholds⟩
    · exact ⟨_, Status.decode_encode _, if_pos ⟨rfl, h.state⟩⟩
    · rintro rfl
      nomatch hs
    · exact fun hp hi => (hlast ⟨hp, hi⟩).2
  | some cause =>
    have hp : p = .getStatus := by
      by_contra hne
      have hsound := h.sound (by rintro rfl; nomatch hs) hne
      simp [hsound] at hbad
    obtain ⟨data, hrespond, hfault⟩ :=
      respond_getStatus_bad (a := a.log ClassCall.getStatus.record) (hfaults ▸ hbad)
    have hfound : t.finding f a.calls.size = some cause := by
      rw [hfinding, Faults.reply?, hbad]
      rfl
    obtain ⟨code, hcause⟩ : ∃ code, cause = .status code Status.dfuError := by
      unfold Faults.badStatus? at hbad
      split at hbad
      · split at hbad
        · simp at hbad
        · exact ⟨_, (Option.some.inj hbad).symm⟩
      · simp at hbad
    refine ⟨_, _, _, some cause, hrespond, .bad (.inl hp) hfault,
      h.stop hs a.uploadOffset Status.dfuError (.inl hfound) ?_ ?_⟩
    · simp [hcause]
    · simp [hcause]

/-- A block is stored behind what there is, or its download stalls. -/
theorem Bears.respond_dnload (h : a.Bears t f target .transfer i) (hi : i < t.blockCount)
    (hr : f.rejection? .dnload = none) :
    ∃ b r notices v, (a.log (ClassCall.dnload (UInt16.ofNat i) (t.block i)).record).respond
        (.dnload (UInt16.ofNat i) (t.block i)) = (b, r, notices) ∧
      t.Judged (t.kept.flawed f.corruptOffset) .transfer i (.dnload (UInt16.ofNat i) (t.block i))
        r v ∧ b.After t f target .getStatus (i + 1) v := by
  have hs : t.Step .transfer i (.dnload (UInt16.ofNat i) (t.block i)) .getStatus (i + 1) :=
    .transfer hi
  have hfinding := h.finding_eq hs hr
  have hempty := t.block_ne_empty hi
  have hsize : (t.block i).size ≠ 0 := by simpa using hempty
  have hmemory : a.memory = t.stored i := h.holds
  generalize hlogged : a.log (ClassCall.dnload (UInt16.ofNat i) (t.block i)).record = b
  have hfaults : b.faults = f := by rw [← hlogged]; exact h.faults
  have hheld : b.memory = t.stored i := by rw [← hlogged]; exact hmemory
  by_cases hstall : f.failBlock = some (UInt16.ofNat i)
  · have hrespond : b.respond (.dnload (UInt16.ofNat i) (t.block i)) = (b, .error .stall, []) := by
      simp [Accelerator.respond, hempty, hfaults, hstall]
    refine ⟨_, _, _, some (.transfer .dnload .stall), hrespond, .failed .stall, ?_⟩
    rw [← hlogged]
    refine h.stop hs a.uploadOffset a.state (.inl ?_) (fun _ => ⟨i, hi, hstall, hmemory⟩) (by simp)
    simp [hfinding, Faults.reply?, Faults.stall?, hsize, hstall]
  · have hrespond : b.respond (.dnload (UInt16.ofNat i) (t.block i)) =
        ({ b with memory := t.stored (i + 1), state := Status.downloadIdle }, .ok #[],
          [.blockStored (UInt16.ofNat i) (t.block i).size]) := by
      simp [Accelerator.respond, hempty, hfaults, hstall, store, t.stored_succ, hheld]
    refine ⟨_, _, _, none, hrespond, .fits ⟨by simp, by simp, by simp⟩, ?_⟩
    rw [← hlogged]
    refine h.advance hs (t.stored (i + 1)) a.uploadOffset ?_ (by decide) (by simp) rfl
    simp [hfinding, Faults.reply?, Faults.stall?, hstall]

/-- A block comes back as it was stored, or short if there is no more. -/
theorem Bears.respond_upload (h : a.Bears t f target .readBack i) (hi : i < t.blockCount)
    (hr : f.rejection? .upload = none) :
    ∃ b r notices v,
      (a.log (ClassCall.upload (UInt16.ofNat i) (UInt16.ofNat (t.block i).size)).record).respond
        (.upload (UInt16.ofNat i) (UInt16.ofNat (t.block i).size)) = (b, r, notices) ∧
      t.Judged (t.kept.flawed f.corruptOffset) .readBack i
        (.upload (UInt16.ofNat i) (UInt16.ofNat (t.block i).size)) r v ∧
      b.After t f target .getStatusRead (i + 1) v := by
  have hs : t.Step .readBack i (.upload (UInt16.ofNat i) (UInt16.ofNat (t.block i).size))
      .getStatusRead (i + 1) := .readBack hi
  have hfinding : t.finding f a.calls.size = none := h.finding_eq hs hr
  obtain ⟨hmemory, hoffset, hle⟩ := h.holds
  have hlt := t.lt_blockCount_iff.mp hi
  have hsize := t.size_block i
  have hkept := t.size_kept
  have hplace : a.uploadOffset = i * t.blockSize := by omega
  have hsucc : (i + 1) * t.blockSize = i * t.blockSize + t.blockSize := Nat.succ_mul _ _
  generalize hlogged :
    a.log (ClassCall.upload (UInt16.ofNat i) (UInt16.ofNat (t.block i).size)).record = b
  have hfaults : b.faults = f := by rw [← hlogged]; exact h.faults
  have hrespond := Accelerator.respond_upload (t := t) (i := i) hfaults
    (by rw [← hlogged]; exact hmemory) (by rw [← hlogged]; exact hplace)
    (by rw [← hlogged]; exact hle) (UInt16.ofNat i)
  generalize hm : t.kept.flawed f.corruptOffset = m at hrespond
  have hmsize : m.size = t.kept.size := by rw [← hm, Bytes.size_flawed]
  by_cases hshort : t.kept.size < i * t.blockSize + (t.block i).size
  · rw [Nat.min_eq_right (Nat.le_of_lt hshort)] at hrespond
    have hdata : (m.extract (i * t.blockSize) t.kept.size).size = t.kept.size - i * t.blockSize := by
      simp [hmsize]
    refine ⟨_, _, _, some (.verificationMismatch t.kept.size), hrespond,
      .short rfl (by omega) (by omega), ?_⟩
    rw [← hlogged]
    exact h.stop hs t.kept.size Status.uploadIdle (.inr ⟨by omega, rfl⟩) (by simp)
      fun _ _ => hmemory
  · rw [Nat.min_eq_left (by omega)] at hrespond
    have hstate : Status.uploadIdle ≠ Status.dfuError := by decide
    refine ⟨_, _, _, none, hrespond, .fits ⟨by simp, fun _ => ⟨?_, ?_⟩, by simp⟩, ?_⟩
    · simp [hmsize]
      omega
    · rw [Array.toList_extract, List.extract_eq_take_drop, List.take_eq_take_iff]
      simp only [List.length_drop, Array.length_toList, hmsize]
      omega
    · rw [← hlogged]
      refine h.advance hs a.memory (i * t.blockSize + (t.block i).size) hfinding hstate
        (fun _ => h.sound (by simp) (by simp)) ⟨hmemory, ?_, ?_⟩
      · dsimp only
        omega
      · dsimp only
        omega

theorem corruption?_eq (h : t.overwritten = 0) :
    f.corruption? t.image =
      ((t.kept.flawed f.corruptOffset).firstDifference t.image).map .verificationMismatch := by
  rw [t.kept_of_overwritten_eq_zero h, Bytes.firstDifference_flawed]
  unfold Faults.corruption?
  cases f.corruptOffset with
  | none => rfl
  | some offset =>
    by_cases ho : offset < t.image.size <;> simp [Option.filter, ho]

/-- When all came back nothing was lost, so the comparison finds the corrupted byte or nothing. -/
theorem Bears.respond_compare (h : a.Bears t f target .getStatusRead t.blockCount)
    (hr : f.rejection? .getStatus = none) :
    ∃ b r notices v, (a.log ClassCall.getStatus.record).respond .getStatus = (b, r, notices) ∧
      t.Judged (t.kept.flawed f.corruptOffset) .getStatusRead t.blockCount .getStatus r v ∧
      b.After t f target .detach 0 v := by
  have hs : t.Step .getStatusRead t.blockCount .getStatus .detach 0 := .compare
  obtain ⟨hmemory, hoffset, hle⟩ := h.holds
  have hzero : t.overwritten = 0 := by
    have hn := t.blockCount_le (Nat.le_refl _)
    have hsize := t.size_kept
    have hover := t.overwritten_le
    omega
  have hcorruption := corruption?_eq (f := f) hzero
  cases hdiff : (t.kept.flawed f.corruptOffset).firstDifference t.image with
  | none =>
    rw [hdiff, Option.map_none] at hcorruption
    have hjudged := h.respond_getStatus hs hr ⟨hmemory, hzero⟩ fun _ => ⟨hcorruption, hdiff⟩
    exact hjudged
  | some offset =>
    have hbad : f.badStatus? = none := h.sound (by simp) (by simp)
    have hfaults : (a.log ClassCall.getStatus.record).faults = f := h.faults
    have hfound : t.finding f a.calls.size = some (.verificationMismatch offset) := by
      rw [h.finding_eq hs hr, Faults.reply?, hbad, hcorruption, hdiff]
      simp
    exact ⟨_, _, _, _, Accelerator.respond_getStatus (hfaults ▸ hbad),
      .differs rfl rfl (Status.decode_encode _) (if_pos ⟨rfl, h.state⟩) hdiff,
      h.stop hs a.uploadOffset a.state (.inl hfound) (by simp) fun _ _ => hmemory⟩

/-- The device carries out an operation that it does not refuse. The upgrade goes on, or ends with
what is found. -/
theorem Bears.respond (h : a.Bears t f target p i) (hs : t.Step p i request q j)
    (hr : f.rejection? request.operation = none) :
    ∃ b r notices v, (a.log request.record).respond request = (b, r, notices) ∧
      t.Judged (t.kept.flawed f.corruptOffset) p i request r v ∧ b.After t f target q j v := by
  have hfinding := h.finding_eq hs hr
  have hholds := h.holds
  have hfaults : ∀ call, (a.log call).faults = f := fun _ => h.faults
  cases hs with
  | setInterface =>
    refine ⟨_, _, _, none, rfl, .fits ⟨by simp, by simp, by simp⟩, ?_⟩
    exact h.advance (.setInterface i) a.memory a.uploadOffset hfinding (by decide) (by simp)
      (hholds.trans t.stored_zero.symm)
  | more hi => exact h.respond_getStatus (.more hi) hr hholds (by simp)
  | enough => exact h.respond_getStatus .enough hr hholds (by simp)
  | transfer hi => exact h.respond_dnload hi hr
  | commit =>
    have hsound := h.sound (by simp) (by simp)
    refine ⟨_, _, _, none, rfl, .fits ⟨by simp, by simp, by simp⟩, ?_⟩
    refine h.advance (.commit i) a.memory 0 ?_ (by decide) (fun _ => hsound) ⟨hholds, by simp, by simp⟩
    simp [hfinding, Faults.reply?, Faults.stall?]
  | readBack hi => exact h.respond_upload hi hr
  | again hi => exact h.respond_getStatus (.again hi) hr hholds (fun he => absurd he.2 (by omega))
  | compare => exact h.respond_compare hr
  | detach =>
    have hsound := h.sound (by simp) (by simp)
    refine ⟨_, _, _, none, rfl, .fits ⟨by simp, by simp, by simp⟩, ?_⟩
    refine h.advance (.detach i) a.memory a.uploadOffset hfinding (by decide) (fun _ => hsound) ?_
    split <;> exact hholds
  | checkStatus => exact h.respond_getStatus (.checkStatus i) hr hholds (by simp)

theorem After.concluded {v : Option UpgradeError} (h : a.After t f target q j v) (n : Nat) :
    After { a with maxOutstanding := n } t f target q j v := by
  cases v with
  | none =>
    obtain ⟨hfaults, himmediate, hheld, hlive, hstate, hcalls, hclear, hsound, hholds⟩ := h
    refine ⟨hfaults, himmediate, hheld, hlive, hstate, hcalls, hclear, hsound, ?_⟩
    cases q <;> exact hholds
  | some cause =>
    obtain ⟨hheld, hplace, hstalled, hcompared⟩ := h
    exact ⟨hheld, hplace, hstalled, hcompared⟩

/-- The next operation is refused, or it is carried out and its completion called. -/
theorem Bears.submit (h : a.Bears t f target p i) (hs : t.Step p i request q j)
    (hi : t.interface = interface) (x : α) :
    (∃ b, a.submit target request x = (b, .refused .busy) ∧
        b.Stopped t f (.classCall request.operation .busy)) ∨
      ∃ b r notices v, a.submit target request x = (b, ⟨.ok (), notices, [(x, r)]⟩) ∧
        t.Judged (t.kept.flawed f.corruptOffset) p i request r v ∧ b.After t f target q j v := by
  have hforeign : isForeign request = false := hs.isForeign_eq_false hi
  have hlive : (a.log request.record).liveClass = some target := h.live
  have hfaults : (a.log request.record).faults = f := h.faults
  by_cases hr : f.reject = some request.operation
  · left
    refine ⟨a.log request.record, ?_, h.stop hs a.uploadOffset a.state (.inl ?_) (by simp) (by simp)⟩
    · simp [Accelerator.submit, hforeign, hlive, hfaults, hr]
    · have hfinding := hs.finding_eq (f := f) h.calls
      rw [f.strike?_record, Faults.rejection?, if_pos hr] at hfinding
      exact hfinding
  · right
    obtain ⟨b, r, notices, v, hrespond, hjudged, hafter⟩ := h.respond hs (if_neg hr)
    have himmediate : b.deferred = false := by
      have hkeeps := (a.log request.record).deferred_respond request
      rw [hrespond] at hkeeps
      exact hkeeps.trans h.immediate
    refine ⟨_, r, notices, v, ?_, hjudged, hafter.concluded (max b.maxOutstanding (b.outstanding + 1))⟩
    simp [Accelerator.submit, hforeign, hlive, hfaults, hr, hrespond, conclude, himmediate]

end

/-- When the upgrade is complete the device has seen the whole trace, and nothing was found. -/
theorem Bears.finish {a : Accelerator α} {t : Task} {f : Faults} {target : ClassHandle} {i : Nat}
    (h : a.Bears t f target .complete i) :
    Spared { a with
      liveClass := none
      calls := ((a.calls.push .busReset).push .deinit).push .reEnumerate } t f := by
  have hcalls := h.calls
  rw [show t.agenda .complete i = [] from rfl, List.map_nil, List.append_nil] at hcalls
  have hsize := congrArg List.length hcalls
  rw [Array.length_toList, List.length_cons, List.length_map] at hsize
  refine ⟨h.held, ?_, fun k => ?_, h.holds.1, h.holds.2⟩
  · rw [Task.trace_eq, ← hcalls]
    simp
  · by_cases hk : k < a.calls.size
    · exact h.clear k hk
    · have hlt := t.length_closing_lt
      have hplace : ¬k = t.comparison := by
        unfold Task.comparison
        omega
      have htrace : t.trace = a.calls.toList ++ [.busReset, .deinit, .reEnumerate] := by
        rw [Task.trace_eq, hcalls]
      have hstrike : ∀ call ∈ [DeviceCall.busReset, .deinit, .reEnumerate], f.strike? call = none := by
        simp [Faults.strike?]
      have hget : t.trace[k]?.bind f.strike? = none := by
        rw [htrace, List.getElem?_append_right (by simpa using hk), Option.bind_eq_none_iff]
        exact fun call hcall => hstrike call (List.mem_of_getElem? hcall)
      simp [Task.finding, hget, hplace]

/-- The class driver of a new device is initialised for the upgrade, or fails to be. -/
theorem init_new (t : Task) (f : Faults) :
    (∃ a : Accelerator α, (new f false).init device = (a, .error .notSupported) ∧
        a.Stopped t f (.classInit .notSupported)) ∨
      ∃ a : Accelerator α, (new f false).init device = (a, .ok ⟨1⟩) ∧
        a.Bears t f ⟨1⟩ .setInterface 0 := by
  have hfinding := t.finding_zero f
  by_cases hfail : f.failInit
  · left
    rw [if_pos hfail] at hfinding
    refine ⟨(new f false).log .init, by simp [init, log, new, hfail], ⟨rfl, ⟨0, rfl, by simp, ?_⟩, ?_, ?_⟩⟩
    · exact .inl hfinding
    · simp
    · simp
  · right
    rw [if_neg hfail] at hfinding
    have hidle : Status.dfuIdle ≠ Status.dfuError := by decide
    refine ⟨{ (new f false).log .init with liveClass := some ⟨1⟩, nextClass := 2 },
      by simp [init, log, new, hfail], ⟨rfl, rfl, rfl, rfl, hidle, ?_, ?_, ?_, rfl⟩⟩
    · rw [Task.schedule_eq_agenda]
      rfl
    · intro k hk
      obtain rfl : k = 0 := Nat.lt_one_iff.mp hk
      exact hfinding
    · simp

end Accelerator

end FirmwareUpgrade
