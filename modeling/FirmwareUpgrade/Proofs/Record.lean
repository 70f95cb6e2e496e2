import FirmwareUpgrade.Controller.Session
import Mathlib

/-!
# What the record of effects shows

The record of a session is read here, never written. `calls` are the asynchronous operations in the
order of issue, `issued` the completions that went to the driver with them and `called` those that
the driver has called. An `Attachment` sums up the time since the class was last initialised: its
handle, the operations on it with their replies, whether the image was compared with what came
back, and the phase in which the first operation was issued.
-/
namespace FirmwareUpgrade

def ClassCall.payload : ClassCall → List UInt8
  | .dnload _ data => data.toList
  | _ => []

namespace Effect

def call? : Effect → Option ClassCall
  | exchange (.call _ request _ _) => some request
  | _ => none

/-- The completion that goes to the driver with an effect. -/
def issued? : Effect → Option Completion
  | exchange (.call _ _ completion _) => some completion
  | _ => none

/-- The completion that the driver calls with an effect. -/
def called? : Effect → Option Completion
  | completed completion _ => some completion
  | _ => none

/-- The phase that observers see with an effect. -/
def watched? : Effect → Option Phase
  | watch phase => some phase
  | _ => none

theorem eq_watch_of_watched? {effects : List Effect} {n : Nat} {p : Phase}
    (h : effects[n]?.bind watched? = some p) : effects[n]? = some (.watch p) := by
  obtain ⟨e, he, hp⟩ := Option.bind_eq_some_iff.mp h
  cases e with
  | watch q => rw [he, Option.some.inj hp]
  | _ => simp [watched?] at hp

/-- The completion whose success the worker takes up with an effect. -/
def fulfilled? : Effect → Option Completion
  | taken (.completed completion (.ok _)) => some completion
  | _ => none

end Effect

/-- The asynchronous operations of a record, in the order of issue. -/
def calls (effects : List Effect) : List ClassCall := effects.filterMap Effect.call?

/-- The completions that went to the driver. -/
def issued (effects : List Effect) : List Completion := effects.filterMap Effect.issued?

/-- The completions that the driver has called. -/
def called (effects : List Effect) : List Completion := effects.filterMap Effect.called?

/-- The completions whose success the worker has taken up. -/
def fulfilled (effects : List Effect) : List Completion := effects.filterMap Effect.fulfilled?

/-- The driver calls no completion more often than it was given it. -/
def Honest (effects : List Effect) : Prop :=
  ∀ completion, (called effects).count completion ≤ (issued effects).count completion

instance (effects : List Effect) : Decidable (Honest effects) :=
  decidable_of_iff (∀ x ∈ called effects, (called effects).count x ≤ (issued effects).count x) <| by
    refine ⟨fun h x => ?_, fun h x _ => h x⟩
    by_cases hx : x ∈ called effects
    · exact h x hx
    · rw [List.count_eq_zero_of_not_mem hx]
      exact Nat.zero_le _

/-- An operation that was issued, with the reply once its completion is called. -/
structure Issue where
  target : ClassHandle
  request : ClassCall
  completion : Completion
  accepted : Bool
  reply : Option Reply

namespace Issue

/-- Takes down the reply to an operation that has none yet. -/
def settle (completion : Completion) (reply : Reply) (i : Issue) : Issue :=
  if i.completion = completion ∧ i.reply.isNone then { i with reply := some reply } else i

/-- The data that a successful download brought to the device. -/
def sent (i : Issue) : List UInt8 :=
  match i.request, i.accepted, i.reply with
  | .dnload _ data, true, some (.ok _) => data.toList
  | _, _, _ => []

/-- The data that a successful upload brought back, cut to the length that was asked for. -/
def received (i : Issue) : List UInt8 :=
  match i.request, i.accepted, i.reply with
  | .upload _ length, true, some (.ok data) => data.toList.take length.toNat
  | _, _, _ => []

/-- An accepted operation on a handle that ended in success. -/
def Succeeded (target : ClassHandle) (i : Issue) : Prop :=
  i.target = target ∧ i.accepted = true ∧ ∃ data, i.reply = some (.ok data)

theorem sent_of_succeeded {target : ClassHandle} {i : Issue} (h : i.Succeeded target) :
    i.sent = i.request.payload := by
  obtain ⟨-, ha, data, hr⟩ := h
  simp only [sent, ha, hr]
  cases i.request <;> rfl

end Issue

/-- The time since the class was last initialised. -/
structure Attachment where
  target : Option ClassHandle
  /-- The operations since then, in the order of issue. -/
  issues : List Issue
  /-- Whether the image was found equal to what came back. -/
  compared : Bool
  /-- The phase in which the first operation was issued, or the last phase entered if there is no
  operation yet. -/
  opening : Phase

namespace Attachment

/-- Nothing was initialised yet. -/
def none : Attachment := ⟨.none, [], false, .unattached⟩

/-- What becomes of an attachment with one more effect. -/
def observe (a : Attachment) : Effect → Attachment
  | .exchange (.init _ (.ok target)) => ⟨some target, [], false, .attached⟩
  | .exchange (.call target request completion result) =>
    { a with issues := a.issues ++ [⟨target, request, completion, result.isOk, .none⟩] }
  | .completed completion reply => { a with issues := a.issues.map (·.settle completion reply) }
  | .watch phase => if a.issues.isEmpty then { a with opening := phase } else a
  | .notice .verified => { a with compared := true }
  | _ => a

/-- The last attachment of a record. -/
def ofEffects (effects : List Effect) : Attachment := effects.foldl observe none

/-- The data brought to the device on the class handle, joined in the order of issue. -/
def downloaded (a : Attachment) : List UInt8 :=
  (a.issues.filter fun i => some i.target = a.target).flatMap Issue.sent

/-- The data brought back on the class handle, joined in the order of issue. -/
def uploaded (a : Attachment) : List UInt8 :=
  (a.issues.filter fun i => some i.target = a.target).flatMap Issue.received

/-- The whole image was sent, all of it came back, and the two were compared. -/
def Justified (image : Bytes) (a : Attachment) : Prop :=
  a.downloaded = image.toList ∧ a.uploaded = image.toList ∧ a.compared = true

instance (image : Bytes) (a : Attachment) : Decidable (a.Justified image) :=
  inferInstanceAs (Decidable (_ ∧ _ ∧ _))

/-- From these phases on an upgrade still goes through the whole image. If that is empty it is
early enough to begin at its end. -/
def Early (image : Bytes) : Phase → Prop
  | .setInterface | .getStatus | .transfer => True
  | .zeroLengthTransfer | .readBack | .getStatusRead => image = #[]
  | _ => False

theorem uploaded_of_succeeded (a : Attachment) {target : ClassHandle} (ht : a.target = some target)
    (h : ∀ i ∈ a.issues, i.Succeeded target) : a.uploaded = a.issues.flatMap Issue.received := by
  rw [uploaded, List.filter_eq_self.mpr]
  intro i hi
  simp [ht, (h i hi).1]

/-- All that the calls took to the device arrived there. -/
theorem downloaded_of_succeeded (a : Attachment) {target : ClassHandle}
    (ht : a.target = some target) (h : ∀ i ∈ a.issues, i.Succeeded target) :
    a.downloaded = (a.issues.map (·.request)).flatMap ClassCall.payload := by
  rw [downloaded, List.filter_eq_self.mpr (by intro i hi; simp [ht, (h i hi).1]),
    List.flatMap_map]
  exact List.flatMap_congr fun i hi => Issue.sent_of_succeeded (h i hi)

@[simp]
theorem ofEffects_append_singleton (effects : List Effect) (e : Effect) :
    ofEffects (effects ++ [e]) = (ofEffects effects).observe e := by
  simp [ofEffects]

end Attachment

/-- All that is read off a record. -/
structure Account where
  attachment : Attachment
  calls : List ClassCall
  issued : List Completion
  called : List Completion
  fulfilled : List Completion

namespace Account

def ofEffects (effects : List Effect) : Account where
  attachment := .ofEffects effects
  calls := FirmwareUpgrade.calls effects
  issued := FirmwareUpgrade.issued effects
  called := FirmwareUpgrade.called effects
  fulfilled := FirmwareUpgrade.fulfilled effects

def add (k : Account) (e : Effect) : Account where
  attachment := k.attachment.observe e
  calls := k.calls ++ e.call?.toList
  issued := k.issued ++ e.issued?.toList
  called := k.called ++ e.called?.toList
  fulfilled := k.fulfilled ++ e.fulfilled?.toList

/-- How often the driver may still call a completion. -/
def held (k : Account) (x : Completion) : Nat := k.issued.count x - k.called.count x

theorem ofEffects_append_singleton (effects : List Effect) (e : Effect) :
    ofEffects (effects ++ [e]) = (ofEffects effects).add e := by
  have hf {α : Type} (f : Effect → Option α) :
      (effects ++ [e]).filterMap f = effects.filterMap f ++ (f e).toList := by
    rw [List.filterMap_append]
    cases hfe : f e <;> simp [hfe]
  simp only [ofEffects, add, Attachment.ofEffects_append_singleton, FirmwareUpgrade.calls,
    FirmwareUpgrade.issued, FirmwareUpgrade.called, FirmwareUpgrade.fulfilled, hf]

theorem add_taken (k : Account) (q : Request) :
    k.add (.taken q) =
      { k with fulfilled := k.fulfilled ++ (Effect.taken q).fulfilled?.toList } := by
  simp [add, Attachment.observe, Effect.call?, Effect.issued?, Effect.called?]

theorem add_watch (k : Account) (p : Phase) :
    k.add (.watch p) = { k with attachment := k.attachment.observe (.watch p) } := by
  simp [add, Effect.call?, Effect.issued?, Effect.called?, Effect.fulfilled?]

theorem add_completed (k : Account) (x : Completion) (r : Reply) :
    k.add (.completed x r) =
      { k with
        attachment := k.attachment.observe (.completed x r)
        called := k.called ++ [x] } := by
  simp [add, Effect.call?, Effect.issued?, Effect.called?, Effect.fulfilled?]

theorem add_init (k : Account) (device : DeviceHandle) (target : ClassHandle) :
    k.add (.exchange (.init device (.ok target))) =
      { k with attachment := ⟨some target, [], false, .attached⟩ } := by
  simp [add, Attachment.observe, Effect.call?, Effect.issued?, Effect.called?, Effect.fulfilled?]

theorem add_call (k : Account) (target : ClassHandle) (request : ClassCall) (x : Completion)
    (result : Except UsbError Unit) :
    k.add (.exchange (.call target request x result)) =
      { k with
        attachment := k.attachment.observe (.exchange (.call target request x result))
        calls := k.calls ++ [request]
        issued := k.issued ++ [x] } := by
  simp [add, Effect.call?, Effect.issued?, Effect.called?, Effect.fulfilled?]

/-- An account with some notices more. Only that of the comparison counts. -/
def addNotices (k : Account) (notices : List Notice) : Account :=
  { k with
    attachment :=
      { k.attachment with
        compared := k.attachment.compared || decide (Notice.verified ∈ notices) } }

end Account

/-- Effects that leave every account as it is. -/
def Effect.isSilent : Effect → Bool
  | exchange (.init _ (.error _)) | exchange (.deinit ..) | exchange (.busReset ..)
  | exchange (.reEnumerate ..) | relayed _ => true
  | notice n => n != .verified
  | _ => false

theorem Account.add_of_isSilent (k : Account) {e : Effect} (h : e.isSilent = true) :
    k.add e = k := by
  unfold add
  cases e with
  | exchange x =>
    cases x with
    | init device result =>
      cases result with
      | ok => simp [Effect.isSilent] at h
      | error =>
        simp [Attachment.observe, Effect.call?, Effect.issued?, Effect.called?, Effect.fulfilled?]
    | call => simp [Effect.isSilent] at h
    | _ => simp [Attachment.observe, Effect.call?, Effect.issued?, Effect.called?, Effect.fulfilled?]
  | notice n =>
    simp only [Effect.isSilent, bne_iff_ne, ne_eq] at h
    have ho : k.attachment.observe (.notice n) = k.attachment := by
      unfold Attachment.observe
      split <;> simp_all
    simp [ho, Effect.call?, Effect.issued?, Effect.called?, Effect.fulfilled?]
  | relayed => simp [Attachment.observe, Effect.call?, Effect.issued?, Effect.called?, Effect.fulfilled?]
  | _ => simp [Effect.isSilent] at h

theorem Account.add_notice (k : Account) (n : Notice) :
    k.add (.notice n) = k.addNotices [n] := by
  by_cases hn : n = .verified
  · subst hn
    simp [add, addNotices, Attachment.observe, Effect.call?, Effect.issued?, Effect.called?,
      Effect.fulfilled?]
  · rw [k.add_of_isSilent (by simpa [Effect.isSilent] using hn)]
    simp [addNotices, Ne.symm hn]

/-- Every effect of a record stands to the effects before it as `P` says. -/
def Throughout (P : List Effect → Effect → Prop) (effects : List Effect) : Prop :=
  ∀ i e, effects[i]? = some e → P (effects.take i) e

namespace Throughout

variable {P : List Effect → Effect → Prop}

theorem nil : Throughout P [] := by
  intro i e h
  simp at h

theorem append_singleton {effects : List Effect} {e : Effect} :
    Throughout P (effects ++ [e]) ↔ Throughout P effects ∧ P effects e := by
  constructor
  · intro h
    refine ⟨fun i x hx => ?_, ?_⟩
    · have hi : i < effects.length := (List.getElem?_eq_some_iff.mp hx).1
      have hp := h i x (by rw [List.getElem?_append_left hi]; exact hx)
      rwa [List.take_append_of_le_length hi.le] at hp
    · have hp := h effects.length e (by simp)
      rwa [List.take_left] at hp
  · rintro ⟨h, hp⟩ i x hx
    by_cases hi : i < effects.length
    · rw [List.getElem?_append_left hi] at hx
      rw [List.take_append_of_le_length hi.le]
      exact h i x hx
    · have hl : i = effects.length := by
        have hlt := (List.getElem?_eq_some_iff.mp hx).1
        simp only [List.length_append, List.length_singleton] at hlt
        omega
      subst hl
      rw [List.getElem?_append_right le_rfl, Nat.sub_self] at hx
      obtain rfl := Option.some.inj hx
      rwa [List.take_left]

theorem append_of_prefix {effects later : List Effect} (h : Throughout P effects)
    (hl : ∀ e ∈ later, ∀ before, effects <+: before → P before e) :
    Throughout P (effects ++ later) := by
  induction later using List.reverseRecOn with
  | nil => rwa [List.append_nil]
  | append_singleton later e ih =>
    rw [← List.append_assoc]
    refine append_singleton.mpr ⟨ih fun x hx => hl x (by simp [hx]), hl e (by simp) _ ?_⟩
    exact List.prefix_append effects later

theorem append {effects later : List Effect} (h : Throughout P effects)
    (hl : ∀ e ∈ later, ∀ before, P before e) : Throughout P (effects ++ later) :=
  h.append_of_prefix fun e he before _ => hl e he before

theorem take {effects : List Effect} (h : Throughout P effects) (n : Nat) :
    Throughout P (effects.take n) := by
  intro i e he
  rw [List.getElem?_take] at he
  split at he
  · rename_i hi
    rw [List.take_take, Nat.min_eq_left hi.le]
    exact h i e he
  · simp at he

end Throughout

end FirmwareUpgrade
