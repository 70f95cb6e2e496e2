import FirmwareUpgrade.Proofs.FirstFault

/-!
# What the counter counts

The controller has one counter for the bytes of the image. On the way to the device it goes up by a
block with every download that succeeds, and with the empty block it starts over; on the way back it
goes up by the bytes that come, and with the comparison it starts over once more. When an upgrade
fails the counter stays as it is (`Stranded`): before the device took the empty block it still
counts what was sent, and nothing has come back by then.
-/
namespace FirmwareUpgrade

namespace Phase

/-- The phases up to the empty block. -/
def isLoading : Phase → Bool
  | setInterface | getStatus | transfer | zeroLengthTransfer => true
  | _ => false

end Phase

/-! ## The empty block -/

/-- Whether a call is the download of the empty block. -/
def ClassCall.commits : ClassCall → Bool
  | .dnload _ data => data.isEmpty
  | _ => false

namespace Issue

/-- The device took the empty block. -/
def Commits (i : Issue) : Prop :=
  i.request.commits = true ∧ i.accepted = true ∧ ∃ data, i.reply = some (.ok data)

/-- An operation with which nothing went over in either direction. -/
structure Barren (i : Issue) : Prop where
  sent : i.sent = []
  received : i.received = []
  uncommitted : ¬i.Commits

/-- Nothing comes of an operation that the driver refuses. -/
theorem barren_of_refused {i : Issue} (h : i.accepted = false) : i.Barren where
  sent := by cases hr : i.request <;> simp [sent, hr, h]
  received := by cases hr : i.request <;> simp [received, hr, h]
  uncommitted := fun ⟨_, hc, _⟩ => by simp [h] at hc

theorem barren_of_error {i : Issue} {cause : UsbError} (h : i.reply = some (.error cause)) :
    i.Barren where
  sent := by cases hr : i.request <;> simp [sent, hr, h]
  received := by cases hr : i.request <;> simp [received, hr, h]
  uncommitted := fun ⟨_, _, hc⟩ => by simp [h] at hc

theorem barren_of_getStatus {i : Issue} (h : i.request = .getStatus) : i.Barren where
  sent := by simp [sent, h]
  received := by simp [received, h]
  uncommitted := fun hc => by simp [Commits, h, ClassCall.commits] at hc

end Issue

namespace Attachment

variable {a : Attachment} {target : ClassHandle}

/-- The device took the empty block, and with it the image. -/
def Committed (a : Attachment) : Prop := ∃ i ∈ a.issues, i.Commits

theorem downloaded_of_addressed (ht : a.target = some target)
    (h : ∀ i ∈ a.issues, i.target = target) : a.downloaded = a.issues.flatMap Issue.sent := by
  rw [downloaded, List.filter_eq_self.mpr fun i hi => by simp [ht, h i hi]]

theorem uploaded_of_addressed (ht : a.target = some target)
    (h : ∀ i ∈ a.issues, i.target = target) : a.uploaded = a.issues.flatMap Issue.received := by
  rw [uploaded, List.filter_eq_self.mpr fun i hi => by simp [ht, h i hi]]

end Attachment

namespace Task

variable (t : Task) {p q : Phase} {i j : Nat} {request : ClassCall}

theorem countP_commits_downloads (i : Nat) : (t.downloads i).countP ClassCall.commits = 0 := by
  simp only [List.countP_eq_zero, downloads, download, List.mem_flatMap, List.mem_range'_1]
  rintro _ ⟨j, hj, hm⟩
  rcases List.mem_pair.mp hm with rfl | rfl
  · simp [ClassCall.commits, t.block_ne_empty (i := j) (by omega)]
  · simp [ClassCall.commits]

theorem countP_commits_uploads (i : Nat) : (t.uploads i).countP ClassCall.commits = 0 := by
  simp only [List.countP_eq_zero, uploads, upload, List.mem_flatMap]
  rintro _ ⟨j, -, hm⟩
  rcases List.mem_pair.mp hm with rfl | rfl <;> simp [ClassCall.commits]

theorem countP_commits_closing : t.closing.countP ClassCall.commits = 0 := by
  unfold closing
  split <;> rfl

theorem countP_commits_reading (i : Nat) : (t.reading i).countP ClassCall.commits = 0 := by
  unfold reading
  split <;>
    simp [countP_commits_uploads, countP_commits_closing, ClassCall.commits]

/-- The empty block is on the agenda until it was sent. -/
theorem countP_commits_agenda (p : Phase) (i : Nat) :
    (t.agenda p i).countP ClassCall.commits = if p.isLoading then 1 else 0 := by
  have hcommitting (n : Nat) : (t.committing n).countP ClassCall.commits = 1 := by
    simp [committing, countP_commits_reading, ClassCall.commits]
  have hloading (n : Nat) : (t.loading n).countP ClassCall.commits = 1 := by
    simp [loading, countP_commits_downloads, hcommitting]
  cases p <;> simp [agenda, Phase.isLoading, hcommitting, hloading, countP_commits_reading,
    countP_commits_uploads, countP_commits_closing, ClassCall.commits]

/-- The number of blocks with which the upgrade enters the phases where it is always the same. -/
def Aligned (t : Task) : Phase → Nat → Prop
  | .setInterface, i | .detach, i | .checkStatus, i | .complete, i => i = 0
  | .zeroLengthTransfer, i => i = t.blockCount
  | _, _ => True

variable {t}

theorem Step.aligned (h : t.Step p i request q j) (ha : t.Aligned p i) : t.Aligned q j := by
  cases h with
  | enough | compare => rfl
  | setInterface | more | transfer | commit | readBack | again => trivial
  | checkStatus => exact ha
  | detach =>
    split <;> exact ha

/-- What is still to be sent is the image from the next block on. -/
theorem Aligned.payload_agenda (h : t.Aligned p i) (hp : p.isLoading = true) :
    (t.agenda p i).flatMap ClassCall.payload = t.image.toList.drop (i * t.blockSize) := by
  cases p with
  | setInterface =>
    obtain rfl : i = 0 := h
    simpa [agenda, ClassCall.payload] using t.payload_loading 0
  | getStatus | transfer => simpa [agenda, ClassCall.payload] using t.payload_loading i
  | zeroLengthTransfer =>
    obtain rfl : i = t.blockCount := h
    have hle := t.blockCount_le (Nat.le_refl _)
    rw [List.drop_eq_nil_of_le (by simpa using hle)]
    simp [agenda, committing, ClassCall.payload, t.payload_reading]
  | _ => simp [Phase.isLoading] at hp

end Task

/-! ## The counter on the way -/

namespace Controller

variable {c d : Controller} {t : Task} {target : ClassHandle} {done rest : List Issue}
  {last : Issue} {compared : Bool} {p : Phase} {i : Nat} {op : InFlight} {data : Bytes} {r : Reply}
  {a b : Attachment} {cause : UpgradeError}

namespace Leg

theorem countP_commits (h : c.Leg t target .setInterface done compared p i) :
    (done.map (·.request)).countP ClassCall.commits = if p.isLoading then 0 else 1 := by
  have hcalls := congrArg (List.countP ClassCall.commits) h.calls
  rw [List.countP_append, t.countP_commits_agenda, t.countP_commits_agenda] at hcalls
  split at hcalls <;> simp_all [Phase.isLoading]

/-- Until then nothing was committed. -/
theorem not_commits (h : c.Leg t target .setInterface done compared p i)
    (hp : p.isLoading = true) : ∀ x ∈ done, ¬x.Commits := by
  have hcount := h.countP_commits
  rw [if_pos hp, List.countP_eq_zero] at hcount
  exact fun x hx hc => hcount _ (List.mem_map_of_mem hx) hc.1

/-- Behind it the image is committed. -/
theorem exists_commits (h : c.Leg t target .setInterface done compared p i)
    (hp : p.isLoading = false) : ∃ x ∈ done, x.Commits := by
  have hcount := h.countP_commits
  rw [hp] at hcount
  obtain ⟨request, hm, hc⟩ := List.countP_pos_iff.mp (Nat.lt_of_lt_of_eq Nat.one_pos hcount.symm)
  obtain ⟨x, hx, rfl⟩ := List.mem_map.mp hm
  exact ⟨x, hx, hc, (h.succeeded x hx).2⟩

/-- Before the empty block the counter counts what was sent. -/
theorem length_sent (h : c.Leg t target .setInterface done compared p i) (ha : t.Aligned p i)
    (hp : p.isLoading = true) : (done.flatMap Issue.sent).length = c.transferred := by
  have hsent : done.flatMap Issue.sent = (done.map (·.request)).flatMap ClassCall.payload := by
    rw [List.flatMap_map]
    exact List.flatMap_congr fun x hx => Issue.sent_of_succeeded (h.succeeded x hx)
  have hcalls := congrArg (List.flatMap ClassCall.payload) h.calls
  rw [List.flatMap_append, ← hsent, ha.payload_agenda hp, t.payload_agenda,
    if_pos (.inl rfl)] at hcalls
  have hlength := congrArg List.length hcalls
  simp only [List.length_append, List.length_drop, Array.length_toList] at hlength
  have hle : c.transferred = min (i * t.blockSize) t.image.size := by rw [h.transferred, h.image]
  omega

theorem received_eq_nil (h : c.Leg t target .setInterface done compared p i)
    (hp : p.isLoading = true) : done.flatMap Issue.received = [] := by
  have hplace := h.place
  cases p with
  | setInterface => exact hplace.2.2.back
  | getStatus | transfer => exact hplace.2.back
  | zeroLengthTransfer => exact Loading.back hplace
  | _ => simp [Phase.isLoading] at hp

/-- Behind the empty block the counter counts no more than what came back. -/
theorem transferred_le (h : c.Leg t target .setInterface done compared p i)
    (hp : p.isLoading = false) : c.transferred ≤ (done.flatMap Issue.received).length := by
  have hle : c.transferred ≤ c.image.size := by
    rw [h.transferred]
    exact Nat.min_le_right _ _
  have hplace := h.place
  cases p with
  | readBack => exact (hplace.2.length_back hle).ge
  | getStatusRead => exact (hplace.2.1.length_back hle).ge
  | detach | checkStatus | complete =>
    rcases hplace with ⟨hclosing, -⟩ | ⟨-, -, hback⟩
    · simp [Phase.isClosing] at hclosing
    · rwa [hback, Array.length_toList]
  | unattached | attached | error => exact hplace.elim
  | _ => simp [Phase.isLoading] at hp

end Leg

/-- At the end all of the image was sent, came back and was compared, and the counter is zero. -/
theorem Leg.justified (h : c.Leg t target .setInterface a.issues a.compared .complete i)
    (hi : t.Aligned .complete i) (hb : a.target = some target) :
    c.transferred = 0 ∧ a.Justified t.image := by
  obtain rfl : i = 0 := hi
  have hcalls := h.calls
  rw [show t.agenda .complete 0 = [] from rfl, List.append_nil] at hcalls
  have hclosing : c.Closing .setInterface (a.issues.flatMap Issue.received) a.compared := h.place
  rcases hclosing with ⟨hopening, -⟩ | ⟨-, hcompared, hback⟩
  · simp [Phase.isClosing] at hopening
  · refine ⟨by simp [h.transferred], ?_, ?_, hcompared⟩
    · rw [a.downloaded_of_succeeded hb h.succeeded, hcalls, t.payload_agenda, if_pos (.inl rfl)]
    · rw [a.uploaded_of_succeeded hb h.succeeded, hback, h.image]

/-! ## The counter behind a failure -/

/-- What the counter counts when an upgrade has failed: what was sent, and nothing came back, or no
more than what came back. -/
inductive Stranded (c : Controller) (a : Attachment) : Prop
  | outbound : ¬a.Committed → a.uploaded = [] → c.transferred = a.downloaded.length → Stranded c a
  | inbound : a.Committed → c.transferred ≤ a.uploaded.length → Stranded c a

/-- The counter is read along with the operations of the record and their handle. -/
theorem Stranded.congr (h : c.Stranded a) (hd : d.transferred = c.transferred)
    (hissues : b.issues = a.issues) (htarget : b.target = a.target) : d.Stranded b := by
  have hcommitted : b.Committed ↔ a.Committed := by rw [Attachment.Committed, hissues]; rfl
  have huploaded : b.uploaded = a.uploaded := by
    rw [Attachment.uploaded, hissues, htarget]
    rfl
  have hdownloaded : b.downloaded = a.downloaded := by
    rw [Attachment.downloaded, hissues, htarget]
    rfl
  cases h with
  | outbound hno hnone heq =>
    exact .outbound (mt hcommitted.mp hno) (huploaded.trans hnone) (by rw [hd, heq, hdownloaded])
  | inbound hyes hle => exact .inbound (hcommitted.mpr hyes) (by rwa [hd, huploaded])

theorem Stranded.transferred_le (h : c.Stranded a) (hyes : a.Committed) :
    c.transferred ≤ a.uploaded.length := by
  cases h with
  | outbound hno => exact absurd hyes hno
  | inbound _ hle => exact hle

theorem Stranded.transferred_eq (h : c.Stranded a) (hno : ¬a.Committed) :
    a.uploaded = [] ∧ c.transferred = a.downloaded.length := by
  cases h with
  | outbound _ hnone heq => exact ⟨hnone, heq⟩
  | inbound hyes => exact absurd hyes hno

/-- Before the empty block nothing came back, so that then the counter has to be zero. -/
theorem Stranded.transferred_le_iff (h : c.Stranded a) :
    c.transferred ≤ a.uploaded.length ↔ a.downloaded = [] ∨ a.Committed := by
  constructor
  · intro hle
    by_cases hyes : a.Committed
    · exact .inr hyes
    · obtain ⟨hnone, heq⟩ := h.transferred_eq hyes
      rw [hnone, heq] at hle
      exact .inl (List.length_eq_zero_iff.mp (Nat.le_zero.mp hle))
  · intro hor
    by_cases hyes : a.Committed
    · exact h.transferred_le hyes
    · rw [(h.transferred_eq hyes).2, hor.resolve_right hyes]
      exact Nat.zero_le _

/-- Before anything is issued there is nothing to count. -/
theorem stranded_of_issues_eq_nil (h : a.issues = []) (hc : c.transferred = 0) : c.Stranded a := by
  refine .outbound ?_ (by simp [Attachment.uploaded, h]) (by simp [Attachment.downloaded, h, hc])
  rintro ⟨x, hx, -⟩
  simp [h] at hx

/-- A failure on the way, possibly behind operations with which nothing went over. -/
theorem Leg.stranded (h : c.Leg t target .setInterface done compared p i) (hi : t.Aligned p i)
    (hb : a.target = some target) (hissues : a.issues = done ++ rest)
    (hrest : ∀ x ∈ rest, x.target = target ∧ x.Barren) (hle : d.transferred ≤ c.transferred)
    (heq : p.isLoading = true → d.transferred = c.transferred) : d.Stranded a := by
  have haddressed : ∀ x ∈ a.issues, x.target = target := by
    rw [hissues]
    intro x hx
    rcases List.mem_append.mp hx with hx | hx
    · exact (h.succeeded x hx).1
    · exact (hrest x hx).1
  have hsent : a.downloaded = done.flatMap Issue.sent := by
    rw [a.downloaded_of_addressed hb haddressed, hissues, List.flatMap_append,
      List.flatMap_eq_nil_iff.mpr fun x hx => (hrest x hx).2.sent, List.append_nil]
  have hreceived : a.uploaded = done.flatMap Issue.received := by
    rw [a.uploaded_of_addressed hb haddressed, hissues, List.flatMap_append,
      List.flatMap_eq_nil_iff.mpr fun x hx => (hrest x hx).2.received, List.append_nil]
  cases hp : p.isLoading with
  | true =>
    refine .outbound ?_ (hreceived.trans (h.received_eq_nil hp)) ?_
    · rintro ⟨x, hx, hc⟩
      rw [hissues] at hx
      rcases List.mem_append.mp hx with hx | hx
      · exact h.not_commits hp x hx hc
      · exact (hrest x hx).2.uncommitted hc
    · rw [heq hp, hsent, h.length_sent hi hp]
  | false =>
    obtain ⟨x, hx, hc⟩ := h.exists_commits hp
    refine .inbound ⟨x, ?_, hc⟩ ?_
    · rw [hissues]
      exact List.mem_append_left _ hx
    · rw [hreceived]
      exact hle.trans (h.transferred_le hp)

/-- A success that does not let the upgrade go on is a bad status or the end of the read-back. -/
theorem succeed_error {request : ClassCall} (ha : c.action c.phase = .start request op.length)
    (he : (c.succeed op data).next = .error cause) :
    request = .getStatus ∧ (c.succeed op data).controller.transferred ≤ c.transferred ∧
        (c.phase.isLoading = true → (c.succeed op data).controller.transferred = c.transferred) ∨
      c.phase = .readBack ∧ (c.succeed op data).controller.transferred =
        c.transferred + (data.extract 0 op.length).size := by
  have hcheck (next : Phase) :
      (c.checkStatus data next).controller.transferred = c.transferred := by
    unfold checkStatus
    split <;> rfl
  have hstarts := starts_of_action ha
  generalize hl : op.length = length at hstarts
  generalize hp : c.phase = p at hstarts
  cases hstarts with
  | getStatus =>
    left
    simp only [succeed, hp]
    exact ⟨trivial, (hcheck _).le, fun _ => hcheck _⟩
  | getStatusRead =>
    left
    simp only [succeed, hp]
    refine ⟨trivial, ?_, by simp [Phase.isLoading]⟩
    split
    · have hc := hcheck .detach
      generalize c.checkStatus data .detach = v at hc
      obtain ⟨e, notices, next⟩ := v
      cases next with
      | error => exact hc.le
      | ok =>
        simp only [Verdict.andThen, verify]
        split <;> simp [resetCounters]
    · exact (hcheck _).le
  | readBack =>
    right
    simp only [succeed, hp, takeChunk, ← hl]
    refine ⟨trivial, ?_⟩
    split <;> rfl
  | setInterface | transfer | zeroLengthTransfer | detach | checkStatus =>
    simp [succeed, hp] at he

/-- The operation in flight ends the upgrade. -/
theorem Leg.stranded_conclude (h : c.Leg t target .setInterface done compared c.phase i)
    (hi : t.Aligned c.phase i) (ha : c.action c.phase = .start last.request op.length)
    (hb : a.target = some target) (hissues : a.issues = done ++ [last])
    (hlast : last.target = target ∧ last.accepted = true ∧ last.reply = some r)
    (operation : Operation) (he : (c.conclude op operation r).next = .error cause) :
    (c.conclude op operation r).controller.Stranded a := by
  have h' : Controller.Leg { c with inFlight := none } t target .setInterface done compared c.phase
      i := h.congr rfl rfl rfl rfl rfl rfl
  cases r with
  | error refusal =>
    refine h'.stranded hi hb hissues (fun x hx => ?_) (Nat.le_refl _) fun _ => rfl
    obtain rfl := List.mem_singleton.mp hx
    exact ⟨hlast.1, Issue.barren_of_error hlast.2.2⟩
  | ok data =>
    have he' : (Controller.succeed { c with inFlight := none } op data).next = .error cause := he
    have ha' : Controller.action { c with inFlight := none } c.phase =
        .start last.request op.length := ha
    rcases succeed_error ha' he' with ⟨hr, hle, heq⟩ | ⟨hp, htransferred⟩
    · refine h'.stranded hi hb hissues (fun x hx => ?_) hle heq
      obtain rfl := List.mem_singleton.mp hx
      exact ⟨hlast.1, Issue.barren_of_getStatus hr⟩
    · replace hp : c.phase = .readBack := hp
      rw [hp] at h ha
      have hsucceeded : last.Succeeded target := ⟨hlast.1, hlast.2.1, data, hlast.2.2⟩
      obtain ⟨-, -, -, hreceived⟩ := h.readBack_request ha hlast.2.2 hsucceeded
      have huploaded : a.uploaded = done.flatMap Issue.received ++ last.received := by
        rw [a.uploaded_of_succeeded hb, hissues, List.flatMap_append, List.flatMap_singleton]
        rw [hissues]
        intro x hx
        rcases List.mem_append.mp hx with hx | hx
        · exact h.succeeded x hx
        · exact List.mem_singleton.mp hx ▸ hsucceeded
      obtain ⟨x, hx, hc⟩ := h.exists_commits rfl
      refine .inbound ⟨x, by rw [hissues]; exact List.mem_append_left _ hx, hc⟩ ?_
      rw [huploaded, hreceived, List.length_append, Array.length_toList]
      refine (show _ = c.transferred + _ from htransferred).trans_le ?_
      exact Nat.add_le_add_right (h.transferred_le rfl) _

/-- How the counter and the record of an upgrade agree in the end. -/
inductive Balanced (c : Controller) (t : Task) (a : Attachment) : Prop
  | complete : c.phase = .complete → c.transferred = 0 → a.Justified t.image → Balanced c t a
  | failed : c.phase = .error → c.Stranded a → Balanced c t a

end Controller

end FirmwareUpgrade
