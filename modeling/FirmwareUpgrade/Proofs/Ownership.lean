import FirmwareUpgrade.Proofs.Atomicity

/-!
# For whom an interface is claimed

An interface is claimed for the class handle on which its selection was called. While no handle is live
nothing should be claimed, and an operation on a handle should not use what was claimed for an earlier
one (`Guarded`).

The class driver does not see to that. A selection puts its claim in place although its handle was
taken back in the meantime, and a new handle leaves the claim where it is. `Orderly` excludes just that,
and `guarded_iff` says that there is no third way.
-/
namespace FirmwareUpgrade.Threaded

variable {wire : Wire} {h : List Transition} {s s' : Threaded Commission} {x y : Commission}
  {e : Happening}

/-- The call whose selection put the present claim in place, from the one before. -/
def claimantAfter (y : Option Commission) : Happening → Option Commission
  | .stored x _ => some x
  | .closed _ (.ok ()) => none
  | _ => y

def claimant (es : List Happening) : Option Commission := es.foldl claimantAfter none

/-- What is wanted of the claim of a link behind these events. -/
structure Guarded (es : List Happening) (s : Threaded Commission) : Prop where
  vacant : s.link.liveClass = none → s.link.claimed = none
  /-- An operation that would be accepted now would use an interface that was claimed for its handle. -/
  owned : ∀ target request c r data, s.link.work target request = .ok (.transfer c r data) →
    s.link.claimed = some c ∧ ∃ y, claimant es = some y ∧ y.target = target

/-- A selection ends while its handle is live, and a handle is given out while nothing is claimed. -/
structure Transition.Orderly (τ : Transition) : Prop where
  stored : ∀ x c, τ.event = .stored x c → τ.before.link.liveClass = some x.target
  opened : ∀ target, τ.event = .opened target → τ.before.link.claimed = none

@[simp] theorem claimant_concat (es : List Happening) (e : Happening) :
    claimant (es ++ [e]) = claimantAfter (claimant es) e := by
  simp [claimant]

theorem exists_stored_of_claimant {es : List Happening} (hy : claimant es = some y) :
    ∃ c, .stored y c ∈ es := by
  induction es using List.reverseRecOn with
  | nil => cases hy
  | append_singleton es e ih =>
    rw [claimant_concat] at hy
    unfold claimantAfter at hy
    split at hy
    · rename_i c
      obtain rfl := Option.some.inj hy
      exact ⟨c, by simp⟩
    · cases hy
    · obtain ⟨c, hc⟩ := ih hy
      exact ⟨c, List.mem_append_left _ hc⟩

theorem isSome_claimantAfter {claim : Option Claim} {y : Option Commission}
    (h : claim.isSome = y.isSome) (e : Happening) :
    (e.claimed claim).isSome = (claimantAfter y e).isSome := by
  unfold Happening.claimed claimantAfter
  split <;> simp_all

/-- Something is claimed exactly if someone put it in place. -/
theorem Runs.isSome_claimed (hr : Runs wire h s) :
    s.link.claimed.isSome = (claimant (events h)).isSome := by
  induction hr with
  | new => rfl
  | @step h s s' e _ hs _ ih =>
    rw [hs.follows.claimed, events_append]
    exact (isSome_claimantAfter ih e).trans (congrArg _ (claimant_concat ..).symm)

/-! ## Handles -/

theorem Step.opened {target : ClassHandle} (h : Step s (.opened target) s') :
    target = ⟨s.link.nextClass⟩ := by
  cases h
  rfl

/-- Handles are given out in order: all that were in use are older than the next one. -/
structure Older (es : List Happening) (s : Threaded Commission) : Prop where
  live : ∀ target, s.link.liveClass = some target → target.value < s.link.nextClass
  called : ∀ x, .called x (.ok ()) ∈ es → x.target.value < s.link.nextClass

theorem Step.nextClass_le (h : Step s e s') : s.link.nextClass ≤ s'.link.nextClass := by
  rw [h.follows.nextClass]
  unfold Happening.nextClass
  split <;> omega

theorem Runs.older (hr : Runs wire h s) : Older (events h) s := by
  induction hr with
  | new => exact ⟨nofun, nofun⟩
  | @step h s s' e hr hs _ ih =>
    have hle := hs.nextClass_le
    refine ⟨fun target hlive => ?_, fun x hx => ?_⟩
    · rw [hs.follows.live] at hlive
      unfold Happening.live at hlive
      split at hlive
      · obtain rfl := Option.some.inj hlive
        rw [hs.opened, hs.follows.nextClass]
        exact Nat.lt_succ_self _
      · cases hlive
      · exact Nat.lt_of_lt_of_le (ih.live target hlive) hle
    · rw [events_append, List.mem_append] at hx
      rcases hx with hx | hx
      · exact Nat.lt_of_lt_of_le (ih.called x hx) hle
      · obtain rfl := List.mem_singleton.mp hx
        have hadmissible := hs.admissible_iff.mpr (.inl rfl)
        exact Nat.lt_of_lt_of_le (ih.live _ hadmissible.live) hle

/-- Whoever put a claim in place had been accepted, on a handle that is older than the next one. -/
theorem Runs.claimant_lt (hr : Runs wire h s) (hy : claimant (events h) = some y) :
    y.target.value < s.link.nextClass := by
  obtain ⟨c, hstored⟩ := exists_stored_of_claimant hy
  exact hr.older.called y (hr.called_of_worker hstored rfl)

/-! ## Runs -/

/-- The claim is guarded exactly if whoever put it in place did so for the live handle. -/
theorem Runs.guarded_iff_live (hr : Runs wire h s) :
    Guarded (events h) s ↔
      ∀ y, claimant (events h) = some y → s.link.liveClass = some y.target := by
  have hclaimed := hr.isSome_claimed
  constructor
  · intro hg y hy
    rw [hy, Option.isSome_some, Option.isSome_iff_exists] at hclaimed
    obtain ⟨c, hc⟩ := hclaimed
    cases hlive : s.link.liveClass with
    | none =>
      rw [hg.vacant hlive] at hc
      cases hc
    | some target =>
      obtain ⟨-, z, hz, rfl⟩ := hg.owned target .getStatus c (.getStatus c.interface) #[]
        (by simp [Link.work, hlive, hc])
      rw [hy] at hz
      obtain rfl := Option.some.inj hz
      rfl
  · intro hlive
    refine ⟨fun hnone => ?_, fun target request c r data hwork => ?_⟩
    · cases hy : claimant (events h) with
      | none => simpa [hy] using hclaimed
      | some y =>
        rw [hlive y hy] at hnone
        cases hnone
    · rcases Commission.work_cases ⟨0, target, request⟩ s.link with ⟨hx, -⟩ | ⟨-, cause, herror, -⟩
      · cases Link.work_serves hwork with
        | transfer hc =>
          rw [hc, Option.isSome_some, eq_comm, Option.isSome_iff_exists] at hclaimed
          obtain ⟨y, hy⟩ := hclaimed
          have htarget := (hlive y hy).symm.trans hx.live
          exact ⟨hc, y, hy, Option.some.inj htarget⟩
      · rw [hwork] at herror
        cases herror

/-- A step keeps the claim guarded exactly if it is orderly. -/
theorem Runs.guarded_step (hr : Runs wire h s) (hr' : Runs wire (h ++ [⟨s, e, s'⟩]) s')
    (hs : Step s e s') (hg : Guarded (events h) s) :
    Guarded (events (h ++ [⟨s, e, s'⟩])) s' ↔ Transition.Orderly ⟨s, e, s'⟩ := by
  rw [hr'.guarded_iff_live]
  rw [hr.guarded_iff_live] at hg
  have hevents : events (h ++ [⟨s, e, s'⟩]) = events h ++ [e] := events_append ..
  rw [hevents, claimant_concat, hs.follows.live]
  cases e with
  | stored x c =>
    constructor
    · intro hlive
      exact ⟨fun y c' heq => by cases heq; exact hlive x rfl, nofun⟩
    · intro horderly y hy
      obtain rfl := Option.some.inj hy
      exact horderly.stored x c rfl
  | opened target =>
    have htarget := hs.opened
    constructor
    · intro hlive
      refine ⟨nofun, fun _ _ => ?_⟩
      cases hy : claimant (events h) with
      | none => simpa [hy] using hr.isSome_claimed
      | some y =>
        -- The new handle would have to be that of an earlier call.
        have hlt := hr.claimant_lt hy
        obtain rfl := Option.some.inj (hlive y hy)
        rw [htarget] at hlt
        exact absurd hlt (Nat.lt_irrefl _)
    · intro horderly y hy
      have hnone := hr.isSome_claimed
      rw [horderly.opened target rfl] at hnone
      rw [show claimant (events h) = some y from hy] at hnone
      cases hnone
  | closed target result =>
    refine ⟨fun _ => ⟨nofun, nofun⟩, fun _ => ?_⟩
    cases result with
    | error cause => exact hg
    | ok => exact nofun
  | _ => exact ⟨fun _ => ⟨nofun, nofun⟩, fun _ => hg⟩

theorem Runs.guarded (hr : Runs wire h s) (horderly : ∀ τ ∈ h, τ.Orderly) :
    Guarded (events h) s := by
  induction hr with
  | new => exact Runs.new.guarded_iff_live.mpr nofun
  | @step h s s' e hr hs hfresh ih =>
    have hbefore := ih fun τ hτ => horderly τ (List.mem_append_left _ hτ)
    exact (hr.guarded_step (hr.step hs hfresh) hs hbefore).mpr (horderly _ (by simp))

theorem Runs.orderly (hr : Runs wire h s)
    (hguarded : ∀ before t, before <+: h → Runs wire before t → Guarded (events before) t) :
    ∀ τ ∈ h, τ.Orderly := by
  induction hr with
  | new => simp
  | @step h s s' e hr hs hfresh ih =>
    have hr' := hr.step hs hfresh
    intro τ hτ
    rcases List.mem_append.mp hτ with hτ | hτ
    · exact ih (fun before t hp => hguarded before t (hp.trans (List.prefix_append ..))) τ hτ
    · obtain rfl := List.mem_singleton.mp hτ
      have hbefore := hguarded h s (List.prefix_append ..) hr
      exact (hr.guarded_step hr' hs hbefore).mp (hguarded _ s' (List.prefix_refl _) hr')

/-- Take any calls, any device, and any order in which the threads take their steps. At all times nothing
is claimed while no handle is live, and no operation uses an interface that was claimed for an earlier
handle, exactly if every selection that succeeds does so while its handle is live and every new handle
is given out while nothing is claimed. -/
theorem Runs.guarded_iff (hr : Runs wire h s) :
    (∀ before t, before <+: h → Runs wire before t → Guarded (events before) t) ↔
      ∀ τ ∈ h, τ.Orderly :=
  ⟨hr.orderly, fun horderly _ _ hp hr' => hr'.guarded fun τ hτ => horderly τ (hp.subset hτ)⟩

/-- The selection of an interface on an idle device is such a run. -/
theorem selection_guarded_iff :
    ∃ h s, Runs ⟨idleDevice, #[]⟩ h s ∧ .completed selection (.ok #[]) ∈ events h ∧
      ((∀ before t, before <+: h → Runs ⟨idleDevice, #[]⟩ before t → Guarded (events before) t) ↔
        ∀ τ ∈ h, τ.Orderly) := by
  obtain ⟨h, hr, hdone, -⟩ := runs_selected
  exact ⟨h, ⟨selected, []⟩, hr, hdone, hr.guarded_iff⟩

/-- The handle is taken back while the selection is on its way: afterwards an interface is claimed and no
handle is live. And a new handle is given out after a selection: an operation on it uses the interface
that was claimed for the old one. -/
theorem exists_stale_claim :
    (∃ h l, Runs ⟨idleDevice, #[]⟩ h ⟨l, []⟩ ∧ l.liveClass = none ∧ l.claimed = some ⟨0, 2⟩) ∧
      ∃ h l, Runs ⟨idleDevice, #[]⟩ h ⟨l, []⟩ ∧ claimant (events h) = some selection ∧
        selection.target = ⟨1⟩ ∧
        l.work ⟨2⟩ .getStatus = .ok (.transfer ⟨0, 2⟩ (.getStatus 2) #[]) := by
  constructor
  · obtain ⟨h, hr, -⟩ := runs_selecting
    obtain ⟨later, -, -, hr'⟩ :=
      (hr.deinit ⟨1⟩ (by decide +kernel)).finish (x := selection) 0 (.ok #[]) (by decide +kernel)
    exact ⟨_, _, hr', by decide +kernel, by decide +kernel⟩
  · obtain ⟨h, hr, -, hown⟩ := runs_selected
    have hclaimed := hr.init.isSome_claimed
    simp only [Link.init, claimed_selected, Option.isSome_some] at hclaimed
    obtain ⟨y, hy⟩ := Option.isSome_iff_exists.mp hclaimed.symm
    obtain ⟨c, hstored⟩ := exists_stored_of_claimant hy
    have hbefore : .stored y c ∈ events h := by simpa [events] using hstored
    obtain rfl := hown _ hbefore y rfl
    exact ⟨_, _, hr.init, hy, rfl, by decide +kernel⟩

end FirmwareUpgrade.Threaded
