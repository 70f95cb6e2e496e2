import FirmwareUpgrade.Cli.Simulate
import FirmwareUpgrade.Proofs.Following
import FirmwareUpgrade.Proofs.Pace
import FirmwareUpgrade.Proofs.Settling

/-!
# Deferral does not show

The accelerator calls a completion before the operation returns, or holds it back until nothing is
left to handle. One simulation of each kind is run here, with the same faults. They are level
(`Level`) while neither accelerator holds a completion, and apart (`Apart`) while the second does:
it is then about to queue what waits in the first already. A request takes level simulations to
level ones or apart, and the call of the completion that is held makes them level again. The bound
on the requests that are left (`Paced`) shows that both come to rest before their fuel is used up.
-/
namespace FirmwareUpgrade

/-! ## Accelerators that differ in deferral -/

namespace Accelerator

variable {α : Type} {a b : Accelerator α}

/-- The second accelerator is the first, except that it will hold completions back. None is held
now. -/
structure Twins (a b : Accelerator α) : Prop where
  eq : b = { a with deferred := true }
  immediate : a.deferred = false
  held : a.held = []
  outstanding : a.outstanding = 0

/-- They are so once the second one has let go of what it holds. -/
def Resumes (a b : Accelerator α) : Prop := Twins a b.takeHeld.1

theorem twins_new (faults : Faults) :
    Twins (new faults false : Accelerator α) (new faults true) := ⟨rfl, rfl, rfl, rfl⟩

namespace Twins

theorem calls (h : Twins a b) : a.calls = b.calls := by rw [h.eq]

theorem memory (h : Twins a b) : a.memory = b.memory := by rw [h.eq]

theorem log (h : Twins a b) (call : DeviceCall) : Twins (a.log call) (b.log call) := by
  obtain ⟨rfl, hi, hh, ho⟩ := h
  exact ⟨rfl, hi, hh, ho⟩

theorem init (h : Twins a b) (wanted : DeviceHandle) :
    Twins (a.init wanted).1 (b.init wanted).1 ∧ (a.init wanted).2 = (b.init wanted).2 := by
  obtain ⟨rfl, hi, hh, ho⟩ := h
  unfold Accelerator.init
  dsimp only [Accelerator.log]
  split
  · exact ⟨⟨rfl, hi, hh, ho⟩, rfl⟩
  · exact ⟨⟨rfl, hi, hh, ho⟩, rfl⟩

theorem deinit (h : Twins a b) (target : ClassHandle) :
    Twins (a.deinit target).1 (b.deinit target).1 := by
  obtain ⟨rfl, hi, hh, ho⟩ := h
  unfold Accelerator.deinit
  dsimp only [Accelerator.log]
  split <;> exact ⟨rfl, hi, hh, ho⟩

/-- Both refuse an operation, or both carry it out: then the first calls its completion, and the
second holds just that. -/
theorem submit (h : Twins a b) (target : ClassHandle) (request : ClassCall) (x : α) :
    (∃ cause, (a.submit target request x).2 = .refused cause ∧
        (b.submit target request x).2 = .refused cause ∧
        Twins (a.submit target request x).1 (b.submit target request x).1) ∨
      ∃ notices r d, (a.submit target request x).2 = ⟨.ok (), notices, [(x, r)]⟩ ∧
        (b.submit target request x).2 = ⟨.ok (), notices, []⟩ ∧
        (b.submit target request x).1.takeHeld = (d, some (x, r)) ∧
        Twins (a.submit target request x).1 d := by
  obtain ⟨rfl, hi, hh, ho⟩ := h
  have hlog : ({ a with deferred := true } : Accelerator α).log request.record =
      { a.log request.record with deferred := true } := rfl
  unfold Accelerator.submit
  dsimp only
  rw [hlog]
  split
  · exact .inl ⟨_, rfl, rfl, ⟨rfl, hi, hh, ho⟩⟩
  split
  · exact .inl ⟨_, rfl, rfl, ⟨rfl, hi, hh, ho⟩⟩
  split
  · exact .inl ⟨_, rfl, rfl, ⟨rfl, hi, hh, ho⟩⟩
  · right
    rw [a.respond_frame (b := a.log request.record) rfl rfl rfl rfl,
      a.respond_frame (b := { a.log request.record with deferred := true }) rfl rfl rfl rfl]
    refine ⟨(a.respond request).2.2, (a.respond request).2.1, { a.log request.record with
      memory := (a.respond request).1.memory
      uploadOffset := (a.respond request).1.uploadOffset
      state := (a.respond request).1.state
      deferred := true
      maxOutstanding := max a.maxOutstanding 1 }, ?_, ?_, ?_, ?_⟩
    · simp [conclude, Accelerator.log, hi]
    · simp [conclude, Accelerator.log]
    · simp [conclude, Accelerator.log, takeHeld, hh, ho]
    · exact ⟨by simp [conclude, Accelerator.log, hi, ho], by simp [conclude, Accelerator.log, hi],
        by simp [conclude, Accelerator.log, hi, hh], by simp [conclude, Accelerator.log, hi, ho]⟩

end Twins

/-- Neither kind of accelerator answers otherwise where it does not start an operation. -/
theorem agrees_twins : driver.Agrees driver Twins where
  init _ _ wanted h := h.init wanted
  deinit _ _ _ target h := h.deinit target
  busReset _ _ _ h := h.log .busReset
  reEnumerate _ _ _ h := h.log .reEnumerate

end Accelerator

namespace Session

variable {κ : Type} {image : Bytes} {config : Config} {s t u : Rig κ} {m n : Nat} {q : Request}

/-! ## The worker -/

/-- The worker handles so many requests, one after the other. -/
inductive Works {δ : Type} (drv : Driver δ) : Session δ κ → Nat → Session δ κ → Prop
  | rest (s : Session δ κ) : Works drv s 0 s
  | work {s u : Session δ κ} {q : Request} {n : Nat} :
    s.requests = q :: s.dropOldest.requests → Works drv (handle drv s.dropOldest q).1 n u →
    Works drv s (n + 1) u

theorem Works.trans {δ : Type} {drv : Driver δ} {s t u : Session δ κ} (h : Works drv s m t)
    (h' : Works drv t n u) : Works drv s (m + n) u := by
  induction h with
  | rest => rwa [Nat.zero_add]
  | work hreq _ ih =>
    rw [Nat.add_right_comm]
    exact .work hreq (ih h')

theorem drain_of_idle {δ : Type} {drv : Driver δ} {w : Worker (Upgrade δ) Request κ Phase}
    (h : requests w.service = []) (fuel count : Nat) :
    w.drain (handle drv) fuel count = (w, count) := by
  have hw : w.service.channel.waiting = [] := List.map_eq_nil_iff.mp h
  cases fuel <;> simp [Worker.drain, hw]

/-- With enough fuel the worker comes to the end of what it can handle. -/
theorem Works.drain {δ : Type} {drv : Driver δ} {s u : Session δ κ} (h : Works drv s n u)
    (hu : u.requests = []) : ∀ {w : Worker (Upgrade δ) Request κ Phase} {fuel : Nat}
      (count : Nat), w.service = s → n ≤ fuel →
      (w.drain (handle drv) fuel count).1.service = u ∧
        (w.drain (handle drv) fuel count).2 = count + n := by
  induction h with
  | rest s =>
    rintro w fuel count rfl -
    rw [drain_of_idle hu]
    exact ⟨rfl, rfl⟩
  | @work s u q n hreq _ ih =>
    rintro w fuel count rfl hle
    obtain ⟨fuel, rfl⟩ : ∃ k, fuel = k + 1 := ⟨fuel - 1, by omega⟩
    unfold Worker.drain
    cases hw : w.service.channel.waiting with
    | nil => simp [requests, hw] at hreq
    | cons e rest =>
      obtain rfl : e.request = q := by
        simp only [requests, hw, List.map_cons] at hreq
        exact (List.cons.inj hreq).1
      obtain ⟨hservice, hcount⟩ := ih hu (w := w.dispatch (handle drv) e) (count + 1) rfl
        (Nat.le_of_succ_le_succ hle)
      exact ⟨hservice, hcount.trans (by omega)⟩

/-! ## Level and apart -/

/-- The two simulations show the same, and no completion is held. -/
abbrev Level (s t : Rig κ) : Prop := Follows Lead.none [] Accelerator.Twins s t

/-- The completion that was queued last in the first simulation is held in the second, where nothing
waits. Without it the two are level. -/
def Apart (s t : Rig κ) : Prop :=
  ∃ s₀ x r d, s = s₀.deliver x r ∧ t.requests = [] ∧ t.state.driver.takeHeld = (d, some (x, r)) ∧
    Level s₀ (t.withDriver d)

theorem Level.controller_eq (h : Level s t) : s.controller = t.controller := by
  rw [h.controller, Lead.ahead_none]

theorem Level.requests_eq (h : Level s t) : s.requests = t.requests := by
  rw [h.requests, Request.map_shift_none]

theorem Level.held (h : Level s t) : s.state.driver.held = [] ∧ t.state.driver.held = [] :=
  ⟨h.driver.held, by rw [h.driver.eq]; exact h.driver.held⟩

theorem Apart.note (h : Apart s t) (notice : Notice) : Apart s (t.note notice) := by
  obtain ⟨s₀, x, r, d, hs, hreq, htake, hlevel⟩ := h
  exact ⟨s₀, x, r, d, hs, hreq, htake, hlevel.hushed .refl (.note (t.withDriver d) notice)⟩

/-- The call of the completion that was held makes the two level. -/
theorem Apart.level (h : Apart s t) : ∃ x r d, t.state.driver.takeHeld = (d, some (x, r)) ∧
    Level s ((t.withDriver d).deliver x r) := by
  obtain ⟨s₀, x, r, d, rfl, -, htake, hlevel⟩ := h
  refine ⟨x, r, d, htake, ?_⟩
  have hdelivered := hlevel.deliver x r
  rwa [x.shift_none] at hdelivered

/-- While an operation is handed over that both accept, what the second holds is set aside. -/
theorem Level.handOver (h : Level s t) (target : ClassHandle) (request : ClassCall) (length : Nat)
    {x : Completion} {r : Reply} {d : Accelerator Completion}
    (hx : ⟨t.controller.nextTicket, request.operation⟩ = x)
    (hd : Accelerator.Twins (s.state.driver.submit target request x).1 d)
    (htake : (t.state.driver.submit target request x).1.takeHeld = (d, some (x, r))) :
    Level (s.handOver Accelerator.driver target request length)
      ((t.handOver Accelerator.driver target request length).withDriver d) := by
  have hresumes : Follows Lead.none [] Accelerator.Resumes s t :=
    { h with
      driver := by simpa [Accelerator.Resumes, Accelerator.takeHeld, h.held.2] using h.driver }
  have hd' : Accelerator.Resumes (s.state.driver.submit target request x).1
      (t.state.driver.submit target request x).1 := by
    rw [Accelerator.Resumes, htake]
    exact hd
  have hhanded : Follows Lead.none [] Accelerator.Resumes
      (s.handOver Accelerator.driver target request length)
      (t.handOver Accelerator.driver target request length) :=
    hresumes.handOver target length (by rwa [hx, x.shift_none])
  refine { hhanded with driver := ?_ }
  rw [driver_handOver, driver_withDriver, h.controller_eq, hx]
  exact hd

/-- An operation that both accept is called in one and held in the other. -/
theorem Level.start (h : Level s t) (hreq : t.requests = []) (target : ClassHandle)
    (request : ClassCall) (length : Nat) :
    Level (s.start Accelerator.driver target request length)
        (t.start Accelerator.driver target request length) ∨
      Apart (s.start Accelerator.driver target request length)
        (t.start Accelerator.driver target request length) := by
  generalize hx : (⟨t.controller.nextTicket, request.operation⟩ : Completion) = x
  have has : s.answerTo Accelerator.driver target request =
      (s.state.driver.submit target request x).2 := by
    rw [answerTo, h.controller_eq, hx]
    rfl
  have hat : t.answerTo Accelerator.driver target request =
      (t.state.driver.submit target request x).2 := by
    rw [answerTo, hx]
    rfl
  rcases h.driver.submit target request x with
    ⟨cause, ha, hb, hd⟩ | ⟨notices, r, d, ha, hb, htake, hd⟩
  · left
    have hshift : ∀ y : Completion, y.shift Lead.none.tickets = y := Completion.shift_none
    refine Follows.start h target length ?_ ?_ ?_
    · rwa [hx, hshift]
    all_goals
      rw [hat, hb, hx, hshift,
        show (Accelerator.driver.submit s.state.driver target request x).2 = _ from ha]
    rfl
  · right
    have ht : t.start Accelerator.driver target request length =
        t.handOver Accelerator.driver target request length := by
      rw [start_eq, hat, hb]
      rfl
    rw [ht]
    refine ⟨s.handOver Accelerator.driver target request length, x, r, d, ?_, ?_, ?_,
      h.handOver target request length hx hd htake⟩
    · rw [start_eq, has, ha]
      rfl
    · exact (requests_handOver ..).trans hreq
    · rw [driver_handOver, hx]
      exact htake

/-- A request is dealt with alike, if nothing waits behind it or it only binds a device. -/
theorem Level.take (h : Level s t) (ha : t.controller.Anchored)
    (hq : t.requests = [] ∨ ∃ b, q = .bind b) :
    Level (Session.take Accelerator.driver s q) (Session.take Accelerator.driver t q) ∨
      Apart (Session.take Accelerator.driver s q) (Session.take Accelerator.driver t q) := by
  rcases hq with hreq | ⟨b, rfl⟩
  · have htaken := Follows.take (R := fun u v => Level u v ∨ Apart u v) Accelerator.agrees_twins h
      ha .inl (fun p target request length _ hp => Level.start hp hreq target request length) q
    rwa [q.shift_none] at htaken
  · exact .inl (h.bind b)

theorem Level.handle (h : Level s t) (hserved : Served Accelerator.driver image config s)
    (hpaced : Paced s n) (hreq : s.requests = q :: s.dropOldest.requests) :
    Level (Session.handle Accelerator.driver s.dropOldest q).1
        (Session.handle Accelerator.driver t.dropOldest q).1 ∨
      Apart (Session.handle Accelerator.driver s.dropOldest q).1
        (Session.handle Accelerator.driver t.dropOldest q).1 := by
  have hdropped : Level s.dropOldest t.dropOldest := h.dropOldest
  have hnoticed : Level (s.dropOldest.noticed q) (t.dropOldest.noticed q) := hdropped.noticed q q
  have hanchored : t.dropOldest.controller.Anchored := by
    rw [← hdropped.controller_eq]
    exact hserved.custodial.keeps.anchored
  refine hnoticed.take (anchored_noticed hanchored q) ?_
  refine hpaced.alone hreq |>.imp_left fun hnone => ?_
  rw [requests, channel_noticed, ← requests, ← hdropped.requests_eq, hnone]

/-! ## Rounds -/

/-- The second worker handles requests until none waits. The first one can handle as many, and then
nothing waits there either, or the two are apart. -/
theorem Level.drain (fuel : Nat) :
    ∀ {s : Rig κ} {n : Nat} (w : Worker (Upgrade (Accelerator Completion)) Request κ Phase)
      (count : Nat), Level s w.service → Served Accelerator.driver image config s → Paced s n →
      n ≤ fuel →
      ∃ k u, Works Accelerator.driver s k u ∧ Served Accelerator.driver image config u ∧
        (w.drain (Session.handle Accelerator.driver) fuel count).2 = count + k ∧
        (k ≤ n ∧ u.requests = [] ∧
            Level u (w.drain (Session.handle Accelerator.driver) fuel count).1.service ∨
          (∃ m < n, k + m ≤ n ∧ Paced u m) ∧
            Apart u (w.drain (Session.handle Accelerator.driver) fuel count).1.service) := by
  induction fuel with
  | zero =>
    intro s n w count h hserved hpaced hle
    obtain rfl : n = 0 := by omega
    exact ⟨0, s, .rest s, hserved, rfl, .inl ⟨Nat.le_refl _, hpaced.requests_of_zero, h⟩⟩
  | succ fuel ih =>
    intro s n w count h hserved hpaced hle
    unfold Worker.drain
    cases hw : w.service.channel.waiting with
    | nil =>
      have hnone : requests w.service = [] := List.map_eq_nil_iff.mpr hw
      exact ⟨0, s, .rest s, hserved, rfl, .inl ⟨Nat.zero_le _, h.requests_eq.trans hnone, h⟩⟩
    | cons e rest =>
      have hreq : s.requests = e.request :: s.dropOldest.requests := by
        rw [requests_dropOldest, h.requests_eq]
        simp [requests, hw]
      obtain ⟨m, hm, hpaced'⟩ := hpaced.handle hreq
      have hserved' : Served Accelerator.driver image config
          (Session.handle Accelerator.driver s.dropOldest e.request).1 :=
        .handle _ (.elsewhere hserved (.dropOldest s))
      rcases h.handle hserved hpaced hreq with hlevel | hapart
      · obtain ⟨k, u, hworks, hu, hcount, hcases⟩ :=
          ih (w.dispatch (Session.handle Accelerator.driver) e) (count + 1) hlevel hserved' hpaced'
            (by omega)
        refine ⟨k + 1, u, .work hreq hworks, hu, hcount.trans (by omega), ?_⟩
        rcases hcases with ⟨hk, hrest⟩ | ⟨⟨m', hm', hk, hpaced''⟩, hrest⟩
        · exact .inl ⟨by omega, hrest⟩
        · exact .inr ⟨⟨m', by omega, by omega, hpaced''⟩, hrest⟩
      · obtain ⟨-, -, -, -, -, hnone, -⟩ := id hapart
        simp only [List.head?_cons]
        rw [drain_of_idle (w := w.dispatch (Session.handle Accelerator.driver) e) hnone]
        exact ⟨1, _, .work hreq (.rest _), hserved', rfl, .inr ⟨⟨m, hm, by omega, hpaced'⟩, hapart⟩⟩

end Session

namespace Simulation

open Session

variable {image : Bytes} {config : Config} {s : Rig Empty} {j : Simulation} {n : Nat}

/-- The rounds are left when no completion is held. -/
theorem settleFrom_of_idle (h : (round j).driver.held = []) (fuel count : Nat) :
    Installation.settleFrom round Accelerator.backlog fuel j count = (round j, count) := by
  have hsize : Accelerator.backlog.size (round j).driver = 0 := by
    show (round j).driver.held.length = 0
    rw [h]
    rfl
  cases fuel <;> simp [Installation.settleFrom, hsize]

theorem settleFrom_of_held {d : Accelerator Completion} {x : Completion} {r : Reply}
    (h : (round j).driver.takeHeld = (d, some (x, r))) (fuel count : Nat) :
    Installation.settleFrom round Accelerator.backlog (fuel + 1) j count =
      Installation.settleFrom round Accelerator.backlog fuel
        ((round j).deliverNext Accelerator.backlog) (count + 1) := by
  refine if_neg fun hsize => ?_
  have hheld : (round j).driver.held = [] := List.length_eq_zero_iff.mp hsize
  simp [Accelerator.takeHeld, hheld] at h

/-- What the loops are given for a number of requests is enough for all that is ever left. -/
theorem le_budget (waiting size : Nat) : 8 * size + 16 ≤ (waiting + 1) * (8 * size + 64) := by
  have hone := Nat.le_mul_of_pos_left (8 * size + 64) (show 0 < waiting + 1 by omega)
  omega

/-- What the second simulation does in a round, the worker of the first can do by itself. The fuel
of a round is enough for all that is left. -/
theorem level_round (h : Level s j.session) (hserved : Served Accelerator.driver image config s)
    (hpaced : Paced s n) (hn : n ≤ 8 * image.size + 16) :
    ∃ k u, Works Accelerator.driver s k u ∧ Served Accelerator.driver image config u ∧
      (j.drain Accelerator.driver).2 = k ∧
      (k ≤ n ∧ Session.requests u = [] ∧ Level u (round j).session ∨
        (∃ m < n, k + m ≤ n ∧ Paced u m) ∧ Apart u (round j).session) := by
  have himage : j.controller.image = image :=
    (congrArg Controller.image h.controller_eq).symm.trans hserved.inRange.image_eq
  have hbudget : n ≤ j.drainBudget := by
    unfold Installation.drainBudget
    rw [himage]
    exact hn.trans (le_budget _ _)
  obtain ⟨k, u, hworks, hu, hcount, hcases⟩ :=
    Level.drain j.drainBudget j.worker 0 h hserved hpaced hbudget
  refine ⟨k, u, hworks, hu, hcount.trans (Nat.zero_add k), ?_⟩
  rcases hcases with ⟨hk, hrest, hlevel⟩ | ⟨hleft, hapart⟩
  · exact .inl ⟨hk, hrest, hlevel.hushed .refl ((Hushed.note _ _).trans (.note _ _))⟩
  · exact .inr ⟨hleft, (hapart.note _).note _⟩

/-- The rounds of the second simulation come to an end, and the worker of the first comes to the
same end by itself. -/
theorem level_settleFrom (fuel : Nat) :
    ∀ {s : Rig Empty} {n : Nat} {j : Simulation} (count : Nat), Level s j.session →
      Served Accelerator.driver image config s → Paced s n → n ≤ 8 * image.size + 16 → n ≤ fuel →
      ∃ k u, Works Accelerator.driver s k u ∧ k ≤ n ∧ Session.requests u = [] ∧
        Level u (Installation.settleFrom round Accelerator.backlog fuel j count).1.session := by
  induction fuel with
  | zero =>
    intro s n j count h hserved hpaced hn hle
    obtain ⟨k, u, hworks, hu, -, ⟨hk, hrest, hlevel⟩ | ⟨⟨m, hm, -⟩, -⟩⟩ :=
      level_round h hserved hpaced hn
    · rw [settleFrom_of_idle hlevel.held.2]
      exact ⟨k, u, hworks, hk, hrest, hlevel⟩
    · omega
  | succ fuel ih =>
    intro s n j count h hserved hpaced hn hle
    obtain ⟨k, u, hworks, hu, -, ⟨hk, hrest, hlevel⟩ | ⟨⟨m, hm, hkm, hpaced'⟩, hapart⟩⟩ :=
      level_round h hserved hpaced hn
    · rw [settleFrom_of_idle hlevel.held.2]
      exact ⟨k, u, hworks, hk, hrest, hlevel⟩
    · obtain ⟨x, r, d, htake, hlevel⟩ := hapart.level
      rw [← Installation.session_deliverNext htake] at hlevel
      rw [settleFrom_of_held htake]
      obtain ⟨k', v, hworks', hk', hv⟩ :=
        ih (count + 1) hlevel hu hpaced' (by omega) (by omega)
      exact ⟨k + k', v, hworks.trans hworks', by omega, hv⟩

/-- The accelerator plugged into a new controller. -/
def plugged (image : Bytes) (config : Config) (faults : Faults) (deferred : Bool) : Simulation :=
  ((Installation.new (Accelerator.new faults deferred) image config).plug dfuVendor dfuProduct).1

theorem image_plugged (image : Bytes) (config : Config) (faults : Faults) (deferred : Bool) :
    (plugged image config faults deferred).controller.image = image :=
  congrArg (fun s : Rig Empty => s.controller.image)
    (Installation.session_plug (Accelerator.new faults deferred) image config).1

theorem le_drainBudget_plugged (image : Bytes) (config : Config) (faults : Faults)
    (deferred : Bool) :
    8 * image.size + 16 ≤ (plugged image config faults deferred).drainBudget := by
  rw [Installation.drainBudget, image_plugged]
  exact le_budget _ _

theorem le_settleBudget_plugged (image : Bytes) (config : Config) (faults : Faults)
    (deferred : Bool) : 8 * image.size + 16 ≤
      (plugged image config faults deferred).settleBudget Accelerator.backlog := by
  rw [Installation.settleBudget, image_plugged]
  exact le_budget _ _

theorem level_plugged (image : Bytes) (config : Config) (faults : Faults) :
    Level (plugged image config faults false).session (plugged image config faults true).session ∧
      Served Accelerator.driver image config (plugged image config faults false).session ∧
      Paced (plugged image config faults false).session (8 * image.size + 16) := by
  obtain ⟨hs, hr⟩ :=
    Installation.session_plug (κ := Empty) (Accelerator.new faults false) image config
  obtain ⟨ht, hr'⟩ :=
    Installation.session_plug (κ := Empty) (Accelerator.new faults true) image config
  unfold plugged
  refine ⟨?_, ?_, .plugged accelerator hr ?_ ?_⟩
  · have hrequests := hr.trans hr'.symm
    rw [hs, ht] at hrequests ⊢
    refine ⟨(Lead.ahead_none ..).symm, rfl, rfl, rfl, ?_, Accelerator.twins_new faults, rfl⟩
    rw [Request.map_shift_none]
    exact hrequests
  · rw [hs]
    exact .elsewhere
      (.start (Accelerator.new faults false) (Channel.bounded config.queueCapacity).addSender)
      ⟨rfl, [.notice (.interfaceFound 0 Accelerator.device)], rfl, by simp [Effect.isDeed]⟩
  · rw [hs]
    rfl
  · rw [hs]
    exact Nat.le_refl _

/-- A simulation in which nothing is held is over with the first round. -/
theorem hushed_settle {k : Nat} {u : Rig Empty} (h : Works Accelerator.driver j.session k u)
    (hrest : Session.requests u = []) (hheld : u.state.driver.held = []) (hle : k ≤ j.drainBudget) :
    Hushed u (j.settle round Accelerator.backlog).1.session := by
  obtain ⟨hdrained, -⟩ := h.drain hrest 0 (w := j.worker) rfl hle
  have hround : Hushed u (round j).session := by
    rw [← hdrained]
    exact (Hushed.note _ _).trans (.note _ _)
  have hidle : (round j).driver.held = [] := by
    rw [Installation.driver, hround.driver, hheld]
  rw [Installation.settle, settleFrom_of_idle hidle]
  exact hround

/-- The worker of the first simulation comes to rest by itself, and both simulations end there. -/
theorem works_run (image : Bytes) (config : Config) (faults : Faults) :
    ∃ k u, k ≤ 8 * image.size + 16 ∧
      Works Accelerator.driver (plugged image config faults false).session k u ∧
      Session.requests u = [] ∧ Hushed u (run image config faults false).session ∧
      Level u (run image config faults true).session := by
  obtain ⟨hlevel, hserved, hpaced⟩ := level_plugged image config faults
  obtain ⟨k, u, hworks, hk, hrest, hend⟩ :=
    level_settleFrom _ 0 hlevel hserved hpaced (Nat.le_refl _) (le_settleBudget_plugged ..)
  exact ⟨k, u, hk, hworks, hrest,
    hushed_settle hworks hrest hend.held.1 (hk.trans (le_drainBudget_plugged ..)), hend⟩

/-- Both simulations come to rest, and are level then. -/
theorem level_run (image : Bytes) (config : Config) (faults : Faults) :
    Level (run image config faults false).session (run image config faults true).session ∧
      Session.requests (run image config faults false).session = [] := by
  obtain ⟨k, u, -, -, hrest, hfirst, hend⟩ := works_run image config faults
  refine ⟨hend.hushed hfirst .refl, ?_⟩
  rw [Session.requests, hfirst.channel]
  exact hrest

/-- Whatever the image, the settings and the faults, it does not show whether the accelerator holds
its completions back: the calls that it sees, what it stores, the controller in all that it
remembers, the phases that are seen on the way and the result of the command are the same. Both
simulations end with nothing left to do. -/
theorem run_deferred (image : Bytes) (config : Config) (faults : Faults) :
    let s := run image config faults false
    let t := run image config faults true
    s.driver.calls = t.driver.calls ∧ s.driver.memory = t.driver.memory ∧
      s.controller = t.controller ∧ s.session.signs = t.session.signs ∧
      s.result = t.result ∧ s.report.output = t.report.output ∧
      (s.channel.waiting = [] ∧ s.driver.held = []) ∧
      t.channel.waiting = [] ∧ t.driver.held = [] := by
  obtain ⟨hlevel, hrest⟩ := level_run image config faults
  generalize run image config faults false = s at hlevel hrest ⊢
  generalize run image config faults true = t at hlevel ⊢
  have hcontroller : s.controller = t.controller := hlevel.controller_eq
  have hcalls : s.driver.calls = t.driver.calls := hlevel.driver.calls
  have hrest' : Session.requests t.session = [] := hlevel.requests_eq.symm.trans hrest
  refine ⟨hcalls, hlevel.driver.memory, hcontroller, hlevel.signs, ?_, ?_,
    ⟨List.map_eq_nil_iff.mp hrest, hlevel.held.1⟩, List.map_eq_nil_iff.mp hrest', hlevel.held.2⟩
  · simp only [result, hcontroller]
  · simp only [report, summary, hcalls, hcontroller]

end Simulation

end FirmwareUpgrade
