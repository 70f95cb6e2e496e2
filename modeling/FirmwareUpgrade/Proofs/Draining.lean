import FirmwareUpgrade.Proofs.Fifo

/-!
# Waiting for a condition and draining

The two loops of a worker take the oldest request each time and differ in when they stop. `Drains`
is the loop that goes on until nothing waits, written down without any bound; a loop that goes on
forever has no such end. `Handles` is any part of it, with the requests that are handled.

A worker that waits for a condition on its handler comes some way along that loop and no further:
`Stops` cuts the requests of the loop in two, those that it handles and those that it leaves. Where
the cut falls depends on the clock as well, of which nothing is assumed.
-/
namespace FirmwareUpgrade

namespace Worker

variable {η ρ κ π : Type} {handle : Handler η ρ κ π} {u v w z : Worker η ρ κ π} {m n : Nat}
  {es : List (Envelope ρ κ)} {e : Envelope ρ κ}

/-- The worker handles requests until none waits, `n` of them in all. -/
inductive Drains (handle : Handler η ρ κ π) : Worker η ρ κ π → Nat → Worker η ρ κ π → Prop
  | rest {w : Worker η ρ κ π} : w.service.channel.waiting = [] → Drains handle w 0 w
  | work {v w : Worker η ρ κ π} {e : Envelope ρ κ} {n : Nat} :
    v.service.channel.waiting.head? = some e → Drains handle (v.dispatch handle e) n w →
    Drains handle v (n + 1) w

/-- A worker that stopped because nothing waited was not cut short. -/
theorem drains_of_drain (fuel : Nat) :
    ∀ {w : Worker η ρ κ π} {count : Nat},
      (w.drain handle fuel count).1.service.channel.waiting = [] →
      ∃ n, w.Drains handle n (w.drain handle fuel count).1 ∧
        (w.drain handle fuel count).2 = count + n := by
  induction fuel with
  | zero => exact fun h => ⟨0, .rest h, rfl⟩
  | succ fuel ih =>
    intro w count h
    unfold drain at h ⊢
    cases he : w.service.channel.waiting.head? with
    | none => exact ⟨0, .rest (List.head?_eq_none_iff.mp he), rfl⟩
    | some e =>
      simp only [he] at h ⊢
      obtain ⟨n, hdrains, hcount⟩ := ih h
      exact ⟨n + 1, .work he hdrains, hcount.trans (by omega)⟩

/-- There is only one way for a worker to go on. -/
theorem Drains.unique (h : v.Drains handle n w) : ∀ {m : Nat} {u : Worker η ρ κ π},
    v.Drains handle m u → m = n ∧ u = w := by
  induction h with
  | rest hrest =>
    intro m u h'
    cases h' with
    | rest => exact ⟨rfl, rfl⟩
    | work he => simp [hrest] at he
  | work he _ ih =>
    intro m u h'
    cases h' with
    | rest hrest => simp [hrest] at he
    | work he' h' =>
      obtain rfl := Option.some.inj (he.symm.trans he')
      obtain ⟨rfl, rfl⟩ := ih h'
      exact ⟨rfl, rfl⟩

/-! ## Parts of the loop -/

/-- The worker handles these requests one after the other, each as the oldest that waits. -/
inductive Handles (handle : Handler η ρ κ π) :
    Worker η ρ κ π → List (Envelope ρ κ) → Worker η ρ κ π → Prop
  | nil {w : Worker η ρ κ π} : Handles handle w [] w
  | cons {v w : Worker η ρ κ π} {e : Envelope ρ κ} {es : List (Envelope ρ κ)} :
    v.service.channel.waiting.head? = some e → Handles handle (v.dispatch handle e) es w →
    Handles handle v (e :: es) w

/-- Where nothing waits, nothing is handled. -/
theorem Handles.of_rest (h : w.Handles handle es z) (hrest : w.service.channel.waiting = []) :
    es = [] ∧ z = w := by
  cases h with
  | nil => exact ⟨rfl, rfl⟩
  | cons he => simp [hrest] at he

theorem Drains.handles (h : w.Drains handle n z) :
    ∃ es, w.Handles handle es z ∧ es.length = n ∧ z.service.channel.waiting = [] := by
  induction h with
  | rest hrest => exact ⟨[], .nil, rfl, hrest⟩
  | work he _ ih =>
    obtain ⟨es, hes, hlength, hrest⟩ := ih
    exact ⟨_ :: es, .cons he hes, congrArg (· + 1) hlength, hrest⟩

/-- A worker that would drain into `z` handles some of the requests and leaves the others, because
its handler satisfies a condition, because the time is up, or because there are no others. -/
structure Stops (handle : Handler η ρ κ π) (done : η → Bool) (deadline : Deadline)
    (w z : Worker η ρ κ π) (handled left : List (Envelope ρ κ)) (u : Worker η ρ κ π)
    (result : Except WorkerError Unit) : Prop where
  handles : w.Handles handle handled u
  goes_on : u.Handles handle left z
  /-- What is left and was sent by now waits, the oldest request first. -/
  queued : handle.Sends → u.service.channel.waiting <+: left
  /-- The condition does not hold any sooner, nor is the time up. -/
  first : ∀ before v, before <+: handled → before ≠ handled → w.Handles handle before v →
    done v.service.state = false ∧ deadline.passed before.length = false
  met : result = .ok () ↔ done u.service.state
  /-- Nothing is left but for a reason. -/
  spent : left ≠ [] → done u.service.state ∨ deadline.passed handled.length
  /-- Nobody could send any more and there was time to find that out, or the time is up. -/
  unmet : done u.service.state = false → result = .error
    (if u.service.channel.senders = 0 ∧ deadline.passed handled.length = false then .closed
      else .timeout)

/-- As long as a request waits, the time is not up when the worker looks at the clock. -/
def Spared (handle : Handler η ρ κ π) (deadline : Deadline) (w : Worker η ρ κ π) : Prop :=
  ∀ before v, w.Handles handle before v → v.service.channel.waiting ≠ [] →
    deadline.passed before.length = false

section
variable {done : η → Bool} {deadline : Deadline} {handled left : List (Envelope ρ κ)}
  {result : Except WorkerError Unit}

/-- Nothing waits any more. -/
theorem Stops.idle (hrest : w.service.channel.waiting = []) (hdone : done w.service.state = false)
    (htime : deadline.passed 0 = false) :
    Stops handle done deadline w w [] [] w
      (.error (if w.service.channel.senders = 0 then .closed else .timeout)) where
  handles := .nil
  goes_on := .nil
  queued _ := hrest ▸ List.nil_prefix
  first _ _ hprefix hne := absurd (List.prefix_nil.mp hprefix) hne
  met := by simp [hdone]
  spent hne := absurd rfl hne
  unmet _ := by simp [htime]

/-- One more request is handled. -/
theorem Stops.later (he : v.service.channel.waiting.head? = some e)
    (hdone : done v.service.state = false) (htime : deadline.passed 0 = false)
    (h : Stops handle done deadline.next (v.dispatch handle e) z handled left u result) :
    Stops handle done deadline v z (e :: handled) left u result where
  handles := .cons he h.handles
  goes_on := h.goes_on
  queued := h.queued
  first before x hprefix hne hbefore := by
    cases hbefore with
    | nil => exact ⟨hdone, htime⟩
    | cons he' hbefore =>
      obtain rfl := Option.some.inj (he.symm.trans he')
      -- The worker has no choice which request to handle first.
      have hprefix := (List.prefix_cons_inj e).mp hprefix
      exact h.first _ x hprefix (fun heq => hne (congrArg (e :: ·) heq)) hbefore
  met := h.met
  spent := h.spent
  unmet := h.unmet

/-- Without the condition, a worker whose time is spared handles everything. -/
theorem Stops.left_eq_nil (h : Stops handle done deadline w z handled left u result)
    (hspared : w.Spared handle deadline) (hdone : done u.service.state = false) : left = [] := by
  by_contra hleft
  have hlate : deadline.passed handled.length = true :=
    (h.spent hleft).resolve_left (by simp [hdone])
  have hwaiting : u.service.channel.waiting ≠ [] :=
    fun hrest => hleft (h.goes_on.of_rest hrest).1
  exact Bool.false_ne_true ((hspared handled u h.handles hwaiting).symm.trans hlate)

end

end Worker

namespace Countdown

end Countdown

end FirmwareUpgrade
