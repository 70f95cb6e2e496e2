import FirmwareUpgrade.Proofs.Progress

/-!
# The course of an attachment

A controller, the account of the record and the requests that wait are in one of five stages: no
device is known, the upgrade is over, the class driver was initialised and nothing issued yet, the
next phase waits in the queue, or an operation is in flight. `Course` says which, and what else
holds in it. Requests that outlive a detach are allowed for: while an attachment opens, phase
changes of an earlier one may wait, and the first of them decides where the upgrade begins.
-/
namespace FirmwareUpgrade

namespace Request

/-- The phase that a request steps to, apart from those of attaching and detaching. -/
def transition? : Request → Option Phase
  | nextPhase p => if p = .unattached ∨ p = .attached then none else some p
  | _ => none

def completion? : Request → Option Completion
  | completed completion _ => some completion
  | _ => none

theorem eq_nextPhase_of_transition? {q : Request} {p : Phase} (h : q.transition? = some p) :
    q = .nextPhase p := by
  cases q with
  | nextPhase p' =>
    simp only [transition?] at h
    split at h
    · simp at h
    · rw [Option.some.inj h]
  | _ => simp [transition?] at h

end Request

/-- The phase changes that wait and that only the controller asks for. -/
def transitions (waiting : List Request) : List Phase := waiting.filterMap Request.transition?

/-- The completion that goes to the driver with an operation. -/
def InFlight.completion (op : InFlight) : Completion := ⟨op.ticket, op.operation⟩

namespace Account

/-- How often a completion may still be handled: the driver may call it, or it waits. -/
def outstanding (k : Account) (waiting : List Request) (x : Completion) : Nat :=
  k.held x + waiting.countP (·.completion? = some x)

/-- All that was issued is fulfilled, and nothing more can come of it. -/
structure Quiet (k : Account) (waiting : List Request) : Prop where
  fulfilled : k.issued = k.fulfilled
  outstanding : ∀ x, k.outstanding waiting x = 0

variable {k : Account} {waiting : List Request} {x : Completion} {r : Reply}

theorem held_add_completed (y : Completion) :
    (k.add (.completed x r)).held y = k.held y - if x = y then 1 else 0 := by
  simp only [held, add, Effect.issued?, Effect.called?, Option.toList, List.append_nil,
    List.count_append, List.count_singleton, beq_iff_eq]
  omega

theorem outstanding_append (later : List Request) (y : Completion) :
    k.outstanding (waiting ++ later) y =
      k.outstanding waiting y + later.countP (·.completion? = some y) := by
  simp only [outstanding, List.countP_append]
  omega

theorem outstanding_cons (q : Request) (y : Completion) :
    k.outstanding (q :: waiting) y =
      k.outstanding waiting y + if q.completion? = some y then 1 else 0 := by
  simp only [outstanding, List.countP_cons, decide_eq_true_eq]
  omega

/-- A completion that the driver calls is outstanding no more often than before. -/
theorem outstanding_add_completed_le (hx : 0 < k.held x) {later : List Request}
    (hl : later = waiting ∨ later = waiting ++ [.completed x r]) (y : Completion) :
    (k.add (.completed x r)).outstanding later y ≤ k.outstanding waiting y := by
  have hh := k.held_add_completed (x := x) (r := r) y
  rcases hl with rfl | rfl
  · unfold outstanding
    omega
  · rw [outstanding_append]
    unfold outstanding
    rw [hh]
    simp only [List.countP_singleton, Request.completion?, Option.some.injEq, decide_eq_true_eq]
    split
    · rename_i hxy
      subst hxy
      omega
    · omega

end Account

/-- The terms of a run: the image, the settings, and whether the device stays attached. -/
structure Terms where
  image : Bytes
  config : Config
  kept : Prop

/-- What holds in every stage. -/
structure Base (T : Terms) (c : Controller) (k : Account) (waiting : List Request) : Prop where
  image : c.image = T.image
  config : c.config = T.config
  next : c.nextTicket = UInt32.ofNat k.issued.length
  drawn : ∀ x ∈ k.issued, ∃ n < k.issued.length, x.ticket = UInt32.ofNat n
  handed : ∀ x r, .completed x r ∈ waiting → x ∈ k.issued
  postable : ∀ p ∈ transitions waiting, p ≠ .error ∧ (p = .transfer → T.image.size ≠ 0)
  kept : T.kept → .nextPhase .unattached ∉ waiting
  calls : T.kept → k.calls = k.attachment.issues.map (·.request)
  schedule : T.kept → k.calls ≠ [] →
    ∃ x, c.boundInterface = some x ∧ k.calls <+: (Task.mk T.image T.config x).schedule

/-- No device is known. -/
structure Away (T : Terms) (c : Controller) (k : Account) (waiting : List Request) : Prop where
  phase : c.phase = .unattached
  live : c.liveClass = none
  idle : c.inFlight = none
  buffer : c.readback = none
  kept : T.kept → transitions waiting = [] ∧ k.calls = [] ∧ k.Quiet waiting

/-- The class driver was initialised, and no operation was issued since. -/
structure Opening (T : Terms) (c : Controller) (k : Account) (waiting : List Request)
    (target : ClassHandle) : Prop where
  phase : c.phase = .attached ∨ c.phase = .readBack ∧ c.image.size = 0
  live : c.liveClass = some target
  idle : c.inFlight = none
  bound : k.attachment.target = some target
  issues : k.attachment.issues = []
  compared : k.attachment.compared = false
  transferred : c.transferred = 0
  block : c.block = 0
  buffer : ∀ b, c.readback = some b → b.size = c.image.size
  kept : T.kept → c.phase = .attached ∧ transitions waiting = [.setInterface] ∧ k.calls = [] ∧
    k.Quiet waiting

/-- An operation succeeded, and the step to the next phase waits. -/
structure Posted (T : Terms) (c : Controller) (k : Account) (waiting : List Request)
    (target : ClassHandle) (t : Task) (p : Phase) (i : Nat) : Prop where
  phase : c.phase ≠ .unattached ∧ c.phase.isTerminal = false
  live : c.liveClass = some target
  idle : c.inFlight = none
  bound : k.attachment.target = some target
  issues : k.attachment.issues ≠ []
  transitions : transitions waiting = [p]
  leg : c.Leg t target k.attachment.opening k.attachment.issues k.attachment.compared p i
  kept : T.kept → k.attachment.opening = .setInterface ∧ k.Quiet waiting

/-- An operation is in flight. Phase changes of an earlier attachment come before its completion
in the queue, and so are dropped. -/
structure Flying (T : Terms) (c : Controller) (k : Account) (waiting : List Request)
    (target : ClassHandle) (t : Task) (op : InFlight) (i : Nat) (done : List Issue)
    (last : Issue) : Prop where
  live : c.liveClass = some target
  inFlight : c.inFlight = some op
  bound : k.attachment.target = some target
  issues : k.attachment.issues = done ++ [last]
  completion : last.completion = op.completion
  addressed : last.target = target
  accepted : last.accepted = true
  leg : c.Leg t target k.attachment.opening done k.attachment.compared c.phase i
  action : c.action c.phase = .start last.request op.length
  buffer : c.phase = .readBack → c.readback.isSome
  own : ∀ x, x.ticket = op.ticket →
    k.outstanding waiting x ≤ if x = op.completion then 1 else 0
  unheld : last.reply ≠ none → k.held op.completion = 0
  reply : ∀ x r, .completed x r ∈ waiting → x.ticket = op.ticket → last.reply = some r
  behind : waiting.Pairwise fun q r =>
    q.completion? = some op.completion → r.transition? = none
  kept : T.kept → k.attachment.opening = .setInterface ∧ FirmwareUpgrade.transitions waiting = [] ∧
    k.issued = k.fulfilled ++ [op.completion] ∧
    ∀ x, x.ticket ≠ op.ticket → k.outstanding waiting x = 0

/-- Where an upgrade stands between two requests. -/
inductive Stage (T : Terms) (c : Controller) (k : Account) (waiting : List Request) : Prop
  | away : Away T c k waiting → Stage T c k waiting
  | ended : c.phase.isTerminal = true → c.inFlight = none → Stage T c k waiting
  | opening (target : ClassHandle) : Opening T c k waiting target → Stage T c k waiting
  | posted (target : ClassHandle) (t : Task) (p : Phase) (i : Nat) :
    Posted T c k waiting target t p i → Stage T c k waiting
  | flying (target : ClassHandle) (t : Task) (op : InFlight) (i : Nat) (done : List Issue)
    (last : Issue) : Flying T c k waiting target t op i done last → Stage T c k waiting

/-- The invariant of a run. -/
structure Course (T : Terms) (c : Controller) (k : Account) (waiting : List Request) : Prop where
  base : Base T c k waiting
  stage : Stage T c k waiting

/-! ## Requests that come and go -/

@[simp]
theorem transitions_append (a b : List Request) :
    transitions (a ++ b) = transitions a ++ transitions b := by
  simp [transitions]

theorem transitions_cons_of_none {q : Request} (h : q.transition? = none)
    (waiting : List Request) : transitions (q :: waiting) = transitions waiting := by
  simp [transitions, h]

theorem transitions_cons_of_some {q : Request} {p : Phase} (h : q.transition? = some p)
    (waiting : List Request) : transitions (q :: waiting) = p :: transitions waiting := by
  simp [transitions, h]

theorem transitions_singleton_of_none {q : Request} (h : q.transition? = none) :
    transitions [q] = [] := transitions_cons_of_none h []

section
variable {T : Terms} {c : Controller} {k : Account} {waiting : List Request} {q : Request}

theorem Account.Quiet.post (h : k.Quiet waiting) (hq : q.completion? = none) :
    k.Quiet (waiting ++ [q]) :=
  ⟨h.fulfilled, fun x => by rw [outstanding_append, h.outstanding]; simp [hq]⟩

theorem Base.post (h : Base T c k waiting) (hq : q.completion? = none)
    (ht : ∀ p, q.transition? = some p → p ≠ .error ∧ (p = .transfer → T.image.size ≠ 0))
    (hk : T.kept → q ≠ .nextPhase .unattached) : Base T c k (waiting ++ [q]) where
  image := h.image
  config := h.config
  next := h.next
  drawn := h.drawn
  handed := fun x r hm => by
    rcases List.mem_append.mp hm with hm | hm
    · exact h.handed x r hm
    · rw [← List.mem_singleton.mp hm] at hq
      simp [Request.completion?] at hq
  postable := fun p hp => by
    rw [transitions_append] at hp
    rcases List.mem_append.mp hp with hp | hp
    · exact h.postable p hp
    · exact ht p (by simpa [transitions] using hp)
  kept := fun hT hm => by
    rcases List.mem_append.mp hm with hm | hm
    · exact h.kept hT hm
    · exact hk hT (List.mem_singleton.mp hm).symm
  calls := h.calls
  schedule := h.schedule

/-- A request that neither steps on nor reports a completion may come at any time. -/
theorem Course.post (h : Course T c k waiting) (ht : q.transition? = none)
    (hq : q.completion? = none) (hk : T.kept → q ≠ .nextPhase .unattached) :
    Course T c k (waiting ++ [q]) := by
  have hts : transitions (waiting ++ [q]) = transitions waiting := by
    rw [transitions_append, transitions_singleton_of_none ht, List.append_nil]
  have hos : ∀ x, k.outstanding (waiting ++ [q]) x = k.outstanding waiting x := by
    intro x
    rw [Account.outstanding_append]
    simp [hq]
  refine ⟨h.base.post hq (by simp [ht]) hk, ?_⟩
  cases h.stage with
  | away hs =>
    refine .away ⟨hs.phase, hs.live, hs.idle, hs.buffer, fun hT => ?_⟩
    obtain ⟨h1, h2, h3⟩ := hs.kept hT
    exact ⟨hts.trans h1, h2, h3.post hq⟩
  | ended hp hi => exact .ended hp hi
  | opening target hs =>
    refine .opening target ⟨hs.phase, hs.live, hs.idle, hs.bound, hs.issues, hs.compared,
      hs.transferred, hs.block, hs.buffer, fun hT => ?_⟩
    obtain ⟨h1, h2, h3, h4⟩ := hs.kept hT
    exact ⟨h1, hts.trans h2, h3, h4.post hq⟩
  | posted target t p i hs =>
    refine .posted target t p i ⟨hs.phase, hs.live, hs.idle, hs.bound, hs.issues,
      hts.trans hs.transitions, hs.leg, fun hT => ?_⟩
    obtain ⟨h1, h2⟩ := hs.kept hT
    exact ⟨h1, h2.post hq⟩
  | flying target t op i done last hs =>
    refine .flying target t op i done last
      { hs with own := ?_, reply := ?_, behind := ?_, kept := ?_ }
    · intro x hx
      rw [hos]
      exact hs.own x hx
    · intro x r hx
      rcases List.mem_append.mp hx with hx | hx
      · exact hs.reply x r hx
      · rw [← List.mem_singleton.mp hx] at hq
        simp [Request.completion?] at hq
    · refine List.pairwise_append.mpr ⟨hs.behind, List.pairwise_singleton _ _, ?_⟩
      intro a _ b hb _
      rwa [List.mem_singleton.mp hb]
    · intro hT
      obtain ⟨h1, h2, h3, h4⟩ := hs.kept hT
      exact ⟨h1, hts.trans h2, h3, fun x hx => (hos x).trans (h4 x hx)⟩

/-! ## Completions that the driver calls -/

theorem Issue.settle_of_succeeded {target : ClassHandle} {i : Issue} (h : i.Succeeded target)
    (x : Completion) (r : Reply) : i.settle x r = i := by
  obtain ⟨-, -, data, hr⟩ := h
  simp [settle, hr]

theorem Issue.map_settle_of_succeeded {target : ClassHandle} {done : List Issue}
    (h : ∀ d ∈ done, d.Succeeded target) (x : Completion) (r : Reply) :
    done.map (·.settle x r) = done := by
  rw [List.map_congr_left fun d hd => settle_of_succeeded (h d hd) x r, List.map_id']

@[simp]
theorem Issue.request_settle (i : Issue) (x : Completion) (r : Reply) :
    (i.settle x r).request = i.request := by
  unfold settle
  split <;> rfl

variable {x : Completion} {r : Reply} {later : List Request}

theorem transitions_of_completed (hl : later = waiting ∨ later = waiting ++ [.completed x r]) :
    transitions later = transitions waiting := by
  rcases hl with rfl | rfl
  · rfl
  · rw [transitions_append]
    exact List.append_nil _

theorem Account.Quiet.not_held (h : k.Quiet waiting) (hx : 0 < k.held x) : False := by
  have ho := h.outstanding x
  unfold Account.outstanding at ho
  omega

theorem Account.mem_issued_of_held (hx : 0 < k.held x) : x ∈ k.issued := by
  apply List.count_pos_iff.mp
  unfold held at hx
  omega

/-- What waits behind the call of a completion waited before it, unless it is that completion. -/
theorem mem_of_completed (hl : later = waiting ∨ later = waiting ++ [.completed x r])
    {y : Completion} {s : Reply} (hm : .completed y s ∈ later) :
    .completed y s ∈ waiting ∨ y = x ∧ s = r := by
  rcases hl with rfl | rfl
  · exact .inl hm
  · rcases List.mem_append.mp hm with hm | hm
    · exact .inl hm
    · exact .inr (Request.completed.inj (List.mem_singleton.mp hm))

theorem Base.deliver (h : Base T c k waiting) (hx : 0 < k.held x)
    (hl : later = waiting ∨ later = waiting ++ [.completed x r]) :
    Base T c (k.add (.completed x r)) later := by
  rw [Account.add_completed]
  refine ⟨h.image, h.config, h.next, h.drawn, fun y s hm => ?_, ?_, fun hT => ?_, fun hT => ?_,
    h.schedule⟩
  · rcases mem_of_completed hl hm with hm | ⟨rfl, -⟩
    · exact h.handed y s hm
    · exact Account.mem_issued_of_held (k := k) hx
  · rw [transitions_of_completed hl]
    exact h.postable
  · rcases hl with rfl | rfl <;> simp [h.kept hT]
  · simp [Attachment.observe, h.calls hT, Function.comp_def]

section

variable {target : ClassHandle} {t : Task} {op : InFlight} {i : Nat} {done : List Issue}
  {last : Issue}

/-- A completion with the ticket of the operation in flight is its own, is held once, and was not
called before. -/
theorem Flying.only_call (h : Flying T c k waiting target t op i done last) (hx : 0 < k.held x)
    (hxt : x.ticket = op.ticket) :
    x = op.completion ∧ k.held op.completion = 1 ∧ last.reply = none := by
  have ho := h.own x hxt
  unfold Account.outstanding at ho
  have hxc : x = op.completion := by
    by_contra hne
    rw [if_neg hne] at ho
    omega
  subst hxc
  rw [if_pos rfl] at ho
  refine ⟨rfl, by omega, ?_⟩
  by_contra hne
  have hz := h.unheld hne
  omega

/-- Every other completion is that of an operation before. -/
theorem Flying.settle_of_ne (h : Flying T c k waiting target t op i done last)
    (hxt : x.ticket ≠ op.ticket) : last.settle x r = last := by
  have hne : last.completion ≠ x := by
    rintro rfl
    exact hxt (by rw [h.completion]; rfl)
  simp [Issue.settle, hne]

theorem Flying.behind_completed (h : Flying T c k waiting target t op i done last)
    (hl : later = waiting ∨ later = waiting ++ [.completed x r]) :
    later.Pairwise fun q r => q.completion? = some op.completion → r.transition? = none := by
  rcases hl with rfl | rfl
  · exact h.behind
  · refine List.pairwise_append.mpr ⟨h.behind, List.pairwise_singleton _ _, ?_⟩
    intro a _ b hb _
    rw [List.mem_singleton.mp hb]
    rfl

theorem Flying.kept_completed (h : Flying T c k waiting target t op i done last) (hx : 0 < k.held x)
    (hl : later = waiting ∨ later = waiting ++ [.completed x r]) (hT : T.kept) :
    k.attachment.opening = .setInterface ∧ transitions later = [] ∧
      (k.add (.completed x r)).issued = (k.add (.completed x r)).fulfilled ++ [op.completion] ∧
      ∀ y, y.ticket ≠ op.ticket → (k.add (.completed x r)).outstanding later y = 0 := by
  obtain ⟨h1, h2, h3, h4⟩ := h.kept hT
  refine ⟨h1, (transitions_of_completed hl).trans h2, ?_, fun y hy => ?_⟩
  · simp only [Account.add, Effect.issued?, Effect.fulfilled?, Option.toList, List.append_nil]
    exact h3
  · have hz := k.outstanding_add_completed_le (r := r) hx hl y
    rw [h4 y hy] at hz
    omega

/-- The driver calls a completion while an operation is in flight: its own, or one of before. -/
theorem Flying.deliver (h : Flying T c k waiting target t op i done last) (hx : 0 < k.held x)
    (hl : later = waiting ∨ later = waiting ++ [.completed x r]) :
    Flying T c (k.add (.completed x r)) later target t op i done (last.settle x r) := by
  have hheld := k.held_add_completed (x := x) (r := r)
  have hissues : (k.add (.completed x r)).attachment.issues = done ++ [last.settle x r] := by
    simp [Account.add, Attachment.observe, h.issues,
      Issue.map_settle_of_succeeded h.leg.succeeded x r]
  have hown : ∀ y, y.ticket = op.ticket →
      (k.add (.completed x r)).outstanding later y ≤ if y = op.completion then 1 else 0 :=
    fun y hy => (k.outstanding_add_completed_le hx hl y).trans (h.own y hy)
  by_cases hxt : x.ticket = op.ticket
  · obtain ⟨rfl, hone, hnone⟩ := h.only_call hx hxt
    have hset : last.settle op.completion r = { last with reply := some r } := by
      simp [Issue.settle, h.completion, hnone]
    rw [hset] at hissues ⊢
    refine ⟨h.live, h.inFlight, h.bound, hissues, h.completion, h.addressed, h.accepted, h.leg,
      h.action, h.buffer, hown, fun _ => ?_, fun y s hm hy => ?_, h.behind_completed hl,
      h.kept_completed hx hl⟩
    · rw [hheld, if_pos rfl, hone]
    · rcases mem_of_completed hl hm with hm | ⟨-, rfl⟩
      · simp [h.reply y s hm hy] at hnone
      · rfl
  · rw [h.settle_of_ne hxt] at hissues ⊢
    refine ⟨h.live, h.inFlight, h.bound, hissues, h.completion, h.addressed, h.accepted, h.leg,
      h.action, h.buffer, hown, fun hr => ?_, fun y s hm hy => ?_, h.behind_completed hl,
      h.kept_completed hx hl⟩
    · rw [hheld, h.unheld hr, Nat.zero_sub]
    · rcases mem_of_completed hl hm with hm | ⟨rfl, -⟩
      · exact h.reply y s hm hy
      · exact absurd hy hxt

end

/-- The driver may call at any time a completion that it holds, whether or not the queue takes
it. -/
theorem Course.deliver (h : Course T c k waiting) (hx : 0 < k.held x)
    (hl : later = waiting ∨ later = waiting ++ [.completed x r]) :
    Course T c (k.add (.completed x r)) later := by
  refine ⟨h.base.deliver hx hl, ?_⟩
  have hts := transitions_of_completed hl
  cases h.stage with
  | away hs =>
    refine .away ⟨hs.phase, hs.live, hs.idle, hs.buffer, fun hT => ?_⟩
    exact ((hs.kept hT).2.2.not_held hx).elim
  | ended hp hi => exact .ended hp hi
  | opening target hs =>
    refine .opening target ⟨hs.phase, hs.live, hs.idle, hs.bound, ?_, hs.compared,
      hs.transferred, hs.block, hs.buffer, fun hT => ?_⟩
    · simp [Account.add, Attachment.observe, hs.issues]
    · exact ((hs.kept hT).2.2.2.not_held hx).elim
  | posted target t p i hs =>
    have hm : (k.add (.completed x r)).attachment.issues = k.attachment.issues :=
      Issue.map_settle_of_succeeded hs.leg.succeeded x r
    refine .posted target t p i ⟨hs.phase, hs.live, hs.idle, hs.bound, ?_,
      hts.trans hs.transitions, ?_, fun hT => ?_⟩
    · rw [hm]
      exact hs.issues
    · rw [hm]
      exact hs.leg
    · exact ((hs.kept hT).2.not_held hx).elim
  | flying target t op i done last hs =>
    exact .flying target t op i done _ (hs.deliver hx hl)

/-! ## Requests that come to nothing -/

theorem Base.drop (h : Base T c k (q :: waiting)) : Base T c k waiting where
  image := h.image
  config := h.config
  next := h.next
  drawn := h.drawn
  handed := fun x r hm => h.handed x r (List.mem_cons_of_mem _ hm)
  postable := fun p hp => h.postable p <| by
    cases hq : q.transition? with
    | none => rwa [transitions_cons_of_none hq]
    | some _ =>
      rw [transitions_cons_of_some hq]
      exact List.mem_cons_of_mem _ hp
  kept := fun hT hm => h.kept hT (List.mem_cons_of_mem _ hm)
  calls := h.calls
  schedule := h.schedule

theorem Base.taken (h : Base T c k waiting) (q : Request) :
    Base T c (k.add (.taken q)) waiting := by
  rw [Account.add_taken]
  exact ⟨h.image, h.config, h.next, h.drawn, h.handed, h.postable, h.kept, h.calls, h.schedule⟩

theorem Account.outstanding_le_cons (k : Account) (waiting : List Request) (q : Request)
    (y : Completion) :
    k.outstanding waiting y ≤ k.outstanding (q :: waiting) y := by
  rw [outstanding_cons]
  omega

theorem Account.Quiet.drop (h : k.Quiet (q :: waiting)) : k.Quiet waiting :=
  ⟨h.fulfilled, fun x => Nat.le_zero.mp (h.outstanding x ▸ k.outstanding_le_cons waiting q x)⟩

theorem Account.Quiet.not_completed (h : k.Quiet (.completed x r :: waiting)) : False := by
  have ho := h.outstanding x
  rw [outstanding_cons] at ho
  simp [Request.completion?] at ho

/-- A request may be dropped, unless it is the step that an idle upgrade waits for. -/
theorem Course.drop (h : Course T c k (q :: waiting))
    (ht : q.transition? = none ∨ c.liveClass = none ∨ c.inFlight ≠ none ∨
      c.phase.isTerminal = true) :
    Course T c k waiting := by
  refine ⟨h.base.drop, ?_⟩
  cases h.stage with
  | away hs =>
    refine .away ⟨hs.phase, hs.live, hs.idle, hs.buffer, fun hT => ?_⟩
    obtain ⟨h1, h2, h3⟩ := hs.kept hT
    refine ⟨?_, h2, h3.drop⟩
    cases hp : q.transition? with
    | none => rwa [transitions_cons_of_none hp] at h1
    | some p =>
      rw [transitions_cons_of_some hp] at h1
      simp at h1
  | ended hp hi => exact .ended hp hi
  | opening target hs =>
    have ht : q.transition? = none := by
      rcases ht with ht | ht | ht | ht
      · exact ht
      · simp [hs.live] at ht
      · exact absurd hs.idle ht
      · rcases hs.phase with hp | ⟨hp, -⟩ <;> simp [hp, Phase.isTerminal] at ht
    refine .opening target ⟨hs.phase, hs.live, hs.idle, hs.bound, hs.issues, hs.compared,
      hs.transferred, hs.block, hs.buffer, fun hT => ?_⟩
    obtain ⟨h1, h2, h3, h4⟩ := hs.kept hT
    rw [transitions_cons_of_none ht] at h2
    exact ⟨h1, h2, h3, h4.drop⟩
  | posted target t p i hs =>
    have ht : q.transition? = none := by
      rcases ht with ht | ht | ht | ht
      · exact ht
      · simp [hs.live] at ht
      · exact absurd hs.idle ht
      · simp [hs.phase.2] at ht
    have hts := hs.transitions
    rw [transitions_cons_of_none ht] at hts
    refine .posted target t p i ⟨hs.phase, hs.live, hs.idle, hs.bound, hs.issues, hts, hs.leg,
      fun hT => ?_⟩
    obtain ⟨h1, h2⟩ := hs.kept hT
    exact ⟨h1, h2.drop⟩
  | flying target t op i done last hs =>
    have hle := fun y => k.outstanding_le_cons waiting q y
    refine .flying target t op i done last
      { hs with own := ?_, reply := ?_, behind := ?_, kept := ?_ }
    · exact fun y hy => (hle y).trans (hs.own y hy)
    · exact fun y s hm => hs.reply y s (List.mem_cons_of_mem _ hm)
    · exact hs.behind.of_cons
    · intro hT
      obtain ⟨h1, h2, h3, h4⟩ := hs.kept hT
      refine ⟨h1, ?_, h3, fun y hy => Nat.le_zero.mp ((h4 y hy) ▸ hle y)⟩
      cases hp : q.transition? with
      | none => rwa [transitions_cons_of_none hp] at h2
      | some p =>
        rw [transitions_cons_of_some hp] at h2
        simp at h2

/-- A completion that is not awaited may be dropped. While the device stays attached there is no
such completion before the upgrade is over. -/
theorem Course.dropStale (h : Course T c k (.completed x r :: waiting))
    (hx : c.awaited? x.ticket = none) :
    Course T c (k.add (.taken (.completed x r))) waiting := by
  refine ⟨h.base.drop.taken _, ?_⟩
  rw [Account.add_taken]
  cases h.stage with
  | away hs =>
    exact .away ⟨hs.phase, hs.live, hs.idle, hs.buffer, fun hT => (hs.kept hT).2.2.not_completed.elim⟩
  | ended hp hi => exact .ended hp hi
  | opening target hs =>
    exact .opening target ⟨hs.phase, hs.live, hs.idle, hs.bound, hs.issues, hs.compared,
      hs.transferred, hs.block, hs.buffer, fun hT => (hs.kept hT).2.2.2.not_completed.elim⟩
  | posted target t p i hs =>
    exact .posted target t p i ⟨hs.phase, hs.live, hs.idle, hs.bound, hs.issues,
      (transitions_cons_of_none rfl _).symm.trans hs.transitions, hs.leg,
      fun hT => (hs.kept hT).2.not_completed.elim⟩
  | flying target t op i done last hs =>
    have hle := fun y =>
      k.outstanding_le_cons waiting (.completed x r) y
    have hne : x.ticket ≠ op.ticket := by
      intro he
      simp [Controller.awaited?, hs.live, hs.inFlight, he] at hx
    refine .flying target t op i done last
      { hs with own := ?_, reply := ?_, behind := ?_, kept := ?_ }
    · exact fun y hy => (hle y).trans (hs.own y hy)
    · exact fun y s hm => hs.reply y s (List.mem_cons_of_mem _ hm)
    · exact hs.behind.of_cons
    · intro hT
      have hz := (hs.kept hT).2.2.2 x hne
      rw [Account.outstanding_cons] at hz
      simp [Request.completion?] at hz

end

end FirmwareUpgrade
