import Mathlib.Data.List.Induction
import Mathlib.Logic.Function.Basic
import SharedPages.Proofs.PageCalls

/-!
# Two calls at a time

A call that changes a page looks at the memory and then writes to it. Two calls
for one page may take these steps in any order (`Race`). Nothing keeps a call
from writing a page that was changed since it looked: if both look before either
writes, then what the first one wrote is lost. In every other order the calls
are as if they were served one after the other.

What a race has come to is told by five cases (`Race.Explained`), which every
step keeps apart.

## Key results

- `PageCall.step_cases`: the two steps of a call are the call
- `Race.step_explained`: what a step preserves
- `Race.run_explained`: what two calls come to
- `Race.run_serial_or_lost`: when both have ended
-/

namespace SharedPages

/-! ## Steps of a call -/

/-- How far a call is. -/
inductive Task where
  | ready (call : PageCall)
  | waiting (w : Write) (result : Outcome PageError (Option Page))
  | ended (result : Outcome PageError (Option Page))

/-- Takes the next step of a call: it looks at the memory, or it writes. -/
def Task.step (id : PageId) (m : Memory) : Task → Task × Memory
  | ready call =>
    match call.ahead id m with
    | (o, none) => (ended o, m)
    | (o, some w) => (waiting w o, m)
  | waiting w o => (ended o, w.perform m)
  | ended o => (ended o, m)

/-- How far a call is that has looked at the memory. -/
def PageCall.looked (id : PageId) (call : PageCall) (m : Memory) : Task :=
  ((Task.ready call).step id m).1

/-- The two steps of a call are the call: either it is refused when it has looked at the memory, or
    it comes to a write to its page, which then succeeds. -/
theorem PageCall.step_cases (id : PageId) (call : PageCall) (m : Memory) :
    (∃ e, call.looked id m = .ended (.failed e) ∧ call.alone id m = (.failed e, m)) ∨
      ∃ w o, call.looked id m = .waiting w (.done o) ∧
        call.alone id m = (.done o, w.perform m) ∧
        ∀ p, m.pages.find? id = some p → p.id = id → w.target = id := by
  simp only [looked, Task.step, ahead_eq, alone_eq]
  cases hplan : call.plan id m with
  | error e => exact .inl ⟨e, rfl, rfl⟩
  | ok answer =>
    obtain ⟨w, o⟩ := answer
    refine .inr ⟨w, o, rfl, rfl, ?_⟩
    -- The page that was judged is the stored one, and changes keep the identifier.
    rintro p hstored rfl
    simp only [plan, Context.judge, hstored] at hplan
    split at hplan
    · cases hplan
    · cases hplan
    · rename_i hfound
      cases hfound
      exact Mutation.target_plan hplan

theorem Task.step_ready (id : PageId) (call : PageCall) (m : Memory) :
    (ready call).step id m = (call.looked id m, m) := by
  simp only [PageCall.looked, step]
  split <;> rfl

/-! ## Two calls -/

/-- One of two calls. -/
inductive Side where
  | left | right
deriving DecidableEq

/-- The other one. -/
def Side.other : Side → Side
  | left => right
  | right => left

@[simp] theorem Side.other_other (side : Side) : side.other.other = side := by
  cases side <;> rfl

theorem Side.eq_or_eq_other (first side : Side) : side = first ∨ side = first.other := by
  cases first <;> cases side <;> simp [other]

theorem Side.other_ne (side : Side) : side.other ≠ side := by
  cases side <;> nofun

/-- Two calls that share a memory. -/
structure Race where
  tasks : Side → Task
  memory : Memory

namespace Race

/-- One of the calls takes its next step. -/
def step (id : PageId) (race : Race) (side : Side) : Race where
  tasks := Function.update race.tasks side ((race.tasks side).step id race.memory).1
  memory := ((race.tasks side).step id race.memory).2

/-- The calls take their steps in the order of a schedule. -/
def run (id : PageId) (calls : Side → PageCall) (m : Memory) (schedule : List Side) : Race :=
  schedule.foldl (step id) { tasks := fun side => .ready (calls side), memory := m }

/-- The calls were served one after the other. -/
structure Serial (id : PageId) (calls : Side → PageCall) (m : Memory) (first : Side) (race : Race) :
    Prop where
  first_ended : race.tasks first = .ended ((calls first).alone id m).1
  other_ended : race.tasks first.other =
    .ended ((calls first.other).alone id ((calls first).alone id m).2).1
  memory_eq : race.memory = ((calls first.other).alone id ((calls first).alone id m).2).2

/-- Both calls were answered as if they were alone, but only what the later one wrote is left. -/
structure Lost (id : PageId) (calls : Side → PageCall) (m : Memory) (later : Side) (race : Race) :
    Prop where
  answered : ∀ side, ∃ o, ((calls side).alone id m).1 = .done o ∧ race.tasks side = .ended (.done o)
  memory_eq : race.memory = ((calls later).alone id m).2

/-- At some time both calls had looked at the page and neither had written it. -/
def Met (id : PageId) (calls : Side → PageCall) (m : Memory) (schedule : List Side) : Prop :=
  ∃ before, before <+: schedule ∧ ∀ side, ∃ w o, (run id calls m before).tasks side = .waiting w o

/-- At some time a call had still to write the page and the other one had ended. -/
def WritesLater (id : PageId) (calls : Side → PageCall) (m : Memory) (schedule : List Side)
    (later : Side) : Prop :=
  ∃ before, before <+: schedule ∧ (∃ w o, (run id calls m before).tasks later = .waiting w o) ∧
    ∃ o, (run id calls m before).tasks later.other = .ended o

/-- What two calls can have come to. -/
inductive Explained (id : PageId) (calls : Side → PageCall) (m : Memory) (schedule : List Side)
    (race : Race) : Prop where
  /-- Nothing was written yet. -/
  | unwritten
    (tasks : ∀ side, race.tasks side = .ready (calls side) ∨
      race.tasks side = (calls side).looked id m)
    (memory : race.memory = m)
    (meeting : Met id calls m schedule → ∀ side, ∃ w o, race.tasks side = .waiting w o)
  /-- The first call ended before the other one looked at the page. -/
  | between (first : Side) (apart : ¬ Met id calls m schedule)
    (ended : race.tasks first = .ended ((calls first).alone id m).1)
    (memory : race.memory = ((calls first).alone id m).2)
    (other : race.tasks first.other = .ready (calls first.other) ∨
      race.tasks first.other = (calls first.other).looked id race.memory)
  | serial (first : Side) (apart : ¬ Met id calls m schedule)
    (serial : Serial id calls m first race)
  /-- The first call ended when the other one had looked at the page. -/
  | overtaken (first : Side) (met : Met id calls m schedule)
    (ended : race.tasks first = .ended ((calls first).alone id m).1)
    (waiting : race.tasks first.other = (calls first.other).looked id m)
    (memory : race.memory = ((calls first).alone id m).2)
    (written : ∀ side, ∃ w o, (calls side).looked id m = .waiting w (.done o))
  | lost (later : Side) (met : Met id calls m schedule)
    (writesLater : WritesLater id calls m schedule later) (lost : Lost id calls m later race)

variable {id : PageId} {calls : Side → PageCall} {m : Memory} {schedule : List Side} {race : Race}
  {side : Side}

theorem step_of_ended (id : PageId) {o : Outcome PageError (Option Page)}
    (h : race.tasks side = .ended o) :
    race.step id side = race := by
  simp only [step, h, Task.step]
  rw [← h, Function.update_eq_self]

theorem step_of_ready (id : PageId) {call : PageCall} (h : race.tasks side = .ready call) :
    (race.step id side).tasks side = call.looked id race.memory ∧
      (race.step id side).memory = race.memory := by
  simp [step, h, Task.step_ready]

theorem step_of_waiting (id : PageId) {w : Write} {o : Outcome PageError (Option Page)}
    (h : race.tasks side = .waiting w o) :
    (race.step id side).tasks side = .ended o ∧
      (race.step id side).memory = w.perform race.memory := by
  simp [step, h, Task.step]

theorem tasks_step_other (id : PageId) (race : Race) (side : Side) :
    (race.step id side).tasks side.other = race.tasks side.other := by
  simp [step, side.other_ne]

theorem run_append (schedule : List Side) (side : Side) :
    run id calls m (schedule ++ [side]) = (run id calls m schedule).step id side := by
  simp [run]

theorem Met.append (h : Met id calls m schedule) (side : Side) :
    Met id calls m (schedule ++ [side]) := by
  obtain ⟨before, hbefore, hwaiting⟩ := h
  exact ⟨before, hbefore.trans (List.prefix_append ..), hwaiting⟩

/-- Two calls have met after a step if they had met before, or if they meet just now. -/
theorem Met.of_append (hrace : race = run id calls m schedule)
    (h : Met id calls m (schedule ++ [side])) :
    Met id calls m schedule ∨ ∀ s, ∃ w o, (race.step id side).tasks s = .waiting w o := by
  obtain ⟨before, hbefore, hwaiting⟩ := h
  rcases List.prefix_concat_iff.mp hbefore with rfl | hprefix
  · rw [run_append, ← hrace] at hwaiting
    exact .inr hwaiting
  · exact .inl ⟨before, hprefix, hwaiting⟩

/-- A call that has ended meets no other one. -/
theorem not_met_append (hrace : race = run id calls m schedule) (hapart : ¬ Met id calls m schedule)
    {s : Side} {o : Outcome PageError (Option Page)}
    (hended : (race.step id side).tasks s = .ended o) : ¬ Met id calls m (schedule ++ [side]) := by
  intro h
  rcases h.of_append hrace with hmet | hwaiting
  · exact hapart hmet
  · obtain ⟨w, o', hw⟩ := hwaiting s
    rw [hended] at hw
    cases hw

/-- While nothing is written, calls that have met are both waiting. -/
private theorem not_met_of_unwritten
    (hmeeting : Met id calls m schedule → ∀ side, ∃ w o, race.tasks side = .waiting w o)
    (side : Side) (h : ∀ w o, race.tasks side ≠ .waiting w o) : ¬ Met id calls m schedule := by
  intro hmet
  obtain ⟨w, o, hwaiting⟩ := hmeeting hmet side
  exact h w o hwaiting

theorem WritesLater.append {later : Side} (h : WritesLater id calls m schedule later)
    (side : Side) : WritesLater id calls m (schedule ++ [side]) later := by
  obtain ⟨before, hbefore, hwaiting⟩ := h
  exact ⟨before, hbefore.trans (List.prefix_append ..), hwaiting⟩

/-- The other call takes a step after the first one was served. -/
private theorem step_between {first : Side} (hrace : race = run id calls m schedule)
    (hapart : ¬ Met id calls m schedule)
    (hended : race.tasks first = .ended ((calls first).alone id m).1)
    (hmemory : race.memory = ((calls first).alone id m).2)
    (hother : race.tasks first.other = .ready (calls first.other) ∨
      race.tasks first.other = (calls first.other).looked id race.memory) :
    Explained id calls m (schedule ++ [first.other]) (race.step id first.other) := by
  have hfirst : (race.step id first.other).tasks first = race.tasks first := by
    simpa using tasks_step_other id race first.other
  replace hapart := not_met_append hrace hapart (hfirst.trans hended)
  -- The other call looks at the page now, or has looked at it since the first one ended.
  rcases hother with hready | hlooked
  · obtain ⟨htask, hsame⟩ := step_of_ready id hready
    exact .between first hapart (hfirst.trans hended) (hsame.trans hmemory) (.inr (hsame ▸ htask))
  · rcases (calls first.other).step_cases id race.memory with
      ⟨e, hrefused, -⟩ | ⟨w, o, hwaiting, halone, -⟩
    · -- It was refused, so this step does nothing.
      rw [step_of_ended id (hlooked.trans hrefused)]
      exact .between first hapart hended hmemory (.inr hlooked)
    · -- It writes what it made of the memory that the first call left, so the two are in series.
      obtain ⟨htask, hwritten⟩ := step_of_waiting id (hlooked.trans hwaiting)
      rw [hmemory] at halone
      refine .serial first hapart ⟨hfirst.trans hended, ?_, ?_⟩
      · rw [htask, halone]
      · rw [hwritten, halone, hmemory]

/-- A call writes while nothing was written before. -/
private theorem step_unwritten_waiting {w : Write} {o : Option Page}
    (hrace : race = run id calls m schedule)
    (htasks : ∀ side, race.tasks side = .ready (calls side) ∨
      race.tasks side = (calls side).looked id m)
    (hmemory : race.memory = m)
    (hmeeting : Met id calls m schedule → ∀ side, ∃ w o, race.tasks side = .waiting w o)
    (hwaiting : race.tasks side = .waiting w (.done o))
    (hlooked : (calls side).looked id m = .waiting w (.done o))
    (halone : (calls side).alone id m = (.done o, w.perform m)) :
    Explained id calls m (schedule ++ [side]) (race.step id side) := by
  obtain ⟨htask, hwritten⟩ := step_of_waiting id hwaiting
  have hother := tasks_step_other id race side
  -- This call writes into a memory that nobody touched, so it does what it would do alone.
  have hended : (race.step id side).tasks side = .ended ((calls side).alone id m).1 := by
    rw [htask, halone]
  have hafter : (race.step id side).memory = ((calls side).alone id m).2 := by
    rw [hwritten, halone, hmemory]
  rcases htasks side.other with hready | hotherLooked
  · -- The other call has not looked yet, so it will see what was written.
    have hapart : ¬ Met id calls m schedule :=
      not_met_of_unwritten hmeeting side.other (by simp [hready])
    exact .between side (not_met_append hrace hapart hended) hended hafter
      (.inl (hother.trans hready))
  · rcases (calls side.other).step_cases id m with
      ⟨e, hrefused, hotherAlone⟩ | ⟨w', o', hotherWaiting, -, -⟩
    · -- The other call was refused, so it may as well have been served before.
      have hapart : ¬ Met id calls m schedule :=
        not_met_of_unwritten hmeeting side.other (by simp [hotherLooked, hrefused])
      refine .serial side.other (not_met_append hrace hapart hended) ⟨?_, ?_, ?_⟩
      · rw [hother, hotherLooked, hrefused, hotherAlone]
      · rw [hotherAlone, side.other_other]
        exact hended
      · rw [hotherAlone, side.other_other]
        exact hafter
    · -- Both wait, and this call is the first one that writes.
      have hwritten : ∀ s, ∃ w o, (calls s).looked id m = .waiting w (.done o) := by
        intro s
        rcases side.eq_or_eq_other s with rfl | rfl
        · exact ⟨w, o, hlooked⟩
        · exact ⟨w', o', hotherWaiting⟩
      have hmet : Met id calls m (schedule ++ [side]) := by
        refine ⟨schedule, List.prefix_append .., fun s => ?_⟩
        rw [← hrace]
        rcases side.eq_or_eq_other s with rfl | rfl
        · exact ⟨w, _, hwaiting⟩
        · exact ⟨w', _, hotherLooked.trans hotherWaiting⟩
      exact .overtaken side hmet hended (hother.trans hotherLooked) hafter hwritten

/-- A call looks at the page, or writes, while nothing was written before. -/
private theorem step_unwritten (hrace : race = run id calls m schedule)
    (htasks : ∀ side, race.tasks side = .ready (calls side) ∨
      race.tasks side = (calls side).looked id m)
    (hmemory : race.memory = m)
    (hmeeting : Met id calls m schedule → ∀ side, ∃ w o, race.tasks side = .waiting w o) :
    Explained id calls m (schedule ++ [side]) (race.step id side) := by
  rcases htasks side with hready | hlooked
  · obtain ⟨htask, hsame⟩ := step_of_ready id hready
    -- Looking changes nothing, so still nothing is written.
    refine .unwritten (fun s => ?_) (hsame.trans hmemory) (fun hmet => ?_)
    · rcases side.eq_or_eq_other s with rfl | rfl
      · exact .inr (hmemory ▸ htask)
      · rw [tasks_step_other]
        exact htasks _
    · rcases hmet.of_append hrace with hbefore | hnow
      · exact absurd hbefore (not_met_of_unwritten hmeeting side (by simp [hready]))
      · exact hnow
  · rcases (calls side).step_cases id m with
      ⟨e, hrefused, -⟩ | ⟨w, o, hwaiting, halone, -⟩
    · -- The call was refused when it looked, and a call that is over makes no steps.
      have hsame := step_of_ended id (hlooked.trans hrefused)
      rw [hsame]
      refine .unwritten htasks hmemory (fun hmet => ?_)
      rcases hmet.of_append hrace with hbefore | hnow
      · exact hmeeting hbefore
      · rwa [hsame] at hnow
    · exact step_unwritten_waiting hrace htasks hmemory hmeeting (hlooked.trans hwaiting) hwaiting
        halone

/-- The other call writes what it had come to before the first one was served. -/
private theorem step_overtaken {first : Side} {p : Page} (hstored : m.pages.find? p.id = some p)
    (hrace : race = run p.id calls m schedule) (hmet : Met p.id calls m schedule)
    (hended : race.tasks first = .ended ((calls first).alone p.id m).1)
    (hlooked : race.tasks first.other = (calls first.other).looked p.id m)
    (hmemory : race.memory = ((calls first).alone p.id m).2)
    (hwritten : ∀ side, ∃ w o, (calls side).looked p.id m = .waiting w (.done o)) :
    Explained p.id calls m (schedule ++ [first.other]) (race.step p.id first.other) := by
  -- Neither call was refused, and both write the page that is stored.
  have hwrites (side : Side) : ∃ w o, (calls side).looked p.id m = .waiting w (.done o) ∧
      (calls side).alone p.id m = (.done o, w.perform m) ∧ w.target = p.id := by
    obtain ⟨w, o, hwaiting⟩ := hwritten side
    rcases (calls side).step_cases p.id m with
      ⟨e, hrefused, -⟩ | ⟨w', o', hwaiting', halone, htarget⟩
    · rw [hwaiting] at hrefused
      cases hrefused
    · exact ⟨w', o', hwaiting', halone, htarget p hstored rfl⟩
  obtain ⟨w, o, -, halone, htarget⟩ := hwrites first
  obtain ⟨w', o', hwaiting', halone', htarget'⟩ := hwrites first.other
  obtain ⟨htask, hafter⟩ := step_of_waiting p.id (hlooked.trans hwaiting')
  have hfirst : (race.step p.id first.other).tasks first = race.tasks first := by
    simpa using tasks_step_other p.id race first.other
  -- The other call waits with what it made of the page as it was, while the first one is over.
  have hlater : WritesLater p.id calls m schedule first.other := by
    refine ⟨schedule, List.prefix_rfl, ?_, ?_⟩
    · rw [← hrace]
      exact ⟨w', _, hlooked.trans hwaiting'⟩
    · rw [← hrace, first.other_other]
      exact ⟨_, hended⟩
  refine .lost first.other (hmet.append _) (hlater.append _) ⟨fun s => ?_, ?_⟩
  · rcases first.eq_or_eq_other s with rfl | rfl
    · exact ⟨o, by rw [halone], by rw [hfirst, hended, halone]⟩
    · exact ⟨o', by rw [halone'], htask⟩
  · rw [hafter, hmemory, halone, halone']
    -- Of two writes to one page only the second remains.
    exact Write.perform_perform (htarget.trans htarget'.symm) m

/-- What two calls come to when one of them takes a step. -/
theorem step_explained {p : Page} (hstored : m.pages.find? p.id = some p)
    (hrace : race = run p.id calls m schedule) (h : Explained p.id calls m schedule race)
    (side : Side) : Explained p.id calls m (schedule ++ [side]) (race.step p.id side) := by
  cases h with
  | unwritten tasks memory meeting => exact step_unwritten hrace tasks memory meeting
  | between first apart ended memory other =>
    -- A step of the call that is over changes nothing, here and in the cases below.
    rcases first.eq_or_eq_other side with rfl | rfl
    · have hsame := step_of_ended p.id ended
      rw [hsame]
      exact .between side (not_met_append hrace apart (hsame ▸ ended)) ended memory other
    · exact step_between hrace apart ended memory other
  | serial first apart serial =>
    -- From here on both calls are over.
    have hsame : race.step p.id side = race := by
      rcases first.eq_or_eq_other side with rfl | rfl
      · exact step_of_ended p.id serial.first_ended
      · exact step_of_ended p.id serial.other_ended
    rw [hsame]
    exact .serial first (not_met_append hrace apart (hsame ▸ serial.first_ended)) serial
  | overtaken first met ended waiting memory written =>
    rcases first.eq_or_eq_other side with rfl | rfl
    · rw [step_of_ended p.id ended]
      exact .overtaken side (met.append side) ended waiting memory written
    · exact step_overtaken hstored hrace met ended waiting memory written
  | lost later met writesLater lost =>
    obtain ⟨o, -, hended⟩ := lost.answered side
    rw [step_of_ended p.id hended]
    exact .lost later (met.append side) (writesLater.append side) lost

/-- What two calls come to when they take their steps in any order. -/
theorem run_explained {p : Page} (hstored : m.pages.find? p.id = some p) (calls : Side → PageCall)
    (schedule : List Side) : Explained p.id calls m schedule (run p.id calls m schedule) := by
  -- Induction on the schedule from its end, since each step comes after all the others.
  induction schedule using List.reverseRecOn with
  | nil =>
    refine .unwritten (fun side => .inl rfl) rfl ?_
    rintro ⟨before, hbefore, hwaiting⟩
    rwa [List.prefix_nil.mp hbefore] at hwaiting
  | append_singleton schedule side ih =>
    rw [run_append]
    exact step_explained hstored rfl ih side

end Race

/-! ## Calls that end -/

/-- How many steps a call has left. -/
def Task.left : Task → Nat
  | ready _ => 2
  | waiting .. => 1
  | ended _ => 0

theorem Task.left_step (id : PageId) (m : Memory) (task : Task) :
    (task.step id m).1.left ≤ task.left - 1 := by
  cases task with
  | ready call =>
    simp only [step]
    split <;> simp [left]
  | waiting w o => exact Nat.le_refl _
  | ended o => exact Nat.le_refl _

namespace Race

variable {id : PageId} {calls : Side → PageCall} {m : Memory} {schedule : List Side} {race : Race}

/-- A call takes a step each time that it is scheduled. -/
theorem left_run (id : PageId) (calls : Side → PageCall) (m : Memory) (schedule : List Side)
    (side : Side) :
    ((run id calls m schedule).tasks side).left ≤ 2 - schedule.count side := by
  induction schedule using List.reverseRecOn with
  | nil => exact Nat.le_refl 2
  | append_singleton schedule next ih =>
    rw [run_append, List.count_append]
    rcases next.eq_or_eq_other side with rfl | rfl
    · have hstep :=
        ((run id calls m schedule).tasks side).left_step id (run id calls m schedule).memory
      simp only [step, Function.update_self, List.count_singleton_self]
      omega
    · have hnone : [next].count next.other = 0 := by simp [next.other_ne.symm]
      rw [tasks_step_other]
      omega

/-- A call that ended without a write was refused. -/
private theorem refused_of_ended {task : Task} {o : Outcome PageError (Option Page)}
    {call : PageCall} (htask : task = .ready call ∨ task = call.looked id m)
    (hended : task = .ended o) :
    call.alone id m = (o, m) := by
  rcases htask with rfl | rfl
  · cases hended
  · rcases call.step_cases id m with ⟨e, hrefused, halone⟩ | ⟨w, o', hwaiting, -, -⟩
    · rw [hrefused] at hended
      cases hended
      exact halone
    · rw [hwaiting] at hended
      cases hended

/-- Two calls that have ended were served one after the other, or one of them was overtaken. -/
theorem Explained.serial_or_lost (h : Explained id calls m schedule race)
    (hended : ∀ side, ∃ o, race.tasks side = .ended o) :
    (¬ Met id calls m schedule ∧ ∃ first, Serial id calls m first race) ∨
      Met id calls m schedule ∧
        ∃ later, WritesLater id calls m schedule later ∧ Lost id calls m later race := by
  cases h with
  | unwritten tasks memory meeting =>
    -- Both were refused, so the order makes no difference.
    obtain ⟨o, hleft⟩ := hended .left
    obtain ⟨o', hright⟩ := hended Side.left.other
    have halone := refused_of_ended (tasks .left) hleft
    have halone' := refused_of_ended (tasks Side.left.other) hright
    have hapart : ¬ Met id calls m schedule :=
      not_met_of_unwritten meeting .left (by simp [hleft])
    refine .inl ⟨hapart, .left, ?_, ?_, ?_⟩
    · rw [halone, hleft]
    · rw [halone, halone', hright]
    · rw [halone, halone', memory]
  | between first apart ended memory other =>
    obtain ⟨o, hother⟩ := hended first.other
    have halone := refused_of_ended other hother
    rw [memory] at halone
    refine .inl ⟨apart, first, ended, ?_, ?_⟩
    · rw [halone, hother]
    · rw [halone, memory]
  | serial first apart serial => exact .inl ⟨apart, first, serial⟩
  | overtaken first met ended waiting memory written =>
    obtain ⟨w, o, hwaiting⟩ := written first.other
    obtain ⟨o', hother⟩ := hended first.other
    rw [waiting, hwaiting] at hother
    cases hother
  | lost later met writesLater lost => exact .inr ⟨met, later, writesLater, lost⟩

/-- Every order in which two calls for a stored page take two steps each ends both of them. That is
    as if they were served one after the other, unless both had looked at the page before either
    wrote it: then both are answered as if they were alone, and what the earlier one wrote is
    lost. -/
theorem run_serial_or_lost {p : Page} {m : Memory} (hstored : m.pages.find? p.id = some p)
    (calls : Side → PageCall) {schedule : List Side} (htwice : ∀ side, 2 ≤ schedule.count side) :
    (∀ side, ∃ o, (run p.id calls m schedule).tasks side = .ended o) ∧
      ((¬ Met p.id calls m schedule ∧
          ∃ first, Serial p.id calls m first (run p.id calls m schedule)) ∨
        Met p.id calls m schedule ∧
          ∃ later, WritesLater p.id calls m schedule later ∧
            Lost p.id calls m later (run p.id calls m schedule)) := by
  have hended : ∀ side, ∃ o, (run p.id calls m schedule).tasks side = .ended o := by
    intro side
    have hleft := left_run p.id calls m schedule side
    have := htwice side
    cases htask : (run p.id calls m schedule).tasks side with
    | ended o => exact ⟨o, rfl⟩
    | ready call => rw [htask] at hleft; simp only [Task.left] at hleft; omega
    | waiting w o => rw [htask] at hleft; simp only [Task.left] at hleft; omega
  exact ⟨hended, (run_explained hstored calls schedule).serial_or_lost hended⟩

/-- A page that nobody has joined. -/
def unjoined : Page := ⟨⟨.ofNat 9⟩, "list", .new ⟨.ofNat 1⟩ "eve", "code", [], []⟩

/-- A user joins the page, and its creator deletes it. -/
def deleting : Side → PageCall
  | .left => ⟨Context.background.withUser (.new ⟨.ofNat 2⟩ "ann"), .join "code"⟩
  | .right => ⟨Context.background.withUser unjoined.creator, .delete⟩

/-- Two users join the page. -/
def joining : Side → PageCall
  | .left => ⟨Context.background.withUser (.new ⟨.ofNat 2⟩ "ann"), .join "code"⟩
  | .right => ⟨Context.background.withUser (.new ⟨.ofNat 3⟩ "bob"), .join "code"⟩

/-- The page is deleted before the user who looked at it joins, and comes back. -/
theorem run_serial_or_lost_deleting :
    let m := Memory.ofStored [] [unjoined]
    let race := run unjoined.id deleting m [.left, .right, .right, .left]
    m.pages.find? unjoined.id = some unjoined ∧
    (race.memory.pages.find? unjoined.id).isSome = true ∧
    (∀ side, ∃ o, race.tasks side = .ended o) ∧
    ((¬ Met unjoined.id deleting m [.left, .right, .right, .left] ∧
        ∃ first, Serial unjoined.id deleting m first race) ∨
      Met unjoined.id deleting m [.left, .right, .right, .left] ∧
        ∃ later, WritesLater unjoined.id deleting m [.left, .right, .right, .left] later ∧
          Lost unjoined.id deleting m later race) :=
  ⟨by decide +kernel, by decide +kernel,
    run_serial_or_lost (by decide +kernel) deleting (by intro side; cases side <;> decide)⟩

/-- Both users look at the page before either joins it. Both are told that they have joined, and the
    page has one of them. -/
theorem run_joining_not_serial :
    let m := Memory.ofStored [] [unjoined]
    let race := run unjoined.id joining m [.left, .right, .left, .right]
    m.pages.find? unjoined.id = some unjoined ∧
    (∀ side, ∃ p, race.tasks side = .ended (.done (some p))) ∧
    (race.memory.pages.find? unjoined.id).map (·.invited.map (·.uid)) = some ["bob"] ∧
    ¬ ∃ first, Serial unjoined.id joining m first race := by
  refine ⟨by decide +kernel, ?_, by decide +kernel, ?_⟩
  · intro side
    cases side <;> exact ⟨_, rfl⟩
  rintro ⟨first, hserial⟩
  have hinvited := congrArg (fun m : Memory => (m.pages.find? unjoined.id).map (·.invited.length))
    hserial.memory_eq
  revert hinvited
  cases first <;> decide +kernel

end Race

end SharedPages
