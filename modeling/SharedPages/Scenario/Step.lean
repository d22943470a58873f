import SharedPages.Context
import SharedPages.Scenario.Failure
import SharedPages.Work

/-! # Scenarios

A scenario is a list of steps that is played from the start.  Most steps are actions on the service
or on its database; the others group steps into units of work, repeat them, or end them.  `Step` is
the tree of steps over actions of type `α`, and `Remark` is what a trace says about a step that was
finished, where actions give values of type `ν`. -/

namespace SharedPages.Scenario

/-- What all steps have. -/
structure Heading where
  /-- The name of the step in the trace. -/
  label : String
  /-- The saved context that the step uses instead of the one at hand. -/
  context : Option String := none
  /-- Who makes the request in the step, if not the user of the context. -/
  user : Option (Except Fault User) := none
  /-- The steps after this one go on if it fails. -/
  tolerant : Bool := false

/-- A step over actions of type `α`. -/
inductive Step (α : Type) where
  | act (heading : Heading) (action : α)
  /-- Runs steps as a unit of work.  If they are suspended, the unit may be dropped; if they panic,
      the panic may be caught. -/
  | unit (heading : Heading) (cancels catches : Bool) (steps : List (Step α))
  /-- Runs steps several times, and perhaps says nothing about them. -/
  | loop (heading : Heading) (times : Nat) (quiet : Bool) (steps : List (Step α))
  /-- Ends the steps around it with a value. -/
  | leave (heading : Heading) (value : Json)
  | panic (heading : Heading) (payload : Panic)
  /-- Waits for ever. -/
  | pend (heading : Heading)

/-- What a trace says about a step. -/
inductive Remark (ν : Type) where
  | done (value : ν)
  | failed (failure : Failure)
  /-- A unit of work ended with a value. -/
  | unitDone (value : Json)
  | unitFailed (error : TransactionError DatabaseError Failure)
  | rounds (times : Nat)
  /-- The step did what it was to do, and has no value. -/
  | passed
  | panicked (payload : Panic)
  | cancelled
  /-- The whole scenario got stuck here, and the step was dropped. -/
  | pending
  /-- The step ended steps that nothing was around. -/
  | returned (value : Json)

/-- An entry of a trace over statements of type `ℓ`. -/
structure Entry (ν ℓ : Type) where
  /-- The place of the step: its number in the list, after the place of the step around it. -/
  path : List Nat
  label : String
  remark : Remark ν
  /-- The statements since the entry before, oldest first. -/
  log : List ℓ

/-- What it takes to play scenarios on a state of type `σ`. -/
structure Stage (σ α ν : Type) where
  /-- Carries out an action.  It gives a value, and may derive a context for the steps that
      follow. -/
  perform : α → Context → Work σ Failure (ν × Option Context)
  /-- Runs steps as a unit of work. -/
  runUnit : Context → (Context → Work σ Failure (Option Json)) →
    Work σ (TransactionError DatabaseError Failure) (Option Json)
  /-- The saved context of a name. -/
  context? : String → σ → Option Context
  /-- Writes an entry of the trace: the place of the step, its name, and what is said about it. -/
  note : List Nat → String → Remark ν → σ → σ

namespace Stage

variable {σ α ν : Type} (stage : Stage σ α ν)

/-- The context of a name, or the one at hand without a name. -/
def namedContext (name : Option String) (ctx : Context) : Work σ Failure Context := fun s =>
  match name with
  | none => (.done ctx, s)
  | some "root" => (.done .background, s)
  | some name =>
    match stage.context? name s with
    | some ctx => (.done ctx, s)
    | none => (.failed (.fault (.unknown "ctx")), s)

/-- The context that a step uses. -/
def contextOf (heading : Heading) (ctx : Context) : Work σ Failure Context := do
  let ctx ← stage.namedContext heading.context ctx
  match heading.user with
  | none => return ctx
  | some (.ok u) => return ctx.withUser u
  | some (.error fault) => Work.fail (.fault fault)

/-- Writes an entry of the trace, unless nothing is to be said. -/
def say (quiet : Bool) (path : List Nat) (label : String) (remark : Remark ν) :
    Work σ Failure Unit :=
  if quiet then Work.done () else Work.modify (stage.note path label remark)

/-- Reports a failure, and fails unless the step is tolerant. -/
def fails (quiet : Bool) (path : List Nat) (heading : Heading) (failure : Failure) :
    Work σ Failure Unit := do
  stage.say quiet path heading.label (.failed failure)
  if heading.tolerant then return () else Work.fail failure

/-- Repeats work until one round does not succeed. -/
def rounds {β : Type} (w : Work σ Failure β) : Nat → Work σ Failure Unit
  | 0 => fun s => (.done (), s)
  | n + 1 => fun s =>
    match w s with
    | (.done _, s) => rounds w n s
    | (.failed e, s) => (.failed e, s)
    | (.panicked p, s) => (.panicked p, s)
    | (.suspended, s) => (.suspended, s)

/-- How the steps of a list go on: with the next one, in some context, or not. -/
inductive Flow where
  | next (ctx : Context)
  | left (value : Json)

/-- Ends a step that has a heading and an outcome.  `finish` says what follows success. -/
def settle {β : Type} (quiet : Bool) (path : List Nat) (heading : Heading) (ctx : Context)
    (w : Work σ Failure β) (finish : β → Work σ Failure Flow) : Work σ Failure Flow := do
  match ← w.outcome with
  | .done b => finish b
  | .failed e =>
    stage.fails quiet path heading e
    return .next ctx
  | .panicked p => Work.panic p
  | .suspended => Work.pend

mutual

/-- Plays one step. -/
def playStep (quiet : Bool) (path : List Nat) (ctx : Context) : Step α → Work σ Failure Flow
  | .act heading action =>
    stage.settle quiet path heading ctx
      (do stage.perform action (← stage.contextOf heading ctx)) fun (value, derived) => do
        stage.say quiet path heading.label (.done value)
        return .next (derived.getD ctx)
  | .unit heading cancels catches steps =>
    stage.settle quiet path heading ctx (stage.contextOf heading ctx) fun inner => do
      let o ← (stage.runUnit inner fun inner => playSteps quiet path 0 inner steps).outcome
      match o with
      | .done value => stage.say quiet path heading.label (.unitDone (value.getD .null))
      | .failed t =>
        stage.say quiet path heading.label (.unitFailed t)
        if !heading.tolerant then Work.fail (.ofTransaction t)
      | .panicked p =>
        stage.say quiet path heading.label (.panicked p)
        if !catches then Work.panic p
      | .suspended =>
        if cancels then stage.say quiet path heading.label .cancelled else Work.pend
      return .next ctx
  | .loop heading times silent steps =>
    stage.settle quiet path heading ctx
      (do
        let inner ← stage.contextOf heading ctx
        rounds (playSteps (quiet || silent) path 0 inner steps) times) fun _ => do
        stage.say quiet path heading.label (.rounds times)
        return .next ctx
  | .leave heading value =>
    stage.settle quiet path heading ctx (stage.contextOf heading ctx) fun _ => return .left value
  | .panic heading payload =>
    stage.settle quiet path heading ctx (stage.contextOf heading ctx) fun _ => do
      stage.say quiet path heading.label .passed
      Work.panic payload
  | .pend heading =>
    stage.settle quiet path heading ctx (stage.contextOf heading ctx) fun _ => do
      stage.say quiet path heading.label .passed
      Work.pend

/-- Plays steps, the first of which is number `index`, until one of them ends them. -/
def playSteps (quiet : Bool) (path : List Nat) (index : Nat) (ctx : Context) :
    List (Step α) → Work σ Failure (Option Json)
  | [] => Work.done none
  | step :: rest => do
    match ← playStep quiet (path ++ [index]) ctx step with
    | .next ctx => playSteps quiet path (index + 1) ctx rest
    | .left value => return some value

end

/-- The name under which the trace says how a step ended that nothing was around. -/
def topLabel : String := "top"

/-- Plays a scenario.  Every step has its turn, however the steps before it ended. -/
def play (ctx : Context) (index : Nat) : List (Step α) → σ → σ
  | [], s => s
  | step :: rest, s =>
    match stage.playStep false [index] ctx step s with
    | (.done (.next ctx), s) => play ctx (index + 1) rest s
    | (.done (.left value), s) =>
      play ctx (index + 1) rest (stage.note [index] topLabel (.returned value) s)
    | (.failed _, s) => play ctx (index + 1) rest s
    | (.panicked p, s) =>
      play ctx (index + 1) rest (stage.note [index] topLabel (.panicked p) s)
    | (.suspended, s) =>
      play ctx (index + 1) rest (stage.note [index] topLabel .pending s)

end Stage

end SharedPages.Scenario
