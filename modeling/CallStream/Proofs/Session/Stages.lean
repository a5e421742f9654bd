import CallStream.Proofs.Boxing.Growth
import CallStream.Proofs.Session.History
import CallStream.Proofs.Value.Traversal

/-!
# What the stages of a packet do

A packet is carried out in stages: its call is read, what it destroys leaves the table, the driver
or the global state is called, the reply is drafted and handed to the sink. Only one stage calls
anybody, and only one touches the sink. All others are *quiet*; what they may do to the table
depends on the stage, so it is a parameter of the notion.

A failure that bytes are to blame for arises while a call is read. Behind that point every failure
ends the session, apart from one: the ranges of a call that invalidates memory are looked up once
more when the call is over.

## Main results

* `within_dispatch`: the call is carried out once, as it was read.
* `receives_draft`, `drafts_record`: drafting a reply and recording a call are quiet.
-/

namespace CallStream

/-! ### Events -/

/-- The call that the driver or the global state was called with. -/
def SessionEvent.call? : SessionEvent → Option CallDescriptor
  | .drove request => some request.call
  | .served request _ => some request.call
  | .logged _ _ | .recorded _ => none

/-- Whether an event is a call of the driver or of the global state. -/
def SessionEvent.isDispatch (event : SessionEvent) : Bool := event.call?.isSome

/-- The calls of the driver and of the global state, in order. -/
def dispatches (events : List SessionEvent) : List SessionEvent := events.filter (·.isDispatch)

/-- Calls are told one history after the other. -/
theorem dispatches_append (front back : List SessionEvent) :
    dispatches (front ++ back) = dispatches front ++ dispatches back :=
  List.filter_append ..

/-- What only an observer is told of is no call. -/
theorem dispatches_noteIf (observed : Bool) {event : SessionEvent} (h : event.isDispatch = false)
    (events : List SessionEvent) :
    dispatches (noteIf observed event events) = dispatches events := by
  cases observed with
  | true =>
      have hnone : dispatches [event] = [] := by simp [dispatches, h]
      rw [noteIf, if_pos rfl, dispatches_append, hnone, List.append_nil]
  | false => rfl

/-- The event of a call that is carried out on its route, by the scratch memory in use. -/
def dispatchEvent (call : CallDescriptor) (request : Request) : (scratchUsed : Nat) →
    SessionEvent :=
  if call.route = .globalState then
    .served { call, dispatch := request.dispatch, args := request.args }
  else
    fun _ => .drove
      { call
        dispatch := request.dispatch.map (·.raw)
        lockHeld := call.needsLock
        args := withDispatch (request.dispatch.map (·.raw)) request.args }

/-- The event of a dispatch names the call that was dispatched. -/
theorem call?_dispatchEvent (call : CallDescriptor) (request : Request) (scratchUsed : Nat) :
    (dispatchEvent call request scratchUsed).call? = some call := by
  unfold dispatchEvent
  split <;> rfl

/-! ### Quiet steps -/

/-- The session is over. -/
def PacketError.IsFatal : PacketError → Prop
  | .fatal _ => True
  | .malformed _ => False

variable {σ : Type}

/-- Nobody was called, the sink was left alone, and the table went as far as `moves` allows. -/
structure Quiet (moves : BoxTable → BoxTable → Prop) (before after : Run σ) : Prop where
  sink : after.sink = before.sink
  dispatches : dispatches after.events = dispatches before.events
  table : moves before.table after.table

namespace Execution

variable {α : Type} {moves : BoxTable → BoxTable → Prop} [IsPreorder BoxTable moves]

/-- Quiet steps follow one another, as what they do to the table does. -/
instance : IsPreorder (Run σ) (Quiet moves) where
  refl run := ⟨rfl, rfl, refl_of moves run.table⟩
  trans _ _ _ h h' := ⟨h'.sink.trans h.sink, h'.dispatches.trans h.dispatches,
    trans_of moves h.table h'.table⟩

/-- A quiet step whose failures, if it has any, end the session. -/
abbrev Drafts (moves : BoxTable → BoxTable → Prop) (step : Execution σ α) : Prop :=
  Within (Quiet moves) PacketError.IsFatal step

omit [IsPreorder BoxTable moves] in
/-- A step on the table drafts, if the table moves as it should. -/
theorem drafts_onTable {step : Boxing α} (h : ∀ table, moves table (stateOf (step table))) :
    Drafts moves (onTable (σ := σ) step) where
  moves run := by
    have hmoved := h run.table
    unfold onTable
    cases hok : step run.table with
    | ok value table =>
        rw [hok] at hmoved
        exact ⟨rfl, rfl, hmoved⟩
    | error cause table =>
        rw [hok] at hmoved
        exact ⟨rfl, rfl, hmoved⟩
  fails {run after cause} h := by
    unfold onTable at h
    split at h
    · cases h
    · cases h
      trivial

/-- Changing a run drafts, if the sink, the history and the table are left alone. -/
theorem drafts_modify {f : Run σ → Run σ} (hsink : ∀ run, (f run).sink = run.sink)
    (hevents : ∀ run, (f run).events = run.events) (htable : ∀ run, (f run).table = run.table) :
    Drafts moves (modify f : Execution σ PUnit) :=
  within_modify fun run => by
    refine ⟨hsink run, by rw [hevents], ?_⟩
    rw [htable]
    exact refl_of moves run.table

/-- A step of the surroundings drafts: they may change as they like. -/
theorem drafts_onState (step : StateM σ α) : Drafts moves (onState step) where
  moves run := ⟨rfl, rfl, refl_of moves run.table⟩
  fails h := by cases h

/-- Failing drafts. -/
theorem drafts_fail (cause : SessionError) : Drafts moves (fail cause : Execution σ α) :=
  within_throw trivial

/-- A reply may grow, and if it cannot the process ends. -/
theorem drafts_emit (call : String) (bytes : Bytes) :
    Drafts moves (emit (σ := σ) call bytes) := by
  refine within_get_bind fun run => ?_
  split
  · exact drafts_modify (fun _ => rfl) (fun _ => rfl) fun _ => rfl
  · exact drafts_fail _

/-- Bytes may be staged. -/
theorem drafts_stage (call : String) (content : Bytes) :
    Drafts moves (stage (σ := σ) call content) := by
  refine within_get_bind fun run => ?_
  split
  · exact drafts_fail _
  · next staged scratch _ =>
      have hmodify : Drafts moves (modify fun run : Run σ => { run with scratch }) :=
        drafts_modify (fun _ => rfl) (fun _ => rfl) fun _ => rfl
      exact hmodify.bind fun _ => within_pure _

/-! ### Mapped memory -/

section Memory

variable (host : Collaborators σ) (call : String)

section Anything

variable {changes : Run σ → Run σ → Prop} [IsPreorder (Run σ) changes]

/-- Looking for the ranges of a call changes nothing. -/
theorem within_rangesOf (args : Record) :
    Within changes (fun _ => True) (rangesOf (σ := σ) args) := by
  unfold rangesOf
  split
  · exact within_pure _
  · exact within_throw trivial

/-- Looking for the part of a mapping changes nothing, and failing to find it ends the session. -/
theorem within_hostPart (range : MappedRange) (size : UInt64) (mapping : Bytes) :
    Within changes PacketError.IsFatal (hostPart (σ := σ) call range size mapping) := by
  unfold hostPart
  split
  · exact within_pure _
  · exact within_throw trivial

/-- Reading bytes of the payload changes nothing. -/
theorem within_readPayload {α : Type} (read : Read Empty α) (cursor : Cursor) :
    Within changes (fun _ => True) (readPayload (σ := σ) read cursor) := by
  unfold readPayload
  split
  · exact within_pure _
  · exact within_throw trivial

end Anything

/-- The bytes of an invalidated range go through scratch memory into the reply, which nobody sees
yet. -/
theorem drafts_invalidateRange (range : MappedRange) :
    Drafts moves (invalidateRange host call range) := by
  unfold invalidateRange
  refine within_get_bind fun run => ?_
  dsimp only
  cases host.mapped? range.memory run.state with
  | none => exact drafts_emit _ _
  | some mapping =>
      refine (within_hostPart call _ _ _).bind fun (start, length) => ?_
      refine (drafts_stage call _).bind fun staged => ?_
      exact (drafts_emit _ _).bind fun _ => drafts_emit _ _

/-- The bytes of invalidated ranges become part of the draft. -/
theorem drafts_invalidateRanges (ranges : List MappedRange) :
    Drafts moves (invalidateRanges host call ranges) := by
  induction ranges with
  | nil => exact within_pure ()
  | cons range rest ih => exact (drafts_invalidateRange host call range).bind fun _ => ih

/-- Mapped memory took on new bytes, one memory object after another. -/
inductive Refilled (host : Collaborators σ) (before : σ) : σ → Prop
  | refl : Refilled host before before
  | step {state : σ} (hearlier : Refilled host before state) (memory : UInt64) (bytes : Bytes) :
      Refilled host before (host.setMapped memory bytes state)

/-- Memory that is filled twice is filled. -/
instance : IsPreorder σ (Refilled host) where
  refl _ := .refl
  trans _ _ _ hrefilled hsecond := by
    induction hsecond with
    | refl => exact hrefilled
    | step _ memory bytes ih => exact ih.step memory bytes

/-- Nothing but the table and the state of the surroundings changed, and these went as far as
`moves` and `fills` allow. -/
structure Collects (moves : BoxTable → BoxTable → Prop) (fills : σ → σ → Prop)
    (before after : Run σ) : Prop where
  rest : after = { before with table := after.table, state := after.state }
  table : moves before.table after.table
  state : fills before.state after.state

/-- Collecting can be done in steps, as filling can. -/
instance {fills : σ → σ → Prop} [IsPreorder σ fills] : IsPreorder (Run σ)
    (Collects moves fills) where
  refl run := ⟨rfl, refl_of moves run.table, refl_of fills run.state⟩
  trans first second third h h' := by
    refine ⟨?_, trans_of moves h.table h'.table, trans_of fills h.state h'.state⟩
    have hsame := h'.rest
    rw [h.rest] at hsame
    exact hsame

omit [IsPreorder BoxTable moves] in
/-- Whatever only changes the table and the surroundings is quiet. -/
theorem Collects.quiet {fills : σ → σ → Prop} {before after : Run σ}
    (h : Collects moves fills before after) : Quiet moves before after where
  sink := by rw [h.rest]
  dispatches := by rw [h.rest]
  table := h.table

/-- A step that at most fills mapped memory, and that bytes may be to blame for. -/
abbrev Fills (host : Collaborators σ) (step : Execution σ α) : Prop :=
  Within (Collects Eq (Refilled host)) (fun _ => True) step

/-- A flushed range fills memory, or fails and leaves it alone. -/
theorem fills_flushRange (range : MappedRange) (cursor : Cursor) :
    Fills host (flushRange host call range cursor) := by
  unfold flushRange
  refine (within_readPayload _ _).bind fun (count, cursor) => ?_
  refine within_get_bind fun run => ?_
  split
  · split
    · exact within_throw trivial
    · exact within_pure _
  · next mapping _ =>
      refine ((within_hostPart call _ _ _).mono id fun _ => trivial).bind fun (start, length) => ?_
      refine (within_readPayload _ _).bind fun (content, cursor) => ?_
      have hfills : Fills host (modify fun run : Run σ => { run with
          state := host.setMapped range.memory (mapping.splice start content) run.state }) :=
        within_modify fun run => ⟨rfl, rfl, .step .refl _ _⟩
      exact hfills.bind fun _ => within_pure _

/-- The bytes of flushed ranges are received without touching the table. -/
theorem fills_flushRanges (ranges : List MappedRange) (cursor : Cursor) :
    Fills host (flushRanges host call ranges cursor) := by
  induction ranges generalizing cursor with
  | nil => exact within_pure cursor
  | cons range rest ih => exact (fills_flushRange host call range cursor).bind ih

/-- A quiet step that bytes may be to blame for. -/
abbrev Receives (moves : BoxTable → BoxTable → Prop) (step : Execution σ α) : Prop :=
  Within (Quiet moves) (fun _ => True) step

omit [IsPreorder BoxTable moves] in
/-- What drafts may be done while a call is received: it fills no memory. -/
theorem Drafts.receives {step : Execution σ α} (h : Drafts moves step) : Receives moves step :=
  h.mono id fun _ => trivial

end Memory

/-! ### Replies -/

section Replies

variable (hcreates : ∀ raw type table, moves table (stateOf (BoxTable.create raw type table)))
  (host : Collaborators σ) (call : CallDescriptor)

include hcreates in
/-- Objects that were received enter the table. -/
theorem moves_boxHandles (type : HandleType) (value : Value) (table : BoxTable) :
    moves table (stateOf (boxHandles type value table)) := by
  have hboxed : Within moves (fun _ : BoxingError => True) (boxHandles type value) :=
    inherited_within.traverseHandles value fun raw _ => by
      split
      · exact within_pure _
      · exact ⟨hcreates raw type, fun _ => trivial⟩
  exact hboxed.moves table

/-- An output that comes back goes into the reply. -/
theorem drafts_writeReceived (param : ParamSpec) (place : Nat) (name : String) (args : Record)
    (value : Value) : Drafts moves (writeReceived (σ := σ) call param place name args value) := by
  refine (drafts_emit _ _).bind fun _ => ?_
  split
  · exact drafts_fail _
  · exact within_pure _

include hcreates in
/-- An output may enter objects. -/
theorem drafts_boxOutput (box : Bool) (param : ParamSpec) (value : Value) :
    Drafts moves (boxOutput (σ := σ) box param value) := by
  unfold boxOutput
  split
  · split
    · exact drafts_onTable (moves_boxHandles hcreates _ value)
    · exact within_pure value
  · exact within_pure value

include hcreates in
/-- An output is adapted, gets its ids and goes into the reply. Only the ids concern the table. -/
theorem drafts_writeOutput (box : Bool) (param : ParamSpec) (place : Nat) (args : Record) :
    Drafts moves (writeOutput host call box param place args) := by
  unfold writeOutput
  cases args[place]? with
  | none => exact within_pure args
  | some output =>
      obtain ⟨name, received⟩ := output
      refine (drafts_onState _).bind fun adapted => ?_
      exact (drafts_boxOutput hcreates box param adapted).bind fun value =>
        drafts_writeReceived call param place name args value

include hcreates in
/-- So it is for one output after another. -/
theorem drafts_writeOutputs (box : Bool) (outputs : List (ParamSpec × Nat)) (args : Record) :
    Drafts moves (writeOutputs host call box outputs args) := by
  induction outputs generalizing args with
  | nil => exact within_pure args
  | cons output rest ih => exact (drafts_writeOutput hcreates host call box _ _ args).bind ih

/-- The result code goes into the reply, or the call ends the session for want of one. -/
theorem drafts_writeResult (result : Option Value) :
    Drafts moves (writeResult (σ := σ) call result) := by
  unfold writeResult
  split
  · exact within_pure ()
  · exact drafts_fail _
  · split
    · exact drafts_fail _
    · exact drafts_emit _ _

/-- Drafts the reply of a call, without handing it to the sink. -/
def draft (transfers : Bool) (outcome : CallOutcome) : Execution σ CallOutcome := do
  let box := call.route != .globalState && isSuccess outcome.result
  let args ← writeOutputs host call box call.outputs outcome.args
  writeResult call outcome.result
  if call.route = .invalidateMappedRanges && transfers then
    let ranges ← rangesOf args
    invalidateRanges host call.name ranges
  pure { outcome with args }

/-- A reply is drafted and handed to the sink. -/
theorem reply_eq (transfers : Bool) (outcome : CallOutcome) :
    reply host call transfers outcome
      = draft host call transfers outcome >>= fun outcome => commit >>= fun _ => pure outcome := by
  unfold reply draft
  simp only [bind_assoc]
  congr 1
  funext args
  congr 1
  funext _
  split
  · simp only [bind_assoc, pure_bind]
  · simp only [pure_bind]

include hcreates in
/-- A draft is quiet. -/
theorem receives_draft (transfers : Bool) (outcome : CallOutcome) :
    Receives moves (draft host call transfers outcome) := by
  unfold draft
  refine (drafts_writeOutputs hcreates host call _ _ _).receives.bind fun args => ?_
  refine (drafts_writeResult call _).receives.bind fun _ => ?_
  dsimp only
  split
  · refine (within_rangesOf _).bind fun ranges => ?_
    exact (drafts_invalidateRanges host _ ranges).receives.bind fun _ => within_pure _
  · exact within_pure _

/-- Recording a call is quiet, whatever becomes of the surroundings. -/
theorem drafts_record (trace : Bytes) (issued : Option DispatchHandle) (outcome : CallOutcome) :
    Drafts moves (record host call trace issued outcome) where
  moves run := by
    rw [record_eq]
    exact ⟨rfl, dispatches_noteIf _ rfl run.events, refl_of moves run.table⟩
  fails {run after cause} h := by
    rw [record_eq] at h
    cases h

end Replies

/-! ### Calls -/

section Calls

variable {host : Collaborators σ} {call : CallDescriptor}

/-- The driver is called once, and the event that notes it stands behind those before. If it fails,
the session ends. -/
theorem callDriver_eq (request : DriverCall) (run : Run σ) :
    callDriver host request run
      = match host.drive request run.state with
        | .ok outcome state =>
          .ok outcome { run with state, events := run.events ++ [.drove request] }
        | .error cause state =>
          .error (.fatal (.driver request.call.name cause))
            { run with state, events := run.events ++ [.drove request] } := rfl

/-- The global state is called once, with the table and the scratch memory in its hands, and noted
likewise. -/
theorem callState_eq (request : StateCall) (run : Run σ) :
    callState host request run
      = match host.serve request (run.state, run.table, run.scratch) with
        | .ok outcome (state, table, scratch) =>
          .ok outcome { run with
            state, table, scratch, events := run.events ++ [.served request run.scratch.used] }
        | .error cause (state, table, scratch) =>
          .error (.fatal (.driver request.call.name cause)) { run with
            state, table, scratch, events := run.events ++ [.served request run.scratch.used] } :=
  rfl

/-- What carrying out a call does: the driver or the global state is called once. -/
structure Calls (moves : BoxTable → BoxTable → Prop) (event : Run σ → SessionEvent)
    (before after : Run σ) : Prop where
  sink : after.sink = before.sink
  dispatches : dispatches after.events = dispatches before.events ++ [event before]
  table : moves before.table after.table

omit [IsPreorder BoxTable moves] in
/-- What is quiet may follow. -/
theorem Calls.quiet [IsTrans BoxTable moves] {event : Run σ → SessionEvent}
    {before middle after : Run σ} (h : Calls moves event before middle)
    (h' : Quiet moves middle after) : Calls moves event before after :=
  ⟨h'.sink.trans h.sink, h'.dispatches.trans h.dispatches, trans_of moves h.table h'.table⟩

/-- The driver does not see the table. -/
theorem within_callDriver (request : DriverCall) :
    Within (Calls moves fun _ => .drove request) PacketError.IsFatal (callDriver host request) where
  moves run := by
    rw [callDriver_eq]
    split <;> exact ⟨rfl, dispatches_append .., refl_of moves run.table⟩
  fails {run after cause} hcallDriver := by
    rw [callDriver_eq] at hcallDriver
    split at hcallDriver
    · cases hcallDriver
    · cases hcallDriver
      trivial

omit [IsPreorder BoxTable moves] in
/-- So calling the global state notes one event, and moves the table as serving the call does. -/
theorem within_callState (hserves : ∀ request state table scratch,
      moves table (stateOf (host.serve request (state, table, scratch))).2.1)
        (request : StateCall) :
    Within (Calls moves fun run => .served request run.scratch.used) PacketError.IsFatal
      (callState host request) where
  moves run := by
    have hserved := hserves request run.state run.table run.scratch
    rw [callState_eq]
    split
    · next hserve =>
        rw [hserve] at hserved
        exact ⟨rfl, dispatches_append .., hserved⟩
    · next hserve =>
        rw [hserve] at hserved
        exact ⟨rfl, dispatches_append .., hserved⟩
  fails {run after cause} hcallState := by
    rw [callState_eq] at hcallState
    split at hcallState
    · cases hcallState
    · cases hcallState
      trivial

/-- A call is carried out once, as it was read, and its failures end the session. The global state
takes the table as far as `moves` allows. -/
theorem within_dispatch (hserves : ∀ request state table scratch,
      moves table (stateOf (host.serve request (state, table, scratch))).2.1)
    (call : CallDescriptor) (request : Request) :
    Within (Calls moves fun run => dispatchEvent call request run.scratch.used)
      PacketError.IsFatal (dispatch host call request) := by
  unfold dispatch dispatchEvent
  split
  · exact within_callState hserves _
  · exact within_callDriver _

end Calls

end Execution

end CallStream
