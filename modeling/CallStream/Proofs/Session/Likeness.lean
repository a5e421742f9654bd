import CallStream.Proofs.Alike
import CallStream.Session.Decode

/-!
# Packets over surroundings that are alike

Two sessions may differ in their surroundings, in their settings, in what they await and in the
history they tell, and still carry out a packet alike. A `Likeness` says how far they may differ:
everything that it does not name is the same in both. The packet is carried out alike if the
surroundings answer alike whatever a packet asks of them, and if what is noted keeps the histories
alike (`Fits`).

The recorder is asked for and told of a call last. So what it does must keep the surroundings alike,
in each session for itself: this is the only condition that it is named in.

## Main results

* `alike_perform`, `alike_runPacket`: a packet is carried out alike.
-/

namespace CallStream

variable {σ τ ε α β : Type}

/-! ### How far two runs may differ -/

/-- How the surroundings, the settings, what is awaited and the histories of two runs are
related. -/
structure Likeness (σ τ : Type) where
  state : σ → τ → Prop
  config : SessionConfig → SessionConfig → Prop := Eq
  awaitsHandles : Bool → Bool → Prop := Eq
  events : List SessionEvent → List SessionEvent → Prop := Eq

/-- The run with other surroundings, settings and history. Everything that a packet reads besides
these is kept: the table, the scratch memory, the writer and the sink. -/
def Run.retold (run : Run σ) (state : τ) (config : SessionConfig) (awaitsHandles : Bool)
    (events : List SessionEvent) : Run τ :=
  { run with state, config, awaitsHandles, events }

/-- Two runs are alike: they differ in what the likeness names and no further than it allows. -/
inductive Likeness.Holds (like : Likeness σ τ) (run : Run σ) : Run τ → Prop
  | intro {state : τ} {config : SessionConfig} {awaitsHandles : Bool} {events : List SessionEvent}
      (hstate : like.state run.state state) (hconfig : like.config run.config config)
      (hawaits : like.awaitsHandles run.awaitsHandles awaitsHandles)
      (hevents : like.events run.events events) :
      Holds like run (run.retold state config awaitsHandles events)

/-- The surroundings of two sessions answer alike what a packet asks of them, the recorder left
out. -/
structure HooksAlike (alike : σ → τ → Prop) (host : Collaborators σ) (other : Collaborators τ) :
    Prop where
  drive (request : DriverCall) : Alike alike (host.drive request) (other.drive request)
  serve (request : StateCall) :
    Alike (fun before twin => alike before.1 twin.1 ∧ twin.2 = before.2)
      (host.serve request) (other.serve request)
  toHost (call : CallDescriptor) (params : Record) :
    AnswerAlike alike (host.toHost call params) (other.toHost call params)
  fromHost (call : CallDescriptor) (param : ParamSpec) (value : Value) :
    AnswerAlike alike (host.fromHost call param value) (other.fromHost call param value)
  sharesMemory {state : σ} {twin : τ} (h : alike state twin) :
    other.sharesMemory twin = host.sharesMemory state
  mapped? (memory : UInt64) {state : σ} {twin : τ} (h : alike state twin) :
    other.mapped? memory twin = host.mapped? memory state
  setMapped (memory : UInt64) (bytes : Bytes) {state : σ} {twin : τ} (h : alike state twin) :
    alike (host.setMapped memory bytes state) (other.setMapped memory bytes twin)
  memorySize (memory : UInt64) {state : σ} {twin : τ} (h : alike state twin) :
    other.memorySize memory twin = host.memorySize memory state

/-- The global state carries a call out alike over one table and one scratch memory. -/
theorem HooksAlike.endsAlike_serve {alike : σ → τ → Prop} {host : Collaborators σ}
    {other : Collaborators τ} (hhooks : HooksAlike alike host other) (request : StateCall)
    {state : σ} {twin : τ} (hstate : alike state twin) (rest : BoxTable × ScratchPool) :
    EndsAlike (fun before twin => alike before.1 twin.1 ∧ twin.2 = before.2)
      (host.serve request (state, rest)) (other.serve request (twin, rest)) :=
  hhooks.serve request ⟨hstate, rfl⟩

/-- The surroundings answer alike, and what is noted and recorded leaves the two runs alike. It has
one field for each place at which a packet looks beyond its run. -/
structure Likeness.Fits (like : Likeness σ τ) (host : Collaborators σ) (other : Collaborators τ) :
    Prop extends HooksAlike like.state host other where
  drove (request : DriverCall) {events told : List SessionEvent} (h : like.events events told) :
    like.events (events ++ [.drove request]) (told ++ [.drove request])
  served (request : StateCall) (used : Nat) {events told : List SessionEvent}
      (h : like.events events told) :
    like.events (events ++ [.served request used]) (told ++ [.served request used])
  logged (call : CallDescriptor) (params : Record) {config other : SessionConfig}
      (hconfig : like.config config other) {events told : List SessionEvent}
      (hevents : like.events events told) :
    like.events (noteIf config.logCalls (.logged call params) events)
      (noteIf other.logCalls (.logged call params) told)
  recorded (snapshot : SnapshotCall) {state : σ} {twin : τ} (hstate : like.state state twin)
      {events told : List SessionEvent} (hevents : like.events events told) :
    like.state (host.afterRecording snapshot state) (other.afterRecording snapshot twin) ∧
      like.events (noteIf (host.offers state) (.recorded snapshot) events)
        (noteIf (other.offers twin) (.recorded snapshot) told)

/-- Surroundings are like themselves, whatever becomes of the handles of a snapshot. -/
theorem hooksAlike_refl (host : Collaborators σ) (clear : σ → σ) :
    HooksAlike Eq host { host with clearHandles := clear } where
  drive request := alike_refl (host.drive request)
  serve request := by
    rintro ⟨state, rest⟩ ⟨twin, others⟩ ⟨hstate, hrest⟩
    obtain rfl : state = twin := hstate
    obtain rfl : others = rest := hrest
    change EndsAlike _ (host.serve request (state, others)) (host.serve request (state, others))
    cases host.serve request (state, others) with
    | ok value after => exact .ok value ⟨rfl, rfl⟩
    | error cause after => exact .error cause ⟨rfl, rfl⟩
  toHost call params := answerAlike_refl (host.toHost call params)
  fromHost call param value := answerAlike_refl (host.fromHost call param value)
  sharesMemory h := congrArg host.sharesMemory h.symm
  mapped? memory _ _ h := congrArg (host.mapped? memory) h.symm
  setMapped memory bytes _ _ h := congrArg (host.setMapped memory bytes) h
  memorySize memory _ _ h := congrArg (host.memorySize memory) h.symm

namespace Execution

variable {like : Likeness σ τ}

/-! ### Single steps -/

section Steps

/-- A step on the table is the same for both runs, because their tables are the same. -/
theorem alike_onTable (step : Boxing α) :
    Alike like.Holds (onTable (σ := σ) step) (onTable step) := by
  rintro run _ ⟨hstate, hconfig, hawaits, hevents⟩
  unfold onTable
  dsimp only [Run.retold]
  cases step run.table with
  | ok value table => exact .ok value (.intro hstate hconfig hawaits hevents)
  | error cause table => exact .error _ (.intro hstate hconfig hawaits hevents)

/-- A question to the surroundings is answered alike if they answer it alike. -/
theorem alike_onState {step : StateM σ α} {other : StateM τ α}
    (h : AnswerAlike like.state step other) :
    Alike like.Holds (onState step) (onState other) := by
  rintro run _ @⟨state, _, _, _, hstate, hconfig, hawaits, hevents⟩
  obtain ⟨hanswer, hafter⟩ := h hstate
  change EndsAlike _ (.ok (step.run run.state).1 _) (.ok (other.run state).1 _)
  rw [hanswer]
  exact .ok _ (.intro hafter hconfig hawaits hevents)

/-- A result grows alike: the room for it is the same. -/
theorem alike_emit (call : String) (bytes : Bytes) :
    Alike like.Holds (emit (σ := σ) call bytes) (emit call bytes) := by
  rintro run _ @⟨state, config, awaits, events, hstate, hconfig, hawaits, hevents⟩
  by_cases hroom : run.writer.HasRoom bytes.length
  · rw [emit_of_room hroom,
      emit_of_room (show (run.retold state config awaits events).writer.HasRoom
      bytes.length from hroom)]
    exact .ok () (.intro hstate hconfig hawaits hevents)
  · rw [emit_of_full hroom,
      emit_of_full (show ¬ (run.retold state config awaits events).writer.HasRoom
      bytes.length from hroom)]
    exact .error _ (.intro hstate hconfig hawaits hevents)

/-- An event that keeps the histories alike is noted in both. -/
theorem alike_note {event : SessionEvent}
    (hkeeps : ∀ {events told}, like.events events told →
      like.events (events ++ [event]) (told ++ [event])) :
    Alike like.Holds (note (σ := σ) event) (note event) :=
  alike_modify fun _ _ ⟨hstate, hconfig, hawaits, hevents⟩ =>
    .intro hstate hconfig hawaits (hkeeps hevents)

/-- What an observer is told of keeps the histories alike, though each run may have one or not. -/
theorem alike_observe {event : SessionEvent} {observed told : Bool}
    (hkeeps : ∀ {events twins}, like.events events twins →
      like.events (noteIf observed event events) (noteIf told event twins)) :
    Alike like.Holds (if observed then note (σ := σ) event else pure ())
      (if told then note event else pure ()) := by
  have hnotes {ρ : Type} (run : Run ρ) (observed : Bool) :
      (if observed then note event else pure ()) run
        = EStateM.Result.ok () { run with events := noteIf observed event run.events } := by
    cases observed <;> rfl
  rintro run _ ⟨hstate, hconfig, hawaits, hevents⟩
  rw [hnotes, hnotes]
  exact .ok () (.intro hstate hconfig hawaits (hkeeps hevents))

/-- A step that tells an observer first is a chain. -/
theorem observe_bind (observed : Bool) (event : SessionEvent) (next : Execution σ α) :
    (if observed then note event >>= fun _ => next else next)
      = (if observed then note event else pure ()) >>= fun _ => next := by
  cases observed <;> rfl

/-- A reply is handed out alike: both sinks are the same, and so is the reply. -/
theorem alike_commit : Alike like.Holds (commit (σ := σ)) commit := by
  rintro run _ ⟨hstate, hconfig, hawaits, hevents⟩
  unfold commit
  dsimp only [Run.retold]
  cases run.writer.commit? run.sink with
  | none => exact .error _ (.intro hstate hconfig hawaits hevents)
  | some taken => exact .ok () (.intro hstate hconfig hawaits hevents)

/-- So is the reading of a call. -/
theorem alike_readCall (call : CallDescriptor) (payload : Bytes) :
    Alike like.Holds (readCall (σ := σ) call payload) (readCall call payload) := by
  rintro run _ ⟨hstate, hconfig, hawaits, hevents⟩
  unfold readCall
  dsimp only [Run.retold]
  cases Reading.readRequest call (.start payload, run.table) with
  | ok request read => exact .ok _ (.intro hstate hconfig hawaits hevents)
  | error cause read => exact .error cause (.intro hstate hconfig hawaits hevents)

/-- The ranges that a record lists do not depend on the run. -/
theorem alike_rangesOf (args : Record) :
    Alike like.Holds (rangesOf (σ := σ) args) (rangesOf args) := by
  unfold rangesOf
  split
  · exact alike_pure _
  · exact alike_throw _

/-- Nor does the part of a mapping. -/
theorem alike_hostPart (call : String) (range : MappedRange) (size : UInt64) (mapping : Bytes) :
    Alike like.Holds (hostPart (σ := σ) call range size mapping)
      (hostPart call range size mapping) := by
  unfold hostPart
  split
  · exact alike_pure _
  · exact alike_throw _

/-- Nor does what is read of the payload. -/
theorem alike_readPayload (read : Read Empty α) (cursor : Cursor) :
    Alike like.Holds (readPayload (σ := σ) read cursor) (readPayload read cursor) := by
  unfold readPayload
  split
  · exact alike_pure _
  · exact alike_throw _

/-- Bytes are staged alike: the scratch memory is the same. -/
theorem alike_stage (call : String) (content : Bytes) :
    Alike like.Holds (stage (σ := σ) call content) (stage call content) := by
  refine alike_get_bind fun run _ ⟨hstate, hconfig, hawaits, hevents⟩ => ?_
  dsimp only [Run.retold]
  cases run.scratch.stage content with
  | error fault => exact alike_throw _
  | ok staged =>
      exact (alike_modify fun _ _ ⟨hstate, hconfig, hawaits, hevents⟩ =>
        .intro hstate hconfig hawaits hevents).bind fun _ => alike_pure _

/-- Objects that were received get the same ids: the tables are the same. -/
theorem alike_boxOutput (box : Bool) (param : ParamSpec) (value : Value) :
    Alike like.Holds (boxOutput (σ := σ) box param value) (boxOutput box param value) := by
  unfold boxOutput
  split
  · split
    · exact alike_onTable _
    · exact alike_pure value
  · exact alike_pure value

/-- An output that comes back is encoded alike, and added to writers that are alike. -/
theorem alike_writeReceived (call : CallDescriptor) (param : ParamSpec) (place : Nat)
    (name : String) (args : Record) (value : Value) :
    Alike like.Holds (writeReceived (σ := σ) call param place name args value)
      (writeReceived call param place name args value) := by
  refine (alike_emit _ _).bind fun _ => ?_
  split
  · exact alike_throw _
  · exact alike_pure _

/-- So is the result code. -/
theorem alike_writeResult (call : CallDescriptor) (result : Option Value) :
    Alike like.Holds (writeResult (σ := σ) call result) (writeResult call result) := by
  unfold writeResult
  split
  · exact alike_pure ()
  · exact alike_throw _
  · split
    · exact alike_throw _
    · exact alike_emit _ _

end Steps

variable {host : Collaborators σ} {other : Collaborators τ}

/-! ### Mapped memory and replies -/

section Hooks

variable (hhooks : HooksAlike like.state host other)

include hhooks

/-- A flushed range fills both memories with the same bytes, because both surroundings find the same
mapping. -/
theorem alike_flushRange (call : String) (range : MappedRange) (cursor : Cursor) :
    Alike like.Holds (flushRange host call range cursor) (flushRange other call range cursor) := by
  unfold flushRange
  refine (alike_readPayload _ _).bind fun (count, cursor) => ?_
  refine alike_get_bind fun run _ ⟨hstate, hconfig, hawaits, hevents⟩ => ?_
  dsimp only [Run.retold]
  rw [hhooks.mapped? range.memory hstate]
  split
  · split
    · exact alike_throw _
    · exact alike_pure _
  · refine (alike_hostPart _ _ _ _).bind fun (start, length) => ?_
    refine (alike_readPayload _ _).bind fun (content, cursor) => ?_
    exact (alike_modify fun _ _ ⟨hstate, hconfig, hawaits, hevents⟩ =>
      .intro (hhooks.setMapped _ _ hstate) hconfig hawaits hevents).bind fun _ => alike_pure _

/-- So do ranges one after another. -/
theorem alike_flushRanges (call : String) (ranges : List MappedRange) (cursor : Cursor) :
    Alike like.Holds (flushRanges host call ranges cursor)
    (flushRanges other call ranges cursor) := by
  induction ranges generalizing cursor with
  | nil => exact alike_pure cursor
  | cons range rest ih => exact (alike_flushRange hhooks call range cursor).bind ih

/-- An invalidated range has the same bytes in both memories, and both stage them. -/
theorem alike_invalidateRange (call : String) (range : MappedRange) :
    Alike like.Holds (invalidateRange host call range) (invalidateRange other call range) := by
  unfold invalidateRange
  refine alike_get_bind fun run _ ⟨hstate, hconfig, hawaits, hevents⟩ => ?_
  dsimp only [Run.retold]
  rw [hhooks.mapped? range.memory hstate, hhooks.memorySize range.memory hstate]
  split
  · exact alike_emit _ _
  · refine (alike_hostPart _ _ _ _).bind fun (start, length) => ?_
    refine (alike_stage _ _).bind fun staged => ?_
    exact (alike_emit _ _).bind fun _ => alike_emit _ _

/-- So have ranges one after another. -/
theorem alike_invalidateRanges (call : String) (ranges : List MappedRange) :
    Alike like.Holds (invalidateRanges host call ranges) (invalidateRanges other call ranges) := by
  induction ranges with
  | nil => exact alike_pure ()
  | cons range rest ih => exact (alike_invalidateRange hhooks call range).bind fun _ => ih

/-- Both surroundings adapt an output alike, and the tables give the same ids. -/
theorem alike_writeOutput (call : CallDescriptor) (box : Bool) (param : ParamSpec) (place : Nat)
    (args : Record) :
    Alike like.Holds (writeOutput host call box param place args)
      (writeOutput other call box param place args) := by
  unfold writeOutput
  split
  · exact alike_pure args
  · next name received _ =>
      refine (alike_onState (hhooks.fromHost call param received)).bind fun adapted => ?_
      exact (alike_boxOutput box param adapted).bind fun value =>
        alike_writeReceived call param place name args value

/-- So it is for outputs one after another. -/
theorem alike_writeOutputs (call : CallDescriptor) (box : Bool) (outputs : List (ParamSpec × Nat))
    (args : Record) :
    Alike like.Holds (writeOutputs host call box outputs args)
      (writeOutputs other call box outputs args) := by
  induction outputs generalizing args with
  | nil => exact alike_pure args
  | cons output rest ih => exact (alike_writeOutput hhooks call box _ _ args).bind ih

/-- So the replies are the same. -/
theorem alike_reply (call : CallDescriptor) (transfers : Bool) (outcome : CallOutcome) :
    Alike like.Holds (reply host call transfers outcome) (reply other call transfers outcome) := by
  unfold reply
  refine (alike_writeOutputs hhooks call _ _ _).bind fun args => ?_
  refine (alike_writeResult call _).bind fun _ => ?_
  have hfinish : Alike like.Holds (commit (σ := σ) >>= fun _ => pure { outcome with args })
      (commit >>= fun _ => pure { outcome with args }) :=
    alike_commit.bind fun _ => alike_pure _
  dsimp only
  split
  · refine (alike_rangesOf _).bind fun ranges => ?_
    exact (alike_invalidateRanges hhooks _ ranges).bind fun _ => hfinish
  · exact hfinish

/-- A call is received alike: read, adapted, its memory flushed and its objects destroyed. -/
theorem alike_receive (call : CallDescriptor) (payload : Bytes) (transfers : Bool) :
    Alike like.Holds (receive host call payload transfers)
    (receive other call payload transfers) := by
  unfold receive
  refine (alike_readCall _ _).bind fun (request, cursor) => ?_
  have hfinish (cursor : Cursor) : Alike like.Holds
      (onTable (σ := σ) BoxTable.commitDestroys >>= fun _ => pure (request, cursor.position))
      (onTable BoxTable.commitDestroys >>= fun _ => pure (request, cursor.position)) :=
    (alike_onTable _).bind fun _ => alike_pure _
  dsimp only
  split
  · refine (alike_rangesOf _).bind fun ranges => ?_
    exact (alike_flushRanges hhooks _ ranges cursor).bind hfinish
  · exact (alike_pure cursor).bind hfinish

end Hooks

/-! ### Calls and packets -/

section Packets

variable (hfits : like.Fits host other)

include hfits

/-- Both drivers carry the call out alike, and both histories note the same request. -/
theorem alike_callDriver (request : DriverCall) :
    Alike like.Holds (callDriver host request) (callDriver other request) := by
  refine (alike_note (hfits.drove request)).bind fun _ => ?_
  rintro run _ ⟨hstate, hconfig, hawaits, hevents⟩
  have hdrive := hfits.drive request hstate
  dsimp only [Run.retold]
  generalize host.drive request run.state = result, other.drive request _ = answer at hdrive ⊢
  cases hdrive with
  | ok outcome hafter => exact .ok outcome (.intro hafter hconfig hawaits hevents)
  | error cause hafter => exact .error _ (.intro hafter hconfig hawaits hevents)

/-- So do both global states. -/
theorem alike_callState (request : StateCall) :
    Alike like.Holds (callState host request) (callState other request) := by
  refine alike_get_bind fun run _ ⟨_, _, _, _⟩ => ?_
  refine (alike_note (hfits.served request run.scratch.used)).bind fun _ => ?_
  rintro run _ ⟨hstate, hconfig, hawaits, hevents⟩
  have hserve := hfits.endsAlike_serve request hstate (run.table, run.scratch)
  dsimp only [Run.retold]
  generalize host.serve request (run.state, run.table, run.scratch) = result,
    other.serve request (_, run.table, run.scratch) = answer at hserve ⊢
  -- Both states come back with the table and the scratch memory that served the call.
  cases hserve with
  | @ok after twin outcome hafter =>
      obtain ⟨state, table, scratch⟩ := after
      obtain ⟨told, _, _⟩ := twin
      obtain ⟨hstate, hrest⟩ := hafter
      cases hrest
      exact .ok outcome (.intro hstate hconfig hawaits hevents)
  | @error after twin cause hafter =>
      obtain ⟨state, table, scratch⟩ := after
      obtain ⟨told, _, _⟩ := twin
      obtain ⟨hstate, hrest⟩ := hafter
      cases hrest
      exact .error _ (.intro hstate hconfig hawaits hevents)

/-- So a call is dispatched alike, whoever carries it out. -/
theorem alike_dispatch (call : CallDescriptor) (request : Request) :
    Alike like.Holds (dispatch host call request) (dispatch other call request) := by
  unfold dispatch
  split
  · exact alike_callState hfits _
  · exact alike_callDriver hfits _

/-- The call is recorded in both runs, in one of them or in none, and their surroundings stay
alike. -/
theorem alike_record (call : CallDescriptor) (trace : Bytes) (issued : Option DispatchHandle)
    (outcome : CallOutcome) :
    Alike like.Holds (record host call trace issued outcome)
      (record other call trace issued outcome) := by
  rintro run _ ⟨hstate, hconfig, hawaits, hevents⟩
  have hrecorded := hfits.recorded
    (.ofCall call trace issued run.table.preserved outcome) hstate hevents
  simp only [record_eq]
  exact .ok () (.intro hrecorded.1 hconfig hawaits hrecorded.2)

/-- A call is carried out alike. -/
theorem alike_perform (call : CallDescriptor) (payload : Bytes) :
    Alike like.Holds (perform host call payload) (perform other call payload) := by
  unfold perform
  refine alike_get_bind fun run _ ⟨hstate, _, _, _⟩ => ?_
  dsimp only [Run.retold]
  rw [hfits.sharesMemory hstate]
  refine (alike_receive hfits.toHooksAlike call payload _).bind fun (request, size) => ?_
  refine (alike_onState (hfits.toHost call request.args)).bind fun args => ?_
  refine alike_get_bind fun current _ ⟨_, hconfig, _, _⟩ => ?_
  dsimp only
  rw [observe_bind, observe_bind]
  refine (alike_observe (hfits.logged call args hconfig)).bind fun _ => ?_
  refine (alike_dispatch hfits call _).bind fun outcome => ?_
  exact (alike_reply hfits.toHooksAlike call _ outcome).bind fun _ => alike_record hfits call _ _ _

/-- A packet is carried out alike, and cleaned up behind alike. -/
theorem alike_runPacket (call : CallDescriptor) (payload : Bytes) :
    Alike like.Holds (runPacket host call payload) (runPacket other call payload) := by
  rintro run _ ⟨hstate, hconfig, hawaits, hevents⟩
  let blank : Run σ := { run with scratch := run.scratch.reset }
  have hblank : like.Holds blank (blank.retold _ _ _ _) := .intro hstate hconfig hawaits hevents
  have hperform := alike_perform hfits call payload hblank
  unfold runPacket
  dsimp only [blank, Run.retold] at hperform ⊢
  generalize perform host call payload { run with scratch := run.scratch.reset } = result,
    perform other call payload _ = answer at hperform ⊢
  cases hperform with
  | ok value hafter =>
      obtain ⟨hstate, hconfig, hawaits, hevents⟩ := hafter
      exact .ok () (.intro hstate hconfig hawaits hevents)
  | error cause hafter =>
      obtain ⟨hstate, hconfig, hawaits, hevents⟩ := hafter
      exact .error cause (.intro hstate hconfig hawaits hevents)

end Packets

end Execution

end CallStream
