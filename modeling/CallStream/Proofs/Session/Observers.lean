import CallStream.Proofs.Boxing.LiveIds
import CallStream.Proofs.Session.Flush
import CallStream.Proofs.Session.Lifetime

/-!
# Observers

Calls can be logged, and they can be recorded in snapshots. Whoever observes a session, it does the
same: it calls the driver and the global state alike, replies alike, stops at the same places, and
leaves the same objects and the same mapped memory.

A recorder is a part of the global state, so asking for it and telling it of a call may change that
state. What is compared are surroundings that differ in nothing else (`DifferInRecording`): there is
a way in which their states can be alike so that they answer alike whatever else they are asked, and
that is kept whenever one of them is asked for a recorder or tells it of a call, in whatever state
the other one is. Surroundings with a recorder of their own beside them are the plain case
(`differInRecording_withRecorder`). A recorder that changes what the driver does, say, is no
observer.

## Main results

* `decode_of_observers`: a buffer, in two sessions that are observed differently.
* `sights_of_observers`: what is seen of a session does not depend on who observes it.
-/

namespace CallStream

variable {σ τ : Type}

/-! ### Surroundings that differ in their recorders -/

/-- The surroundings of two sessions differ in their recorders only. `alike` says when a state of
the one is a state of the other but for what concerns the recorders. -/
structure DifferInRecording (alike : σ → τ → Prop) (host : Collaborators σ)
    (other : Collaborators τ) : Prop extends HooksAlike alike host other where
  loadHandles (buffer : Bytes) : Alike alike (host.loadHandles buffer) (other.loadHandles buffer)
  clearHandles {state : σ} {twin : τ} (h : alike state twin) :
    alike (host.clearHandles state) (other.clearHandles twin)
  /-- Recording a call concerns the recorder only. -/
  afterRecording_left (snapshot : SnapshotCall) {state : σ} {twin : τ} (h : alike state twin) :
    alike (host.afterRecording snapshot state) twin
  afterRecording_right (snapshot : SnapshotCall) {state : σ} {twin : τ} (h : alike state twin) :
    alike state (other.afterRecording snapshot twin)

/-- Two runs that differ in who observes them: calls may be logged in one of them only, and the
histories agree on who was called. -/
def Likeness.observed (alike : σ → τ → Prop) : Likeness σ τ where
  state := alike
  config config other := ∃ logCalls, other = { config with logCalls }
  events events told := dispatches told = dispatches events

/-- Packets are carried out alike over surroundings that differ in their recorders. -/
theorem DifferInRecording.fits {alike : σ → τ → Prop} {host : Collaborators σ}
    {other : Collaborators τ} (h : DifferInRecording alike host other) :
    (Likeness.observed alike).Fits host other where
  toHooksAlike := h.toHooksAlike
  drove request events told hevents := by
    change dispatches (told ++ _) = dispatches (events ++ _)
    rw [dispatches_append, dispatches_append, show dispatches told = dispatches events from hevents]
  served request used events told hevents := by
    change dispatches (told ++ _) = dispatches (events ++ _)
    rw [dispatches_append, dispatches_append, show dispatches told = dispatches events from hevents]
  logged call params config other _ events told hevents := by
    change dispatches (noteIf _ _ told) = dispatches (noteIf _ _ events)
    rw [dispatches_noteIf _ rfl, dispatches_noteIf _ rfl]
    exact hevents
  recorded snapshot state twin hstate events told hevents := by
    refine ⟨h.afterRecording_left snapshot (h.afterRecording_right snapshot hstate), ?_⟩
    change dispatches (noteIf _ _ told) = dispatches (noteIf _ _ events)
    rw [dispatches_noteIf _ rfl, dispatches_noteIf _ rfl]
    exact hevents

/-! ### A recorder beside the state -/

/-- A step leaves alone what lies beside its state. -/
def beside {ε α ρ : Type} (step : EStateM ε σ α) : EStateM ε (σ × ρ) α := fun (state, rest) =>
  match step state with
  | .ok value after => .ok value (after, rest)
  | .error cause after => .error cause (after, rest)

/-- A step that cannot fail leaves alone what lies beside its state. -/
def answerBeside {α ρ : Type} (step : StateM σ α) : StateM (σ × ρ) α := fun (state, rest) =>
  let (value, after) := step.run state
  (value, (after, rest))

/-- The surroundings with a recorder of their own beside them. It keeps every call that it is told
of. -/
def Collaborators.withRecorder (host : Collaborators σ) :
    Collaborators (σ × List SnapshotCall) where
  drive request := beside (host.drive request)
  serve request := fun ((state, kept), rest) =>
    match host.serve request (state, rest) with
    | .ok outcome (after, left) => .ok outcome ((after, kept), left)
    | .error cause (after, left) => .error cause ((after, kept), left)
  toHost call params := answerBeside (host.toHost call params)
  fromHost call param value := answerBeside (host.fromHost call param value)
  sharesMemory recorded := host.sharesMemory recorded.1
  mapped? memory recorded := host.mapped? memory recorded.1
  mapped?_length_le h := host.mapped?_length_le h
  setMapped memory bytes recorded := (host.setMapped memory bytes recorded.1, recorded.2)
  memorySize memory recorded := host.memorySize memory recorded.1
  offersRecorder := pure true
  record snapshot recorded := (recorded.1, recorded.2 ++ [snapshot])
  loadHandles buffer := beside (host.loadHandles buffer)
  clearHandles recorded := (host.clearHandles recorded.1, recorded.2)

/-- A step does the same with something beside its state. -/
theorem alike_beside {ε α ρ : Type} (step : EStateM ε σ α) :
    Alike (fun state (pair : σ × ρ) => pair.1 = state) step (beside step) := by
  rintro _ ⟨state, rest⟩ rfl
  unfold beside
  dsimp only
  cases step state with
  | ok value after => exact .ok value rfl
  | error cause after => exact .error cause rfl

/-- So does a step that cannot fail. -/
theorem answerAlike_beside {α ρ : Type} (step : StateM σ α) :
    AnswerAlike (fun state (pair : σ × ρ) => pair.1 = state) step (answerBeside step) := by
  rintro _ ⟨state, rest⟩ rfl
  exact ⟨rfl, rfl⟩

/-- With a recorder beside them, surroundings that record nothing differ in nothing else. -/
theorem differInRecording_withRecorder {host : Collaborators σ}
    (hsilent : ∀ snapshot state, host.afterRecording snapshot state = state) :
    DifferInRecording (fun state recorded => recorded.1 = state) host host.withRecorder where
  drive request := alike_beside (host.drive request)
  serve request := by
    rintro ⟨state, rest⟩ ⟨⟨twin, kept⟩, left⟩ ⟨hstate, hrest⟩
    obtain rfl : twin = state := hstate
    obtain rfl : left = rest := hrest
    simp only [Collaborators.withRecorder]
    cases host.serve request (twin, left) with
    | ok outcome after => exact .ok outcome ⟨rfl, rfl⟩
    | error cause after => exact .error cause ⟨rfl, rfl⟩
  toHost call params := answerAlike_beside (host.toHost call params)
  fromHost call param value := answerAlike_beside (host.fromHost call param value)
  sharesMemory h := congrArg host.sharesMemory h
  mapped? memory _ _ h := congrArg (host.mapped? memory) h
  setMapped memory bytes _ _ h := congrArg (host.setMapped memory bytes) h
  memorySize memory _ _ h := congrArg (host.memorySize memory) h
  loadHandles buffer := alike_beside (host.loadHandles buffer)
  clearHandles h := congrArg host.clearHandles h
  -- The one side keeps its state by hypothesis, the other one keeps its first half.
  afterRecording_left snapshot state _ h := h.trans (hsilent snapshot state).symm
  afterRecording_right _ _ _ h := h

/-! ### What is seen of a session -/

/-- A step of a session: it is given something, or its table is worked on from outside. -/
inductive SessionStep where
  | input (input : SessionInput)
  | table (op : TableOp)

/-- What comes of a buffer: what the sink holds, how far the session came, and who was called for
it. -/
structure Answer where
  sink : Sink
  outcome : Except SessionError Progress
  calls : List SessionEvent

/-- What is seen behind a step. -/
structure Sight where
  /-- What came of the buffer, if the step was one. -/
  answer : Option Answer
  table : BoxTable
  /-- The bytes of mapped memory objects. -/
  mapped : UInt64 → Option Bytes

/-- A session that is the given one but for who observes it. -/
inductive ObservedAlike (alike : σ → τ → Prop) (session : Session σ) : Session τ → Prop
  | intro {state : τ} {logCalls : Bool} (hstate : alike session.state state) :
      ObservedAlike alike session
        { session with state, config := { session.config with logCalls } }

namespace Session

/-- The session behind a step. -/
def take (host : Collaborators σ) (session : Session σ) : SessionStep → Session σ
  | .input input => session.feed host input
  | .table op => { session with table := op.apply session.table }

/-- What comes of a step that is a buffer. -/
def answer? (host : Collaborators σ) (session : Session σ) : SessionStep → Option Answer
  | .input (.buffer bytes sink) =>
    let decoded := decode host session bytes sink
    some ⟨decoded.sink, decoded.outcome, dispatches decoded.events⟩
  | _ => none

/-- What is seen behind each of a session's steps. -/
def sights (host : Collaborators σ) : Session σ → List SessionStep → List Sight
  | _, [] => []
  | session, step :: steps =>
    let after := session.take host step
    { answer := session.answer? host step
      table := after.table
      mapped := fun memory => host.mapped? memory after.state } :: sights host after steps

variable {alike : σ → τ → Prop} {host : Collaborators σ} {other : Collaborators τ}

/-! ### Buffers -/

/-- The handles of a snapshot are loaded alike, and the packets behind them carried out alike. -/
theorem alike_runSnapshot (h : DifferInRecording alike host other) (buffer : Bytes) :
    Alike (Likeness.observed alike).Holds (runSnapshot host buffer) (runSnapshot other buffer) := by
  rintro run _ ⟨hstate, hconfig, hawaits, hevents⟩
  have hload := h.loadHandles buffer hstate
  unfold runSnapshot
  dsimp only [Run.retold]
  generalize host.loadHandles buffer run.state = result, other.loadHandles buffer _ = answer
    at hload ⊢
  -- Both load the same ids or neither does, and the handles are cleared in either case.
  cases hload with
  | error cause hafter =>
      exact .error _ (.intro (h.clearHandles hafter) hconfig hawaits hevents)
  | @ok state _ loaded hafter =>
      obtain ⟨consumed, ids⟩ := loaded
      let loaded : Run σ := { run with
        state, awaitsHandles := false, table := run.table.reserve ids }
      have hloaded : (Likeness.observed alike).Holds loaded (loaded.retold _ _ false _) :=
        .intro hafter hconfig rfl hevents
      have hpackets := alike_runPackets h.fits (min consumed buffer.length)
        (buffer.drop (min consumed buffer.length)) hloaded
      dsimp only [loaded, Run.retold] at hpackets ⊢
      generalize runPackets host _ _ _ = result, runPackets other _ _ _ = answer at hpackets ⊢
      cases hpackets with
      | ok progress hends =>
          obtain ⟨hstate, hconfig, hawaits, hevents⟩ := hends
          exact .ok progress (.intro (h.clearHandles hstate) hconfig hawaits hevents)
      | error cause hends =>
          obtain ⟨hstate, hconfig, hawaits, hevents⟩ := hends
          exact .error cause (.intro (h.clearHandles hstate) hconfig hawaits hevents)

/-- A buffer is carried out alike, whether or not it starts with the handles of a snapshot. -/
theorem alike_runBuffer (h : DifferInRecording alike host other) (buffer : Bytes) :
    Alike (Likeness.observed alike).Holds (runBuffer host buffer) (runBuffer other buffer) := by
  intro run twin hlike
  have hawaits : run.awaitsHandles = twin.awaitsHandles := by
    obtain ⟨-, -, hawaits, -⟩ := hlike
    exact hawaits
  unfold runBuffer
  rw [hawaits]
  split
  · exact alike_runSnapshot h buffer hlike
  · exact alike_runPackets h.fits 0 buffer hlike

/-- Two sessions that are observed differently make the same of a buffer. -/
theorem decode_of_observers (h : DifferInRecording alike host other) {session : Session σ}
    {twin : Session τ} (hlike : ObservedAlike alike session twin) (buffer : Bytes) (sink : Sink) :
    let decoded := decode host session buffer sink
    let told := decode other twin buffer sink
    told.sink = decoded.sink ∧ told.outcome = decoded.outcome ∧
      dispatches told.events = dispatches decoded.events ∧
      ObservedAlike alike decoded.session told.session := by
  intro decoded told
  obtain @⟨state, logCalls, hstate⟩ := hlike
  have hstart : (Likeness.observed alike).Holds { session with sink }
      { session with state, config := { session.config with logCalls }, sink } :=
    .intro hstate ⟨logCalls, rfl⟩ rfl rfl
  -- The runs over the buffer end alike, and what is seen is a part of their ends.
  have hends := alike_runBuffer h buffer hstart
  simp only [decoded, told, decode_eq]
  generalize runBuffer host buffer _ = result, runBuffer other buffer _ = answer at hends ⊢
  cases hends with
  | ok progress hafter =>
      obtain ⟨hstate, ⟨logCalls, rfl⟩, rfl, hevents⟩ := hafter
      exact ⟨rfl, rfl, hevents, .intro hstate⟩
  | error cause hafter =>
      obtain ⟨hstate, ⟨logCalls, rfl⟩, rfl, hevents⟩ := hafter
      exact ⟨rfl, rfl, hevents, .intro hstate⟩

/-! ### Steps -/

/-- A step leaves two sessions that are observed differently so again. -/
theorem take_of_observers (h : DifferInRecording alike host other) {session : Session σ}
    {twin : Session τ} (hlike : ObservedAlike alike session twin) (step : SessionStep) :
    ObservedAlike alike (session.take host step) (twin.take other step) := by
  cases step with
  | input input =>
      cases input with
      | buffer bytes sink => exact (decode_of_observers h hlike bytes sink).2.2.2
      | awaitHandles flag =>
          obtain ⟨hstate⟩ := hlike
          exact .intro hstate
  | table op =>
      obtain ⟨hstate⟩ := hlike
      exact .intro hstate

/-- What comes of a step does not depend on who observes it. -/
theorem answer?_of_observers (h : DifferInRecording alike host other) {session : Session σ}
    {twin : Session τ} (hlike : ObservedAlike alike session twin) (step : SessionStep) :
    twin.answer? other step = session.answer? host step := by
  cases step with
  | input input =>
      cases input with
      | buffer bytes sink =>
          obtain ⟨hsink, houtcome, hcalls, -⟩ := decode_of_observers h hlike bytes sink
          simp only [answer?, hsink, houtcome, hcalls]
      | awaitHandles flag => rfl
  | table op => rfl

/-- Two sessions that are observed differently show the same table and the same mapped memory. -/
theorem shown_of_observers (h : DifferInRecording alike host other) {session : Session σ}
    {twin : Session τ} (hlike : ObservedAlike alike session twin) :
    twin.table = session.table ∧
      ∀ memory, other.mapped? memory twin.state = host.mapped? memory session.state := by
  obtain ⟨hstate⟩ := hlike
  exact ⟨rfl, fun memory => h.mapped? memory hstate⟩

/-- Two sessions that are observed differently are the same to see, behind every step. -/
theorem sights_of_alike (h : DifferInRecording alike host other) {session : Session σ}
    {twin : Session τ} (hlike : ObservedAlike alike session twin) (steps : List SessionStep) :
    sights other twin steps = sights host session steps := by
  induction steps generalizing session twin with
  | nil => rfl
  | cons step steps ih =>
      have hafter := take_of_observers h hlike step
      obtain ⟨htable, hmapped⟩ := shown_of_observers h hafter
      simp only [sights, answer?_of_observers h hlike step, htable, hmapped, ih hafter]

/-- What is seen of a session does not depend on whether calls are logged, nor on whether the global
state offers a recorder. Take two sessions that differ in this only: in one of them calls may be
logged and not in the other, and their surroundings differ in their recorders. Whatever buffers they
are given, for any driver, global state and sinks, however they are told that the next buffer starts
with the handles of a snapshot, and however their tables are worked on in between: behind every
step, the sinks hold the same, the sessions came as far or failed alike, the driver and the global
state were called alike, and the tables and the mapped memory are the same. -/
theorem sights_of_observers (hdiffer : DifferInRecording alike host other) (session : Session σ)
    {twin : τ} (hstate : alike session.state twin) (logCalls : Bool) (steps : List SessionStep) :
    sights other { session with state := twin, config := { session.config with logCalls } } steps
      = sights host session steps :=
  sights_of_alike hdiffer (.intro hstate) steps

open Execution

/-- The surroundings with one memory object, which record nothing. -/
def silentHost : Collaborators Bytes := { recordingHost with offersRecorder := pure false }

/-- The guest flushes memory, ids are reserved, and a snapshot without objects is loaded. -/
def observedSteps : List SessionStep :=
  [.input (.buffer (Packet.encode ⟨20025, overlappingPayload⟩) .unbounded),
    .table (.reserve [9]), .input (.awaitHandles true),
    .input (.buffer ([0, 0, 0, 0] ++ waitPacket) .unbounded)]

/-- Without an observer, the session does what it does where calls are logged and a recorder beside
the state is told of each. -/
theorem sights_of_observers_flush :
    DifferInRecording (fun content recorded => recorded.1 = content) silentHost
        silentHost.withRecorder ∧
      (∃ after snapshot, runPacket silentHost.withRecorder .deviceWaitIdle
          [7, 0, 0, 0, 0, 0, 0, 0] { mappedRun with state := (mappedRun.state, []) } =
            .ok () after ∧
        after.state = (mappedRun.state, [snapshot])) ∧
      sights silentHost.withRecorder
          { mappedRun.toSession with
            state := (mappedRun.state, []), config := { logCalls := true } } observedSteps
        = sights silentHost mappedRun.toSession observedSteps := by
  have hdiffer : DifferInRecording (fun content recorded => recorded.1 = content) silentHost
      silentHost.withRecorder := differInRecording_withRecorder fun _ _ => rfl
  have hstate : ((mappedRun.state, []) : Bytes × List SnapshotCall).1 = mappedRun.state := rfl
  exact ⟨hdiffer, ⟨_, _, rfl, rfl⟩,
    sights_of_observers hdiffer mappedRun.toSession hstate true observedSteps⟩

end Session

end CallStream
