import CallStream.Proofs.Session.Translation
import Mathlib.Data.List.Chain

/-!
# How long an object lives

An object leaves the table only when a packet names it among those to destroy: nothing that becomes
of a packet takes another one away, and no new object takes the place of a live one. So an id stands
for its object from one moment of a session to the next, until a packet is met that condemns it.

A moment is behind a packet that was taken up, whatever became of it, or behind a whole input. The
handles of a snapshot only reserve ids.

## Main results

* `keeps_runPacket`: a packet touches no object but those that it condemns.
* `isChain_moments`: from one moment to the next, what lived and was not condemned lives.
* `resolve_of_moments`: an id resolves to the same value at any later moment.
-/

namespace CallStream

/-! ### Condemned objects -/

/-- The ids in a payload that the call names as objects to destroy. If the payload cannot be read
there are none, since nothing is destroyed then. -/
def CallDescriptor.condemned (call : CallDescriptor) (payload : Bytes) : List BoxedId :=
  match call.decodeSent payload with
  | .ok sent _ => destroyedHandles call.params sent
  | .error _ _ => []

/-- The ids that a packet names as objects to destroy. -/
def Packet.condemned (packet : Packet) : List BoxedId :=
  match CallDescriptor.ofOpcode? packet.opcode with
  | none => []
  | some call => call.condemned packet.payload

/-- The global state touches the table only to enter objects, whatever becomes of its calls. It is
handed the table itself, so that it does not destroy objects has to be asked of it. -/
def Collaborators.OnlyCreates {σ : Type} (host : Collaborators σ) : Prop :=
  ∀ request state table scratch,
    BoxTable.Grown table (stateOf (host.serve request (state, table, scratch))).2.1

namespace BoxTable

/-- Every object that is not condemned lives on, under its id and with its value and type. -/
def Keeps (condemned : List BoxedId) (before after : BoxTable) : Prop :=
  ∀ ⦃id : BoxedId⦄ ⦃entry : BoxedEntry⦄, id ∉ condemned →
    before.find? id = some entry → after.find? id = some entry

/-- What lives on twice lives on. -/
instance (condemned : List BoxedId) : IsPreorder BoxTable (Keeps condemned) where
  refl _ _ _ _ hfind := hfind
  trans _ _ _ hkeeps hsecond _ _ hnotMem hfind := hsecond hnotMem (hkeeps hnotMem hfind)

variable {condemned : List BoxedId} {before after : BoxTable}

/-- While the objects stay as they are, every one lives on. -/
theorem keeps_of_entries (hentries : after.entries = before.entries) :
    Keeps condemned before after := by
  intro id entry _ hfind
  rwa [find?, hentries]

/-- Queueing an object does not end its life. -/
theorem Queues.keeps (h : Queues before after) : Keeps condemned before after :=
  keeps_of_entries h.entries_eq

/-- Nor does it end when others enter. -/
theorem Grown.keeps (h : Grown before after) : Keeps condemned before after :=
  fun _ _ _ hfind => h.find?_eq_some hfind

/-- Carrying out the queue takes away what is queued at most, wherever it ends. -/
theorem keeps_commitDestroys {table : BoxTable} (hqueued : ∀ id ∈ table.pending, id ∈ condemned) :
    Keeps condemned table (stateOf (commitDestroys table)) := by
  intro id entry hnotMem hfind
  have habsent : id ∉ table.pending := fun hmem => hnotMem (hqueued id hmem)
  exact (find?_destroyAll_of_not_mem habsent _).trans hfind

end BoxTable

namespace Execution

open BoxTable

variable {σ : Type} {host : Collaborators σ} {call : CallDescriptor} {payload : Bytes} {run : Run σ}

/-! ### One packet -/

/-- A step on the table does to the table what it does by itself. -/
theorem stateOf_onTable {α : Type} (step : Boxing α) (run : Run σ) :
    (stateOf (onTable step run)).table = stateOf (step run.table) := by
  unfold onTable
  cases step run.table <;> rfl

/-- A call that is read queues what it condemns, and the table knows all of it. -/
theorem condemned_of_readCall (hmem : call ∈ CallDescriptor.catalog) {read : Request × Cursor}
    {after : Run σ} (h : readCall call payload run = .ok read after) :
    after.table = run.table.enqueue (call.condemned payload) ∧
      ∀ id ∈ call.condemned payload, run.table.Knows id := by
  unfold readCall at h
  split at h
  · next request cursor table hreadRequest =>
      cases h
      obtain ⟨sent, hsent, -, -, hknown, hqueues⟩ := Reading.readRequest_eq_ok hmem hreadRequest
      rw [CallDescriptor.condemned, hsent]
      exact ⟨hqueues,
        fun id hcondemned => hknown id (call.destroyedHandles_subset hmem sent hcondemned)⟩
  · cases h

/-- Receiving a call takes away what it condemns at most, wherever it ends. -/
theorem keeps_receive (hmem : call ∈ CallDescriptor.catalog) (hpending : run.table.pending = [])
    (transfers : Bool) :
    Keeps (call.condemned payload) run.table
      (stateOf (receive host call payload transfers run)).table := by
  rw [receive_eq]
  cases hreadCall : readCall call payload run with
  | error cause middle =>
      rw [bind_of_error hreadCall]
      exact (collects_readCall.of_error hreadCall).table.keeps
  | ok requested middle =>
      obtain ⟨request, cursor⟩ := requested
      have hflushes : Fills host (receiveFlushed host call transfers request cursor) :=
        fills_receiveFlushed transfers request cursor
      have hkeeps : Keeps (call.condemned payload) run.table middle.table :=
        (collects_readCall.of_ok hreadCall).table.keeps
      rw [bind_of_ok hreadCall]
      dsimp only
      cases hflushed : receiveFlushed host call transfers request cursor middle with
      | error cause last =>
          rw [bind_of_error hflushed]
          exact (hflushes.of_error hflushed).table ▸ hkeeps
      | ok cursor last =>
          -- The queue was empty, so all that is destroyed is what this packet names.
          have hqueued (id : BoxedId) (hmem_pending : id ∈ middle.table.pending) :
              id ∈ call.condemned payload := by
            rw [(condemned_of_readCall hmem hreadCall).1, enqueue, hpending,
              List.nil_append] at hmem_pending
            exact List.mem_of_mem_filter hmem_pending
          rw [(hflushes.of_ok hflushed).table] at hkeeps hqueued
          rw [bind_of_ok hflushed, stateOf_bind_pure, stateOf_onTable]
          exact trans_of (Keeps _) hkeeps (keeps_commitDestroys hqueued)

/-- So does answering a packet: what is carried out behind that only enters objects. -/
theorem keeps_answer (hcreates : host.OnlyCreates) (hmem : call ∈ CallDescriptor.catalog)
    (hpending : run.table.pending = []) (transfers : Bool) :
    Keeps (call.condemned payload) run.table
      (stateOf (answer host call payload transfers run)).table := by
  have hkeeps : Keeps (call.condemned payload) run.table
      (stateOf (receive host call payload transfers run)).table :=
      keeps_receive hmem hpending transfers
  cases hreceive : receive host call payload transfers run with
  | error cause middle =>
      rw [answer_of_error hreceive]
      rwa [hreceive] at hkeeps
  | ok read middle =>
      obtain ⟨request, size⟩ := read
      have hcalls : Calls Grown _ middle _ := calls_of_receive grown_create hcreates hreceive
      rw [hreceive] at hkeeps
      exact trans_of (Keeps _) hkeeps hcalls.table.keeps

/-- Whatever becomes of a packet, it takes away what it condemns at most, and leaves no queue. -/
theorem keeps_runPacket (hcreates : host.OnlyCreates) (hmem : call ∈ CallDescriptor.catalog)
    (hpending : run.table.pending = []) :
    Keeps (call.condemned payload) run.table (stateOf (runPacket host call payload run)).table ∧
      (stateOf (runPacket host call payload run)).table.pending = [] := by
  have hfresh : (started run).table.pending = [] := hpending
  have hkeeps : Keeps (call.condemned payload) run.table
      (stateOf (perform host call payload (started run))).table := by
    rw [(delivers_perform (started run)).table]
    exact keeps_answer hcreates hmem hfresh _
  rw [runPacket_table]
  exact ⟨trans_of (Keeps _) hkeeps (keeps_of_entries rfl), rfl⟩

end Execution

/-! ### Moments -/

/-- A moment of a session: its table, and the packet that it just dealt with, if it did. What holds
between moments can be told without the calls in between. -/
structure Moment where
  packet? : Option Packet := none
  table : BoxTable

namespace Moment

/-- The ids that were condemned just before. -/
def condemned (moment : Moment) : List BoxedId :=
  match moment.packet? with
  | none => []
  | some packet => packet.condemned

/-- What lived at the first moment and was not condemned lives at the second one. Along a chain of
moments this adds up to the lifetime of an object. -/
def Outlives (before after : Moment) : Prop :=
  BoxTable.Keeps after.condemned before.table after.table

end Moment

/-- What a session is given from outside. -/
inductive SessionInput where
  /-- A buffer, and the sink for the replies. -/
  | buffer (bytes : Bytes) (sink : Sink)
  /-- Whether the next buffer starts with the handles of a snapshot. -/
  | awaitHandles (flag : Bool)

namespace Session

open BoxTable Moment

variable {σ : Type}

/-- The moments of a run over packets: one behind every packet that is taken up. -/
def packetMoments (host : Collaborators σ) (offset : Nat) (rest : Bytes) (run : Run σ) :
    List Moment :=
  match _hframe : Packet.frame rest offset with
  | .error _ => []
  | .ok packet =>
    match CallDescriptor.ofOpcode? packet.opcode with
    | none => []
    | some call =>
      let result := Execution.runPacket host call packet.payload run
      { packet? := some packet, table := (stateOf result).table } ::
        match result with
        | .ok () run => packetMoments host (offset + packet.length) (rest.drop packet.length) run
        | .error _ _ => []
termination_by rest.length
decreasing_by
  have hinside := Packet.frame_length_le _hframe
  have hlt := packet.length_pos
  simp only [List.length_drop]
  omega

section Packets

variable {host : Collaborators σ} {offset : Nat} {rest : Bytes} {run : Run σ}

/-- Bytes without a packet have no moments. -/
theorem packetMoments_of_frame_error {cause : FrameError}
    (hframe : Packet.frame rest offset = .error cause) :
    packetMoments host offset rest run = [] := by
  rw [packetMoments]
  split
  · rfl
  · next hfound => cases hfound.symm.trans hframe

/-- Nor has a packet that is not known. -/
theorem packetMoments_of_unknown {packet : Packet} (hframe : Packet.frame rest offset = .ok packet)
    (hopcode : CallDescriptor.ofOpcode? packet.opcode = none) :
    packetMoments host offset rest run = [] := by
  rw [packetMoments]
  split
  · rfl
  · next hfound =>
      cases hfound.symm.trans hframe
      rw [hopcode]

/-- A packet that is known has one behind it, and those of the packets that follow if it did not end
the session. -/
theorem packetMoments_of_known {packet : Packet} (hframe : Packet.frame rest offset = .ok packet)
    {call : CallDescriptor} (hopcode : CallDescriptor.ofOpcode? packet.opcode = some call) :
    packetMoments host offset rest run
      = { packet? := some packet
          table := (stateOf (Execution.runPacket host call packet.payload run)).table } ::
        match Execution.runPacket host call packet.payload run with
        | .ok () run => packetMoments host (offset + packet.length) (rest.drop packet.length) run
        | .error _ _ => [] := by
  rw [packetMoments]
  split
  · next hfailed => cases hfailed.symm.trans hframe
  · next hfound =>
      cases hfound.symm.trans hframe
      rw [hopcode]

/-- Behind a packet that is taken up, what lived before and is not condemned lives. -/
theorem outlives_runPacket (hcreates : host.OnlyCreates) {packet : Packet} {call : CallDescriptor}
    (hopcode : CallDescriptor.ofOpcode? packet.opcode = some call)
    (hpending : run.table.pending = [])
    {first : Moment} (hentries : first.table.entries = run.table.entries) :
    let table := (stateOf (Execution.runPacket host call packet.payload run)).table
    Outlives first { packet? := some packet, table } ∧ table.pending = [] := by
  obtain ⟨hmem, -⟩ := CallDescriptor.ofOpcode?_eq_some hopcode
  obtain ⟨hkeeps, hsettled⟩ := Execution.keeps_runPacket hcreates hmem hpending
  refine ⟨?_, hsettled⟩
  simp only [Outlives, Moment.condemned, Packet.condemned, hopcode]
  exact trans_of (Keeps _) (keeps_of_entries hentries.symm) hkeeps

/-- The packets of a run leave no queue, and what lives from one moment to the next is what was not
condemned, from a moment with the objects before the run to one with the objects behind it. -/
theorem isChain_packetMoments (hcreates : host.OnlyCreates) {first last : Moment}
    (hpending : run.table.pending = []) (hentries : first.table.entries = run.table.entries)
    (hends : last.table.entries = (stateOf (runPackets host offset rest run)).table.entries) :
    List.IsChain Outlives (first :: (packetMoments host offset rest run ++ [last])) ∧
      (stateOf (runPackets host offset rest run)).table.pending = [] := by
  -- Each packet adds one moment behind the one in front, and both are compared before its successor
  -- is looked at.
  fun_induction runPackets host offset rest run generalizing first with
  | case1 offset rest run hisEmpty =>
      have hframe : Packet.frame rest offset = .error (.incomplete offset Packet.headerSize 0) := by
        rw [List.isEmpty_iff.mp hisEmpty]
        rfl
      rw [packetMoments_of_frame_error hframe]
      exact ⟨List.isChain_pair.mpr (keeps_of_entries (hends.trans hentries.symm)), hpending⟩
  | case2 offset rest run hne cause hframe =>
      rw [packetMoments_of_frame_error hframe]
      exact ⟨List.isChain_pair.mpr (keeps_of_entries (hends.trans hentries.symm)), hpending⟩
  | case3 offset rest run hne packet hframe hopcode =>
      rw [packetMoments_of_unknown hframe hopcode]
      exact ⟨List.isChain_pair.mpr (keeps_of_entries (hends.trans hentries.symm)), hpending⟩
  | case4 offset rest run hne packet hframe call hknown middle hpacket ih =>
      obtain ⟨houtlives, hsettled⟩ := outlives_runPacket hcreates hknown hpending hentries
      rw [hpacket] at houtlives hsettled
      rw [packetMoments_of_known hframe hknown, hpacket]
      obtain ⟨hisChain, hunqueuedLast⟩ :
          List.IsChain Outlives ({ packet? := some packet, table := middle.table } :: _) ∧ _ :=
        ih hsettled rfl hends
      exact ⟨List.isChain_cons_cons.mpr ⟨houtlives, hisChain⟩, hunqueuedLast⟩
  | case5 offset rest run hne packet hframe call hknown cause middle hfailed
  | case6 offset rest run hne packet hframe call hknown cause middle hfailed =>
      obtain ⟨houtlives, hsettled⟩ := outlives_runPacket hcreates hknown hpending hentries
      rw [hfailed] at houtlives hsettled
      rw [packetMoments_of_known hframe hknown, hfailed]
      exact ⟨List.isChain_cons_cons.mpr ⟨houtlives, List.isChain_pair.mpr (keeps_of_entries hends)⟩,
        hsettled⟩

end Packets

/-- The run behind the handles of a snapshot. -/
def loadedRun (run : Run σ) (ids : List BoxedId) (state : σ) : Run σ :=
  { run with state, awaitsHandles := false, table := run.table.reserve ids }

/-- The run behind the packets of a snapshot. -/
def closedRun (host : Collaborators σ) (run : Run σ) : Run σ :=
  { forgetHandles host run with table := run.table.clearReservations }

/-- The moments of a run over a buffer. -/
def bufferMoments (host : Collaborators σ) (buffer : Bytes) (run : Run σ) : List Moment :=
  if run.awaitsHandles && Packet.headerSize ≤ buffer.length then
    match host.loadHandles buffer run.state with
    | .error _ _ => []
    | .ok (consumed, ids) state =>
      let start := min consumed buffer.length
      packetMoments host start (buffer.drop start)
        (loadedRun run ids state)
  else packetMoments host 0 buffer run

/-! ### Buffers -/

section Buffers

variable {host : Collaborators σ}

/-- Behind the handles of a snapshot, packets are carried out as they are anywhere. -/
theorem runSnapshot_of_loaded {buffer : Bytes} {run : Run σ} {consumed : Nat}
    {ids : List BoxedId} {state : σ}
    (hloadHandles : host.loadHandles buffer run.state = .ok (consumed, ids) state) :
    runSnapshot host buffer run
      = mapState (closedRun host) (runPackets host (min consumed buffer.length)
          (buffer.drop (min consumed buffer.length)) (loadedRun run ids state)) := by
  rw [runSnapshot, hloadHandles]
  dsimp only
  rw [← loadedRun]
  cases runPackets host (min consumed buffer.length)
    (buffer.drop (min consumed buffer.length)) (loadedRun run ids state) <;> rfl

/-- Behind a snapshot, the ids that were not taken are given up. -/
theorem runSnapshot_table {buffer : Bytes} {run : Run σ} {consumed : Nat} {ids : List BoxedId}
    {state : σ} (hloadHandles : host.loadHandles buffer run.state = .ok (consumed, ids) state) :
    (stateOf (runSnapshot host buffer run)).table
      = (stateOf (runPackets host (min consumed buffer.length)
          (buffer.drop (min consumed buffer.length))
          (loadedRun run ids state))).table.clearReservations := by
  rw [runSnapshot_of_loaded hloadHandles]
  cases runPackets host (min consumed buffer.length) (buffer.drop (min consumed buffer.length))
    (loadedRun run ids state) <;> rfl

/-- A buffer leaves no queue, and its moments lead from the objects before it to those behind it.
The handles of a snapshot change nothing about objects. -/
theorem isChain_bufferMoments (hcreates : host.OnlyCreates) {buffer : Bytes} {run : Run σ}
    {first last : Moment} (hpending : run.table.pending = [])
    (hentries : first.table.entries = run.table.entries)
    (hends : last.table.entries = (stateOf (runBuffer host buffer run)).table.entries) :
    List.IsChain Outlives (first :: (bufferMoments host buffer run ++ [last])) ∧
      (stateOf (runBuffer host buffer run)).table.pending = [] := by
  unfold runBuffer at hends ⊢
  unfold bufferMoments
  split
  · next hloads =>
      rw [if_pos hloads] at hends
      cases hloadHandles : host.loadHandles buffer run.state with
      -- Handles that cannot be loaded leave the table alone, and no packet is carried out.
      | error cause state =>
          have hunmoved : (stateOf (runSnapshot host buffer run)).table = run.table := by
            unfold runSnapshot
            rw [hloadHandles]
            rfl
          rw [hunmoved] at hends ⊢
          exact ⟨List.isChain_pair.mpr (keeps_of_entries (hends.trans hentries.symm)), hpending⟩
      | ok handles state =>
          obtain ⟨consumed, ids⟩ := handles
          rw [runSnapshot_table hloadHandles] at hends ⊢
          have hfresh : (loadedRun run ids state).table.pending = [] := hpending
          exact isChain_packetMoments hcreates hfresh hentries hends
  · next hordinary =>
      rw [if_neg hordinary] at hends
      exact isChain_packetMoments hcreates hpending hentries hends

end Buffers

/-! ### Sessions -/

/-- The session behind an input. -/
def feed (host : Collaborators σ) (session : Session σ) : SessionInput → Session σ
  | .buffer bytes sink => (decode host session bytes sink).session
  | .awaitHandles flag => { session with awaitsHandles := flag }

/-- The moments of the packets in an input. -/
def inputMoments (host : Collaborators σ) (session : Session σ) : SessionInput → List Moment
  | .buffer bytes sink => bufferMoments host bytes { session with sink }
  | .awaitHandles _ => []

/-- The moments of a session: the one before all inputs, and those behind every packet that is taken
up and behind every input. -/
def moments (host : Collaborators σ) (session : Session σ) : List SessionInput → List Moment
  | [] => [{ table := session.table }]
  | input :: inputs =>
    { table := session.table } ::
      (inputMoments host session input ++ moments host (session.feed host input) inputs)

section Sessions

variable {host : Collaborators σ}

/-- A session starts at its own table. -/
theorem moments_eq_cons (host : Collaborators σ) (session : Session σ)
    (inputs : List SessionInput) :
    ∃ rest, moments host session inputs = { table := session.table } :: rest := by
  cases inputs with
  | nil => exact ⟨_, rfl⟩
  | cons input inputs => exact ⟨_, rfl⟩

/-- An input leaves no queue, and its moments lead from the session before it to the one behind
it. -/
theorem isChain_inputMoments (hcreates : host.OnlyCreates) {session : Session σ}
    (hpending : session.table.pending = []) (input : SessionInput) :
    List.IsChain Outlives ({ table := session.table } ::
        (inputMoments host session input ++ [{ table := (session.feed host input).table }])) ∧
      (session.feed host input).table.pending = [] := by
  cases input with
  | buffer bytes sink =>
      have hfresh : ({ session with sink } : Run σ).table.pending = [] := hpending
      rw [feed, (decode_left host session bytes sink).1]
      exact isChain_bufferMoments hcreates hfresh rfl rfl
  | awaitHandles flag => exact ⟨List.isChain_pair.mpr (refl_of (Keeps _) session.table), hpending⟩

/-- From one moment of a session to the next, what lived and was not condemned lives. -/
theorem isChain_moments (hcreates : host.OnlyCreates) {session : Session σ}
    (hpending : session.table.pending = []) (inputs : List SessionInput) :
    (moments host session inputs).IsChain Outlives := by
  induction inputs generalizing session with
  | nil => exact List.isChain_singleton _
  | cons input inputs ih =>
      obtain ⟨hisChain, hsettled⟩ := isChain_inputMoments hcreates hpending input
      have hlater := ih hsettled
      obtain ⟨rest, hmoments⟩ := moments_eq_cons host (session.feed host input) inputs
      rw [hmoments] at hlater
      rw [moments, hmoments]
      exact List.isChain_cons_split.mpr ⟨hisChain, hlater⟩

/-- An object lives until a packet condemns it. -/
theorem find?_of_isChain {history : List Moment} (hchain : history.IsChain Outlives) {i j : Nat}
    (hle : i ≤ j) {first last : Moment} (hget : history[i]? = some first)
    (hends : history[j]? = some last) {id : BoxedId} {entry : BoxedEntry}
    (hfind : first.table.find? id = some entry)
    (hspared : ∀ k moment, i < k → k ≤ j → history[k]? = some moment → id ∉ moment.condemned) :
    last.table.find? id = some entry := by
  induction j, hle using Nat.le_induction generalizing last with
  | base =>
      cases hget.symm.trans hends
      exact hfind
  | succ j hle ih =>
      obtain ⟨hinside, rfl⟩ := List.getElem?_eq_some_iff.mp hends
      have hbefore : history[j]? = some history[j] :=
        List.getElem?_eq_getElem (Nat.lt_of_succ_lt hinside)
      have hlived := ih hbefore fun k moment hlt hupTo =>
        hspared k moment hlt (Nat.le_succ_of_le hupTo)
      exact hchain.getElem j hinside (hspared _ _ (Nat.lt_succ_of_le hle) (Nat.le_refl _) hends)
        hlived

/-- An id that resolves at some moment of a session resolves to the same value at every later one,
if no packet that is taken up in between names it among the objects to destroy. What becomes of the
packets does not matter, and neither does how often a snapshot is loaded. -/
theorem resolve_of_moments (hcreates : host.OnlyCreates) {session : Session σ}
    (hpending : session.table.pending = []) (inputs : List SessionInput) {i j : Nat} (hle : i ≤ j)
    {first last : Moment} (hget : (moments host session inputs)[i]? = some first)
    (hends : (moments host session inputs)[j]? = some last) {id : BoxedId} {raw : UInt64}
    (hresolves : first.table.resolve id = .ok raw)
    (hspared : ∀ k packet table, i < k → k ≤ j →
      (moments host session inputs)[k]? = some { packet? := some packet, table } →
        id ∉ packet.condemned) :
    last.table.resolve id = .ok raw := by
  by_cases heq : id = 0
  · subst heq
    exact hresolves
  obtain ⟨entry, hfind, rfl⟩ := (resolve_eq_ok_iff heq).mp hresolves
  refine (resolve_eq_ok_iff heq).mpr ⟨entry, ?_, rfl⟩
  refine find?_of_isChain (isChain_moments hcreates hpending inputs) hle hget hends hfind ?_
  rintro k ⟨met, table⟩ hlt hupTo hreached
  cases met with
  | none => exact List.not_mem_nil
  | some packet => exact hspared k packet table hlt hupTo hreached

end Sessions

open Execution (destroyFencePacket fenceSession) in
/-- The device lives on behind the packet that destroys its fence. -/
theorem resolve_of_moments_destroyFence :
    let history := moments readyHost fenceSession [.buffer destroyFencePacket.encode .unbounded]
    readyHost.OnlyCreates ∧ fenceSession.table.pending = [] ∧
      ∃ first last, history[0]? = some first ∧ history[2]? = some last ∧
        first.table.resolve 7 = .ok 5 ∧
        (∀ k packet table, 0 < k → k ≤ 2 → history[k]? = some { packet? := some packet, table } →
          7 ∉ packet.condemned) ∧
        last.table.resolve 7 = .ok 5 := by
  intro history
  have hcreates : readyHost.OnlyCreates := fun _ _ table _ => .refl table
  have hpending : fenceSession.table.pending = [] := rfl
  obtain ⟨after, hpacket⟩ : ∃ after, Execution.runPacket readyHost .destroyFence
      destroyFencePacket.payload { fenceSession with sink := .unbounded } = .ok () after := ⟨_, rfl⟩
  have hframe : Packet.frame destroyFencePacket.encode 0 = .ok destroyFencePacket := rfl
  have hended : Packet.frame [] 32 = .error (.incomplete 32 8 0) := rfl
  have hopcode : CallDescriptor.ofOpcode? destroyFencePacket.opcode = some .destroyFence := rfl
  have hinputMoments : inputMoments readyHost fenceSession
      (.buffer destroyFencePacket.encode .unbounded)
      = [{ packet? := some destroyFencePacket, table := after.table }] := by
    change packetMoments readyHost 0 _ _ = _
    rw [packetMoments_of_known hframe hopcode, hpacket]
    exact congrArg _ (packetMoments_of_frame_error hended)
  -- There are three moments: before the input, behind its only packet, and behind the input.
  obtain ⟨table, hcons⟩ : ∃ table, history = [{ table := fenceSession.table },
      { packet? := some destroyFencePacket, table := after.table },
      { packet? := none, table }] := by
    have hunfolded : history = { table := fenceSession.table } :: (inputMoments _ _ _ ++ [_]) := rfl
    rw [hunfolded, hinputMoments]
    exact ⟨_, rfl⟩
  have hspared (k : Nat) (packet : Packet) (table : BoxTable) (hlt : 0 < k) (hupTo : k ≤ 2)
      (hget : history[k]? = some { packet? := some packet, table }) : 7 ∉ packet.condemned := by
    rw [hcons] at hget
    obtain rfl | rfl : k = 1 ∨ k = 2 := by omega
    · cases hget
      decide +kernel
    · cases hget
  have hbegins : history[0]? = some { table := fenceSession.table } := by
    rw [hcons]
    rfl
  have hends : history[2]? = some { packet? := none, table } := by
    rw [hcons]
    rfl
  exact ⟨hcreates, hpending, _, _, hbegins, hends, rfl, hspared,
    resolve_of_moments hcreates hpending _ (Nat.zero_le 2) hbegins hends rfl hspared⟩

end Session

end CallStream
