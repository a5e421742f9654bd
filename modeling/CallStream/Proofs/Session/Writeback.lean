import CallStream.Proofs.Session.Outputs
import CallStream.Proofs.Session.Residue

/-!
# What a guest gets back

A call that the driver carries out is answered with its outputs and its result code. The objects
that it made were not live before, and the guest gets ids for them, which are distinct from each
other and stand for the objects behind the call. A call that fails made nothing: what the driver
left in its outputs is written as it is, and nothing enters the table.

What the driver left may be anything, as long as there is something for every parameter.

## Main results

* `draft_eq_ok`: the outputs and the result code are drafted.
* `find?_of_receive`: receiving a call that destroys nothing leaves the objects alone.
* `runPacket_writes_back`: what a packet is answered with, and what enters the table.
-/

namespace CallStream

open BoxTable

/-! ### Calls that create objects -/

namespace CallDescriptor

variable {call : CallDescriptor}

/-- Among the calls that the driver carries out plainly, objects are created in outputs only, only
by calls that tell whether they succeeded, and only by calls that destroy none. -/
theorem creates_of_generic : ∀ call ∈ catalog, call.route = .generic → ∀ param ∈ call.params,
    param.createsNonDispatchable = true →
      param.isOutput = true ∧ call.result ≠ none ∧
        ∀ other ∈ call.params, other.destroys = false := by
  decide +kernel

/-- An output stands among the parameters at its place. -/
theorem getElem?_of_mem_outputs {output : ParamSpec × Nat} (hmem : output ∈ call.outputs) :
    call.params[output.2]? = some output.1 :=
  List.mem_zipIdx_iff_getElem?.mp (List.mem_filter.mp hmem).1

/-- A parameter that is an output is among them with its place. -/
theorem mem_outputs {param : ParamSpec} {place : Nat} (hget : call.params[place]? = some param)
    (hisOutput : param.isOutput = true) : (param, place) ∈ call.outputs :=
  List.mem_filter.mpr ⟨List.mem_zipIdx_iff_getElem?.mpr hget, hisOutput⟩

/-- No output is in the place of an input. -/
theorem ne_of_mem_outputs {param : ParamSpec} {place : Nat}
    (hget : call.params[place]? = some param) (hisOutput : param.isOutput = false) :
    ∀ output ∈ call.outputs, output.2 ≠ place := by
  rintro output hmem rfl
  cases (getElem?_of_mem_outputs hmem).symm.trans hget
  exact Bool.false_ne_true (hisOutput.symm.trans (List.mem_filter.mp hmem).2)

/-- Outputs are in the order of the parameters. -/
theorem pairwise_outputs (call : CallDescriptor) : call.outputs.Pairwise (·.2 < ·.2) := by
  refine List.Pairwise.filter _ (List.pairwise_map.mp ?_)
  rw [List.zipIdx_map_snd]
  exact List.pairwise_lt_range'

/-- Whether a call succeeded: it returns nothing, or it returned the code for success. -/
def Succeeds (call : CallDescriptor) (result : Option Value) : Prop :=
  call.result = none ∨ result.bind resultCode? = some 0

/-- The bytes of a result code: its low bytes, in the layout of the call's results. -/
def EncodesResult (call : CallDescriptor) (result : Option Value) (bytes : Bytes) : Prop :=
  match call.result with
  | none => bytes = []
  | some type => ∃ code, result.bind resultCode? = some code ∧ bytes = type.encode code.toUInt64

end CallDescriptor

namespace Execution

variable {σ : Type} {host : Collaborators σ} {call : CallDescriptor} {payload : Bytes}
  {run after : Run σ}

/-! ### The driver -/

/-- A call as the driver gets it. -/
def toDriver (call : CallDescriptor) (request : Request) : DriverCall :=
  { call
    dispatch := request.dispatch.map (·.raw)
    lockHeld := call.needsLock
    args := withDispatch (request.dispatch.map (·.raw)) request.args }

/-- The driver changes nothing but its own state. -/
theorem drive_of_dispatch (hroute : call.route ≠ .globalState) {request : Request}
    {outcome : CallOutcome} (h : dispatch host call request run = .ok outcome after) :
    ∃ state, host.drive (toDriver call request) run.state = .ok outcome state ∧
      after = { run with state, events := run.events ++ [.drove (toDriver call request)] } := by
  unfold dispatch at h
  rw [if_neg hroute] at h
  change callDriver host (toDriver call request) run = _ at h
  rw [callDriver_eq] at h
  split at h
  · next state hdrive =>
      cases h
      exact ⟨state, hdrive, rfl⟩
  · cases h

/-! ### The draft -/

/-- The result code of a call goes behind its outputs. -/
theorem writeResult_eq_ok {result : Option Value}
    (h : writeResult call result run = .ok () after) :
    ∃ bytes, call.EncodesResult result bytes ∧
      after = { run with writer := run.writer.append bytes } := by
  unfold writeResult at h
  unfold CallDescriptor.EncodesResult
  cases hdeclared : call.result with
  | none =>
      rw [hdeclared] at h
      cases h
      exact ⟨[], rfl, by rw [Writer.append, List.append_nil]⟩
  | some type =>
      rw [hdeclared] at h
      cases result with
      | none => cases h
      | some value =>
          dsimp only at h
          -- Only a value that counts as a result code can be written.
          cases hcode : resultCode? value with
          | none =>
              rw [hcode] at h
              cases h
          | some code =>
              rw [hcode] at h
              obtain ⟨-, rfl⟩ := emit_eq_ok_iff.mp h
              exact ⟨_, ⟨code, hcode, rfl⟩, rfl⟩

/-- Only scratch memory was used, and the draft went on. -/
structure Appends (before after : Run σ) : Prop where
  rest : after = { before with scratch := after.scratch, writer := after.writer }
  writer : ∃ bytes, after.writer = before.writer.append bytes

/-- What is appended in two steps is appended. -/
instance : IsPreorder (Run σ) Appends where
  refl run := ⟨rfl, [], by rw [Writer.append, List.append_nil]⟩
  trans first second third h h' := by
    obtain ⟨hrest, front, happended⟩ := h
    obtain ⟨hrest', back, happended'⟩ := h'
    refine ⟨?_, front ++ back, ?_⟩
    · rw [hrest] at hrest'
      exact hrest'
    · rw [happended', happended]
      simp only [Writer.append, List.append_assoc]

/-- Bytes go behind the draft. -/
theorem appends_emit (name : String) (bytes : Bytes) :
    Within Appends (fun _ => True) (emit (σ := σ) name bytes) := by
  refine within_get_bind fun run => ?_
  split
  · exact within_modify fun _ => ⟨rfl, bytes, rfl⟩
  · exact within_throw trivial

/-- Staging bytes leaves the draft alone. -/
theorem appends_stage (name : String) (content : Bytes) :
    Within Appends (fun _ => True) (stage (σ := σ) name content) := by
  refine within_get_bind fun run => ?_
  split
  · exact within_throw trivial
  · next staged scratch _ =>
      have hmodify : Within Appends (fun _ => True)
          (modify fun run => { run with scratch } : Execution σ Unit) :=
        within_modify fun run => ⟨rfl, [], by rw [Writer.append, List.append_nil]⟩
      exact hmodify.bind fun _ => within_pure _

/-- An invalidated range adds its bytes to the reply, by way of scratch memory. -/
theorem appends_invalidateRange (name : String) (range : MappedRange) :
    Within Appends (fun _ => True) (invalidateRange host name range) := by
  unfold invalidateRange
  refine within_get_bind fun run => ?_
  dsimp only
  cases host.mapped? range.memory run.state with
  | none => exact appends_emit _ _
  | some mapping =>
      refine ((within_hostPart name _ _ _).mono id fun _ => trivial).bind fun (start, length) => ?_
      refine (appends_stage name _).bind fun staged => ?_
      exact (appends_emit _ _).bind fun _ => appends_emit _ _

/-- The bytes of invalidated ranges go behind the draft. -/
theorem appends_invalidateRanges (name : String) (ranges : List MappedRange) :
    Within Appends (fun _ => True) (invalidateRanges host name ranges) := by
  induction ranges with
  | nil => exact within_pure ()
  | cons range rest ih => exact (appends_invalidateRange name range).bind fun _ => ih

/-- The outputs and the result code are drafted, if there is something for every parameter. Only
where ranges are invalidated, more follows. -/
theorem draft_eq_ok_of_arity
    (hinert : ∀ call param value, host.fromHost call param value = pure value) {transfers : Bool}
    {outcome answered : CallOutcome} (harity : outcome.args.length = call.params.length)
    (h : draft host call transfers outcome run = .ok answered after) :
    ∃ written parts code table,
      WritesOutputs (call.route != .globalState && isSuccess outcome.result) call.outputs
        outcome.args
        written parts run.table table ∧
      call.EncodesResult outcome.result code ∧ answered = { outcome with args := written } ∧
      Appends { run with table, writer := run.writer.append (parts.flatten ++ code) } after ∧
      (call.route ≠ .invalidateMappedRanges →
        after = { run with table, writer := run.writer.append (parts.flatten ++ code) }) := by
  unfold draft at h
  obtain ⟨written, middle, hwrote, h⟩ := bind_eq_ok_iff.mp h
  obtain ⟨_, last, hwriteResult, h⟩ := bind_eq_ok_iff.mp h
  have hinside (output : ParamSpec × Nat) (hmem : output ∈ call.outputs) :
      output.2 < outcome.args.length := by
    obtain ⟨hplace, -⟩ := List.getElem?_eq_some_iff.mp (CallDescriptor.getElem?_of_mem_outputs hmem)
    rwa [harity]
  obtain ⟨parts, table, hwrites, rfl⟩ :=
    writeOutputs_eq_ok hinert call.pairwise_outputs hinside hwrote
  obtain ⟨code, hencodes, rfl⟩ := writeResult_eq_ok hwriteResult
  have hdrafted : { run with
        table
        writer := (run.writer.append parts.flatten).append code }
      = { run with table, writer := run.writer.append (parts.flatten ++ code) } := by
    simp only [Writer.append, List.append_assoc]
  rw [hdrafted] at h
  dsimp only at h
  split at h
  · next hinvalidates =>
      obtain ⟨ranges, _, hrangesOf, h⟩ := bind_eq_ok_iff.mp h
      obtain ⟨_, _, happended, h⟩ := bind_eq_ok_iff.mp h
      obtain ⟨rfl, rfl⟩ := pure_eq_ok_iff.mp h
      have hwithin : Within Appends (fun _ => True) (rangesOf (σ := σ) written) :=
        within_rangesOf written
      refine ⟨written, parts, code, table, hwrites, hencodes, rfl, ?_, fun hroute => ?_⟩
      · exact trans_of Appends (hwithin.of_ok hrangesOf)
          ((appends_invalidateRanges call.name ranges).of_ok happended)
      · simp [hroute] at hinvalidates
  · obtain ⟨rfl, rfl⟩ := pure_eq_ok_iff.mp h
    exact ⟨written, parts, code, table, hwrites, hencodes, rfl, refl_of Appends _, fun _ => rfl⟩

/-- A plain call is answered with nothing else, and its objects get ids if it succeeded. -/
theorem draft_eq_ok (hroute : call.route = .generic)
    (hinert : ∀ call param value, host.fromHost call param value = pure value) {transfers : Bool}
    {outcome answered : CallOutcome} (harity : outcome.args.length = call.params.length)
    (h : draft host call transfers outcome run = .ok answered after) :
    ∃ written parts code table,
      WritesOutputs (isSuccess outcome.result) call.outputs outcome.args written parts
        run.table table ∧
      call.EncodesResult outcome.result code ∧ answered = { outcome with args := written } ∧
      after = { run with table, writer := run.writer.append (parts.flatten ++ code) } := by
  obtain ⟨written, parts, code, table, hwrites, hencodes, hanswers, -, hplain⟩ :=
    draft_eq_ok_of_arity hinert harity h
  have hboxes : (call.route != .globalState) = true := by rw [hroute]; rfl
  rw [hboxes, Bool.true_and] at hwrites
  exact ⟨written, parts, code, table, hwrites, hencodes, hanswers, hplain (by simp [hroute])⟩

/-! ### What becomes of a call -/

/-- What becomes of a call that the driver carried out: it was called with the table `before` and
left `outcome`. In the end the parameters are `written`, the table is `after`, and the guest gets
`reply`. -/
structure WritesBack (call : CallDescriptor) (outcome : CallOutcome) (before after : BoxTable)
    (written : Record) (reply : Bytes) : Prop where
  /-- The reply is made of the outputs in order, and of the result code behind them. -/
  reply : ∃ parts code, List.Forall₂ (EncodesOutput outcome.args written) call.outputs parts ∧
    call.EncodesResult outcome.result code ∧ reply = parts.flatten ++ code
  /-- If the call succeeded, the objects that it created get ids, and nothing else changes. -/
  boxed : call.Succeeds outcome.result →
    ∀ (place : Nat) (param : ParamSpec), call.params[place]? = some param →
      ∃ name raw value, outcome.args[place]? = some (name, raw) ∧
        written[place]? = some (name, value) ∧ param.WrittenAs true before after raw value
  /-- These are all that enters the table then. -/
  enters : call.Succeeds outcome.result → Enters before after (newIds true call.outputs written)
  /-- If the call failed, what the driver left is written, and nothing enters the table. -/
  verbatim : ¬ call.Succeeds outcome.result →
    written = outcome.args ∧ after.entries = before.entries
  /-- Either way, what was live is live, as the same object. -/
  kept : ∀ id entry, before.find? id = some entry → after.find? id = some entry

/-- If the call succeeded, its outputs get ids whether or not its result code is looked at: what
creates objects tells a result code. -/
theorem isBoxed_of_succeeds (hmem : call ∈ CallDescriptor.catalog) (hroute : call.route = .generic)
    {result : Option Value} (hsucceeds : call.Succeeds result) {param : ParamSpec}
    (hinside : param ∈ call.params) : param.isBoxed true = param.isBoxed (isSuccess result) := by
  unfold ParamSpec.isBoxed
  cases hcreates : param.createsNonDispatchable with
  | false => rw [Bool.and_false, Bool.and_false]
  | true =>
      obtain ⟨-, htells, -⟩ :=
        CallDescriptor.creates_of_generic call hmem hroute param hinside hcreates
      have hcode := hsucceeds.resolve_left htells
      cases result with
      | none => cases hcode
      | some value =>
          have hsuccess : isSuccess (some value) = true := beq_iff_eq.mpr hcode
          rw [hsuccess]

/-- If it failed, its result code says so, because it has one. -/
theorem isSuccess_of_not_succeeds {result : Option Value} {bytes : Bytes}
    (hnotSucceeds : ¬ call.Succeeds result) (hencodes : call.EncodesResult result bytes) :
    isSuccess result = false := by
  unfold CallDescriptor.EncodesResult at hencodes
  cases hdeclared : call.result with
  | none => exact absurd (Or.inl hdeclared) hnotSucceeds
  | some type =>
      rw [hdeclared] at hencodes
      obtain ⟨code, hbind, -⟩ := hencodes
      cases result with
      | none => cases hbind
      | some value => exact beq_eq_false_iff_ne.mpr fun hsuccess => hnotSucceeds (Or.inr hsuccess)

/-- What becomes of the outputs becomes of the call. -/
theorem WritesOutputs.writesBack (hmem : call ∈ CallDescriptor.catalog)
    (hroute : call.route = .generic) {outcome : CallOutcome}
    (harity : outcome.args.length = call.params.length) {written : Record} {parts : List Bytes}
    {code : Bytes} {before table after : BoxTable}
    (hwrites : WritesOutputs (isSuccess outcome.result) call.outputs outcome.args written parts
      before table)
    (hencodes : call.EncodesResult outcome.result code) (hentries : after.entries = table.entries) :
    WritesBack call outcome before after written (parts.flatten ++ code) := by
  have henters : Enters table after [] := enters_nil hentries
  -- Whether an output gets ids depends on the result code that is told. If the call succeeded, this
  -- comes to the same as always giving them.
  have hagree (hsucceeds : call.Succeeds outcome.result) :
      WritesOutputs true call.outputs outcome.args written parts before table :=
    hwrites.congr fun output hmem_outputs => isBoxed_of_succeeds hmem hroute hsucceeds
      (List.mem_of_getElem? (CallDescriptor.getElem?_of_mem_outputs hmem_outputs))
  constructor
  case reply => exact ⟨parts, code, hwrites.encoded, hencodes, rfl⟩
  case boxed =>
    intro hsucceeds place param hfound
    cases hisOutput : param.isOutput with
    | true =>
        obtain ⟨name, raw, value, hget, hthere, hwrittenAs⟩ :=
          (hagree hsucceeds).becomes (param, place) (CallDescriptor.mem_outputs hfound hisOutput)
        exact ⟨name, raw, value, hget, hthere, hwrittenAs.widen (.refl before) henters⟩
    | false =>
        obtain ⟨hinside, -⟩ := List.getElem?_eq_some_iff.mp hfound
        obtain ⟨⟨name, raw⟩, hget⟩ : ∃ entry, outcome.args[place]? = some entry :=
          ⟨_, List.getElem?_eq_getElem (harity ▸ hinside)⟩
        have hkept := hwrites.others place (CallDescriptor.ne_of_mem_outputs hfound hisOutput)
        -- No call creates objects in an input, so there is nothing that should have got an id.
        have hplain : param.isBoxed true = false := by
          refine Bool.eq_false_iff.mpr fun hcreates => ?_
          obtain ⟨hwritten, -⟩ := CallDescriptor.creates_of_generic call hmem hroute param
            (List.mem_of_getElem? hfound) hcreates
          exact Bool.false_ne_true (hisOutput.symm.trans hwritten)
        refine ⟨name, raw, raw, hget, hkept.trans hget, ?_⟩
        rw [ParamSpec.WrittenAs, hplain]
        rfl
  case enters =>
    intro hsucceeds
    have hentered := (hagree hsucceeds).enters.trans henters
    rwa [List.append_nil] at hentered
  case verbatim =>
    intro hnotSucceeds
    -- If it failed, no output gets ids.
    have hplain (output : ParamSpec × Nat) (_ : output ∈ call.outputs) :
        output.1.isBoxed (isSuccess outcome.result) = false := by
      rw [isSuccess_of_not_succeeds hnotSucceeds hencodes]
      rfl
    exact ⟨hwrites.eq_of_plain hplain,
      hentries.trans (congrArg BoxTable.entries (hwrites.untouched hplain))⟩
  case kept =>
    intro id entry hfound
    exact henters.find?_eq_some (hwrites.enters.find?_eq_some hfound)

/-! ### Packets -/

/-- Parameters that destroy nothing name nothing to destroy. -/
theorem destroyedHandles_of_spares {params : List ParamSpec}
    (hspares : ∀ param ∈ params, param.destroys = false) (sent : Record) :
    destroyedHandles params sent = [] := by
  induction params generalizing sent with
  | nil => rfl
  | cons param params ih =>
      obtain ⟨hdestroys, hothers⟩ := List.forall_mem_cons.mp hspares
      cases sent with
      | nil => rfl
      | cons entry rest =>
          rw [destroyedHandles, hdestroys, ih hothers]
          rfl

/-- Receiving a call that destroys nothing leaves the objects alone that were not queued before. -/
theorem find?_of_receive (hmem : call ∈ CallDescriptor.catalog)
    (hspares : ∀ param ∈ call.params, param.destroys = false) {transfers : Bool}
    {received : Request × Nat} (h : receive host call payload transfers run = .ok received after)
    {id : BoxedId} (hnotMem : id ∉ run.table.pending) :
    after.table.find? id = run.table.find? id := by
  obtain ⟨read, middle, hreadCall, hcommitDestroys⟩ := commitDestroys_of_receive h
  have hcondemned : call.condemned payload = [] := by
    unfold CallDescriptor.condemned
    split
    · exact destroyedHandles_of_spares hspares _
    · rfl
  rw [(condemned_of_readCall hmem hreadCall).1, hcondemned, enqueue_nil] at hcommitDestroys
  have hfind := find?_destroyAll_of_not_mem hnotMem { run.table with pending := [] }
  have hdestroyAll :
      destroyAll run.table.pending { run.table with pending := [] } = .ok () after.table :=
    hcommitDestroys
  rw [hdestroyAll] at hfind
  exact hfind

/-- New ids stand in outputs that create objects. -/
theorem exists_of_mem_newIds {box : Bool} {outputs : List (ParamSpec × Nat)} {written : Record}
    {id : BoxedId} (hmem : id ∈ newIds box outputs written) :
    ∃ output ∈ outputs, output.1.createsNonDispatchable = true := by
  obtain ⟨⟨param, place⟩, hinside, hmem⟩ := List.mem_flatMap.mp hmem
  refine ⟨(param, place), hinside, ?_⟩
  dsimp only at hmem
  cases hget : written[place]? with
  | none =>
      rw [hget] at hmem
      exact absurd hmem List.not_mem_nil
  | some entry =>
      rw [hget, Option.elim_some, ParamSpec.newIds] at hmem
      split at hmem
      · next hboxed => exact (Bool.and_eq_true_iff.mp hboxed).2
      · exact absurd hmem List.not_mem_nil

/-- A packet of a call that the driver carries out plainly is answered with the outputs and the
result code, if the driver left something for every parameter. The objects that the call created get
ids that were not live before, neither when the driver was called nor in front of the packet, but
for ids whose destruction was pending then. -/
theorem runPacket_writes_back {opcode : UInt32}
    (hopcode : CallDescriptor.ofOpcode? opcode = some call) (hroute : call.route = .generic)
    (hinert : ∀ call param value, host.fromHost call param value = pure value)
    (hunwritten : run.writer.bytes = []) (h : runPacket host call payload run = .ok () after) :
    ∃ request size received outcome state,
      receive host call payload (!host.sharesMemory run.state) (started run)
        = .ok (request, size) received ∧
      host.drive (toDriver call (adapted host call request received))
        (prepared host call request received).state = .ok outcome state ∧
      (outcome.args.length = call.params.length → ∃ written reply,
        after.sink.received = run.sink.received ++ reply ∧
        WritesBack call outcome received.table after.table written reply ∧
        (∀ id ∈ newIds true call.outputs written, call.Succeeds outcome.result →
          run.table.find? id = none ∨ id ∈ run.table.pending) ∧
        (offersFor host call payload run = true → ∃ destroyed, after.events.getLast? =
          some (.recorded
          (.ofCall call (payload.take size) request.dispatch destroyed
            { outcome with args := written })))) := by
  obtain ⟨hmem, -⟩ := CallDescriptor.ofOpcode?_eq_some hopcode
  have hsent : after.sink.received = run.sink.received ++ writeback host call payload run := by
    rw [(runPacket_replies h).2]
    simp [Sink.taking]
  obtain ⟨request, size, received, answered, drafted, finished, hreceive, hanswer, hfinish, rfl⟩ :=
    answer_of_runPacket h
  rw [writeback, hanswer] at hsent
  -- The packet is taken apart into its stages: received, dispatched, drafted, finished.
  obtain ⟨reached, _, hexecuted, hpure⟩ :=
    bind_eq_ok_iff.mp ((bind_of_ok hreceive).symm.trans hanswer)
  obtain ⟨rfl, rfl⟩ := pure_eq_ok_iff.mp hpure
  rw [execute_eq] at hexecuted
  obtain ⟨outcome, driven, hdispatch, hdrafts⟩ := bind_eq_ok_iff.mp hexecuted
  obtain ⟨state, hdrive, rfl⟩ := drive_of_dispatch (by simp [hroute]) hdispatch
  refine ⟨request, size, received, outcome, state, hreceive, hdrive, fun harity => ?_⟩
  obtain ⟨written, parts, code, table, hwrites, hencodes, rfl, rfl⟩ :=
    draft_eq_ok hroute hinert harity hdrafts
  have hblank : received.writer.bytes = [] := by
    rw [((collects_receive _).of_ok hreceive).rest]
    exact hunwritten
  -- Cleaning up behind the packet touches the lists of destroyed ids, not the entries.
  have htable : finished.table = table := ((within_finish host call payload _).of_ok hfinish).table
  have hentries : (settle finished).table.entries = table.entries := by
    rw [← htable]
    rfl
  have hwritesBack := hwrites.writesBack hmem hroute harity hencodes hentries
  refine ⟨written, parts.flatten ++ code, ?_, hwritesBack, fun id hnew hsucceeds => ?_,
    fun hoffers => ?_⟩
  · refine hsent.trans ?_
    show run.sink.received ++ (received.writer.bytes ++ (parts.flatten ++ code)) = _
    rw [hblank, List.nil_append]
  · obtain ⟨output, hinside, hcreates⟩ := exists_of_mem_newIds hnew
    -- A call that creates objects destroys none, so what is fresh when the driver has been called
    -- was fresh in front of the packet.
    obtain ⟨-, -, hspares⟩ := CallDescriptor.creates_of_generic call hmem hroute output.1
      (List.mem_of_getElem? (CallDescriptor.getElem?_of_mem_outputs hinside)) hcreates
    refine or_iff_not_imp_right.mpr fun hnotMem => ?_
    exact (find?_of_receive hmem hspares hreceive hnotMem).symm.trans
      ((hwritesBack.enters hsucceeds).fresh id hnew)
  · exact ⟨_, recorded_of_finish hfinish ((offersFor_of_answer hanswer).symm.trans hoffers)⟩

/-- A driver whose fences are all 6. -/
def fenceHost : Collaborators Unit :=
  { Collaborators.ofDriver fun request =>
      pure { args := request.args.set 3 ("pFence", .handle 6), result := some (.sint 0) } with
    offersRecorder := pure true }

/-- A run that knows device 5 as 7, and has reserved 7 and 11. -/
def reservedRun : Run Unit where
  state := ()
  table := { entries := [⟨7, 5, .device⟩], reserved := [7, 11] }
  sink := .unbounded

/-- The guest creates a fence of device 7. -/
def createFencePayload : Bytes :=
  [7, 0, 0, 0, 0, 0, 0, 0] ++ [8, 0, 0, 0] ++ [0, 0, 0, 0] ++ [0, 0, 0, 0]
    ++ [0, 0, 0, 0, 0, 0, 0, 0] ++ [0, 0, 0, 0, 0, 0, 0, 0]

/-- The guest gets an id for the fence, and the code for success. -/
theorem runPacket_writes_back_fence : ∃ after id,
    CallDescriptor.ofOpcode? 20035 = some .createFence ∧
    CallDescriptor.createFence.route = .generic ∧ reservedRun.writer.bytes = [] ∧
    runPacket fenceHost .createFence createFencePayload reservedRun = .ok () after ∧
    reservedRun.table.find? id = none ∧ after.table.find? id = some ⟨id, 6, .fence⟩ ∧
    after.sink.received = IntType.u64.encode id ++ [0, 0, 0, 0] := by
  have hopcode : CallDescriptor.ofOpcode? 20035 = some .createFence := rfl
  have hcompletes :
      isOk (runPacket fenceHost .createFence createFencePayload reservedRun) = true := by
    decide +kernel
  obtain ⟨_, after, hpacket⟩ := exists_of_isOk hcompletes
  obtain ⟨request, size, received, outcome, state, hreceive, hdrive, hleft⟩ :=
    runPacket_writes_back hopcode rfl (fun _ _ _ => rfl) rfl hpacket
  cases hreceive
  cases hdrive
  obtain ⟨written, reply, hsent, hwritesBack, -, -⟩ := hleft rfl
  have hsuccess : CallDescriptor.createFence.Succeeds (some (.sint 0)) := Or.inr rfl
  -- The fence is the fourth parameter and the only output.
  obtain ⟨name, raw, value, hraw, hvalue, type, hhandleType, hblank, hhandles⟩ :=
    hwritesBack.boxed hsuccess 3 _ rfl
  cases hraw
  cases hhandleType
  cases value with
  | handle id =>
      cases hhandles with
      | cons hstandsFor _ =>
          obtain ⟨-, hfind, hlive⟩ := hstandsFor
          obtain ⟨parts, _, hencoded, ⟨_, hbind, rfl⟩, rfl⟩ := hwritesBack.reply
          cases hbind
          have houtputs : CallDescriptor.createFence.outputs = [(.created "pFence" .fence, 3)] :=
            rfl
          rw [houtputs] at hencoded
          obtain _ | ⟨⟨_, _, hget, hpart⟩, _ | _⟩ := hencoded
          cases hvalue.symm.trans hget
          cases hpart
          exact ⟨after, id, hopcode, rfl, rfl, hpacket, hfind, hlive, hsent⟩
  | _ => cases hblank

end Execution

end CallStream
