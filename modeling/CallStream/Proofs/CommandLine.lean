import CallStream.CommandLine
import CallStream.Proofs.Capture.Recovery
import CallStream.Proofs.Listing.Cut

/-!
# Listings of single streams

The command line lists each stream by itself: what it prints for one depends neither on the streams
around it nor on whether they were asked for.

A command starts with its title, whether or not it can be listed to its end. So leaving a stream at
a command that cannot be listed shows in the text unless that is the last one: going on would at
least have written another title.

## Main results

* `title_start`: the text of a command starts with its title.
* `commandTexts_prefix`: what is written without going on is the start of what is written with it.
* `streams_listed_apart`: runs for all streams and for each, with and without going on, and when
  they fail.
-/

namespace CallStream

namespace Listing

/-! ### Text is only added -/

/-- Text is added, whether or not the listing fails. -/
def Grows {α : Type} (listing : Listing α) : Prop := Within Adds (fun _ => True) listing

/-- What is continued by longer payloads only adds to the text. -/
theorem Continues.grows {α : Type} {listing : Listing α} (h : Continues listing) :
    Grows listing where
  moves := h.adds
  fails _ := trivial

/-- Writing adds to the text. -/
theorem grows_write (text : String) : Grows (write text) := (continues_write text).grows

/-- Asking for the end of the payload writes nothing. -/
theorem grows_expectEnd : Grows expectEnd where
  moves := by
    rintro ⟨cursor, sink⟩
    simp only [expectEnd]
    split <;> exact refl_of Adds (cursor, sink)
  fails _ := trivial

/-- The lines of a dump are added to the text. -/
theorem grows_writeDump (lines : List String) : Grows (writeDump lines) := by
  induction lines with
  | nil => exact within_pure ()
  | cons line rest ih => exact (grows_write _).bind fun _ => ih

/-- So is the listing of a payload, as far as it gets. -/
theorem grows_payload (call : CallDescriptor) : Grows (payload call) :=
  (continues_params call _).grows.bind fun _ => grows_expectEnd

/-- The reason of a failure is written behind what was listed before it. -/
theorem grows_payloadOrDump (command : Command) (call : CallDescriptor) :
    Grows (payloadOrDump command call) where
  moves state := by
    have hadds : Adds state (stateOf (payload call state)) := (grows_payload call).moves state
    simp only [payloadOrDump]
    cases h : payload call state with
    | ok value after =>
        rw [h] at hadds
        exact hadds
    | error cause after =>
        rw [h] at hadds
        have hexplained : Grows (do
            write s!"Error while processing {command.label}: {cause.message}\n"
            write "Command raw data:\n"
            dump command
            throw cause : Listing Unit) :=
          (grows_write _).bind fun _ => (grows_write _).bind fun _ =>
            (grows_writeDump _).bind fun _ => within_throw trivial
        exact trans_of Adds hadds (hexplained.moves after)
  fails _ := trivial

/-- What a command is listed as starts with its title. -/
theorem title_start (command : Command) (stream index : Nat) :
    ∃ more, (stateOf (Listing.command command stream index (.start command.data, {}))).2.text
      = command.title stream index ++ more := by
  have hbehind {body : Listing Unit} (hgrows : Grows body) : ∃ more,
      (stateOf (body (.start command.data, { text := "" ++ command.title stream index }))).2.text
        = command.title stream index ++ more := by
    obtain ⟨more, hadded⟩ :=
      (hgrows.moves (.start command.data, { text := "" ++ command.title stream index })).text
    rw [String.empty_append] at hadded
    exact ⟨more, hadded⟩
  unfold Listing.command
  cases command.data.isEmpty with
  | true => exact hbehind (within_pure ())
  | false =>
      cases CallDescriptor.ofOpcode? command.opcode with
      | none => exact hbehind (grows_writeDump _)
      | some call => exact hbehind (grows_payloadOrDump command call)

end Listing

namespace CommandLine

/-! ### The commands of a stream -/

/-- The command can be listed to its end, where it stands in its stream. The sink has no limit here,
so only the bytes of the command decide. -/
def Lists (stream index : Nat) (command : Command) : Prop :=
  ∃ state, Listing.command command stream index (.start command.data, {}) = .ok () state

/-- A command counts as listed exactly if its listing does not fail. -/
theorem commandText_snd_iff {stream index : Nat} {command : Command} :
    (commandText stream index command).2 = true ↔ Lists stream index command := by
  simp only [commandText, Lists]
  split <;> simp_all

/-- Something is printed for every command, if only its title. -/
theorem commandText_ne_empty (stream index : Nat) (command : Command) :
    (commandText stream index command).1 ≠ "" := by
  have htext : (commandText stream index command).1
      = (stateOf (Listing.command command stream index (.start command.data, {}))).2.text := by
    simp only [commandText]
    split <;> simp_all [stateOf]
  obtain ⟨more, htitled⟩ := Listing.title_start command stream index
  have hbroken : toString "\n" ≠ "" := by decide
  rw [htext, htitled, Command.title]
  simp [String.append_eq_empty_iff, hbroken]

/-- The rest of a stream is looked at behind a command that was listed, or if told to go on. -/
theorem commandTexts_cons (keepGoing : Bool) (stream index : Nat) (first : Command)
    (rest : List Command) :
    commandTexts keepGoing stream index (first :: rest)
      = if (commandText stream index first).2 || keepGoing then
          ((commandText stream index first).1 ++ (commandTexts keepGoing stream (index + 1) rest).1,
            (commandText stream index first).2 &&
              (commandTexts keepGoing stream (index + 1) rest).2)
        else ((commandText stream index first).1, false) := rfl

/-- What holds of all elements of a list by their places holds of the first one, and of the others
one place further. -/
theorem forall_getElem?_cons {α : Type} {property : Nat → α → Prop} {first : α} {rest : List α} :
    (∀ k value, (first :: rest)[k]? = some value → property k value)
      ↔ property 0 first ∧ ∀ k value, rest[k]? = some value → property (k + 1) value := by
  constructor
  · exact fun h => ⟨h 0 first rfl, fun k value hget => h (k + 1) value hget⟩
  · rintro ⟨hhere, hbehind⟩ (_ | k) value hget
    · cases hget
      exact hhere
    · exact hbehind k value hget

/-- Commands are listed without a failure exactly if each of them is, with and without going on. -/
theorem commandTexts_snd_iff {keepGoing : Bool} {stream index : Nat} {commands : List Command} :
    (commandTexts keepGoing stream index commands).2 = true
      ↔ ∀ k command, commands[k]? = some command → Lists stream (index + k) command := by
  induction commands generalizing index with
  | nil => simp [commandTexts]
  | cons first rest ih =>
      have hiff := @ih (index + 1)
      simp only [Nat.add_right_comm index 1] at hiff
      rw [commandTexts_cons, forall_getElem?_cons, ← commandText_snd_iff, Nat.add_zero]
      simp only [← Nat.add_assoc, ← hiff]
      cases (commandText stream index first).2 <;> cases keepGoing <;> simp

/-- Nothing is printed only where there are no commands. -/
theorem commandTexts_eq_empty_iff {keepGoing : Bool} {stream index : Nat}
    {commands : List Command} :
    (commandTexts keepGoing stream index commands).1 = "" ↔ commands = [] := by
  cases commands with
  | nil => simp [commandTexts]
  | cons first rest =>
      rw [commandTexts_cons]
      split <;> simp [String.append_eq_empty_iff, commandText_ne_empty]

/-- Without going on, a stream is listed as far as its commands can be; going on adds something
unless it is the last one that cannot be listed. -/
theorem commandTexts_prefix (stream index : Nat) (commands : List Command) :
    ∃ more, (commandTexts true stream index commands).1
        = (commandTexts false stream index commands).1 ++ more ∧
      (more = "" ↔ ∀ k command, commands[k]? = some command → k + 1 < commands.length →
        Lists stream (index + k) command) := by
  induction commands generalizing index with
  | nil => exact ⟨"", by simp [commandTexts]⟩
  | cons first rest ih =>
      rw [commandTexts_cons, commandTexts_cons, forall_getElem?_cons, ← commandText_snd_iff]
      obtain ⟨more, hadded, hnothing⟩ := ih (index + 1)
      cases hsnd : (commandText stream index first).2 with
      | true =>
          have hshifted (k : Nat) : index + 1 + k = index + (k + 1) := by omega
          refine ⟨more, ?_, ?_⟩
          · simp only [Bool.true_or, if_true, hadded, String.append_assoc]
          · simp only [hnothing, hshifted, List.length_cons, Nat.add_lt_add_iff_right, implies_true,
              true_and]
      | false =>
          refine ⟨(commandTexts true stream (index + 1) rest).1, by simp, ?_⟩
          rw [commandTexts_eq_empty_iff]
          cases rest <;> simp

/-! ### Streams -/

section Streams

variable {options : Options} {dump : Bytes} {index : Nat} {stream : CapturedStream}

/-- A stream is listed without a failure if only its summary is asked for, or if its commands
are. -/
theorem streamText_snd_iff :
    (streamText options index stream).2 = true ↔ options.summary = true ∨
      ∀ k command, stream.commands[k]? = some command → Lists index k command := by
  have hiff := @commandTexts_snd_iff options.keepGoing index 0 stream.commands
  simp only [Nat.zero_add] at hiff
  simp only [streamText, ← hiff]
  split <;> simp_all

/-- Otherwise there is a command that cannot be listed. -/
theorem streamText_snd_eq_false_iff :
    (streamText options index stream).2 = false ↔ options.summary = false ∧
      ∃ k command, stream.commands[k]? = some command ∧ ¬ Lists index k command := by
  rw [← Bool.not_eq_true, streamText_snd_iff]
  simp

/-- The line about a stream is printed in any case, and its commands behind it. -/
theorem streamText_fst (hsummary : options.summary = false) :
    (streamText options index stream).1 = streamHeader index stream
      ++ (commandTexts options.keepGoing index 0 stream.commands).1 := by
  simp [streamText, hsummary]

/-- Of numbered elements, one has the number that it is looked for by. -/
theorem filter_zipIdx {α : Type} {elements : List α} {element : α}
    (hget : elements[index]? = some element) (start : Nat) :
    (elements.zipIdx start).filter (fun (_, place) => start + index == place)
      = [(element, start + index)] := by
  induction elements generalizing index start with
  | nil => cases hget
  | cons first rest ih =>
      cases index with
      | zero =>
          cases hget
          -- All later numbers are greater.
          have hfilter :
              (rest.zipIdx (start + 1)).filter (fun (_, place) => start == place) = [] := by
            rw [List.filter_eq_nil_iff]
            rintro ⟨other, place⟩ hmem
            have hle : start + 1 ≤ place := List.le_snd_of_mem_zipIdx hmem
            simp only [beq_iff_eq]
            omega
          rw [List.zipIdx_cons, Nat.add_zero, List.filter_cons_of_pos (by simp), hfilter]
      | succ index =>
          have hshifted : start + (index + 1) = start + 1 + index := by omega
          have hne : ¬ (start + 1 + index == start) = true := by
            simp only [beq_iff_eq]
            omega
          rw [List.zipIdx_cons, hshifted, List.filter_cons_of_neg (by exact hne)]
          exact ih hget (start + 1)

/-- What is printed for the streams that were asked for, and whether each could be listed. -/
def parts (options : Options) (dump : Bytes) : List (String × Bool) :=
  ((CapturedStream.all dump).zipIdx.filter fun (_, index) => options.selects index).map
    fun (stream, index) => streamText options index stream

/-- What is printed for a dump is what is printed for its selected streams. -/
theorem mem_parts {part : String × Bool} :
    part ∈ parts options dump ↔ ∃ index stream, (CapturedStream.all dump)[index]? = some stream ∧
      options.selects index = true ∧ streamText options index stream = part := by
  simp only [parts, List.mem_map, List.mem_filter, List.mem_zipIdx_iff_getElem?, Prod.exists,
    and_assoc]
  exact exists_comm

/-- Without choosing one, all streams are selected, in the order of the dump. -/
theorem parts_of_none (hstream : options.stream = none) :
    parts options dump
      = (CapturedStream.all dump).zipIdx.map fun (stream, index) =>
        streamText options index stream := by
  simp [parts, Options.selects, hstream]

/-- If one is chosen, it alone is. -/
theorem parts_of_some (hstream : options.stream = some index)
    (hget : (CapturedStream.all dump)[index]? = some stream) :
    parts options dump = [streamText options index stream] := by
  have hselected := filter_zipIdx hget 0
  simp only [Nat.zero_add] at hselected
  simp [parts, Options.selects, hstream, hselected]

/-- Choosing a stream that the dump does not have is a failure before anything is printed. -/
theorem run_of_missing (hstream : options.stream = some index)
    (hle : (CapturedStream.all dump).length ≤ index) :
    run options (.ok dump) =
      { listing := ""
        failure := some (.noStream index options.path (CapturedStream.all dump).length) } := by
  simp only [run, list, hstream, Option.filter_some, hle, decide_true, if_true]

/-- The notice that a dump holds nothing is not printed if it does. -/
theorem run_of_present (hne : CapturedStream.all dump ≠ [])
    (hpresent : ∀ index ∈ options.stream, index < (CapturedStream.all dump).length) :
    (run options (.ok dump)).listing = String.join ((parts options dump).map (·.1)) ∧
      ((run options (.ok dump)).exitCode ≠ 0
        ↔ options.keepGoing = false ∧ ∃ part ∈ parts options dump, part.2 = false) := by
  have hchosen : options.stream.filter ((CapturedStream.all dump).length ≤ ·) = none := by
    simpa [Option.filter_eq_none_iff] using hpresent
  have hrun : run options (.ok dump) =
      { listing := "" ++ String.join ((parts options dump).map (·.1))
        failure :=
          let stopped := (parts options dump).countP fun part => !part.2
          if stopped > 0 && !options.keepGoing then some (.stopped stopped) else none } := by
    simp only [run, list, hchosen]
    rw [if_neg (by simpa using hne)]
    rfl
  have hiff : 0 < (parts options dump).countP (fun part => !part.2)
      ↔ ∃ part ∈ parts options dump, part.2 = false := by
    simp [List.countP_pos_iff]
  rw [hrun, ← hiff]
  refine ⟨String.empty_append, ?_⟩
  cases options.keepGoing <;> simp [Output.exitCode]

/-- Of a chosen stream, its text is printed. -/
theorem listing_of_some (hstream : options.stream = some index)
    (hget : (CapturedStream.all dump)[index]? = some stream) :
    (run options (.ok dump)).listing = (streamText options index stream).1 := by
  obtain ⟨hinside, -⟩ := List.getElem?_eq_some_iff.mp hget
  have hpresent : ∀ wanted ∈ options.stream, wanted < (CapturedStream.all dump).length := by
    rintro wanted hasked
    cases hstream.symm.trans hasked
    exact hinside
  rw [(run_of_present (List.ne_nil_of_length_pos (by omega)) hpresent).1,
    parts_of_some hstream hget]
  simp

end Streams

/-! ### Runs -/

/-- What is printed for all streams is what is printed for each of them, in order. -/
theorem listing_eq_join (options : Options) {dump : Bytes} (hne : CapturedStream.all dump ≠ []) :
    (run { options with stream := none } (.ok dump)).listing
      = String.join ((List.range (CapturedStream.all dump).length).map fun index =>
          (run { options with stream := some index } (.ok dump)).listing) := by
  have hlisting := (@run_of_present { options with stream := none } dump hne nofun).1
  refine hlisting.trans (congrArg String.join ?_)
  rw [parts_of_none rfl]
  apply List.ext_getElem
  · simp
  · intro index _ hinside
    rw [List.length_map, List.length_range] at hinside
    have hget : (CapturedStream.all dump)[index]? = some (CapturedStream.all dump)[index] :=
      List.getElem?_eq_getElem hinside
    have hone := @listing_of_some { options with stream := some index } dump index _ rfl hget
    simp [hone, streamText]

/-- Without going on, the start of what is printed with it is printed, up to the first command that
cannot be listed. -/
theorem listing_prefix {options : Options} {dump : Bytes} {index : Nat} {stream : CapturedStream}
    (hsummary : options.summary = false) (hget : (CapturedStream.all dump)[index]? = some stream) :
    let stopping :=
  (run { options with stream := some index, keepGoing := false } (.ok dump)).listing
    let goingOn := (run { options with stream := some index, keepGoing := true } (.ok dump)).listing
    (∃ more, goingOn = stopping ++ more) ∧
      (stopping = goingOn ↔ ∀ k command, stream.commands[k]? = some command →
        k + 1 < stream.commands.length → Lists index k command) := by
  intro stopping goingOn
  obtain ⟨more, hadded, hnothing⟩ := commandTexts_prefix index 0 stream.commands
  have hstops : stopping = _ := (listing_of_some rfl hget).trans (streamText_fst hsummary)
  have hgoes : goingOn = _ := (listing_of_some rfl hget).trans (streamText_fst hsummary)
  have hlonger : goingOn = stopping ++ more := by
    rw [hstops, hgoes, String.append_assoc]
    exact congrArg _ hadded
  refine ⟨⟨more, hlonger⟩, ?_⟩
  simp only [Nat.zero_add] at hnothing
  rw [hlonger, ← hnothing, ← String.toList_inj, String.toList_append, List.self_eq_append_right,
    String.toList_eq_nil_iff]

/-- A run fails if the stream that was asked for is missing, or if a stream was left early. -/
theorem exitCode_ne_zero_iff {options : Options} {dump : Bytes}
    (hne : CapturedStream.all dump ≠ []) :
    (run options (.ok dump)).exitCode ≠ 0 ↔
      (∃ index ∈ options.stream, (CapturedStream.all dump).length ≤ index) ∨
      options.summary = false ∧ options.keepGoing = false ∧
        ∃ index stream, (CapturedStream.all dump)[index]? = some stream ∧
          options.selects index = true ∧
          ∃ k command, stream.commands[k]? = some command ∧ ¬ Lists index k command := by
  by_cases hmissing : ∃ index ∈ options.stream, (CapturedStream.all dump).length ≤ index
  · obtain ⟨index, hmem, houtside⟩ := hmissing
    rw [run_of_missing hmem houtside]
    exact iff_of_true UInt8.zero_ne_one.symm (.inl ⟨index, hmem, houtside⟩)
  -- With the stream there, only a part that was left early makes the run fail.
  · have hpresent : ∀ index ∈ options.stream, index < (CapturedStream.all dump).length := by
      simpa using hmissing
    rw [(run_of_present hne hpresent).2, or_iff_right hmissing, and_left_comm]
    refine and_congr_right fun _ => ?_
    constructor
    · rintro ⟨part, hmem', hsnd⟩
      obtain ⟨index, stream, hget, hasked, rfl⟩ := mem_parts.mp hmem'
      obtain ⟨hsummary, hstuck⟩ := streamText_snd_eq_false_iff.mp hsnd
      exact ⟨hsummary, index, stream, hget, hasked, hstuck⟩
    · rintro ⟨hsummary, index, stream, hget, hasked, hstuck⟩
      exact ⟨_, mem_parts.mpr ⟨index, stream, hget, hasked, rfl⟩,
        streamText_snd_eq_false_iff.mpr ⟨hsummary, hstuck⟩⟩

/-- A dump with streams is listed stream by stream. What is printed without choosing one is what the
runs for each print, in order. Unless only a summary is asked for, what is printed for a stream
without going on is the start of what is printed with it, and the same exactly if all its commands
but the last can be listed. A run fails exactly if the stream asked for is missing, and then prints
nothing, or if commands are listed without going on and one of a stream asked for cannot be. -/
theorem streams_listed_apart (options : Options) {dump : Bytes}
    (hne : CapturedStream.all dump ≠ []) :
    let streams := CapturedStream.all dump
    let listing (options : Options) := (run options (.ok dump)).listing
    listing { options with stream := none }
        = String.join ((List.range streams.length).map fun index =>
            listing { options with stream := some index }) ∧
      (options.summary = false → ∀ index stream, streams[index]? = some stream →
        let stopping := listing { options with stream := some index, keepGoing := false }
        let goingOn := listing { options with stream := some index, keepGoing := true }
        (∃ more, goingOn = stopping ++ more) ∧
        (stopping = goingOn ↔ ∀ k command, stream.commands[k]? = some command →
          k + 1 < stream.commands.length → Lists index k command)) ∧
      ((run options (.ok dump)).exitCode ≠ 0 ↔
        (∃ index ∈ options.stream, streams.length ≤ index) ∨
        options.summary = false ∧ options.keepGoing = false ∧
          ∃ index stream, streams[index]? = some stream ∧ options.selects index = true ∧
            ∃ k command, stream.commands[k]? = some command ∧ ¬ Lists index k command) ∧
      ∀ index ∈ options.stream, streams.length ≤ index → listing options = "" :=
  ⟨listing_eq_join options hne, fun hsummary _ _ hget => listing_prefix hsummary hget,
    exitCode_ne_zero_iff hne,
    fun _ hmem hle => congrArg Output.listing (run_of_missing hmem hle)⟩

/-- The first of two calls lost all but a byte of its payload. -/
def cutCommands : List Command := [⟨20020, 20, [7]⟩, ⟨20020, 8, []⟩]

/-- A dump that is a capture of the two calls. -/
def cutDump : Bytes := CapturedStream.encode { version := 2 } cutCommands

/-- The dump has one stream, with nothing missing in its capture. -/
theorem all_cutDump :
    CapturedStream.all cutDump = [CapturedStream.intact 0 { version := 2 } cutCommands] := by
  have hplaces : CapturedStream.signatures cutDump = [0] := by decide
  have hparse := @CapturedStream.parse_encode { version := 2 } cutCommands (.inr rfl) (by decide)
    nofun [] []
  simp only [List.nil_append, List.append_nil] at hparse
  rw [CapturedStream.all, hplaces]
  exact congrArg ([·]) hparse

/-- The run stops in front of the second call and fails, and a second stream is not found. -/
theorem streams_listed_apart_cutDump :
    let options : Options := { path := "crash.dmp" }
    let output (options : Options) := run options (.ok cutDump)
    CapturedStream.all cutDump ≠ [] ∧
      (output options).listing = (output { options with stream := some 0 }).listing ∧
      (output { options with stream := some 0 }).listing
        ≠ (output { options with stream := some 0, keepGoing := true }).listing ∧
      (output options).exitCode ≠ 0 ∧
      (output { options with stream := some 1 }).listing = "" := by
  intro options output
  have hne : CapturedStream.all cutDump ≠ [] := by
    rw [all_cutDump]
    exact List.cons_ne_nil _ _
  have hget : (CapturedStream.all cutDump)[0]? = some (.intact 0 { version := 2 } cutCommands) := by
    rw [all_cutDump]
    rfl
  -- One byte is no handle, so the second call cannot be listed to its end.
  have hstuck : ¬ Lists 0 0 ⟨20020, 20, [7]⟩ := by
    rintro ⟨state, hcommand⟩
    obtain ⟨cause, after, hfailed⟩ : ∃ cause after,
        Listing.command ⟨20020, 20, [7]⟩ 0 0 (.start [7], {}) = .error cause after := ⟨_, _, rfl⟩
    cases hcommand.symm.trans hfailed
  obtain ⟨hjoined, hprefixes, hiff, -⟩ := streams_listed_apart options hne
  obtain ⟨-, -, -, hmissing⟩ := streams_listed_apart { options with stream := some 1 } hne
  obtain ⟨-, hsame⟩ := hprefixes rfl 0 _ hget
  refine ⟨hne, ?_, fun hlisting => ?_, ?_, ?_⟩
  · rw [all_cutDump] at hjoined
    exact hjoined.trans (by simp [options, output, String.join])
  · exact hstuck (hsame.mp hlisting 0 _ rfl (by decide))
  · exact hiff.mpr (.inr ⟨rfl, rfl, 0, _, hget, rfl, 0, _, rfl, hstuck⟩)
  · exact hmissing 1 rfl (by rw [all_cutDump]; decide)

end CommandLine

end CallStream
