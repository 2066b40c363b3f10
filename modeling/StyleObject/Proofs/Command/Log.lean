import StyleObject.Proofs.Command.Arguments
import StyleObject.Proofs.Command.Run
import StyleObject.Proofs.Sheet.Trace

/-!
# The log of a run

The events of a run do not depend on how many of them are logged. Each event that is logged adds one
line to the end of the log, and what comes behind the log in a run leaves it alone unless the object
is delivered to the same place. So a run that logs all events adds lines to the log of a run that
logs the events for debugging, and takes none away.
-/
namespace StyleObject.Command

variable {σ P : Type} {host : Host (StateM σ)} {v : View σ P} {a : Arguments} {s s' : σ}
  {path : Text} {p : P}

namespace Arguments

/-- All that happens in a run, which is nothing if there is no style sheet to be read. -/
def records (a : Arguments) (host : Host (StateM σ)) (s : σ) : List Event :=
  match FileFault.textOf (a.source host s).1 with
  | .ok css => a.events css
  | .error _ => []

/-- The lines that all events of a run have in the log. -/
def recordLines (a : Arguments) (host : Host (StateM σ)) (s : σ) : List Text :=
  (a.records host s).map Event.record

/-- The lines that a run writes to the log. -/
def loggedLines (a : Arguments) (host : Host (StateM σ)) (s : σ) : List Text :=
  if a.verbose then a.recordLines host s
  else (a.recordLines host s).filter ("[DEBUG]".toList.isPrefixOf ·)

/-- The places that the object may be delivered to. -/
def outputPlaces (a : Arguments) (v : View σ P) (s : σ) : Set P :=
  {p | ∃ path, a.output = some path ∧ v.place? s path = some p}

/-! ### The events -/

theorem exists_echoed_of_mem {css : Text} {e : Event}
    (h : e ∈ if a.fail then [] else Sheet.echoEvents a.options css) : ∃ fault, e = .echoed fault := by
  split at h
  · cases h
  · exact Sheet.exists_of_mem_echoEvents h

theorem lineFeed_notMem_message {css : Text} {e : Event} (h : e ∈ a.events css) :
    '\n' ∉ e.message := by
  rcases List.mem_append.1 h with h | h
  · rcases List.mem_cons.1 h with rfl | h
    · exact Event.lineFeed_notMem_message nofun
    · exact Sheet.lineFeed_notMem_message_of_mem_trace h
  · obtain ⟨fault, rfl⟩ := exists_echoed_of_mem h
    exact Event.lineFeed_notMem_message nofun

theorem tells_events (a : Arguments) (css : Text) :
    Block.Tells (Sheet.flatten css) (a.events css) := by
  have ht : Block.Tells (Sheet.flatten css) (.opened (Text.byteLength css) ::
      Sheet.trace a.options css) := (Sheet.tells_trace a.options css).cons rfl
  refine ht.append fun e h => ?_
  obtain ⟨fault, rfl⟩ := exists_echoed_of_mem h
  rfl

theorem lineFeed_notMem_of_mem_records {e : Event} (h : e ∈ a.records host s) :
    '\n' ∉ e.message := by
  unfold records at h
  split at h
  · exact lineFeed_notMem_message h
  · cases h

theorem traced_records (a : Arguments) (host : Host (StateM σ)) (s : σ) :
    Block.Traced .start (a.records host s) := by
  unfold records
  split
  · exact (tells_events a _).traced
  · exact .nil _

theorem follows_records {css : Text} (h : FileFault.textOf (a.source host s).1 = .ok css) :
    Block.Follows (Sheet.flatten css) (a.records host s) := by
  unfold records
  rw [h]
  exact (tells_events a css).follows

theorem lineFeed_notMem_of_mem_loggedLines {l : Text} (h : l ∈ a.loggedLines host s) :
    '\n' ∉ l := by
  have hm : l ∈ a.recordLines host s := by
    unfold loggedLines at h
    split at h
    · exact h
    · exact List.mem_of_mem_filter h
  obtain ⟨e, he, rfl⟩ := List.mem_map.1 hm
  exact Event.lineFeed_notMem_record (lineFeed_notMem_of_mem_records he)

/-- The lines are those of the events that the arguments ask for. -/
theorem loggedLines_eq (a : Arguments) (host : Host (StateM σ)) (s : σ) :
    a.loggedLines host s = ((a.records host s).filter a.logs).map Event.record := by
  unfold loggedLines recordLines
  cases hv : a.verbose with
  | true =>
    have hl : a.logs = fun _ => true := by
      funext e
      rw [logs, hv, Bool.true_or]
    rw [if_pos rfl, hl, List.filter_true]
  | false =>
    have hl : a.logs = ("[DEBUG]".toList.isPrefixOf ·) ∘ Event.record := by
      funext e
      rw [logs, hv, Bool.false_or]
      exact e.isPrefixOf_record.symm
    rw [if_neg Bool.false_ne_true, hl, List.filter_map]

end Arguments

/-! ### The content of the log -/

/-- The state of a run behind its log, when it has still to deliver its object. -/
def logged (host : Host (StateM σ)) (a : Arguments) (s : σ) : σ :=
  (log host a (((a.records host s).filter a.logs).map Event.line) (a.source host s).2).2

/-- The lines of the log are written one behind the other. -/
theorem log_bytes (law : host.Lawful v) (hl : a.logFile = some path)
    (ho : host.Openable v path p s) (lines : List Text) :
    v.bytes (log host a lines s).2 p = v.bytes s p ++ Text.encode lines.flatten := by
  induction lines generalizing s with
  | nil =>
    simp only [log, hl]
    exact (ByteArray.append_empty).symm
  | cons line rest ih =>
    have e : log host a (line :: rest) s =
        log host a rest (host.append path (Text.encode line) s).2 := by
      simp only [log, hl]
      rfl
    obtain ⟨hb, hk⟩ := ho.append_bytes law (Text.encode line)
    rw [e, ih (ho.of_kept hk), hb, ByteArray.append_assoc, ← Text.encode_append]
    rfl

/-- What a run writes to the log does not depend on how its object is delivered. -/
theorem logged_bytes (law : host.Lawful v) (hl : a.logFile = some path)
    (ho : host.Openable v path p s) :
    v.bytes (logged host a s) p =
      v.bytes s p ++ Text.encode ((a.loggedLines host s).flatMap (· ++ ['\n'])) := by
  have hs := source_kept law a s
  have ht : (((a.records host s).filter a.logs).map Event.line).flatten =
      (a.loggedLines host s).flatMap (· ++ ['\n']) := by
    have hf : Event.line = (· ++ ['\n']) ∘ Event.record := funext Event.line_eq
    rw [a.loggedLines_eq, List.flatMap_def, List.map_map, hf]
  rw [logged, log_bytes law hl (ho.of_kept (hs.mono (Set.empty_subset _))), ht,
    hs.toFilesBut.bytes (Set.notMem_empty p)]

/-! ### The run behind its log -/

theorem logged_of_unreadable {cause : FileFault}
    (h : FileFault.textOf (a.source host s).1 = .error cause) :
    logged host a s = (perform host a s).2 := by
  rw [perform_of_unreadable h, logged, Arguments.records, h]
  unfold log
  cases a.logFile <;> rfl

theorem logged_of_readable {css : Text} (h : FileFault.textOf (a.source host s).1 = .ok css) :
    logged host a s = (log host a (a.logLines css) (a.source host s).2).2 := by
  rw [logged, Arguments.records, h]
  rfl

theorem logged_filesBut (law : host.Lawful v) (a : Arguments) (s : σ) :
    v.FilesBut Set.univ s (logged host a s) :=
  ((source_kept law a s).trans (log_kept law a _ _)).toFilesBut.mono (Set.subset_univ _)

theorem outputPlaces_of_filesBut {ps : Set P} (h : v.FilesBut ps s s') :
    a.outputPlaces v s' = a.outputPlaces v s := by
  simp only [Arguments.outputPlaces, h.place]

theorem deliver_filesBut (law : host.Lawful v) (a : Arguments) (text : Text) (s : σ) :
    v.FilesBut (a.outputPlaces v s) s (deliver host a text s).2 := by
  cases ho : a.output with
  | none =>
    simp only [deliver, ho]
    exact (law.print _ s).filesBut.mono (Set.empty_subset _)
  | some path =>
    simp only [deliver, ho]
    exact (law.write path _ s).kept.toFilesBut.mono fun _ hp => ⟨path, ho, hp⟩

/-- Behind its log a run that performs changes no file but the one that it delivers its object
to. -/
theorem perform_filesBut (law : host.Lawful v) (a : Arguments) (s : σ) :
    v.FilesBut (a.outputPlaces v s) (logged host a s) (perform host a s).2 := by
  cases hc : FileFault.textOf (a.source host s).1 with
  | error cause =>
    rw [logged_of_unreadable hc]
    exact View.Kept.refl.toFilesBut.mono (Set.empty_subset _)
  | ok css =>
    rw [← outputPlaces_of_filesBut (logged_filesBut law a s), logged_of_readable hc,
      perform_of_readable hc]
    cases a.result css with
    | error fault => exact View.Kept.refl.toFilesBut.mono (Set.empty_subset _)
    | ok text => exact deliver_filesBut law a text _

/-- A run changes nothing that is seen but by what it performs. -/
theorem run_kept (law : host.Lawful v) {words : List Text} (h : Arguments.ofWords words = .ok a)
    (s : σ) : v.Kept ∅ (perform host a s).2 (run host words s).2 := by
  cases hr : perform host a s with
  | mk r s' =>
    cases r with
    | ok u =>
      have e : run host words s = (.done, s') := by
        simp only [run, h, bind, StateT.bind, hr]
        rfl
      rw [e]
      exact .refl
    | error fault =>
      have e : run host words s = (.failed, (host.complain (complaint fault) s').2) := by
        simp only [run, h, bind, StateT.bind, hr]
        rfl
      rw [e]
      exact law.complain _ _

/-- A run adds these lines to the end of the file at a place, each with a line feed behind it, and
they are still there at its end if it does not deliver its object to that place. -/
structure Logs (host : Host (StateM σ)) (v : View σ P) (a : Arguments) (words : List Text) (p : P)
    (s : σ) (lines : List Text) : Prop where
  arguments : Arguments.ofWords words = .ok a
  /-- No line holds another one. -/
  cut : (lines.flatMap (· ++ ['\n'])).splitOn '\n' = lines ++ [[]]
  written : v.bytes (logged host a s) p =
    v.bytes s p ++ Text.encode (lines.flatMap (· ++ ['\n']))
  kept : (∀ out, a.output = some out → v.place? s out ≠ some p) →
    v.bytes (run host words s).2 p = v.bytes s p ++ Text.encode (lines.flatMap (· ++ ['\n']))

theorem run_logs (law : host.Lawful v) {words : List Text} (h : Arguments.ofWords words = .ok a)
    (hl : a.logFile = some path) (ho : host.Openable v path p s) :
    Logs host v a words p s (a.loggedLines host s) where
  arguments := h
  cut := Text.splitOn_flatMap_line fun _ => Arguments.lineFeed_notMem_of_mem_loggedLines
  written := logged_bytes law hl ho
  kept := by
    intro hp
    have hd : p ∉ a.outputPlaces v s := fun ⟨out, hout, hplace⟩ => hp out hout hplace
    rw [(run_kept law h s).toFilesBut.bytes (Set.notMem_empty p),
      (perform_filesBut law a s).bytes hd, logged_bytes law hl ho]

/-- The log of every run has one line for each event that is logged. Without the flag for all events
these are the lines for debugging among those of the same run with the flag, in the same order. The
moves among the events go from phase to phase from the start on, behind each delimiter that the scan
of the style sheet comes to, and one declaration stands immediately before each move behind a
semicolon. -/
theorem log_by_lines (law : host.Lawful v) {words : List Text}
    (h : Arguments.ofWords words = .ok a) (hl : a.logFile = some path)
    (ho : host.Openable v path p s) :
    (∀ e ∈ a.records host s, '\n' ∉ e.message) ∧
    Logs host v a words p s (if a.verbose then a.recordLines host s
      else (a.recordLines host s).filter ("[DEBUG]".toList.isPrefixOf ·)) ∧
    (a.verbose = false →
      Logs host v a.withAll ("--verbose".toList :: words) p s (a.recordLines host s)) ∧
    Block.Path .start (a.records host s) ∧ Block.Paired (a.records host s) ∧
    ∀ css, FileFault.textOf (a.source host s).1 = .ok css →
      Block.Follows (Sheet.flatten css) (a.records host s) := by
  have ht := a.traced_records host s
  refine ⟨fun e => Arguments.lineFeed_notMem_of_mem_records, run_logs law h hl ho, fun hv => ?_,
    ht.path, ht.paired, fun css => Arguments.follows_records⟩
  exact run_logs law (Arguments.ofWords_verbose h hv) hl ho

/-- A style sheet that ends early, in the log with and without the flag. -/
theorem log_by_lines_early :
    Logs Session.host Session.view
      ⟨none, none, false, true, none, none, false, some ['l'], false⟩
      ["--keep-duplicates".toList, "--log-file=l".toList] [['l']]
      { input := Text.encode "a: b; c".toList }
      ([.opened 7, .dropped ['c']].map Event.record) ∧
    Logs Session.host Session.view
      ⟨none, none, false, true, none, none, false, some ['l'], true⟩
      ["--verbose".toList, "--keep-duplicates".toList, "--log-file=l".toList] [['l']]
      { input := Text.encode "a: b; c".toList }
      ([.opened 7, .moved .start .value .colon, .declared ⟨['a'], ['b']⟩,
        .moved .value .between .semicolon, .dropped ['c']].map Event.record) := by
  have ha : Arguments.ofWords ["--keep-duplicates".toList, "--log-file=l".toList] =
      .ok ⟨none, none, false, true, none, none, false, some ['l'], false⟩ := rfl
  have hf : Sheet.flatten "a: b; c".toList = "a: b; c".toList := by
    rw [Sheet.flatten, Text.dropComments_of_none (by decide)]
    decide
  have he : Arguments.events ⟨none, none, false, true, none, none, false, some ['l'], false⟩
      "a: b; c".toList = [.opened 7, .moved .start .value .colon, .declared ⟨['a'], ['b']⟩,
        .moved .value .between .semicolon, .dropped ['c']] := by
    rw [Arguments.events, Sheet.trace, Sheet.echoEvents, Sheet.render, Sheet.object,
      Sheet.declarations, hf]
    decide
  have hr : Arguments.records ⟨none, none, false, true, none, none, false, some ['l'], false⟩
      Session.host { input := Text.encode "a: b; c".toList } =
        [.opened 7, .moved .start .value .colon, .declared ⟨['a'], ['b']⟩,
          .moved .value .between .semicolon, .dropped ['c']] := by
    simp only [Arguments.records, Arguments.source, Session.host, FileFault.textOf,
      Text.decode?_encode]
    exact he
  have hp : Session.view.place? { input := Text.encode "a: b; c".toList } ['l'] = some [['l']] :=
    Files.target_of_plain ⟨by decide, by decide⟩ rfl (by simp [Files.node?])
  obtain ⟨-, hq, hv, -, -, -⟩ := log_by_lines Session.lawful ha rfl (Session.openable_of_place? hp)
  change Logs _ _ _ _ _ _ (Arguments.loggedLines _ _ _) at hq
  rw [Arguments.loggedLines_eq, hr] at hq
  rw [Arguments.recordLines, hr] at hv
  exact ⟨hq, hv rfl⟩

end StyleObject.Command
