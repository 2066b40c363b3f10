import StyleObject.Command.Run
import StyleObject.Proofs.Files.View

/-!
# The end of a run

A run reads before it writes anything, and writes the object last. So on a lawful host it delivers
the whole object or nothing, even if the style sheet, the output and the log are one file: up to the
delivery only the log has changed, and the delivery is a single operation with a text that is no
longer read from anywhere. Only a standard output that fails may have got a part of the object.
-/
namespace StyleObject.Command

variable {σ P : Type} {host : Host (StateM σ)} {v : View σ P} {a : Arguments} {s s' s'' : σ}

namespace Arguments

/-- Asks for the bytes of the style sheet. -/
def source (a : Arguments) (host : Host (StateM σ)) : StateM σ (Except FileFault ByteArray) :=
  match a.input with
  | none => host.input
  | some path => if path = ['-'] then host.input else host.read path

/-- The text that a run has to deliver. There is none if the style sheet is no text, or if it is at
fault and faults are to be reported. -/
def wanted? (a : Arguments) (host : Host (StateM σ)) (s : σ) : Option Text :=
  ((a.source host s).1.toOption.bind Text.decode?).bind fun css =>
    if a.fail then (Sheet.render a.options css).toOption
    else some (Sheet.renderOrEcho a.options css)

/-- The place of the log, if there is one. -/
def logPlaces (a : Arguments) (v : View σ P) (s : σ) : Set P :=
  {p | ∃ path, a.logFile = some path ∧ v.place? s path = some p}

end Arguments

/-- The exit code that a result stands for. -/
def codeOf {ε : Type} : Except ε Unit → Nat
  | .ok () => 0
  | .error _ => 1

/-- How a run from a state ends, with an exit code and in another state. -/
inductive Ended (host : Host (StateM σ)) (v : View σ P) (a : Arguments) (s : σ) :
    Nat → σ → Prop where
  /-- There is nothing to deliver. -/
  | refused {s' : σ} : a.wanted? host s = none → v.Kept (a.logPlaces v s) s s' →
      Ended host v a s 1 s'
  /-- Standard output got the text. -/
  | printed {text : Text} {s₁ s' : σ} : a.wanted? host s = some text → a.output = none →
      v.Kept (a.logPlaces v s) s s₁ → (host.print (text ++ ['\n']) s₁).1 = .ok () →
      v.output s' = v.output s ++ (text ++ ['\n']) → v.FilesBut (a.logPlaces v s) s s' →
      Ended host v a s 0 s'
  /-- Standard output was to get the text, but failed behind a beginning of it. -/
  | unprintable {text got : Text} {fault : FileFault} {s₁ s' : σ} :
      a.wanted? host s = some text → a.output = none → v.Kept (a.logPlaces v s) s s₁ →
      (host.print (text ++ ['\n']) s₁).1 = .error fault → got <+: text ++ ['\n'] →
      v.output s' = v.output s ++ got → v.FilesBut (a.logPlaces v s) s s' →
      Ended host v a s 1 s'
  /-- The output file, which may be the style sheet or the log, holds the text and nothing else. -/
  | written {text path : Text} {p : P} {s₁ s' : σ} :
      a.wanted? host s = some text → a.output = some path → v.Kept (a.logPlaces v s) s s₁ →
      (host.write path (Text.encode (text ++ ['\n'])) s₁).1 = .ok () →
      v.place? s path = some p → v.content? s' p = some (Text.encode (text ++ ['\n'])) →
      v.Kept (a.logPlaces v s ∪ {p}) s s' → Ended host v a s 0 s'
  /-- The output file was to be written, but that failed. -/
  | unwritable {text path : Text} {fault : FileFault} {s₁ s' : σ} :
      a.wanted? host s = some text → a.output = some path → v.Kept (a.logPlaces v s) s s₁ →
      (host.write path (Text.encode (text ++ ['\n'])) s₁).1 = .error fault →
      v.Kept (a.logPlaces v s) s s' → Ended host v a s 1 s'

/-- What is said on standard error does not matter for the end of a run. -/
theorem Ended.kept {code : Nat} (h : Ended host v a s code s') (hk : v.Kept ∅ s' s'') :
    Ended host v a s code s'' := by
  cases h with
  | refused hw h => exact .refused hw ((h.trans hk).mono (by simp))
  | printed hw ho h₁ hr ht h =>
    exact .printed hw ho h₁ hr (hk.output.trans ht) ((h.trans hk.toFilesBut).mono (by simp))
  | unprintable hw ho h₁ hr hg ht h =>
    exact .unprintable hw ho h₁ hr hg (hk.output.trans ht) ((h.trans hk.toFilesBut).mono (by simp))
  | written hw ho h₁ hr hp hc h =>
    exact .written hw ho h₁ hr hp ((hk.content _ (Set.notMem_empty _)).trans hc)
      ((h.trans hk).mono (by simp))
  | unwritable hw ho h₁ hr h => exact .unwritable hw ho h₁ hr ((h.trans hk).mono (by simp))

/-- On a session what has to be delivered to a file arrives there, if the path leads to a place. -/
theorem Ended.of_session {code : Nat} {s s' : Session} {text path : Text} {p : List Text}
    (h : Ended Session.host Session.view a s code s') (hw : a.wanted? Session.host s = some text)
    (ho : a.output = some path) (hp : Session.view.place? s path = some p) :
    code = 0 ∧ s'.files.fileAt? p = some (Text.encode (text ++ ['\n'])) := by
  cases h with
  | refused hw' => simp [hw] at hw'
  | printed _ ho' => simp [ho] at ho'
  | unprintable _ ho' => simp [ho] at ho'
  | @written text' path' p' _ _ hw' ho' _ _ hp' hc =>
    obtain rfl : text = text' := Option.some.inj (hw.symm.trans hw')
    obtain rfl : path = path' := Option.some.inj (ho.symm.trans ho')
    obtain rfl : p = p' := Option.some.inj (hp.symm.trans hp')
    exact ⟨rfl, hc⟩
  | @unwritable text' path' fault s₁ _ _ ho' h₁ hr =>
    obtain rfl : path = path' := Option.some.inj (ho.symm.trans ho')
    rw [Session.write_of_place? ((h₁.place path).trans hp)] at hr
    cases hr

/-! ### Reading -/

theorem source_kept (law : host.Lawful v) (a : Arguments) (s : σ) :
    v.Kept ∅ s (a.source host s).2 := by
  unfold Arguments.source
  cases a.input with
  | none => exact law.input s
  | some path =>
    by_cases hp : path = ['-']
    · simp only [hp, if_true]
      exact law.input s
    · simp only [hp, if_false]
      exact law.read path s

/-- The style sheet is the text of the bytes, and reading has no effect but to ask for them. -/
theorem readSheet_apply (host : Host (StateM σ)) (a : Arguments) (s : σ) :
    readSheet host a s = (FileFault.textOf (a.source host s).1, (a.source host s).2) := by
  unfold readSheet Arguments.source Arguments.sheetPath?
  cases a.input with
  | none => rfl
  | some path =>
    by_cases hp : path = ['-']
    · simp only [Option.filter_some, hp]
      rfl
    · simp only [Option.filter_some, hp, ne_eq, not_false_eq_true, decide_true, if_true, if_false]
      rfl

theorem toOption_textOf (r : Except FileFault ByteArray) :
    (FileFault.textOf r).toOption = r.toOption.bind Text.decode? := by
  cases r with
  | error fault => rfl
  | ok bytes =>
    simp only [FileFault.textOf, Except.toOption, Option.bind_some]
    cases Text.decode? bytes <;> rfl

/-! ### Writing the log -/

theorem logPlaces_of_filesBut {ps : Set P} (h : v.FilesBut ps s s') :
    a.logPlaces v s' = a.logPlaces v s := by
  simp only [Arguments.logPlaces, h.place]

/-- Writing a line of the log changes nothing but the log. -/
theorem append_kept (law : host.Lawful v) {path : Text} (hl : a.logFile = some path)
    (content : ByteArray) (s : σ) :
    v.Kept (a.logPlaces v s) s (host.append path content s).2 :=
  (law.append path content s).kept.mono fun _ hp => ⟨path, hl, hp⟩

/-- Writing the log changes nothing but the log. -/
theorem log_kept (law : host.Lawful v) (a : Arguments) (lines : List Text) (s : σ) :
    v.Kept (a.logPlaces v s) s (log host a lines s).2 := by
  cases hl : a.logFile with
  | none =>
    simp only [log, hl]
    exact .refl
  | some path =>
    induction lines generalizing s with
    | nil =>
      simp only [log, hl]
      exact .refl
    | cons line rest ih =>
      have h := append_kept law hl (Text.encode line) s
      have e : log host a (line :: rest) s =
          log host a rest (host.append path (Text.encode line) s).2 := by
        simp only [log, hl]
        rfl
      have hr := ih (host.append path (Text.encode line) s).2
      rw [logPlaces_of_filesBut h.toFilesBut] at hr
      rw [e, ← Set.union_self (a.logPlaces v s)]
      exact h.trans hr

/-! ### The run -/

/-- A text is delivered to standard output, to the output file, or not at all. -/
theorem deliver_ended (law : host.Lawful v) {text : Text} (hw : a.wanted? host s = some text)
    (h : v.Kept (a.logPlaces v s) s s') :
    Ended host v a s (codeOf (deliver host a text s').1) (deliver host a text s').2 := by
  cases ho : a.output with
  | none =>
    have e : deliver host a text s' = host.print (text ++ ['\n']) s' := by
      simp only [deliver, ho]
    rw [e]
    have hp := law.print (text ++ ['\n']) s'
    have hf := (h.toFilesBut.trans hp.filesBut).mono (Set.union_empty _).subset
    cases hr : (host.print (text ++ ['\n']) s').1 with
    | ok u =>
      rw [hr] at hp
      cases hp with
      | done ht _ => exact .printed hw ho h hr (by rw [ht, h.output]) hf
    | error fault =>
      rw [hr] at hp
      cases hp with
      | failed hg ht _ => exact .unprintable hw ho h hr hg (by rw [ht, h.output]) hf
  | some path =>
    have e : deliver host a text s' = host.write path (Text.encode (text ++ ['\n'])) s' := by
      simp only [deliver, ho]
    rw [e]
    have hc := law.write path (Text.encode (text ++ ['\n'])) s'
    cases hr : (host.write path (Text.encode (text ++ ['\n'])) s').1 with
    | ok u =>
      rw [hr] at hc
      cases hc with
      | done hp hc hk =>
        rw [h.place] at hp
        exact .written hw ho h hr hp hc (h.trans hk)
    | error fault =>
      rw [hr] at hc
      cases hc with
      | failed hk => exact .unwritable hw ho h hr ((h.trans hk).mono (by simp))

theorem toOption_result (a : Arguments) (css : Text) :
    (a.result css).toOption = if a.fail then (Sheet.render a.options css).toOption
      else some (Sheet.renderOrEcho a.options css) := by
  unfold Arguments.result
  split <;> rfl

theorem codeOf_mapError {ε ε' : Type} (f : ε → ε') (r : Except ε Unit) :
    codeOf (r.mapError f) = codeOf r := by
  cases r <;> rfl

/-- What a run has to deliver is the result for the style sheet that is read. -/
theorem wanted?_eq (host : Host (StateM σ)) (a : Arguments) (s : σ) :
    a.wanted? host s = (FileFault.textOf (a.source host s).1).toOption.bind
      fun css => (a.result css).toOption := by
  simp only [Arguments.wanted?, toOption_result, toOption_textOf]

theorem perform_of_unreadable {cause : FileFault}
    (h : FileFault.textOf (a.source host s).1 = .error cause) :
    perform host a s = (.error (.inaccessible cause), (a.source host s).2) := by
  have hr := readSheet_apply host a s
  simp only [perform, bind, StateT.bind, hr, h]
  rfl

theorem perform_of_readable {css : Text} (h : FileFault.textOf (a.source host s).1 = .ok css) :
    perform host a s =
      match a.result css with
      | .error fault =>
        (.error (.malformed fault), (log host a (a.logLines css) (a.source host s).2).2)
      | .ok text =>
        ((deliver host a text (log host a (a.logLines css) (a.source host s).2).2).1.mapError
            .inaccessible,
          (deliver host a text (log host a (a.logLines css) (a.source host s).2).2).2) := by
  have hr := readSheet_apply host a s
  simp only [perform, bind, StateT.bind, hr, h]
  cases a.result css <;> rfl

theorem perform_ended (law : host.Lawful v) (a : Arguments) (s : σ) :
    Ended host v a s (codeOf (perform host a s).1) (perform host a s).2 := by
  have hs := source_kept law a s
  cases hc : FileFault.textOf (a.source host s).1 with
  | error cause =>
    have hw : a.wanted? host s = none := by
      rw [wanted?_eq, hc]
      rfl
    rw [perform_of_unreadable hc]
    exact .refused hw (hs.mono (Set.empty_subset _))
  | ok css =>
    have hw : a.wanted? host s = (a.result css).toOption := by
      rw [wanted?_eq, hc]
      rfl
    -- The log is written where it was at the start, since reading has diverted no path.
    have hl := log_kept law a (a.logLines css) (a.source host s).2
    rw [logPlaces_of_filesBut hs.toFilesBut] at hl
    have hk := (hs.trans hl).mono (Set.empty_union _).subset
    rw [perform_of_readable hc]
    cases ht : a.result css with
    | error fault =>
      rw [ht] at hw
      exact .refused hw hk
    | ok text =>
      rw [ht] at hw
      rw [codeOf_mapError]
      exact deliver_ended law hw hk

/-- A run of the command delivers the whole object that the style sheet has under its options, with
a line feed, or it fails and changes nothing that is seen but the log, and what standard output got
of the object. It fails if the style sheet cannot be read as text, if it is at fault and faults are
to be reported, and if the output file or standard output cannot be written. -/
theorem run_all_or_nothing (law : host.Lawful v) {words : List Text}
    (h : Arguments.ofWords words = .ok a) (s : σ) :
    Ended host v a s (run host words s).1.code (run host words s).2 := by
  have hp := perform_ended law a s
  cases hr : perform host a s with
  | mk r s' =>
    rw [hr] at hp
    cases r with
    | ok u =>
      have e : run host words s = (.done, s') := by
        simp only [run, h, bind, StateT.bind, hr]
        rfl
      rw [e]
      exact hp
    | error fault =>
      have e : run host words s = (.failed, (host.complain (complaint fault) s').2) := by
        simp only [run, h, bind, StateT.bind, hr]
        rfl
      rw [e]
      exact hp.kept (law.complain _ _)

/-- The style sheet, the output and the log can be one file. -/
theorem run_all_or_nothing_in_place :
    (run Session.host
        ["x".toList, "--keep-duplicates".toList, "-o./x".toList, "--log-file=x".toList]
        { files := ({} : Files).put [['x']] (Text.encode "a: b;".toList) }).1.code = 0 ∧
      (run Session.host
        ["x".toList, "--keep-duplicates".toList, "-o./x".toList, "--log-file=x".toList]
        { files := ({} : Files).put [['x']] (Text.encode "a: b;".toList) }).2.files.fileAt?
          [['x']] = some (Text.encode "\x7b\n  a: 'b',\n\x7d\n".toList) := by
  have ha : Arguments.ofWords
      ["x".toList, "--keep-duplicates".toList, "-o./x".toList, "--log-file=x".toList] =
        .ok ⟨some ['x'], some "./x".toList, false, true, none, none, false, some ['x'], false⟩ :=
    rfl
  have hf : Sheet.flatten "a: b;".toList = "a: b;".toList := by
    rw [Sheet.flatten, Text.dropComments_of_none (by decide)]
    decide
  have ht : Sheet.renderOrEcho ⟨.lenient, .keepAll, 2, none⟩ "a: b;".toList =
      "\x7b\n  a: 'b',\n\x7d".toList := by
    rw [Sheet.renderOrEcho, Sheet.render, Sheet.object, Sheet.declarations, hf]
    decide
  have hr : (({} : Files).put [['x']] (Text.encode "a: b;".toList)).read ['x'] =
      .ok (Text.encode "a: b;".toList) := by
    have hn : Files.names ['x'] = [['x']] := by decide
    simp [Files.read, Files.origin, hn, Files.walk, Files.follow, bind, Except.bind, Files.node?,
      Files.put]
  have hw : Arguments.wanted?
      ⟨some ['x'], some "./x".toList, false, true, none, none, false, some ['x'], false⟩
      Session.host { files := ({} : Files).put [['x']] (Text.encode "a: b;".toList) } =
        some "\x7b\n  a: 'b',\n\x7d".toList := by
    have hs : (['x'] : Text) ≠ ['-'] := by decide
    simp only [Arguments.wanted?, Arguments.source, hs, if_false, Session.host, hr,
      Except.toOption, Option.bind_some, Text.decode?_encode]
    exact congrArg some ht
  have hp : Session.view.place?
      { files := ({} : Files).put [['x']] (Text.encode "a: b;".toList) } "./x".toList =
        some [['x']] := by
    have hn : Files.namesToLast "./x".toList = [['.'], ['x']] := by decide
    refine Files.target_eq_some_iff.mpr ⟨by decide, ?_, [], rfl, ?_⟩
    · simp [Files.node?, Files.put]
    · rw [hn]
      simp [Files.walk, Files.follow, Files.node?, Except.toOption]
  exact (run_all_or_nothing Session.lawful ha _).of_session hw rfl hp

end StyleObject.Command
