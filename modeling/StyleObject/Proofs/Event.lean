import StyleObject.Event
import StyleObject.Proofs.Text.Line

/-!
# The lines of events

A text between double quotes has no line feed, whatever the text is, and everything else that the
message of an event holds has none either but for the key that it may hold. So the line of an event
is one line, and its level can be read off its start.
-/
namespace StyleObject

variable {e : Event}

namespace Text

theorem lineFeed_notMem_decimal (n : Nat) : '\n' ∉ decimal n := fun h =>
  absurd (Nat.isDigit_of_mem_toDigits (by decide) (by decide) h) (by decide)

theorem lineFeed_notMem_toDigits (n : Nat) : '\n' ∉ Nat.toDigits 16 n := by
  have hd : ∀ k < 16, '\n' ≠ Nat.digitChar k := by decide
  induction n using Nat.strongRecOn with
  | ind n ih =>
    by_cases hn : n < 16
    · rw [Nat.toDigits_of_lt_base hn, List.mem_singleton]
      exact hd n hn
    · rw [Nat.toDigits_of_base_le (by decide) (by omega), List.mem_append, List.mem_singleton,
        not_or]
      exact ⟨ih (n / 16) (by omega), hd (n % 16) (by omega)⟩

theorem lineFeed_notMem_codePointEscape (c : Char) : '\n' ∉ codePointEscape c := by
  simp [codePointEscape, lineFeed_notMem_toDigits]

/-- The line feed is one of the characters that do not stand for themselves. -/
theorem lineFeed_notMem_shown (c : Char) : '\n' ∉ shown c := by
  by_cases hc : c = '\n'
  · subst hc
    decide
  unfold shown
  split <;> try decide
  split
  · exact lineFeed_notMem_codePointEscape c
  · exact List.not_mem_cons_of_ne_of_not_mem (Ne.symm hc) List.not_mem_nil

theorem lineFeed_notMem_doubleQuoted (t : Text) : '\n' ∉ doubleQuoted t := by
  simp [doubleQuoted, lineFeed_notMem_shown]

end Text

theorem Block.Phase.lineFeed_notMem_text (p : Phase) : '\n' ∉ p.text := by cases p <;> decide

theorem Block.Delimiter.lineFeed_notMem_char (d : Delimiter) : '\n' ∉ [d.char] := by
  cases d <;> decide

theorem Fault.lineFeed_notMem_message (f : Fault) : '\n' ∉ f.message := by
  cases f with
  | unexpected d offset p =>
    have hd : '\n' ∉ "unexpected '".toList ++ [d.char] ++ "' at position ".toList :=
      List.not_mem_append (List.not_mem_append (by decide) d.lineFeed_notMem_char) (by decide)
    exact List.not_mem_append (List.not_mem_append (List.not_mem_append hd
      (Text.lineFeed_notMem_decimal offset)) (by decide)) p.lineFeed_notMem_text
  | unterminated t =>
    exact List.not_mem_append (by decide) (Text.lineFeed_notMem_doubleQuoted t)
  | noDeclarations => decide
  | unclosed => decide

namespace Event

/-- Only a key gets into a message as it is. -/
theorem lineFeed_notMem_message (h : ∀ key, e = .overwritten key → '\n' ∉ key) :
    '\n' ∉ e.message := by
  cases e with
  | opened n =>
    exact List.not_mem_append
      (List.not_mem_append (by decide) (Text.lineFeed_notMem_decimal n)) (by decide)
  | declared d =>
    have hp : '\n' ∉ "declaration ".toList ++ Text.doubleQuoted d.property :=
      List.not_mem_append (by decide) (Text.lineFeed_notMem_doubleQuoted d.property)
    exact List.not_mem_append (List.not_mem_append hp (by decide))
      (Text.lineFeed_notMem_doubleQuoted d.value)
  | moved p q d =>
    have hp : '\n' ∉ "tokenizer ".toList ++ p.text ++ " -> ".toList ++ q.text :=
      List.not_mem_append (List.not_mem_append (List.not_mem_append (by decide)
        p.lineFeed_notMem_text) (by decide)) q.lineFeed_notMem_text
    exact List.not_mem_append (List.not_mem_append (List.not_mem_append hp (by decide))
      d.lineFeed_notMem_char) (by decide)
  | dropped t => exact List.not_mem_append (by decide) (Text.lineFeed_notMem_doubleQuoted t)
  | overwritten key => exact List.not_mem_append (by decide) (h key rfl)
  | echoed f => exact List.not_mem_append (by decide) f.lineFeed_notMem_message

/-- The line of an event without its line feed. -/
def record (e : Event) : Text :=
  ['['] ++ e.level.text ++ "] ".toList ++ e.target ++ [':', ' '] ++ e.message

theorem line_eq (e : Event) : e.line = e.record ++ ['\n'] := rfl

theorem lineFeed_notMem_target (e : Event) : '\n' ∉ e.target := by
  cases e with
  | opened => exact (by decide : '\n' ∉ "css_to_jss".toList)
  | overwritten => exact (by decide : '\n' ∉ "jss::emitter".toList)
  | echoed => exact (by decide : '\n' ∉ "jss".toList)
  | _ => exact (by decide : '\n' ∉ "jss::parser::tokenizer".toList)

theorem lineFeed_notMem_record (h : '\n' ∉ e.message) : '\n' ∉ e.record := by
  have hl : '\n' ∉ e.level.text := by cases e.level <;> decide
  exact List.not_mem_append (List.not_mem_append (List.not_mem_append (List.not_mem_append
    (List.not_mem_append (by decide) hl) (by decide)) e.lineFeed_notMem_target) (by decide)) h

/-- The start of a line says whether its level is the one for debugging. -/
theorem isPrefixOf_record (e : Event) :
    "[DEBUG]".toList.isPrefixOf e.record = (e.level == .debug) := by
  have hr : ∀ (l : Level) (r : Text),
      "[DEBUG]".toList.isPrefixOf (['['] ++ l.text ++ "] ".toList ++ r) = (l == .debug) := by
    intro l r
    cases l <;> rfl
  rw [record, List.append_assoc, List.append_assoc]
  exact hr e.level _

example : Event.record (.declared ⟨['a'], ['"', '\n']⟩) =
    "[TRACE] jss::parser::tokenizer: declaration \"a\" -> \"\\\"\\n\"".toList := by decide

end Event

end StyleObject
