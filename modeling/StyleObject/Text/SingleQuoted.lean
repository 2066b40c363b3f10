import StyleObject.Text.Basic

/-!
# Single-quoted literals

A literal stands between single quotes. A single quote inside it has a backslash before it, and
every other character, a backslash included, stands for itself.
-/
namespace StyleObject.Text

/-- The text with a backslash before each single quote. -/
def escape (t : Text) : Text := t.flatMap fun c => if c = '\x27' then ['\\', '\x27'] else [c]

/-- The literal of a text. -/
def singleQuoted (t : Text) : Text := '\x27' :: (escape t ++ ['\x27'])

@[simp] theorem escape_nil : escape [] = [] := rfl

@[simp] theorem escape_cons (c : Char) (t : Text) :
    escape (c :: t) = (if c = '\x27' then ['\\', '\x27'] else [c]) ++ escape t := rfl

@[simp] theorem escape_append (s t : Text) : escape (s ++ t) = escape s ++ escape t := by
  simp [escape]

/-- Only single quotes change. -/
theorem escape_of_not_mem {t : Text} (h : '\x27' ∉ t) : escape t = t := by
  induction t with
  | nil => rfl
  | cons c r ih =>
    rw [List.mem_cons, not_or] at h
    simp [Ne.symm h.1, ih h.2]

end StyleObject.Text
