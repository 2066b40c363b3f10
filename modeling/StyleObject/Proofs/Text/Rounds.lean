import StyleObject.Proofs.Text.Removal

/-!
# The rounds of the removal

Comments leave a text in rounds, and each round takes the first comment of what remains. A comment
has four characters at least, so the rounds come to an end, and the text that is left has no comment
to take. What stands behind a part of the text does not matter to the rounds that the part allows.
-/
namespace StyleObject.Text

variable {t u : Text} {n : Nat}

/-- One round: the text without its first comment, if it has one. -/
def round? (t : Text) : Option Text :=
  (aroundComment? t).map fun (before, after) => before ++ after

/-- The text after some number of rounds, if there are so many. -/
def rounds? : Nat → Text → Option Text
  | 0, t => some t
  | n + 1, t => (round? t).bind (rounds? n)

theorem length_round? (h : round? t = some u) : u.length + 4 ≤ t.length := by
  obtain ⟨⟨before, after⟩, ha, rfl⟩ := Option.map_eq_some_iff.1 h
  exact length_around_comment ha

theorem length_rounds? (h : rounds? n t = some u) : u.length + 4 * n ≤ t.length := by
  induction n generalizing t with
  | zero =>
    obtain rfl := Option.some.inj h
    omega
  | succ n ih =>
    obtain ⟨v, hv, hu⟩ := Option.bind_eq_some_iff.1 h
    have hl := length_round? hv
    have hr := ih hu
    omega

/-- The rounds end, and what they leave is the text without comments. -/
theorem exists_rounds? (t : Text) :
    ∃ n, rounds? n t = some (dropComments t) ∧ rounds? (n + 1) t = none := by
  induction t using dropComments.induct with
  | case1 t h =>
    refine ⟨0, ?_, ?_⟩
    · rw [dropComments_of_none h, rounds?]
    · simp [rounds?, round?, h]
  | case2 t before after h ih =>
    obtain ⟨n, hn, he⟩ := ih
    have hr : round? t = some (before ++ after) := by simp [round?, h]
    refine ⟨n + 1, ?_, ?_⟩
    · rw [rounds?, hr, Option.bind_some, hn, dropComments_of_some h]
    · rw [rounds?, hr, Option.bind_some, he]

/-- Comments may be removed from the first part of a text before the rest is put behind it. None is
left, a text without comments stays as it is, and for every text the rounds come to an end, each of
them leaving at least four characters less. -/
theorem dropComments_piecewise (a b : Text) :
    dropComments (a ++ b) = dropComments (dropComments a ++ b) ∧
    dropComments (dropComments a) = dropComments a ∧
    ¬ HasComment (dropComments a) ∧
    (¬ HasComment a → dropComments a = a) ∧
    (∀ t, round? a = some t → t.length + 4 ≤ a.length) ∧
    ∃ n, 4 * n ≤ a.length ∧ rounds? n a = some (dropComments a) ∧ rounds? (n + 1) a = none := by
  have hd : ¬ HasComment (dropComments a) := not_hasComment_dropComments a
  obtain ⟨n, hn, he⟩ := exists_rounds? a
  have hl := length_rounds? hn
  exact ⟨dropComments_append a b, dropComments_of_not_hasComment hd, hd,
    dropComments_of_not_hasComment, fun _ => length_round?, n, by omega, hn, he⟩

end StyleObject.Text
