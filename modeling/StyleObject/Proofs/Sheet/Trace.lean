import StyleObject.Proofs.Block.Field
import StyleObject.Proofs.Block.Trace
import StyleObject.Proofs.Event
import StyleObject.Proofs.Object.Grammar
import StyleObject.Proofs.Sheet.Print

/-!
# The events of a style sheet

Of what a style sheet holds, only keys get into messages as they are. A key is an identifier or the
name of a property between quotes, and a flat style sheet has no line feed, so there is none in a
message. The events of the block come first, and no later event is a step of the block.
-/
namespace StyleObject

variable {t : Text} {e : Event}

theorem Text.lineFeed_notMem_singleQuoted (h : '\n' ∉ t) : '\n' ∉ singleQuoted t := by
  have he : '\n' ∉ escape t := by
    intro hm
    obtain ⟨c, hc, hm⟩ := List.mem_flatMap.1 hm
    split at hm
    · exact absurd hm (by decide)
    · exact h (List.mem_singleton.1 hm ▸ hc)
  simp [singleQuoted, he]

theorem Key.lineFeed_notMem_ofName (h : '\n' ∉ t) : '\n' ∉ ofName t := by
  have hq := Text.lineFeed_notMem_singleQuoted h
  unfold ofName
  split
  · exact hq
  · split
    · next hi => exact fun hm => absurd (Grammar.isIdentifierPart_of_mem hi hm) (by decide)
    · exact hq

namespace Sheet

variable {options : Options} {css : Text}

theorem lineFeed_notMem_property {mode : Mode} {ds : List Declaration} {d : Declaration}
    (h : declarations mode css = .ok ds) (hd : d ∈ ds) : '\n' ∉ d.property := by
  have hf : d.property ∈ Block.fields ds := List.mem_flatMap.2 ⟨d, hd, List.mem_cons_self⟩
  have hi := (Block.inOrder_of_read h).infix_of_mem hf
  exact fun hm => (tight_flatten css).notMem_lineFeed (hi.subset hm)

theorem exists_of_mem_insertEvents {o : Object} {es : List Entry} (h : e ∈ insertEvents o es) :
    ∃ x ∈ es, e = .overwritten x.key := by
  induction es generalizing o with
  | nil => cases h
  | cons x es ih =>
    rw [insertEvents, List.mem_append] at h
    rcases h with h | h
    · split at h
      · exact ⟨x, List.mem_cons_self, List.mem_singleton.1 h⟩
      · cases h
    · obtain ⟨y, hy, he⟩ := ih h
      exact ⟨y, List.mem_cons_of_mem _ hy, he⟩

theorem exists_of_mem_echoEvents (h : e ∈ echoEvents options css) : ∃ fault, e = .echoed fault := by
  unfold echoEvents at h
  split at h
  · cases h
  · exact ⟨_, List.mem_singleton.1 h⟩

theorem tells_trace (options : Options) (css : Text) :
    Block.Tells (flatten css) (trace options css) := by
  refine (Block.tells_trace _ _).append fun e h => ?_
  split at h
  · obtain ⟨x, -, rfl⟩ := exists_of_mem_insertEvents h
    rfl
  · cases h

theorem lineFeed_notMem_message_of_mem_trace (h : e ∈ trace options css) : '\n' ∉ e.message := by
  refine Event.lineFeed_notMem_message fun key hk => ?_
  subst hk
  rcases List.mem_append.1 h with h | h
  · obtain ⟨rest, he, hr⟩ := Block.exists_trace_eq options.mode (flatten css)
    rw [he] at h
    rcases List.mem_append.1 h with h | h
    · cases Block.Scan.isStep_of_mem_trace h
    · obtain ⟨u, hu⟩ := hr _ h
      cases hu
  · split at h
    · next ds hd =>
      obtain ⟨x, hx, he⟩ := exists_of_mem_insertEvents h
      obtain ⟨d, hm, rfl⟩ := List.mem_map.1 hx
      cases he
      exact Key.lineFeed_notMem_ofName (lineFeed_notMem_property hd hm)
    · cases h

end Sheet

end StyleObject
