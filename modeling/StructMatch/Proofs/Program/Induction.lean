import StructMatch.Program.Code

/-!
# Induction over code

Code holds other code in lists of parts, in lists of items with their positions, and in an optional
place for the rest slot. `Code.inductionOn` is the induction over this shape in which the hypothesis
of a node speaks of all code *found* in its parts, as for patterns. It is the eliminator of
`induction` for code.
-/

namespace StructMatch.Code

section Principle

variable {motive : Code → Prop}
  (literal : ∀ slot, motive (.literal slot))
  (fallback : ∀ slot, motive (.fallback slot))
  (bind : ∀ key, motive (.bind key))
  (seq : ∀ hasRest front back head tail middle, (∀ e ∈ head, motive e.2) →
    (∀ e ∈ tail, motive e.2) → (∀ c ∈ middle, motive c) →
    motive (.seq hasRest front back head tail middle))
  (all : ∀ parts, (∀ c ∈ parts, motive c) → motive (.all parts))
  (any : ∀ parts, (∀ c ∈ parts, motive c) → motive (.any parts))
  (tryThenTrue : ∀ parts, (∀ c ∈ parts, motive c) → motive (.tryThenTrue parts))
  (never : motive .never)

include literal fallback bind seq all any tryThenTrue never

/-- **Induction over code.** A property holds of all code if it holds of each node whose parts all
have it. -/
@[elab_as_elim, induction_eliminator]
theorem inductionOn (c : Code) : motive c := by
  refine @Code.rec motive (fun es => ∀ e ∈ es, motive e.2) (fun o => ∀ c ∈ o, motive c)
    (fun cs => ∀ c ∈ cs, motive c) (fun e => motive e.2)
    literal fallback bind seq all any tryThenTrue never ?_ ?_ ?_ ?_ ?_ ?_ ?_ c
  · exact fun _ h => absurd h List.not_mem_nil
  · exact fun _ _ he hes => List.forall_mem_cons.mpr ⟨he, hes⟩
  · exact fun _ h => absurd h (Option.not_mem_none _)
  · exact fun _ hc _ h => Option.mem_some.mp h ▸ hc
  · exact fun _ h => absurd h List.not_mem_nil
  · exact fun _ _ hc hcs => List.forall_mem_cons.mpr ⟨hc, hcs⟩
  · exact fun _ _ hc => hc

end Principle

end StructMatch.Code
