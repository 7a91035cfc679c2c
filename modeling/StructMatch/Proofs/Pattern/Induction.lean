import StructMatch.Pattern.Plain

/-!
# Induction over patterns

A pattern holds other patterns in lists, in an optional slot, in the entries of a map and in the
slots of a program. `Pattern.inductionOn` is the induction over this shape in which the hypothesis
of a node speaks of every pattern *found* in its parts, so that the proofs about a node work with
membership and leave the nesting alone. It is the eliminator of `induction` for patterns.

Plain data holds other plain data in lists and in the entries of a map. `Plain.inductionOn` does the
same for it.
-/

namespace StructMatch

namespace Pattern

section Principle

variable {motive : Pattern → Prop}
  (literal : ∀ lit, motive (.literal lit))
  (any : motive .any)
  (named : ∀ key, motive (.named key))
  (rest : motive .rest)
  (seq : ∀ head middle tail, (∀ p ∈ head, motive p) → (∀ p ∈ middle, motive p) →
    (∀ p ∈ tail, motive p) → motive (.seq head middle tail))
  (map : ∀ entries exact required, (∀ e ∈ entries.entries, motive e.2) →
    motive (.map entries exact required))
  (opt : ∀ inner, motive inner → motive (.opt inner))
  (and : ∀ items, (∀ p ∈ items, motive p) → motive (.and items))
  (or : ∀ items, (∀ p ∈ items, motive p) → motive (.or items))
  (compiled : ∀ origin slots code source, motive origin → (∀ p, .fallback p ∈ slots → motive p) →
    motive (.compiled origin slots code source))

include literal any named rest seq map opt and or compiled

/-- **Induction over patterns.** A property holds of every pattern if it holds of each node whose
parts all have it. -/
@[elab_as_elim, induction_eliminator]
theorem inductionOn (p : Pattern) : motive p := by
  -- The motive of a container says "every pattern found inside has the property"; an empty and an
  -- extended container then only restate what the hypotheses of the nodes ask for.
  refine @Pattern.rec motive (fun ps => ∀ p ∈ ps, motive p) (fun o => ∀ p ∈ o, motive p)
    (fun m => ∀ e ∈ m.entries, motive e.2) (fun ss => ∀ p, .fallback p ∈ ss → motive p)
    (fun es => ∀ e ∈ es, motive e.2) (fun s => ∀ p, s = .fallback p → motive p)
    (fun e => motive e.2) literal any named rest seq map opt and or compiled
    ?_ ?_ ?_ ?_ ?_ ?_ ?_ ?_ ?_ ?_ ?_ ?_ p
  · exact fun _ h => absurd h List.not_mem_nil
  · exact fun _ _ hp hps => List.forall_mem_cons.mpr ⟨hp, hps⟩
  · exact fun _ h => absurd h (Option.not_mem_none _)
  · exact fun _ hp _ h => Option.mem_some.mp h ▸ hp
  · exact fun _ h => h
  · exact fun _ h => absurd h List.not_mem_nil
  · -- a slot in front of others
    intro s ss hs hss p h
    rcases List.mem_cons.mp h with h | h
    · exact hs p h.symm
    · exact hss p h
  · exact fun _ h => absurd h List.not_mem_nil
  · exact fun _ _ he hes => List.forall_mem_cons.mpr ⟨he, hes⟩
  · exact fun _ _ h => nomatch h
  · -- a slot that holds a pattern
    intro p hp q h
    obtain rfl : p = q := by injection h
    exact hp
  · exact fun _ _ hp => hp

end Principle

end Pattern

namespace Plain

section Principle

variable {motive : Plain → Prop}
  (pattern : ∀ p, motive (.pattern p))
  (seq : ∀ items, (∀ i ∈ items, motive i) → motive (.seq items))
  (map : ∀ entries, (∀ e ∈ entries, motive e.2) → motive (.map entries))
  (value : ∀ v, motive (.value v))
  (literal : ∀ lit, motive (.literal lit))

include pattern seq map value literal

/-- **Induction over plain data.** A property holds of all plain data if it holds of each node whose
parts all have it. -/
@[elab_as_elim, induction_eliminator]
theorem inductionOn (plain : Plain) : motive plain := by
  -- as for patterns, the motive of a container speaks of everything found inside
  refine @Plain.rec motive (fun is => ∀ i ∈ is, motive i) (fun es => ∀ e ∈ es, motive e.2)
    (fun e => motive e.2) pattern seq map value literal ?_ ?_ ?_ ?_ ?_ plain
  · exact fun _ h => absurd h List.not_mem_nil
  · exact fun _ _ hi his => List.forall_mem_cons.mpr ⟨hi, his⟩
  · exact fun _ h => absurd h List.not_mem_nil
  · exact fun _ _ he hes => List.forall_mem_cons.mpr ⟨he, hes⟩
  · exact fun _ _ hi => hi

end Principle

end Plain

end StructMatch
