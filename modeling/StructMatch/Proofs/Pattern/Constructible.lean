import StructMatch.Program.Lowering
import StructMatch.Proofs.Pattern.Building
import StructMatch.Proofs.Value.Induction

/-!
# The patterns that can be built

The type of patterns has trees that nobody can build: sequences with a misplaced rest slot, maps
with a wrong count of required entries, programs with code that belongs to another table.
`Pattern.Constructible` is generated by the ways in which patterns are made, and it is what the
theorems about execution speak of. Building a pattern from plain data is not one of its rules but a
consequence of them (`Plain.Constructible.build`).
-/

namespace StructMatch

namespace Pattern

/-- The patterns that the operations on patterns can make. -/
inductive Constructible : Pattern → Prop
  | literal (lit : Literal) : Constructible (.literal lit)
  | any : Constructible .any
  | named (key : Key) : Constructible (.named key)
  | rest : Constructible .rest
  | sequence {head : List Pattern} {middle : Option Pattern} {tail : List Pattern} {p : Pattern} :
    (∀ q ∈ head, Constructible q) → (∀ q ∈ middle, Constructible q) →
    (∀ q ∈ tail, Constructible q) → sequence head middle tail = .ok p → Constructible p
  | mapping {entries : List (Value × Pattern)} (exact : Bool) :
    (∀ e ∈ entries, Constructible e.2) → Constructible (mapping entries exact)
  | opt {inner : Pattern} : Constructible inner → Constructible (.opt inner)
  | and {items : List Pattern} : (∀ q ∈ items, Constructible q) → Constructible (.and items)
  | or {items : List Pattern} : (∀ q ∈ items, Constructible q) → Constructible (.or items)
  | specialized {p c : Pattern} : Constructible p → p.specialize = .ok c → Constructible c

/-- The split around the item with the rest flag loses nothing and adds nothing. -/
theorem Constructible.ofItems {items : List Pattern} {p : Pattern}
    (h : ∀ q ∈ items, Constructible q) (hp : Pattern.ofItems items = .ok p) : p.Constructible := by
  unfold Pattern.ofItems at hp
  simp only at hp
  split at hp
  · cases hp
  · split at hp
    · -- no item has the rest flag, and all of them are the head
      exact .sequence h (fun q hq => absurd hq (Option.not_mem_none q))
        (fun q hq => absurd hq List.not_mem_nil) hp
    · -- the first item with the flag becomes the rest slot
      next r tail hdrop =>
      have hmem : ∀ q ∈ r :: tail, q.Constructible := by
        intro q hq
        rw [← hdrop] at hq
        exact h q ((List.dropWhile_sublist _).subset hq)
      refine .sequence ?_ ?_ (fun q hq => hmem q (List.mem_cons_of_mem r hq)) hp
      · exact fun q hq => h q ((List.takeWhile_sublist _).subset hq)
      · intro q hq
        obtain rfl : r = q := Option.mem_some.mp hq
        exact hmem r List.mem_cons_self

end Pattern

/-! ### Building -/

namespace Value

/-- The pattern that a value stands for is constructible. -/
theorem constructible_of_toPattern {v : Value} {p : Pattern} (hp : v.toPattern = .ok p) :
    p.Constructible := by
  induction v generalizing p with
  -- the items are constructible by induction, and they are split around no rest
  | seq items ih =>
    obtain ⟨ps, hps, hitems⟩ := exists_of_bind_eq_ok hp
    rw [toPatterns_eq_mapM] at hps
    exact .ofItems (forall_mem_of_mapM_eq_ok hps fun v hv p hp => ih v hv hp) hitems
  -- an entry keeps its key, and its pattern is constructible by induction
  | map entries ih =>
    obtain ⟨qs, hqs, heq⟩ := exists_of_bind_eq_ok hp
    obtain rfl : Pattern.mapping qs false = p := Except.ok.inj heq
    rw [toEntries_eq_mapM] at hqs
    exact .mapping false
      (forall_mem_of_mapM_eq_ok hqs fun e he q hq => (ih e he).2 (makeEntry_eq_ok hq))
  -- every other value is a literal
  | _ =>
    obtain rfl := Except.ok.inj hp
    exact .literal _

end Value

namespace Plain

/-- Plain data into which only constructible patterns have been mixed. -/
inductive Constructible : Plain → Prop
  | pattern {p : Pattern} : p.Constructible → Constructible (.pattern p)
  | seq {items : List Plain} : (∀ i ∈ items, Constructible i) → Constructible (.seq items)
  | map {entries : List (PlainKey × Plain)} : (∀ e ∈ entries, Constructible e.2) →
    Constructible (.map entries)
  | value (v : Value) : Constructible (.value v)
  | literal (lit : Literal) : Constructible (.literal lit)

/-- **Building makes constructible patterns** out of plain data that holds no others. -/
theorem Constructible.build {plain : Plain} {p : Pattern} (h : plain.Constructible)
    (hp : plain.build = .ok p) : p.Constructible := by
  induction h generalizing p with
  -- a pattern mixed in is taken as it is
  | pattern hq =>
    obtain rfl := Except.ok.inj hp
    exact hq
  | seq _ ih =>
    obtain ⟨ps, hps, hitems⟩ := exists_of_bind_eq_ok hp
    rw [buildAll_eq_mapM] at hps
    exact .ofItems (forall_mem_of_mapM_eq_ok hps fun i hi p hp => ih i hi hp) hitems
  | map _ ih =>
    obtain ⟨qs, hqs, heq⟩ := exists_of_bind_eq_ok hp
    obtain rfl := Except.ok.inj heq
    rw [buildEntries_eq_mapM] at hqs
    refine .mapping _ (forall_mem_of_mapM_eq_ok hqs fun e he q hq => ?_)
    -- a built entry comes from one under a proper key
    obtain ⟨e', he', hproper⟩ := List.mem_filterMap.mp he
    refine ih e' he' ?_
    rw [← snd_eq_of_properEntry? hproper]
    exact makeEntry_eq_ok hq
  | value v => exact Value.constructible_of_toPattern hp
  | literal lit =>
    obtain rfl := Except.ok.inj hp
    exact .literal lit

end Plain

end StructMatch
