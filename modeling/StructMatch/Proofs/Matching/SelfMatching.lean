import StructMatch.Proofs.Matching.Frame
import StructMatch.Proofs.Matching.Lifting
import StructMatch.Proofs.Program.Refusal

/-!
# Data as a pattern for itself

A value can be built into a pattern and then matched against itself. It matches exactly if no word
in it fails to be a number, at any depth and in keys as well, and whether or not it matches, nothing
is bound on the way.

If the value has no such word, it agrees with itself, and so the pattern that represents it holds of
it. If it has one, the pattern comes upon it (`MadeFrom.nanFree_of_holds`). In a scalar the word is
compared with itself. In a key it keeps the key from being found, because the entry of the pattern
looks for its own key and nothing equals that. And what hides in the value of an entry is met
because the entry that is found under a key is the one that the pattern was made from: no other key
of the map equals it.

A pattern made from data is data all through, so it holds no node that binds, calls a predicate or
is a program (`MadeFrom.data`). It can therefore be specialized and has no effects.
-/

namespace StructMatch

namespace Pattern

/-- The pattern is a stored value, a sequence or a map. -/
def isData : Pattern → Bool
  | .literal (.value _) => true
  | .seq _ _ _ => true
  | .map _ _ _ => true
  | _ => false

section Data

variable {p : Pattern} (h : ∀ q : Pattern, q.OccursIn p → q.isData)
include h

/-- Data has no effects: an effect would come from a node that binds or calls. -/
theorem effects_eq_nil_of_isData (v : Value) : (p.outcome v).effects = [] := by
  refine List.eq_nil_iff_forall_not_mem.mpr fun e he => ?_
  have hframed := p.framed v e he
  cases e with
  | bound key w => exact absurd (h _ hframed.1) Bool.false_ne_true
  | called call => exact absurd (h _ hframed.1) Bool.false_ne_true

/-- Data holds no programs. -/
theorem programFree_of_isData : p.ProgramFree := by
  intro q hq
  have hdata : q.isData := h q hq
  cases q with
  | compiled _ _ _ _ => cases hdata
  | _ => rfl

end Data

end Pattern

namespace Value

/-- The pattern is data all through, and if it holds of the value then no word in the value fails to
be a number. -/
structure MadeFrom (v : Value) (p : Pattern) : Prop where
  unflagged : p.flags = .none
  data : ∀ q : Pattern, q.OccursIn p → q.isData
  nanFree_of_holds : p.Holds v → v.NaNFree

/-- Scalars have no parts that could be ill made. -/
theorem constructible_of_isScalar {v : Value} (hv : v.isScalar) : v.Constructible := by
  cases v with
  | seq _ | map _ => cases hv
  | _ => constructor

/-- A scalar is compared with itself, and only a word that is not a number fails that. -/
theorem madeFrom_literal {v : Value} (hv : v.isScalar) : MadeFrom v (.literal (.value v)) where
  unflagged := rfl
  data := by
    rintro q ⟨⟩
    rfl
  nanFree_of_holds hholds := (agrees_self_iff (constructible_of_isScalar hv)).mp hholds

/-- The items of a sequence are met one by one, each by its own pattern. -/
theorem MadeFrom.seq {items : List Value} {ps : List Pattern}
    (h : List.Forall₂ MadeFrom items ps) : MadeFrom (.seq items) (.seq ps none []) where
  unflagged := rfl
  data := by
    rintro q (_ | ⟨hmem, hq⟩ | _ | ⟨hmem, -⟩)
    · rfl
    · obtain ⟨x, -, hpart⟩ := exists_mem_of_forall₂ h.flip _ hmem
      exact hpart.data q hq
    · cases hmem
  nanFree_of_holds hholds := by
    obtain ⟨ys, hys, hparts⟩ := holds_items_iff.mp hholds
    obtain rfl := Value.seq.inj hys
    refine nanFree_seq_iff.mpr fun x hx => ?_
    -- the pattern of an item was made from that item and holds of it
    have hfree : List.Forall₂ (fun _ x => x.NaNFree) ps items :=
      h.flip.mp (fun _ _ hpart hx => hpart.nanFree_of_holds hx) hparts
    obtain ⟨p, -, hfree⟩ := exists_mem_of_forall₂ hfree.flip x hx
    exact hfree

/-- The entries of a map are met under their own keys, so that the keys are compared with
themselves. -/
theorem MadeFrom.map {m : ValueMap} {qs : List (Value × Pattern)} (hm : m.DistinctKeys)
    (h : List.Forall₂ (fun e q => q.1 = e.1 ∧ MadeFrom e.2 q.2) m.entries qs) (required : ℕ) :
    MadeFrom (.map m) (.map ⟨qs⟩ false required) where
  unflagged := rfl
  data := by
    rintro q (_ | _ | _ | _ | ⟨hmem, hq⟩)
    · rfl
    · obtain ⟨e, -, -, hpart⟩ := exists_mem_of_forall₂ h.flip _ hmem
      exact hpart.data q hq
  nanFree_of_holds hholds := by
    obtain ⟨hentries, -⟩ := Pattern.holds_map_iff.mp hholds
    refine nanFree_map_iff.mpr fun e he => ?_
    obtain ⟨q, hq, hkey, hpart⟩ := exists_mem_of_forall₂ h e he
    rcases hentries q hq with ⟨f, hf, hfq, hvalue⟩ | ⟨-, hopt⟩
    · rw [hkey] at hfq
      have hself : e.1 == e.1 := BEq.trans (BEq.symm hfq) hfq
      -- keys are distinct, so the entry found is the one that was looked for
      have hfound : m.get? e.1 = some f.2 := hm.get?_eq_some hf hfq
      rw [hm.get?_eq_some he hself, Option.some.injEq] at hfound
      rw [← hfound] at hvalue
      exact ⟨equal_self_iff.mp hself, hpart.nanFree_of_holds hvalue⟩
    · -- no pattern of a lift is optional, so the entry was not passed over
      rw [Pattern.isOpt, hpart.unflagged] at hopt
      cases hopt

/-- Every value lifts to data that is made from it. -/
theorem exists_madeFrom {v : Value} (hv : v.Constructible) :
    ∃ p, v.toPattern = .ok p ∧ MadeFrom v p :=
  lift_toPattern.exists_of_parts (fun _ _ h => h.unflagged) (fun _ => madeFrom_literal)
    (fun _ _ => .seq) (fun _ _ hm h => .map hm h _) hv

/-- **Data matches itself exactly if it is free of words that are not a number.** Every value builds
into a pattern, which has no flag and can be specialized. The pattern and its program return the
same verdict on the value, a success if and only if no word in it fails to be a number, at any depth
and in keys as well. Whatever the verdict, a run binds nothing and calls no predicate. -/
theorem data_matches_itself_iff_nanFree {v : Value} (hv : v.Constructible) :
    ∃ p c, (Plain.value v).build = .ok p ∧ p.isRest = false ∧ p.isOpt = false ∧
      p.specialize = .ok c ∧
      (∀ captures, ∃ ok, p.run v captures = .ok (ok, .start captures) ∧
        c.run v captures = .ok (ok, .start captures) ∧ (ok ↔ v.NaNFree)) ∧
      (p.matches? v = .ok (some .empty) ↔ v.NaNFree) ∧
      (c.matches? v = .ok (some .empty) ↔ v.NaNFree) := by
  obtain ⟨p, hp, hmade⟩ := exists_madeFrom hv
  obtain ⟨p', hp', hrep⟩ := lift_toPattern.exists_represents hv
  obtain rfl : p = p' := Except.ok.inj (hp.symm.trans hp')
  obtain ⟨c, hc⟩ := (Pattern.programFree_of_isData hmade.data).exists_specialize
  have hconstructible : p.Constructible := constructible_of_toPattern hp
  -- the pattern holds of the value just if the value agrees with itself
  have hok : (p.outcome v).ok ↔ v.NaNFree := by
    rw [hconstructible.hasMeaning v hv]
    exact ⟨hmade.nanFree_of_holds,
      fun hfree => hrep.holds_of_agrees v hv ((agrees_self_iff hv).mpr hfree)⟩
  -- without effects a run ends in the captures that it was given
  have hrun : ∀ captures, p.run v captures = .ok ((p.outcome v).ok, .start captures) := by
    intro captures
    rw [hconstructible.run_eq_outcome, Pattern.effects_eq_nil_of_isData hmade.data,
      MatchState.after_nil]
  have hmatches : p.matches? v = .ok (some .empty) ↔ v.NaNFree := by
    rw [Pattern.matches?, hrun, ← hok]
    cases (p.outcome v).ok with
    | true => exact iff_of_true rfl rfl
    | false =>
      refine iff_of_false (fun h => ?_) Bool.false_ne_true
      cases h
  -- what holds of the pattern holds of its program, as their runs are the same
  have hprogram : c.matches? v = p.matches? v := by
    rw [Pattern.matches?, Pattern.matches?, Pattern.run_specialize hc]
  refine ⟨p, c, hp, ?_, ?_, hc, fun captures => ⟨_, hrun captures, ?_, hok⟩, hmatches, ?_⟩
  · rw [Pattern.isRest, hmade.unflagged]
    rfl
  · rw [Pattern.isOpt, hmade.unflagged]
    rfl
  · rw [Pattern.run_specialize hc, hrun]
  · rw [hprogram, hmatches]

/-- A map with one entry, whose key is a sequence. -/
def keyedBy (x : Binary64) : Value :=
  .map (.ofList [(.seq [.float x], .bool true)])

theorem constructible_keyedBy (x : Binary64) : (keyedBy x).Constructible := by
  have hkey : Value.Constructible (.seq [.float x]) :=
    .seq (List.forall_mem_singleton.mpr (.float x))
  exact .map (List.forall_mem_singleton.mpr hkey) (List.forall_mem_singleton.mpr (.bool true))

/-- The theorem at a map with one and a half in a key, and with a word in its place that is not a
number. -/
theorem data_matches_itself_iff_nanFree_of_keyedBy :
    (∃ p, (Plain.value (keyedBy ⟨0x3ff8000000000000⟩)).build = .ok p ∧
      p.matches? (keyedBy ⟨0x3ff8000000000000⟩) = .ok (some .empty)) ∧
    ∃ p, (Plain.value (keyedBy .canonicalNaN)).build = .ok p ∧
      p.matches? (keyedBy .canonicalNaN) ≠ .ok (some .empty) := by
  obtain ⟨p, -, hp, -, -, -, -, hmatches, -⟩ :=
    data_matches_itself_iff_nanFree (constructible_keyedBy ⟨0x3ff8000000000000⟩)
  obtain ⟨q, -, hq, -, -, -, -, hmatches', -⟩ :=
    data_matches_itself_iff_nanFree (constructible_keyedBy .canonicalNaN)
  refine ⟨⟨p, hp, hmatches.mpr ?_⟩, q, hq, fun h => ?_⟩
  · have hfloat : Value.NaNFree (.float ⟨0x3ff8000000000000⟩) := .float (by decide)
    exact nanFree_map_iff.mpr (List.forall_mem_singleton.mpr
      ⟨.seq (List.forall_mem_singleton.mpr hfloat), .bool true⟩)
  · have hkey := (nanFree_map_iff.mp (hmatches'.mp h) _ List.mem_cons_self).1
    have hfloat := nanFree_seq_iff.mp hkey _ List.mem_cons_self
    exact absurd (nanFree_float_iff.mp hfloat) (by decide)

end Value

end StructMatch
