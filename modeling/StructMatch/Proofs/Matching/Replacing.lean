import StructMatch.Proofs.Matching.Congruence
import StructMatch.Proofs.Matching.Runs
import StructMatch.Proofs.Pattern.WellFormed

/-!
# Specializing parts of a pattern

A pattern need not be specialized as a whole. `Pattern.specializeAt` specializes the parts of it
that stand at selected positions, at any depth, and makes the nodes around them anew, the sequences
with `Pattern.sequence` and the maps with `Pattern.mapping`.

A part may be replaced in this way if it can be specialized and has no flag (`Replaceable`). Such a
part is interchangeable with its program, so the nodes around it see no difference: the making of
them does not fail, since it only looks at flags, and the executions agree, node by node. The
induction is over well-formed patterns, because it has to know that the parts of a sequence and the
entries of a map are put back where they were.

For the same reason the positions of a pattern keep their meaning. At a selected position, unless
another one is selected on the way down to it, stands the program of the part that stood there
(`WellFormed.part?_specializeAt`, by induction on the position). The result,
`specialized_parts_preserve_runs`, puts the two together.
-/

namespace StructMatch

namespace Pattern

/-! ### Positions -/

/-- A step from a pattern down to one of its parts. -/
inductive Branch where
  | head (i : Nat)
  | middle
  | tail (i : Nat)
  | entry (i : Nat)
  | inner
  | item (i : Nat)
deriving DecidableEq, Repr

/-- The way from a pattern down to a part of it. -/
abbrev Position := List Branch

/-- The part one step down. -/
def branch? : Pattern → Branch → Option Pattern
  | .seq head _ _, .head i => head[i]?
  | .seq _ middle _, .middle => middle
  | .seq _ _ tail, .tail i => tail[i]?
  | .map entries _ _, .entry i => entries.entries[i]?.map (·.2)
  | .opt inner, .inner => some inner
  | .and items, .item i => items[i]?
  | .or items, .item i => items[i]?
  | _, _ => none

/-- The part at a position. -/
def part? (p : Pattern) : Position → Option Pattern
  | [] => some p
  | b :: path => (p.branch? b).bind fun q => q.part? path

/-- Positions that are selected. -/
abbrev Selection := Position → Bool

/-- The positions selected below a step, seen from there. -/
def Selection.below (chosen : Selection) (b : Branch) : Selection :=
  fun path => chosen (b :: path)

/-! ### Replacement -/

mutual

/-- Specialize the parts of a pattern at the selected positions and make the nodes around them anew.
A position that is selected below another one has no effect, since the part above it is replaced as
a whole. -/
def specializeAt (p : Pattern) (chosen : Selection) : Except PatternError Pattern :=
  if chosen [] then p.specialize
  else match p with
    | .seq head middle tail => do
      let head' ← specializeItems head fun i => chosen.below (.head i)
      let middle' ← specializeRest middle (chosen.below .middle)
      let tail' ← specializeItems tail fun i => chosen.below (.tail i)
      sequence head' middle' tail'
    | .map ⟨entries⟩ exact _ => do
      return mapping (← specializeEntries entries fun i => chosen.below (.entry i)) exact
    | .opt inner => return .opt (← specializeAt inner (chosen.below .inner))
    | .and items => return .and (← specializeItems items fun i => chosen.below (.item i))
    | .or items => return .or (← specializeItems items fun i => chosen.below (.item i))
    | q => return q
termination_by structural p

/-- Specialize parts of several patterns, each by a selection of its own. -/
def specializeItems : List Pattern → (Nat → Selection) → Except PatternError (List Pattern)
  | [], _ => return []
  | p :: ps, chosen => do
    let p' ← specializeAt p (chosen 0)
    let ps' ← specializeItems ps fun i => chosen (i + 1)
    return p' :: ps'
termination_by structural ps => ps

/-- Specialize parts of the pattern in a rest slot. -/
def specializeRest : Option Pattern → Selection → Except PatternError (Option Pattern)
  | none, _ => return none
  | some r, chosen => return some (← specializeAt r chosen)
termination_by structural r => r

/-- Specialize parts of the patterns of entries, each by a selection of its own. -/
def specializeEntries :
    List (Value × Pattern) → (Nat → Selection) → Except PatternError (List (Value × Pattern))
  | [], _ => return []
  | (k, p) :: es, chosen => do
    let p' ← specializeAt p (chosen 0)
    let es' ← specializeEntries es fun i => chosen (i + 1)
    return (k, p') :: es'
termination_by structural es => es

end

/-- The pattern has a program that can stand in for it. -/
structure Replaceable (p : Pattern) : Prop where
  unflagged : p.flags = .none
  specializes : ∃ c, p.specialize = .ok c

/-- Every part of the pattern that stands at a selected position is replaceable. -/
def Selection.AllReplaceable (chosen : Selection) (p : Pattern) : Prop :=
  ∀ path q, chosen path → p.part? path = some q → q.Replaceable

/-- What is selected below a part can be replaced there. -/
theorem Selection.AllReplaceable.below {chosen : Selection} {p q : Pattern} {b : Branch}
    (h : chosen.AllReplaceable p) (hb : p.branch? b = some q) :
    (chosen.below b).AllReplaceable q := by
  intro path r hchosen hr
  refine h (b :: path) r hchosen ?_
  rw [part?, hb]
  exact hr

/-- What is made of a pattern by replacing selected parts: the new pattern is interchangeable with
the old one, and unless it is a program as a whole, its parts are made of the old parts. -/
structure Rebuilt (p : Pattern) (chosen : Selection) (p' : Pattern) : Prop where
  made : p.specializeAt chosen = .ok p'
  interchangeable : p'.Interchangeable p
  parts : chosen [] = false → ∀ b q, p.branch? b = some q →
    ∃ q', q.specializeAt (chosen.below b) = .ok q' ∧ p'.branch? b = some q'

/-- Selected parts of the pattern can be replaced, as long as they are replaceable. -/
def Rebuilds (p : Pattern) : Prop :=
  ∀ chosen : Selection, chosen.AllReplaceable p → ∃ p', p.Rebuilt chosen p'

/-- A replaceable pattern is replaced as a whole, so only what happens below it is left to show. -/
theorem rebuilds_of_unselected {p : Pattern}
    (h : ∀ chosen : Selection, chosen [] = false → chosen.AllReplaceable p →
      ∃ p', p.Rebuilt chosen p') : p.Rebuilds := by
  intro chosen hchosen
  by_cases hroot : chosen []
  · -- the root is selected, and what stands there is the program of the pattern
    obtain ⟨hflags, c, hc⟩ := hchosen [] p hroot rfl
    have hmade : p.specializeAt chosen = .ok c := by
      unfold specializeAt
      rw [if_pos hroot]
      exact hc
    exact ⟨c, hmade, .specialize hflags hc, fun hnot => absurd hroot (Bool.eq_false_iff.mp hnot)⟩
  · exact h chosen (Bool.eq_false_iff.mpr hroot) hchosen

/-! ### Lists of parts -/

/-- Several patterns are rebuilt one by one, and each new one stands where the old one stood. -/
theorem exists_specializeItems {ps : List Pattern} (h : ∀ p ∈ ps, p.Rebuilds)
    {chosen : Nat → Selection} (hchosen : ∀ i p, ps[i]? = some p → (chosen i).AllReplaceable p) :
    ∃ ps', specializeItems ps chosen = .ok ps' ∧ List.Forall₂ Interchangeable ps' ps ∧
      ∀ (i : Nat) (p : Pattern), ps[i]? = some p →
        ∃ p', p.specializeAt (chosen i) = .ok p' ∧ ps'[i]? = some p' := by
  induction ps generalizing chosen with
  | nil => exact ⟨[], rfl, .nil, nofun⟩
  | cons p ps ih =>
    obtain ⟨hp, hps⟩ := List.forall_mem_cons.mp h
    obtain ⟨p', hp'⟩ := hp (chosen 0) (hchosen 0 p rfl)
    obtain ⟨ps', hps', hall, hat⟩ := ih hps fun i q hq => hchosen (i + 1) q hq
    refine ⟨p' :: ps', ?_, .cons hp'.interchangeable hall, fun i q hq => ?_⟩
    · -- the traversal does not stop, as none of its steps fails
      rw [specializeItems, hp'.made, hps']
      rfl
    · cases i with
      | zero =>
        obtain rfl : p = q := Option.some.inj hq
        exact ⟨p', hp'.made, rfl⟩
      | succ i => exact hat i q hq

/-- A rest slot is rebuilt, or there is none. -/
theorem exists_specializeRest {middle : Option Pattern} (h : ∀ r ∈ middle, r.Rebuilds)
    {chosen : Selection} (hchosen : ∀ r, middle = some r → chosen.AllReplaceable r) :
    ∃ middle', specializeRest middle chosen = .ok middle' ∧
      Option.Rel Interchangeable middle' middle ∧
      ∀ r, middle = some r → ∃ r', r.specializeAt chosen = .ok r' ∧ middle' = some r' := by
  cases middle with
  | none => exact ⟨none, rfl, .none, nofun⟩
  | some r =>
    obtain ⟨r', hr'⟩ := h r rfl chosen (hchosen r rfl)
    refine ⟨some r', ?_, .some hr'.interchangeable, fun q hq => ?_⟩
    · rw [specializeRest, hr'.made]
      rfl
    · obtain rfl : r = q := Option.some.inj hq
      exact ⟨r', hr'.made, rfl⟩

/-- The patterns of entries are rebuilt one by one under the same keys. -/
theorem exists_specializeEntries {es : List (Value × Pattern)} (h : ∀ e ∈ es, e.2.Rebuilds)
    {chosen : Nat → Selection} (hchosen : ∀ i e, es[i]? = some e → (chosen i).AllReplaceable e.2) :
    ∃ es', specializeEntries es chosen = .ok es' ∧ List.Forall₂ InterchangeableEntries es' es ∧
      ∀ (i : Nat) (e : Value × Pattern), es[i]? = some e →
        ∃ p', e.2.specializeAt (chosen i) = .ok p' ∧ es'[i]?.map (·.2) = some p' := by
  induction es generalizing chosen with
  | nil => exact ⟨[], rfl, .nil, nofun⟩
  | cons e es ih =>
    obtain ⟨he, hes⟩ := List.forall_mem_cons.mp h
    obtain ⟨p', hp'⟩ := he (chosen 0) (hchosen 0 e rfl)
    obtain ⟨es', hes', hall, hat⟩ := ih hes fun i f hf => hchosen (i + 1) f hf
    refine ⟨(e.1, p') :: es', ?_, .cons ⟨rfl, hp'.interchangeable⟩ hall, fun i f hf => ?_⟩
    · rw [specializeEntries, hp'.made, hes']
      rfl
    · cases i with
      | zero =>
        obtain rfl : e = f := Option.some.inj hf
        exact ⟨p', hp'.made, rfl⟩
      | succ i => exact hat i f hf

/-! ### Nodes -/

/-- A sequence is made anew from its rebuilt parts, which have the flags that the old ones had; so
its making does not fail and puts each where it was. -/
theorem Rebuilds.seq {head : List Pattern} {middle : Option Pattern} {tail : List Pattern}
    (hparts : PartsInOrder head middle tail) (hhead : ∀ q ∈ head, q.Rebuilds)
    (hmiddle : ∀ r ∈ middle, r.Rebuilds) (htail : ∀ q ∈ tail, q.Rebuilds) :
    (Pattern.seq head middle tail).Rebuilds := by
  refine rebuilds_of_unselected fun chosen hroot hchosen => ?_
  obtain ⟨head', hhead', hheads, hheadAt⟩ := exists_specializeItems hhead fun i q hq =>
    hchosen.below (b := .head i) hq
  obtain ⟨middle', hmiddle', hmiddles, hmiddleAt⟩ := exists_specializeRest hmiddle fun r hr =>
    hchosen.below (b := .middle) hr
  obtain ⟨tail', htail', htails, htailAt⟩ := exists_specializeItems htail fun i q hq =>
    hchosen.below (b := .tail i) hq
  refine ⟨.seq head' middle' tail', ?_, .seq hheads hmiddles htails, fun _ b q hb => ?_⟩
  · -- the making looks at the rest flags only, and these are where they were
    have hparts' : PartsInOrder head' middle' tail' :=
      hparts.of_forall₂ Interchangeable.isRest_eq hheads hmiddles htails
    rw [specializeAt, hroot, if_neg Bool.false_ne_true, hhead', hmiddle', htail']
    show sequence head' middle' tail' = .ok (.seq head' middle' tail')
    exact hparts'.sequence_eq_ok
  · cases b with
    | head i => exact hheadAt i q hb
    | middle => exact hmiddleAt q hb
    | tail i => exact htailAt i q hb
    | _ => cases hb

/-- A map is made anew from its rebuilt entries. Their keys are distinct and as many of them are
required, so it is the old map with new patterns. -/
theorem Rebuilds.map {entries : Assoc Value Pattern} (hkeys : entries.DistinctKeys) (exact : Bool)
    (hentries : ∀ e ∈ entries.entries, e.2.Rebuilds) :
    (Pattern.map entries exact (requiredCount entries.entries)).Rebuilds := by
  obtain ⟨es⟩ := entries
  refine rebuilds_of_unselected fun chosen hroot hchosen => ?_
  obtain ⟨es', hes', hall, hat⟩ := exists_specializeEntries hentries fun i e he =>
    hchosen.below (b := .entry i) (by rw [branch?, he]; rfl)
  refine ⟨.map ⟨es'⟩ exact (requiredCount es), ?_, .map hall exact _, fun _ b q hb => ?_⟩
  · -- the keys are what they were, so no entry is merged with another
    have hkeys' : (⟨es'⟩ : Assoc Value Pattern).DistinctKeys := by
      unfold Assoc.DistinctKeys
      rw [Assoc.keys_eq_of_forall₂ And.left hall]
      exact hkeys
    have hcount : requiredCount es' = requiredCount es := requiredCount_congr hall
    rw [specializeAt, hroot, if_neg Bool.false_ne_true, hes']
    show Except.ok (mapping es' exact) = .ok (.map ⟨es'⟩ exact (requiredCount es))
    rw [← hcount, ← mapping_eq_of_distinctKeys hkeys' exact]
  · cases b with
    | entry i =>
      obtain ⟨e, he, rfl⟩ := Option.map_eq_some_iff.mp hb
      exact hat i e he
    | _ => cases hb

/-- An optional pattern is rebuilt around what it holds. -/
theorem Rebuilds.opt {inner : Pattern} (h : inner.Rebuilds) : (Pattern.opt inner).Rebuilds := by
  refine rebuilds_of_unselected fun chosen hroot hchosen => ?_
  obtain ⟨inner', hinner'⟩ := h _ (hchosen.below (b := .inner) rfl)
  refine ⟨.opt inner', ?_, .opt hinner'.interchangeable, fun _ b q hb => ?_⟩
  · rw [specializeAt, hroot, if_neg Bool.false_ne_true, hinner'.made]
    rfl
  · cases b with
    | inner =>
      obtain rfl : inner = q := Option.some.inj hb
      exact ⟨inner', hinner'.made, rfl⟩
    | _ => cases hb

/-- A conjunction is rebuilt around its items. -/
theorem Rebuilds.and {items : List Pattern} (h : ∀ q ∈ items, q.Rebuilds) :
    (Pattern.and items).Rebuilds := by
  refine rebuilds_of_unselected fun chosen hroot hchosen => ?_
  obtain ⟨items', hitems', hall, hat⟩ := exists_specializeItems h fun i q hq =>
    hchosen.below (b := .item i) hq
  refine ⟨.and items', ?_, .and hall, fun _ b q hb => ?_⟩
  · rw [specializeAt, hroot, if_neg Bool.false_ne_true, hitems']
    rfl
  · cases b with
    | item i => exact hat i q hb
    | _ => cases hb

/-- A disjunction is rebuilt around its items. -/
theorem Rebuilds.or {items : List Pattern} (h : ∀ q ∈ items, q.Rebuilds) :
    (Pattern.or items).Rebuilds := by
  refine rebuilds_of_unselected fun chosen hroot hchosen => ?_
  obtain ⟨items', hitems', hall, hat⟩ := exists_specializeItems h fun i q hq =>
    hchosen.below (b := .item i) hq
  refine ⟨.or items', ?_, .or hall, fun _ b q hb => ?_⟩
  · rw [specializeAt, hroot, if_neg Bool.false_ne_true, hitems']
    rfl
  · cases b with
    | item i => exact hat i q hb
    | _ => cases hb

/-- In a well-formed pattern replaceable parts can be replaced, wherever they stand. -/
theorem WellFormed.rebuilds {p : Pattern} (hp : p.WellFormed) : p.Rebuilds := by
  induction hp with
  | seq hparts _ _ _ ihHead ihMiddle ihTail => exact .seq hparts ihHead ihMiddle ihTail
  | map hkeys hrequired _ ih =>
    subst hrequired
    exact .map hkeys _ ih
  | opt _ ih => exact .opt ih
  | and _ ih => exact .and ih
  | or _ ih => exact .or ih
  | literal | any | named | rest | compiled =>
    -- nothing stands below these
    refine rebuilds_of_unselected fun chosen hroot _ => ⟨_, ?_, .refl _, fun _ b q hb => ?_⟩
    · unfold specializeAt
      rw [hroot]
      rfl
    · cases hb

/-! ### What stands at the selected positions -/

/-- The position is selected, and no position on the way down to it is. -/
def Selection.Outermost (chosen : Selection) (path : Position) : Prop :=
  chosen path ∧ ∀ above, above <+: path → above ≠ path → chosen above = false

/-- Nothing is selected above an outermost position. -/
theorem Selection.Outermost.root {chosen : Selection} {b : Branch} {path : Position}
    (h : chosen.Outermost (b :: path)) : chosen [] = false :=
  h.2 [] List.nil_prefix (List.cons_ne_nil b path).symm

/-- An outermost position is outermost below each step that leads to it. -/
theorem Selection.Outermost.below {chosen : Selection} {b : Branch} {path : Position}
    (h : chosen.Outermost (b :: path)) : (chosen.below b).Outermost path := by
  refine ⟨h.1, fun above hprefix hne => ?_⟩
  refine h.2 (b :: above) (List.cons_prefix_cons.mpr ⟨rfl, hprefix⟩) fun heq => hne ?_
  exact List.cons.inj heq |>.2

/-- The parts of a well-formed pattern are well formed, one step down. -/
theorem WellFormed.of_branch? {p q : Pattern} {b : Branch} (hp : p.WellFormed)
    (hb : p.branch? b = some q) : q.WellFormed := by
  cases hp with
  | seq _ hhead hmiddle htail =>
    cases b with
    | head i => exact hhead q (List.mem_of_getElem? hb)
    | middle => exact hmiddle q hb
    | tail i => exact htail q (List.mem_of_getElem? hb)
    | _ => cases hb
  | map _ _ hentries =>
    cases b with
    | entry i =>
      obtain ⟨e, he, rfl⟩ := Option.map_eq_some_iff.mp hb
      exact hentries e (List.mem_of_getElem? he)
    | _ => cases hb
  | opt hinner =>
    cases b with
    | inner =>
      obtain rfl := Option.some.inj hb
      exact hinner
    | _ => cases hb
  | and hitems =>
    cases b with
    | item i => exact hitems q (List.mem_of_getElem? hb)
    | _ => cases hb
  | or hitems =>
    cases b with
    | item i => exact hitems q (List.mem_of_getElem? hb)
    | _ => cases hb
  | literal | any | named | rest | compiled => cases hb

/-- The parts at the outermost selected positions have given way to their programs. -/
theorem WellFormed.part?_specializeAt {p p' q : Pattern} {chosen : Selection} {path : Position}
    (hp : p.WellFormed) (hchosen : chosen.AllReplaceable p) (h : p.specializeAt chosen = .ok p')
    (hpath : chosen.Outermost path) (hq : p.part? path = some q) :
    ∃ c, q.specialize = .ok c ∧ p'.part? path = some c := by
  induction path generalizing p p' chosen with
  -- the position itself: the whole pattern was specialized
  | nil =>
    obtain rfl : p = q := Option.some.inj hq
    unfold specializeAt at h
    rw [if_pos hpath.1] at h
    exact ⟨p', h, rfl⟩
  -- one step down, where the part was made from the part that stood there
  | cons b path ih =>
    obtain ⟨r, hr, hq⟩ := Option.bind_eq_some_iff.mp hq
    obtain ⟨p₁, hp₁⟩ := hp.rebuilds chosen hchosen
    obtain rfl : p₁ = p' := Except.ok.inj (hp₁.made.symm.trans h)
    obtain ⟨r', hr', hb⟩ := hp₁.parts hpath.root b r hr
    obtain ⟨c, hc, hat⟩ := ih (hp.of_branch? hr) (hchosen.below hr) hr' hpath.below hq
    refine ⟨c, hc, ?_⟩
    rw [part?, hb]
    exact hat

/-! ### The result -/

/-- **Specialized parts compose.** In a constructible pattern, let any parts be selected that have
no flag and can be specialized, at whatever depth. Replacing them by their programs and making the
nodes around them anew succeeds, and their programs stand where they stood. The new pattern has the
flags of the old one. From the same captures, both return the same verdict on every subject and end
in the same state, with the same captures and the same predicate calls. -/
theorem specialized_parts_preserve_runs {p : Pattern} (hp : p.Constructible) {chosen : Selection}
    (hchosen : chosen.AllReplaceable p) :
    ∃ p', p.specializeAt chosen = .ok p' ∧ p'.flags = p.flags ∧
      (∀ path q, chosen.Outermost path → p.part? path = some q →
        ∃ c, q.specialize = .ok c ∧ p'.part? path = some c) ∧
      ∀ captures v, ∃ ok s, p.run v captures = .ok (ok, s) ∧ p'.run v captures = .ok (ok, s) := by
  obtain ⟨p', hp'⟩ := hp.wellFormed.rebuilds chosen hchosen
  have hsame : p'.Interchangeable p := hp'.interchangeable
  refine ⟨p', hp'.made, hsame.flags_eq, fun path q hpath hq => ?_, fun captures v => ?_⟩
  · exact hp.wellFormed.part?_specializeAt hchosen hp'.made hpath hq
  · -- the two executions are one computation, and that of `p` comes to an end
    have hsameRun : p'.run v captures = p.run v captures := by rw [run, run, hsame.execute_eq]
    have hrun := hp.run_eq_outcome v captures
    exact ⟨_, _, hrun, hsameRun.trans hrun⟩

/-- A conjunction in front, the capture in the rest slot, and the whole second try of `twoTries`.
The rest slot itself has a flag and is left out. -/
def threeParts : Selection :=
  fun path => path ∈ [[.item 0, .head 0], [.item 0, .middle, .item 1], [.item 1]]

theorem allReplaceable_threeParts (p : Predicate) : threeParts.AllReplaceable (twoTries p) := by
  intro path q hpath hq
  simp only [threeParts, List.mem_cons, List.not_mem_nil, or_false, decide_eq_true_eq] at hpath
  -- each of the three positions names one part, and each part has a program
  rcases hpath with rfl | rfl | rfl <;> cases hq <;> exact ⟨rfl, _, rfl⟩

/-- The theorem at three parts of a pattern, at different depths. -/
theorem specialized_parts_preserve_runs_of_threeParts :
    ∃ p', (twoTries ⟨"any", fun _ => true⟩).specializeAt threeParts = .ok p' ∧
      p'.flags = (twoTries ⟨"any", fun _ => true⟩).flags ∧
      (∀ path q, threeParts.Outermost path →
        (twoTries ⟨"any", fun _ => true⟩).part? path = some q →
        ∃ c, q.specialize = .ok c ∧ p'.part? path = some c) ∧
      ∀ captures v, ∃ ok s, (twoTries ⟨"any", fun _ => true⟩).run v captures = .ok (ok, s) ∧
        p'.run v captures = .ok (ok, s) :=
  specialized_parts_preserve_runs (constructible_twoTries _) (allReplaceable_threeParts _)

end Pattern

end StructMatch
