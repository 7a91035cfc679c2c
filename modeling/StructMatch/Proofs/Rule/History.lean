import Mathlib.Data.Finset.Card
import Mathlib.Data.String.Basic
import StructMatch.Rule.Cache

/-!
# A cache and the history of its requests

Every answer of a rule cache is settled by the requests made before. For one name the history says
all there is to know: the first definition that came with a request for it and did not fail has made
its rule (`firstBuilt?`). Requests that came earlier failed, those that came later were answered
with this rule and their definitions were not run. `expected` is the answer by this account, for
every kind of request, together with the runs of definitions that are made for it, and a cache that
starts out empty gives this answer to each request of any list.

The invariant that carries the proof is `Reflects`. A cell of the cache stands in one of three
states: there is none, because the name has not been requested; it is empty, because all definitions
so far have failed; or it holds the first rule. The three counts that clients see differ in these
states: names are listed as soon as there is a cell, but only rules are found and counted.

That requests for different names do not interfere is a statement about two runs. Deleting all
requests about other names from the list does not change the answers about this one, because both
runs reflect histories with the same first rule for it.
-/

namespace StructMatch.RuleCache

variable {ρ γ : Type}

/-! ### Requests and answers -/

/-- What a client asks of a cache. -/
inductive Request (ρ γ : Type) where
  | apply (name : String) (v : Value) (context : γ) (definition : Definition ρ γ)
  | rule (name : String) (definition : Definition ρ γ)
  | get (name : String)
  | contains (name : String)
  | size

/-- What a cache answers. -/
inductive Answer (ρ γ : Type) where
  | applied (outcome : Requested ρ γ (Except Fault (Option ρ × List Call)))
  | requested (outcome : Requested ρ γ (Rule ρ γ))
  | found (kept : Option (Rule ρ γ))
  | contained (isKept : Bool)
  | counted (size : Nat)

/-- Answer one request. Only requests that come with a definition change the cache. -/
def perform (c : RuleCache ρ γ) : Request ρ γ → Answer ρ γ × RuleCache ρ γ
  | .apply name v context definition =>
    let (outcome, c') := c.apply name v context definition
    (.applied outcome, c')
  | .rule name definition =>
    let (outcome, c') := c.rule name definition
    (.requested outcome, c')
  | .get name => (.found (c.get? name), c)
  | .contains name => (.contained (c.contains name), c)
  | .size => (.counted c.size, c)

/-- Requests in order, each with its answer. -/
def transcript (c : RuleCache ρ γ) : List (Request ρ γ) → List (Request ρ γ × Answer ρ γ)
  | [] => []
  | q :: qs => (q, (c.perform q).1) :: (c.perform q).2.transcript qs

/-- The cache after some requests. -/
def after (c : RuleCache ρ γ) (requests : List (Request ρ γ)) : RuleCache ρ γ :=
  requests.foldl (fun c q => (c.perform q).2) c

namespace Request

/-- The name that a request is about. -/
def name? : Request ρ γ → Option String
  | .apply name _ _ _ => some name
  | .rule name _ => some name
  | .get name => some name
  | .contains name => some name
  | .size => none

/-- The definition that comes with a request, and the name it is for. -/
def definition? : Request ρ γ → Option (String × Definition ρ γ)
  | .apply name _ _ definition => some (name, definition)
  | .rule name definition => some (name, definition)
  | _ => none

/-- The rule for a name that the definition of a request makes. -/
def build? (options : Options) (name : String) (q : Request ρ γ) : Option (Rule ρ γ) :=
  match q.definition? with
  | some (n, definition) => if n = name then (definition options).toOption else none
  | none => none

/-- A request about another name makes no rule for this one. -/
theorem build?_eq_none_of_ne {q : Request ρ γ} {name : String} (h : q.name? ≠ some name)
    (options : Options) : q.build? options name = none := by
  cases q with
  -- its definition is for the name it is about
  | apply n _ _ _ | rule n _ => exact if_neg fun hn => h (congrArg some hn)
  -- no definition comes with it
  | get _ | contains _ | size => rfl

end Request

/-! ### The account of a history -/

/-- The names for which rules have been requested. -/
def requestedNames (history : List (Request ρ γ)) : List String :=
  history.filterMap fun q => q.definition?.map (·.1)

/-- The rule for a name that was made first. -/
def firstBuilt? (options : Options) (name : String) (history : List (Request ρ γ)) :
    Option (Rule ρ γ) :=
  history.findSome? (Request.build? options name)

/-- The names for which a rule was made. -/
def builtNames (options : Options) (history : List (Request ρ γ)) : Finset String :=
  (requestedNames history).toFinset.filter fun name => (firstBuilt? options name history).isSome

/-- The outcome of a request for a rule: the rule made first, and no definition is run; or else what
the definition makes, in one run of it. -/
def expectedRule (options : Options) (history : List (Request ρ γ)) (name : String)
    (definition : Definition ρ γ) : Requested ρ γ (Rule ρ γ) :=
  match firstBuilt? options name history with
  | some r => ⟨.ok r, []⟩
  | none => ⟨definition options, [⟨name, definition⟩]⟩

/-- The answer to a request, by the requests before it. -/
def expected (options : Options) (history : List (Request ρ γ)) : Request ρ γ → Answer ρ γ
  | .apply name v context definition =>
    let outcome := expectedRule options history name definition
    .applied ⟨outcome.result.map fun r => r.apply v context, outcome.runs⟩
  | .rule name definition => .requested (expectedRule options history name definition)
  | .get name => .found (firstBuilt? options name history)
  | .contains name => .contained (firstBuilt? options name history).isSome
  | .size => .counted (builtNames options history).card

variable {options : Options} {history : List (Request ρ γ)}

/-- One more request matters only as long as no rule has been made. -/
theorem firstBuilt?_append (name : String) (q : Request ρ γ) :
    firstBuilt? options name (history ++ [q])
      = (firstBuilt? options name history).or (q.build? options name) := by
  rw [firstBuilt?, firstBuilt?, List.findSome?_append, List.findSome?_singleton]

/-- A rule was made only for a name that was requested. -/
theorem mem_requestedNames_of_firstBuilt? {name : String} {r : Rule ρ γ}
    (h : firstBuilt? options name history = some r) : name ∈ requestedNames history := by
  obtain ⟨q, hq, hbuild⟩ := List.exists_of_findSome?_eq_some h
  refine List.mem_filterMap.mpr ⟨q, hq, ?_⟩
  unfold Request.build? at hbuild
  split at hbuild
  · next n definition hdefinition =>
    rw [hdefinition, Option.map_some]
    split at hbuild
    · next hname => exact congrArg some hname
    · cases hbuild
  · cases hbuild

/-- What is expected depends on the history through the first rule for the name only. -/
theorem expected_congr {history' : List (Request ρ γ)} {q : Request ρ γ} {name : String}
    (hname : q.name? = some name)
    (hsame : firstBuilt? options name history = firstBuilt? options name history') :
    expected options history q = expected options history' q := by
  cases q with
  -- the count is about all names, and it is excluded
  | size => cases hname
  | _ =>
    obtain rfl := Option.some.inj hname
    simp only [expected, expectedRule, hsame]

/-! ### One request -/

/-- The cache with a cell for the name, an empty one if there was none. -/
def touch (c : RuleCache ρ γ) (name : String) : RuleCache ρ γ :=
  { c with cells := c.cells.insertIfNew name none }

/-- The name has a cell now, with what is found under it, and the other cells are as before. -/
theorem getElem?_cells_touch (c : RuleCache ρ γ) (name n : String) :
    (c.touch name).cells[n]? = if name = n then some (c.get? name) else c.cells[n]? := by
  rw [touch, Std.HashMap.getElem?_insertIfNew]
  by_cases hname : name = n
  · subst hname
    -- a cell that was there stays, and one that is new holds what is found without one
    by_cases hmem : name ∈ c.cells
    · simp [get?, hmem]
    · simp [get?, hmem]
  · simp [hname]

/-- A new cell holds no rule. -/
theorem get?_touch (c : RuleCache ρ γ) (name n : String) : (c.touch name).get? n = c.get? n := by
  rw [get?, getElem?_cells_touch]
  split
  · next hname => rw [← hname]; rfl
  · rfl

/-- **A request for a rule.** A rule that is kept answers. Without one the definition is run, once,
and what it has made is kept. -/
theorem rule_eq (c : RuleCache ρ γ) (name : String) (definition : Definition ρ γ) :
    c.rule name definition = match c.get? name with
      | some r => (⟨.ok r, []⟩, c.touch name)
      | none => match definition c.options with
        | .ok r => (⟨.ok r, [⟨name, definition⟩]⟩,
            { c with cells := (c.touch name).cells.insert name (some r) })
        | .error e => (⟨.error e, [⟨name, definition⟩]⟩, c.touch name) := by
  -- what the request does is to see to the cell and then to look into it
  have hrun : (CacheM.rule name definition).run ⟨c, []⟩ =
      (match (c.touch name).get? name with
        | some r => pure (.ok r)
        | none => CacheM.make name definition : CacheM ρ γ _).run ⟨c.touch name, []⟩ := rfl
  rw [get?_touch] at hrun
  rw [rule, request, hrun]
  cases c.get? name with
  -- the rule that is kept answers, and the run ends here
  | some r => rfl
  | none =>
    -- the definition is run for the options of the cache, which the new cell has not changed
    have hoptions : (c.touch name).options = c.options := rfl
    simp only [CacheM.make, CacheM.runDefinition, StateT.run_bind, StateT.run_modifyGet, hoptions]
    cases definition c.options <;> rfl

/-- The answer alone: the rule that is kept, or what the definition makes in its one run. -/
theorem fst_rule (c : RuleCache ρ γ) (name : String) (definition : Definition ρ γ) :
    (c.rule name definition).1 = match c.get? name with
      | some r => ⟨.ok r, []⟩
      | none => ⟨definition c.options, [⟨name, definition⟩]⟩ := by
  rw [rule_eq]
  cases c.get? name with
  | some r => rfl
  | none =>
    dsimp only
    cases definition c.options <;> rfl

/-- The options of a cache are settled when it is made. -/
theorem options_rule (c : RuleCache ρ γ) (name : String) (definition : Definition ρ γ) :
    (c.rule name definition).2.options = c.options := by
  rw [rule_eq]
  cases c.get? name with
  | some r => rfl
  | none =>
    dsimp only
    cases definition c.options <;> rfl

/-- Afterwards the name has a cell, with the rule that was kept or else with what the definition has
made, and the cells of other names are as before. -/
theorem getElem?_cells_rule (c : RuleCache ρ γ) (name : String) (definition : Definition ρ γ)
    (n : String) :
    (c.rule name definition).2.cells[n]? =
      if name = n then some ((c.get? name).or (definition c.options).toOption)
      else c.cells[n]? := by
  rw [rule_eq]
  cases hkept : c.get? name with
  | some r => rw [getElem?_cells_touch, hkept]; rfl
  | none =>
    dsimp only
    cases definition c.options with
    -- a failed definition leaves the empty cell behind
    | error e => rw [getElem?_cells_touch, hkept]; rfl
    -- the rule goes into the cell that is already there
    | ok r =>
      rw [Std.HashMap.getElem?_insert, getElem?_cells_touch, hkept]
      by_cases hname : name = n <;> simp [hname, Except.toOption]

/-! ### The names -/

/-- **The names are listed in strict order**, whatever order the table of the cells has. -/
theorem pairwise_names (c : RuleCache ρ γ) : c.names.Pairwise (· < ·) := by
  -- sorting orders them, and no two names are the same because they are the keys of a table
  have hsorted : c.names.Pairwise fun s t => decide (s ≤ t) :=
    List.pairwise_mergeSort
      (fun _ _ _ hst htu => decide_eq_true ((of_decide_eq_true hst).trans (of_decide_eq_true htu)))
      (fun s t => by simpa using le_total s t) _
  have hnodup : c.names.Nodup :=
    (c.cells.keys.mergeSort_perm _).nodup_iff.mpr Std.HashMap.nodup_keys
  exact hsorted.imp₂ (fun s t hle hne => lt_of_le_of_ne (of_decide_eq_true hle) hne) hnodup

/-! ### The invariant -/

/-- The cache is as the history of its requests has it. A name has a cell if it was requested, and
the cell holds the first rule that was made for it. -/
structure Reflects (options : Options) (history : List (Request ρ γ)) (c : RuleCache ρ γ) :
    Prop where
  options_eq : c.options = options
  cell : ∀ name, c.cells[name]? =
    if name ∈ requestedNames history then some (firstBuilt? options name history) else none

/-- A new cache reflects the history in which nothing has been requested. -/
theorem reflects_empty (options : Options) :
    Reflects options [] (empty options : RuleCache ρ γ) where
  options_eq := rfl
  cell _ := Std.HashMap.getElem?_empty

namespace Reflects

variable {c : RuleCache ρ γ} (hc : Reflects options history c)
include hc

/-- What is found under a name is the first rule that was made for it. -/
theorem get?_eq (name : String) : c.get? name = firstBuilt? options name history := by
  rw [get?, hc.cell]
  split
  · rfl
  · -- a name without a cell was not requested, so no rule was made for it
    next hname =>
    cases hbuilt : firstBuilt? options name history with
    | none => rfl
    | some r => exact absurd (mem_requestedNames_of_firstBuilt? hbuilt) hname

/-- The names that are listed are those for which a rule was requested. -/
theorem mem_names_iff {name : String} : name ∈ c.names ↔ name ∈ requestedNames history := by
  rw [names, List.mem_mergeSort, Std.HashMap.mem_keys, Std.HashMap.mem_iff_isSome_getElem?,
    hc.cell]
  split <;> simp [*]

/-- What the table of the cells holds, cell by cell. -/
theorem mem_toList_iff {name : String} {kept : Option (Rule ρ γ)} :
    (name, kept) ∈ c.cells.toList ↔
      name ∈ requestedNames history ∧ firstBuilt? options name history = kept := by
  rw [Std.HashMap.mem_toList_iff_getElem?_eq_some, hc.cell]
  split <;> simp [*]

/-- What is counted are the names for which a rule was made. -/
theorem size_eq : c.size = (builtNames options history).card := by
  -- the names of the cells that hold a rule: each occurs once, and they are those that were built
  set kept := (c.cells.toList.filter (·.2.isSome)).map (·.1) with hkept
  have hnodup : kept.Nodup := by
    have hkeys : (c.cells.toList.map (·.1)).Nodup := by
      rw [Std.HashMap.map_fst_toList_eq_keys]
      exact Std.HashMap.nodup_keys
    exact hkeys.sublist (List.filter_sublist.map _)
  have hbuilt : kept.toFinset = builtNames options history := by
    ext name
    rw [builtNames, List.mem_toFinset, Finset.mem_filter, List.mem_toFinset, hkept, List.mem_map]
    constructor
    · rintro ⟨⟨n, r⟩, hmem, rfl⟩
      obtain ⟨hlisted, hsome⟩ := List.mem_filter.mp hmem
      obtain ⟨hname, rfl⟩ := hc.mem_toList_iff.mp hlisted
      exact ⟨hname, hsome⟩
    · rintro ⟨hname, hsome⟩
      have hlisted := hc.mem_toList_iff.mpr ⟨hname, rfl⟩
      exact ⟨_, List.mem_filter.mpr ⟨hlisted, hsome⟩, rfl⟩
  calc c.size = (c.cells.toList.filter (·.2.isSome)).length := List.countP_eq_length_filter
    _ = kept.length := by rw [hkept, List.length_map]
    _ = (builtNames options history).card := by rw [← hbuilt, List.toFinset_card_of_nodup hnodup]

/-- **The answer to a request is the expected one.** -/
theorem perform_fst (q : Request ρ γ) : (c.perform q).1 = expected options history q := by
  -- both kinds of requests that bring a definition have the same outcome to begin with
  have hrule : ∀ name definition,
      (c.rule name definition).1 = expectedRule options history name definition := by
    intro name definition
    rw [fst_rule, hc.get?_eq, hc.options_eq, expectedRule]
  cases q with
  | apply name v context definition =>
    have happly : (c.perform (.apply name v context definition)).1
        = .applied ⟨(c.rule name definition).1.result.map fun r => r.apply v context,
          (c.rule name definition).1.runs⟩ := rfl
    rw [happly, hrule, expected]
  | rule name definition => exact congrArg Answer.requested (hrule name definition)
  | get name => exact congrArg Answer.found (hc.get?_eq name)
  | contains name => exact congrArg (fun r => Answer.contained r.isSome) (hc.get?_eq name)
  | size => exact congrArg Answer.counted hc.size_eq

/-- A request for a rule keeps the invariant. -/
theorem rule {q : Request ρ γ} {name : String} {definition : Definition ρ γ}
    (hq : q.definition? = some (name, definition)) :
    Reflects options (history ++ [q]) (c.rule name definition).2 where
  options_eq := (options_rule c name definition).trans hc.options_eq
  cell n := by
    -- the history grows by one name, and by one chance for a rule to be made
    have hrequested : requestedNames (history ++ [q]) = requestedNames history ++ [name] := by
      rw [requestedNames, List.filterMap_append]
      simp [requestedNames, hq]
    have hbuild : q.build? options n =
        if name = n then (definition options).toOption else none := by
      rw [Request.build?, hq]
    rw [getElem?_cells_rule, hc.get?_eq, hc.cell, hc.options_eq, hrequested, firstBuilt?_append,
      hbuild]
    -- only the cell of this name can have changed
    by_cases hname : name = n
    · subst hname
      simp
    · have hmem : n ∈ requestedNames history ++ [name] ↔ n ∈ requestedNames history := by
        simp [Ne.symm hname]
      simp only [hname, if_false, hmem, Option.or_none]

/-- A request that comes without a definition changes nothing. -/
theorem append_lookup {q : Request ρ γ} (hq : q.definition? = none) :
    Reflects options (history ++ [q]) c where
  options_eq := hc.options_eq
  cell n := by
    -- neither the names nor the rules of the history change
    have hrequested : requestedNames (history ++ [q]) = requestedNames history := by
      rw [requestedNames, List.filterMap_append]
      simp [requestedNames, hq]
    have hbuild : q.build? options n = none := by
      rw [Request.build?, hq]
    rw [hc.cell, hrequested, firstBuilt?_append, hbuild, Option.or_none]

/-- **Every request keeps the invariant.** -/
theorem perform (q : Request ρ γ) : Reflects options (history ++ [q]) (c.perform q).2 := by
  cases q with
  | apply name v context definition => exact hc.rule rfl
  | rule name definition => exact hc.rule rfl
  | get name | contains name | size => exact hc.append_lookup rfl

end Reflects

/-! ### Any list of requests -/

section Runs

variable {c : RuleCache ρ γ}

/-- The invariant holds after any number of requests. -/
theorem Reflects.after (hc : Reflects options history c) (requests : List (Request ρ γ)) :
    Reflects options (history ++ requests) (c.after requests) := by
  induction requests generalizing c history with
  | nil =>
    rw [List.append_nil]
    exact hc
  -- the first request moves from the list to the history
  | cons q qs ih =>
    have hsplit : history ++ q :: qs = (history ++ [q]) ++ qs := by simp
    rw [hsplit]
    exact ih (hc.perform q)

/-- The answer at each position is the expected one, by the requests up to there. -/
theorem Reflects.getElem?_transcript (hc : Reflects options history c)
    (requests : List (Request ρ γ)) (i : Nat) :
    (c.transcript requests)[i]? =
      requests[i]?.map fun q => (q, expected options (history ++ requests.take i) q) := by
  -- what has been answered moves from the list of requests to the history
  induction requests generalizing c history i with
  | nil => rfl
  | cons q qs ih =>
    rw [transcript]
    cases i with
    | zero => simp [hc.perform_fst]
    | succ i =>
      rw [List.getElem?_cons_succ, List.getElem?_cons_succ, ih (hc.perform q), List.take_succ_cons,
        List.append_assoc, List.singleton_append]

/-- Two caches with the same first rule for a name answer alike about it, even if only one of them
gets the requests about other names. -/
theorem Reflects.filter_transcript {history' : List (Request ρ γ)} {c' : RuleCache ρ γ}
    {name : String} (hc : Reflects options history c) (hc' : Reflects options history' c')
    (hsame : firstBuilt? options name history = firstBuilt? options name history')
    (requests : List (Request ρ γ)) :
    (c.transcript requests).filter (fun e => e.1.name? = some name)
      = c'.transcript (requests.filter fun q => q.name? = some name) := by
  induction requests generalizing c c' history history' with
  | nil => rfl
  | cons q qs ih =>
    rw [transcript]
    by_cases hq : q.name? = some name
    · -- both answer the request, and it means the same for both histories
      have hanswer : (c.perform q).1 = (c'.perform q).1 := by
        rw [hc.perform_fst, hc'.perform_fst, expected_congr hq hsame]
      have hnext : firstBuilt? options name (history ++ [q])
          = firstBuilt? options name (history' ++ [q]) := by
        rw [firstBuilt?_append, firstBuilt?_append, hsame]
      have hqs := ih (hc.perform q) (hc'.perform q) hnext
      rw [List.filter_cons_of_pos (by simpa using hq), List.filter_cons_of_pos (by simpa using hq),
        transcript, hanswer, hqs]
    · -- only the first answers it, and its rule for the name stays what it was
      have hnext : firstBuilt? options name (history ++ [q])
          = firstBuilt? options name history' := by
        rw [firstBuilt?_append, Request.build?_eq_none_of_ne hq, Option.or_none, hsame]
      have hqs := ih (hc.perform q) hc' hnext
      rw [List.filter_cons_of_neg (by simpa using hq), List.filter_cons_of_neg (by simpa using hq),
        hqs]

end Runs

/-- **A cache answers by the history of its requests.** Each request gets the answer that the
requests before it settle. At any time the number of rules is that of the names for which a rule was
made, and the known names, in strict order, are those for which a rule was requested, made or not.
Requests about other names make no difference: the answers about a name are the same without them.
-/
theorem answers_by_history (options : Options) (requests : List (Request ρ γ)) :
    (∀ i, ((empty options).transcript requests)[i]? =
      requests[i]?.map fun q => (q, expected options (requests.take i) q)) ∧
    ((empty options).after requests).size = (builtNames options requests).card ∧
    (((empty options).after requests).isEmpty ↔ builtNames options requests = ∅) ∧
    ((empty options).after requests).names.Pairwise (· < ·) ∧
    (∀ name, name ∈ ((empty options).after requests).names ↔ name ∈ requestedNames requests) ∧
    ∀ name, ((empty options).transcript requests).filter (fun e => e.1.name? = some name)
      = (empty options).transcript (requests.filter fun q => q.name? = some name) := by
  have hempty : Reflects options [] (empty options : RuleCache ρ γ) := reflects_empty options
  have hafter : Reflects options requests ((empty options).after requests) :=
    hempty.after requests
  refine ⟨fun i => hempty.getElem?_transcript requests i, hafter.size_eq, ?_, ?_,
    fun _ => hafter.mem_names_iff, fun name => hempty.filter_transcript hempty rfl requests⟩
  · rw [isEmpty, beq_iff_eq, hafter.size_eq, Finset.card_eq_zero]
  · exact pairwise_names _

end StructMatch.RuleCache
