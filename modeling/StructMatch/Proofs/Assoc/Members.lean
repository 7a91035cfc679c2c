import StructMatch.Assoc

/-!
# Where the entries of a map come from

Insertion puts a given value under a key and moves nothing else: whatever is stored in a map that
was filled from a list was stored there by an entry of the list. The key need not be the one it was
listed under, since a value that replaces another takes over the key that was inserted first.
-/

namespace StructMatch.Assoc

variable {α β : Type} [BEq α]

/-- Replacing or adding stores the new value and keeps old entries. -/
theorem snd_eq_or_mem_of_mem_replaceOrAdd {key : α} {value : β} {entries : List (α × β)}
    {e : α × β} (he : e ∈ (replaceOrAdd key value entries).2) : e.2 = value ∨ e ∈ entries := by
  induction entries with
  | nil =>
    obtain rfl : e = (key, value) := List.mem_singleton.mp he
    exact .inl rfl
  | cons first rest ih =>
    rw [replaceOrAdd] at he
    split at he
    · -- replaced where it stands
      rcases List.mem_cons.mp he with rfl | he
      · exact .inl rfl
      · exact .inr (List.mem_cons_of_mem first he)
    · rcases List.mem_cons.mp he with rfl | he
      · exact .inr List.mem_cons_self
      · exact (ih he).imp_right (List.mem_cons_of_mem first)

/-- An insertion stores the new value and keeps old entries. -/
theorem snd_eq_or_mem_of_mem_insert {m : Assoc α β} {key : α} {value : β} {e : α × β}
    (he : e ∈ (m.insert key value).entries) : e.2 = value ∨ e ∈ m.entries :=
  snd_eq_or_mem_of_mem_replaceOrAdd he

/-- Whatever holds of every listed value holds of every stored value. -/
theorem forall_snd_ofList {p : β → Prop} {entries : List (α × β)} (h : ∀ e ∈ entries, p e.2) :
    ∀ e ∈ (ofList entries).entries, p e.2 := by
  -- the invariant of the insertions is the conclusion, over whatever has been stored so far
  suffices hfold : ∀ m : Assoc α β, (∀ e ∈ m.entries, p e.2) →
      ∀ e ∈ (entries.foldl (fun m e => m.insert e.1 e.2) m).entries, p e.2 from
    hfold empty fun e he => absurd he List.not_mem_nil
  induction entries with
  | nil => exact fun m hm => hm
  | cons first rest ih =>
    intro m hm
    refine ih (fun e he => h e (List.mem_cons_of_mem first he)) (m.insert first.1 first.2) ?_
    intro e he
    -- the new value is listed first, and the old ones have the property already
    rcases snd_eq_or_mem_of_mem_insert he with heq | hmem
    · rw [heq]
      exact h first List.mem_cons_self
    · exact hm e hmem

end StructMatch.Assoc
