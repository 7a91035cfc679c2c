/-!
# Insertion-ordered maps

An `Assoc` is a list of entries in the order in which their keys were first inserted. Keys are told
apart by a Boolean equality that need not be reflexive: a key that does not equal itself is never
found again, and every insertion of it makes a new entry.

Inserting under a key that is present replaces the value where it stands and keeps the key that was
inserted first. A look-up takes the first entry whose key equals the wanted one.
-/

namespace StructMatch

/-- Entries in order of first insertion. -/
structure Assoc (α β : Type) where
  entries : List (α × β)

namespace Assoc

variable {α β : Type}

/-- The map without entries. -/
def empty : Assoc α β := ⟨[]⟩

instance : Inhabited (Assoc α β) := ⟨empty⟩

/-- The number of entries. -/
def size (m : Assoc α β) : Nat :=
  m.entries.length

/-- There is no entry. -/
def isEmpty (m : Assoc α β) : Bool :=
  m.entries.isEmpty

/-- The keys in entry order. -/
def keys (m : Assoc α β) : List α :=
  m.entries.map (·.1)

variable [BEq α]

/-- The first value stored under a key that equals `key`. -/
def lookup (key : α) : List (α × β) → Option β
  | [] => none
  | (k, v) :: rest => if k == key then some v else lookup key rest

/-- Replace the value of the first entry whose key equals `key`, or add an entry at the end. The
value that was replaced is returned beside the entries. -/
def replaceOrAdd (key : α) (value : β) : List (α × β) → Option β × List (α × β)
  | [] => (none, [(key, value)])
  | (k, v) :: rest =>
    if k == key then (some v, (k, value) :: rest)
    else
      let (old, rest') := replaceOrAdd key value rest
      (old, (k, v) :: rest')

/-- The value stored under `key`. -/
def get? (m : Assoc α β) (key : α) : Option β :=
  lookup key m.entries

/-- Some entry has a key that equals `key`. -/
def contains (m : Assoc α β) (key : α) : Bool :=
  m.entries.any (·.1 == key)

/-- Store `value` under `key` and return the value that was there before. -/
def getThenInsert? (m : Assoc α β) (key : α) (value : β) : Option β × Assoc α β :=
  let (old, entries) := replaceOrAdd key value m.entries
  (old, ⟨entries⟩)

/-- Store `value` under `key`. -/
def insert (m : Assoc α β) (key : α) (value : β) : Assoc α β :=
  (m.getThenInsert? key value).2

/-- Insert the entries of a list one after another, the first one first. -/
def ofList (entries : List (α × β)) : Assoc α β :=
  entries.foldl (fun m e => m.insert e.1 e.2) empty

/-- Something is found exactly if a key equals the wanted one. -/
theorem lookup_isSome_eq_any (key : α) (entries : List (α × β)) :
    (lookup key entries).isSome = entries.any (·.1 == key) := by
  induction entries with
  | nil => rfl
  | cons e rest ih => by_cases h : e.1 == key <;> simp [lookup, h, ih]

/-- What is replaced is what a look-up finds. -/
theorem replaceOrAdd_fst (key : α) (value : β) (entries : List (α × β)) :
    (replaceOrAdd key value entries).1 = lookup key entries := by
  induction entries with
  | nil => rfl
  | cons e rest ih => by_cases h : e.1 == key <;> simp [replaceOrAdd, lookup, h, ih]

/-- Insertion returns what a look-up would have found just before. -/
theorem getThenInsert?_fst (m : Assoc α β) (key : α) (value : β) :
    (m.getThenInsert? key value).1 = m.get? key :=
  replaceOrAdd_fst key value m.entries

/-- A key is contained exactly when a value is found under it. -/
theorem get?_isSome (m : Assoc α β) (key : α) : (m.get? key).isSome = m.contains key :=
  lookup_isSome_eq_any key m.entries

end Assoc

end StructMatch
