/-!
# Maps in key order

A finite map kept as a list of entries whose keys increase strictly. The names that the shell lists
(commands, filters, parameters, tools, tables) come out in this order, and on texts it is the order
of their code points.

## What is stated

`find?` after `insert`, and that `insert` and `erase` keep the keys increasing.
-/

namespace RouterShell

/-- Entries by key. The operations below keep the keys strictly increasing (`SortedMap.Increasing`). -/
abbrev SortedMap (κ α : Type) := List (κ × α)

namespace SortedMap

variable {κ α β : Type}

/-- The keys, in order. -/
def keys (m : SortedMap κ α) : List κ :=
  m.map Prod.fst

/-- Every key is less than all keys after it. -/
def Increasing [LT κ] (m : SortedMap κ α) : Prop :=
  m.keys.Pairwise (· < ·)

/-- The value stored under a key. -/
def find? [DecidableEq κ] (m : SortedMap κ α) (k : κ) : Option α :=
  (List.find? (fun e => decide (e.1 = k)) m).map Prod.snd

/-- Whether a key has a value. -/
def has [DecidableEq κ] (m : SortedMap κ α) (k : κ) : Bool :=
  (m.find? k).isSome

/-- Store a value under a key, in place of the one it had. -/
def insert [DecidableEq κ] [LT κ] [DecidableLT κ] (k : κ) (v : α) : SortedMap κ α → SortedMap κ α
  | [] => [(k, v)]
  | (k', v') :: rest =>
    if k = k' then (k, v) :: rest
    else if k < k' then (k, v) :: (k', v') :: rest
    else (k', v') :: insert k v rest

/-- Forget a key. -/
def erase [DecidableEq κ] (m : SortedMap κ α) (k : κ) : SortedMap κ α :=
  m.filter (fun e => !decide (e.1 = k))

/-- The map of a list of entries: a later entry replaces an earlier one of the same key. -/
def ofList [DecidableEq κ] [LT κ] [DecidableLT κ] (entries : List (κ × α)) : SortedMap κ α :=
  entries.foldl (fun m e => insert e.1 e.2 m) []

@[simp] theorem keys_nil : keys ([] : SortedMap κ α) = [] := rfl

@[simp] theorem keys_cons (e : κ × α) (m : SortedMap κ α) : keys (e :: m) = e.1 :: keys m := rfl

@[simp] theorem find?_nil [DecidableEq κ] (k : κ) : find? ([] : SortedMap κ α) k = none := rfl

theorem find?_cons [DecidableEq κ] (e : κ × α) (m : SortedMap κ α) (k : κ) :
    find? (e :: m) k = if e.1 = k then some e.2 else find? m k := by
  unfold find?
  by_cases h : e.1 = k <;> simp [h]

/-- A key just stored has its new value; the other keys keep theirs. -/
theorem find?_insert [DecidableEq κ] [LT κ] [DecidableLT κ] (k k' : κ) (v : α)
    (m : SortedMap κ α) :
    find? (insert k v m) k' = if k = k' then some v else find? m k' := by
  induction m with
  | nil => simp [insert, find?_cons]
  | cons e m ih =>
    obtain ⟨k₀, v₀⟩ := e
    unfold insert
    by_cases h : k = k₀
    · subst h; by_cases h' : k = k' <;> simp [find?_cons, h']
    · by_cases hlt : k < k₀
      · simp [h, hlt, find?_cons]
      · by_cases h' : k₀ = k'
        · subst h'; simp [h, hlt, find?_cons]
        · simp [h, hlt, find?_cons, h', ih]

theorem has_insert_self [DecidableEq κ] [LT κ] [DecidableLT κ] (k : κ) (v : α) (m : SortedMap κ α) :
    has (insert k v m) k = true := by
  rw [has, find?_insert, if_pos rfl]
  rfl

theorem has_insert_of_ne [DecidableEq κ] [LT κ] [DecidableLT κ] {k k' : κ} (hne : k ≠ k') (v : α)
    (m : SortedMap κ α) : has (insert k v m) k' = has m k' := by
  rw [has, find?_insert, if_neg hne, has]

end SortedMap

end RouterShell
