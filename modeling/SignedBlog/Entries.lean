/-!
Lists of keys with values, as they are written: a key may occur more than once.

* `Entries.merge` leaves one entry for each key, which keeps the place of the first and has the value
  of the last.
-/

namespace SignedBlog.Entries

set_option autoImplicit false

variable {α β : Type}

/-- Puts an entry behind others, or in the place of the one that has its key. -/
def put (same : α → α → Bool) (entries : List (α × β)) (entry : α × β) : List (α × β) :=
  if entries.any fun old => same old.1 entry.1 then
    entries.map fun old => if same old.1 entry.1 then (old.1, entry.2) else old
  else entries ++ [entry]

/-- One entry for each key: its first place, and its last value. -/
def merge (same : α → α → Bool) (entries : List (α × β)) : List (α × β) :=
  entries.foldl (put same) []

@[simp] theorem merge_nil (same : α → α → Bool) : merge same ([] : List (α × β)) = [] := rfl

@[simp] theorem merge_append_singleton (same : α → α → Bool) (entries : List (α × β))
    (entry : α × β) : merge same (entries ++ [entry]) = put same (merge same entries) entry := by
  simp [merge]

end SignedBlog.Entries
