import TracePipeline.Identity

/-!
# Tables by identity

At most one entry for an identity. The order of the entries is never shown.
-/

namespace TracePipeline

abbrev Table (α : Type) := List (Identity × α)

namespace Table

variable {α : Type}

def get? : Table α → Identity → Option α
  | [], _ => none
  | (j, x) :: rest, i => if j = i then some x else get? rest i

/-- The table without an identity. -/
def without (t : Table α) (i : Identity) : Table α := t.filter fun e => e.1 != i

/-- The table with an entry in place of any that the identity had. -/
def put (t : Table α) (i : Identity) (x : α) : Table α := (i, x) :: t.without i

def contains (t : Table α) (i : Identity) : Bool := (t.get? i).isSome

/-- The table with several entries put in. -/
def putAll (t : Table α) (entries : List (Identity × α)) : Table α :=
  entries.foldl (fun t e => t.put e.1 e.2) t

end Table

end TracePipeline
