/-!
# Ordered tables

A table maps texts to values and keeps the order in which its keys first came.
-/
namespace AuditReport

abbrev Table (α : Type) := List (String × α)

namespace Table

variable {α : Type}

def get? (t : Table α) (key : String) : Option α :=
  (t.find? fun e => e.1 == key).map (·.2)

def has (t : Table α) (key : String) : Bool :=
  t.any fun e => e.1 == key

def keys (t : Table α) : List String :=
  t.map (·.1)

/-- The entries after a key is given a value. A known key keeps its place. -/
def put (key : String) (v : α) : Table α → Table α
  | [] => [(key, v)]
  | e :: t => if e.1 = key then (key, v) :: t else e :: put key v t

/-- The entries with one more for a key that has none. -/
def putNew (t : Table α) (key : String) (v : α) : Table α :=
  if has t key then t else t ++ [(key, v)]

def putAll (t more : Table α) : Table α :=
  more.foldl (fun t e => put e.1 e.2 t) t

/-- Entries given one after the other: a repeated key has its first place and its last value. -/
def ofPairs (pairs : List (String × α)) : Table α :=
  putAll [] pairs

theorem get?_put_self (t : Table α) (key : String) (v : α) :
    get? (put key v t) key = some v := by
  induction t with
  | nil => simp [put, get?]
  | cons e t ih =>
    by_cases h : e.1 = key
    · simp [put, get?, h]
    · simpa [put, get?, h] using ih

theorem get?_put_of_ne (t : Table α) {key other : String} (v : α) (h : other ≠ key) :
    get? (put key v t) other = get? t other := by
  induction t with
  | nil => simp [put, get?, h.symm]
  | cons e t ih =>
    by_cases he : e.1 = key
    · simp [put, get?, he, h.symm]
    · by_cases ho : e.1 = other
      · simp [put, get?, ho, h]
      · simpa [put, get?, he, ho] using ih

end Table
end AuditReport
