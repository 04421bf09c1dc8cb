/-!
# Dictionaries in key order

Parameters, attributes and headers are shown to a template as maps, which list their keys in
ascending order. A `Dict` is an association list that its operations keep in that order;
`find?_insert` is the one fact about `insert` that the rest of the library reads.
-/

namespace TemplateServer

/-- Values under text keys, in ascending order of the keys. -/
abbrev Dict (β : Type) := List (String × β)

namespace Dict

variable {β : Type}

def find? (key : String) : Dict β → Option β
  | [] => none
  | (k, v) :: d => if key = k then some v else find? key d

/-- Changes the value under a key, or puts one there, by a function of the value so far. -/
def alter (key : String) (f : Option β → β) : Dict β → Dict β
  | [] => [(key, f none)]
  | (k, v) :: d =>
    if key = k then (k, f (some v)) :: d
    else if key < k then (key, f none) :: (k, v) :: d
    else (k, v) :: alter key f d

/-- Puts a value under a key, in place of any value that was there. -/
def insert (key : String) (value : β) (d : Dict β) : Dict β := d.alter key fun _ => value

/-- An insertion is seen under its key and nowhere else. -/
theorem find?_insert (key key' : String) (value : β) (d : Dict β) :
    (d.insert key value).find? key' = if key' = key then some value else d.find? key' := by
  unfold insert
  induction d with
  | nil => simp [alter, find?]
  | cons p d ih =>
    obtain ⟨k, v⟩ := p
    simp only [alter]
    split
    · next h =>
      subst h
      by_cases hk : key' = key <;> simp [find?, hk]
    · next h =>
      split
      · simp [find?]
      · by_cases hk : key' = k
        · subst hk
          have : key' ≠ key := fun h' => h h'.symm
          simp [find?, this]
        · simp only [find?, hk, if_false]
          exact ih

/-- The dictionary of a list of pairs; the last value of a key wins. -/
def ofPairs (pairs : List (String × β)) : Dict β :=
  pairs.foldl (fun d p => d.insert p.1 p.2) []

/-- Adds a value to the list under a key. -/
def push (key : String) (value : β) (d : Dict (List β)) : Dict (List β) :=
  d.alter key fun values => values.getD [] ++ [value]

/-- The dictionary that keeps every value of each key, in the order of the pairs. -/
def group (pairs : List (String × β)) : Dict (List β) :=
  pairs.foldl (fun d p => d.push p.1 p.2) []

def keys (d : Dict β) : List String := d.map (·.1)

/-- The keys of `d` stand in strictly ascending order. -/
def Ordered (d : Dict β) : Prop := d.Pairwise fun p q => p.1 < q.1

end Dict

end TemplateServer
