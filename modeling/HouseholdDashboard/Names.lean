/-!
# Sets of names

A set of names is the list of its members in ascending order of their code points,
each once.  Equal sets are therefore equal lists.
-/

namespace HouseholdDashboard

/-- A strictly ascending list of names. -/
structure Names where
  toList : List String
  ascending : toList.Pairwise (· < ·)
deriving DecidableEq

namespace Names

def empty : Names := ⟨[], .nil⟩

instance : Inhabited Names := ⟨empty⟩

/-- Put a name into an ascending list. -/
def insertInto (name : String) : List String → List String
  | [] => [name]
  | x :: rest =>
    if name < x then name :: x :: rest
    else if x < name then x :: insertInto name rest
    else x :: rest

theorem mem_insertInto {name x : String} {xs : List String} (h : x ∈ insertInto name xs) :
    x = name ∨ x ∈ xs := by
  induction xs with
  | nil => simp [insertInto] at h; exact .inl h
  | cons y rest ih =>
    unfold insertInto at h
    split at h
    · rcases List.mem_cons.mp h with h | h
      · exact .inl h
      · exact .inr h
    · split at h
      · rcases List.mem_cons.mp h with h | h
        · exact .inr (h ▸ List.mem_cons_self)
        · exact (ih h).imp id (List.mem_cons_of_mem _)
      · exact .inr h

theorem pairwise_insertInto {name : String} {xs : List String} (h : xs.Pairwise (· < ·)) :
    (insertInto name xs).Pairwise (· < ·) := by
  induction h with
  | nil => exact List.pairwise_singleton _ _
  | cons hx hrest ih =>
    rename_i x rest
    unfold insertInto
    split
    · rename_i lt
      refine .cons ?_ (.cons hx hrest)
      intro y hy
      rcases List.mem_cons.mp hy with rfl | hy
      · exact lt
      · exact String.lt_trans lt (hx y hy)
    · split
      · rename_i gt
        refine .cons ?_ ih
        intro y hy
        rcases mem_insertInto hy with rfl | hy
        · exact gt
        · exact hx y hy
      · exact .cons hx hrest

def insert (s : Names) (name : String) : Names :=
  ⟨insertInto name s.toList, pairwise_insertInto s.ascending⟩

def erase (s : Names) (name : String) : Names :=
  ⟨s.toList.filter (· ≠ name), s.ascending.filter _⟩

def contains (s : Names) (name : String) : Bool :=
  s.toList.contains name

def isEmpty (s : Names) : Bool :=
  s.toList.isEmpty

/-- The set with some more names. -/
def insertAll (s : Names) (names : List String) : Names :=
  names.foldl insert s

/-- The set without some names. -/
def eraseAll (s : Names) (names : List String) : Names :=
  names.foldl erase s

/-- The names of a list. -/
def ofList (names : List String) : Names :=
  empty.insertAll names

end Names

end HouseholdDashboard
