/-!
# Label tables

- `LabelTable`: names with their positions, each name once
- `LabelTable.insert`: the first position of a name is kept
- `LabelTable.position?`: the position of a name
- `LabelTable.sorted`: the entries by position
-/

namespace FrameCode

/-- Names with positions, in the order in which they were entered; no name occurs twice. -/
structure LabelTable where
  entries : List (String × Nat)
  distinct : entries.Pairwise (fun a b => a.1 ≠ b.1)
  deriving DecidableEq

namespace LabelTable

def empty : LabelTable where
  entries := []
  distinct := .nil

/-- The position of a name. -/
def position? (table : LabelTable) (name : String) : Option Nat :=
  table.entries.lookup name

def contains (table : LabelTable) (name : String) : Bool :=
  table.entries.any (·.1 == name)

/-- Enters a name; a name that is already there keeps its position. -/
def insert (table : LabelTable) (name : String) (position : Nat) : LabelTable :=
  if h : table.contains name then
    table
  else
    { entries := table.entries ++ [(name, position)]
      distinct := by
        refine List.pairwise_append.2 ⟨table.distinct, List.pairwise_singleton .., ?_⟩
        intro a ha b hb
        simp only [List.mem_singleton] at hb
        subst hb
        intro hname
        exact h (List.any_eq_true.2 ⟨a, ha, by simpa using hname⟩) }

/-- A name is contained exactly if it has a position. -/
theorem isSome_position? (table : LabelTable) (name : String) :
    (table.position? name).isSome = table.contains name := by
  unfold position? contains
  induction table.entries with
  | nil => rfl
  | cons entry later ih =>
    rw [List.any_cons, ← ih, List.lookup_cons]
    by_cases hname : name = entry.1
    · subst hname
      simp
    · have hleft : (name == entry.1) = false := beq_eq_false_iff_ne.2 hname
      have hright : (entry.1 == name) = false := beq_eq_false_iff_ne.2 (Ne.symm hname)
      simp [hleft, hright]

/-- Positions after an insertion: those that were there, then the new one. -/
theorem position?_insert (table : LabelTable) (name other : String) (position : Nat) :
    (table.insert name position).position? other =
      (table.position? other).or (if other = name then some position else none) := by
  unfold insert
  split
  next hcontains =>
    split
    next hname =>
      subst hname
      have hsome := isSome_position? table other
      rw [hcontains] at hsome
      obtain ⟨p, hp⟩ := Option.isSome_iff_exists.1 hsome
      simp [hp]
    next => simp
  next hcontains =>
    simp only [position?, List.lookup_append]
    congr 1
    by_cases hname : other = name
    · simp [hname]
    · have hbeq : (other == name) = false := beq_eq_false_iff_ne.2 hname
      simp [List.lookup_cons, hname, hbeq]

/-- Position first, then name. -/
def entryLE (a b : String × Nat) : Bool :=
  ((compare a.2 b.2).then (compare a.1 b.1)).isLE

/-- The entries by position, and by name where positions are equal. -/
def sorted (table : LabelTable) : List (String × Nat) :=
  table.entries.mergeSort entryLE

end LabelTable

end FrameCode
