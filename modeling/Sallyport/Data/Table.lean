/-
Finite maps with few entries. A key has at most one entry that counts: writing a key drops the
entry it had before.
-/

namespace Sallyport

/-- A finite map as a list of entries; the first entry of a key is the one that counts. -/
structure Table (κ α : Type) where
  entries : List (κ × α)
  deriving DecidableEq, Repr

namespace Table

variable {κ α : Type}

def empty : Table κ α := ⟨[]⟩

instance : Inhabited (Table κ α) := ⟨empty⟩

variable [DecidableEq κ]

/-- The value of a key, if it has one. -/
def get? (t : Table κ α) (k : κ) : Option α := (t.entries.find? (·.1 = k)).map (·.2)

/-- Forgets a key. -/
def erase (t : Table κ α) (k : κ) : Table κ α := ⟨t.entries.filter (·.1 ≠ k)⟩

/-- Gives a key a value, in place of the one it had. -/
def insert (t : Table κ α) (k : κ) (a : α) : Table κ α := ⟨(k, a) :: (t.erase k).entries⟩

theorem get?_erase (t : Table κ α) (k j : κ) :
    (t.erase k).get? j = if j = k then none else t.get? j := by
  unfold get? erase
  split
  · subst j
    rw [List.find?_eq_none.2]
    · rfl
    · intro p hp
      simpa using (List.mem_filter.1 hp).2
  · rename_i h
    rw [List.find?_filter]
    congr 2
    funext p
    by_cases hp : p.1 = j
    · simp [hp, h]
    · simp [hp]

theorem get?_insert (t : Table κ α) (k j : κ) (a : α) :
    (t.insert k a).get? j = if j = k then some a else t.get? j := by
  by_cases h : j = k
  · subst h
    simp [insert, get?]
  · have hk : ¬ k = j := fun e => h e.symm
    have he := get?_erase t k j
    simp only [h, if_false] at he ⊢
    rw [← he]
    simp [insert, get?, hk]

end Table

end Sallyport
