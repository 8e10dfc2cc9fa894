import Mathlib.Data.List.AList

/-!
# Tables

Finite tables with one value for each key: `AList` of Mathlib at a constant type of values, and the
operations of a hash map that it lacks. A table has its entries in some order; what is proved here
reads it by `lookup` alone.

* `retain` keeps the entries that pass a test, `setAll` writes all entries of another table;
* `any` asks for an entry that passes a test;
* `lookup_retain`, `lookup_setAll`, `any_eq_true` — the three, read by `lookup`.
-/

abbrev Table (κ ν : Type*) := AList fun _ : κ => ν

namespace Table

variable {κ ν μ : Type*} [DecidableEq κ]

def retain (keep : κ → ν → Bool) (t : Table κ ν) : Table κ ν where
  entries := t.entries.filter fun e => keep e.1 e.2
  nodupKeys := t.nodupKeys.sublist List.filter_sublist

/-- Entry by entry; a key that is there already gets the new value. -/
def setAll (f : μ → ν) (source : Table κ μ) (t : Table κ ν) : Table κ ν :=
  source.entries.foldl (fun t e => t.insert e.1 (f e.2)) t

def any (p : κ → ν → Bool) (t : Table κ ν) : Bool := t.entries.any fun e => p e.1 e.2

theorem lookup_retain (keep : κ → ν → Bool) (t : Table κ ν) (k : κ) :
    (retain keep t).lookup k = (t.lookup k).filter (keep k) := by
  apply Option.ext
  intro v
  rw [Option.filter_eq_some_iff, ← Option.mem_def, ← Option.mem_def, AList.mem_lookup_iff,
    AList.mem_lookup_iff]
  exact List.mem_filter

theorem lookup_setAll (f : μ → ν) (source : Table κ μ) (t : Table κ ν) (k : κ) :
    (setAll f source t).lookup k = ((source.lookup k).map f).or (t.lookup k) := by
  obtain ⟨entries, hnodup⟩ := source
  show (entries.foldl (fun t e => t.insert e.1 (f e.2)) t).lookup k
    = ((entries.dlookup k).map f).or (t.lookup k)
  induction entries generalizing t with
  | nil => simp
  | cons e entries ih =>
    obtain ⟨hnew, hrest⟩ := List.nodupKeys_cons.1 hnodup
    rw [List.foldl_cons, ih _ hrest]
    by_cases hk : k = e.1
    · -- the head writes the key, and nothing after it does
      subst hk
      obtain ⟨k, v⟩ := e
      have hnone : entries.dlookup k = none := List.dlookup_eq_none.2 hnew
      have hhead : (⟨k, v⟩ :: entries : List (Σ _ : κ, μ)).dlookup k = some v :=
        List.dlookup_cons_eq ..
      rw [hnone, hhead, AList.lookup_insert]
      rfl
    · have hhead : (e :: entries).dlookup k = entries.dlookup k := List.dlookup_cons_ne _ _ hk
      rw [hhead, AList.lookup_insert_ne hk]

theorem any_eq_true {p : κ → ν → Bool} {t : Table κ ν} :
    any p t = true ↔ ∃ k v, t.lookup k = some v ∧ p k v = true := by
  rw [any, List.any_eq_true]
  constructor
  · rintro ⟨⟨k, v⟩, hmem, hp⟩
    exact ⟨k, v, AList.mem_lookup_iff.2 hmem, hp⟩
  · rintro ⟨k, v, hlookup, hp⟩
    exact ⟨⟨k, v⟩, AList.mem_lookup_iff.1 hlookup, hp⟩

end Table
