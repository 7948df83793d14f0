import TunnelRelay.Error

/-!
# The registry of live sessions

A registry holds one entry for each session that is alive, under the id that was drawn for the
session when its tunnel was opened. An id is registered at most once at a time.
-/

namespace TunnelRelay

/-- Entries under pairwise different ids. -/
structure Registry (ν : Type) where
  entries : List (String × ν)
  nodup : (entries.map Prod.fst).Nodup

namespace Registry

variable {ν : Type}

/-- A registry without entries. -/
def empty : Registry ν := ⟨[], by simp⟩

/-- The entry under an id; none means that the session is over. -/
def get? (r : Registry ν) (id : String) : Option ν := r.entries.lookup id

/-- The number of entries. -/
def size (r : Registry ν) : Nat := r.entries.length

/-- Registers a session under an id that is free. -/
def create (r : Registry ν) (id : String) (info : ν) : Except RelayError (Registry ν) :=
  if h : id ∈ r.entries.map Prod.fst then .error (.duplicateConnection id)
  else .ok ⟨(id, info) :: r.entries, by simpa [h] using r.nodup⟩

/-- Removes the entry under an id, if there is one. -/
def remove (r : Registry ν) (id : String) : Registry ν :=
  ⟨r.entries.filter (·.1 != id),
    r.nodup.sublist (List.filter_sublist.map _)⟩

theorem get?_create {r s : Registry ν} {id : String} {info : ν} (h : r.create id info = .ok s)
    (key : String) : s.get? key = if key = id then some info else r.get? key := by
  unfold create at h
  split at h
  · cases h
  · cases h
    by_cases hk : key = id
    · simp [get?, hk]
    · have : (key == id) = false := by simpa using hk
      simp [get?, List.lookup_cons, this, hk]

theorem get?_remove (r : Registry ν) (id key : String) :
    (r.remove id).get? key = if key = id then none else r.get? key := by
  obtain ⟨entries, nodup⟩ := r
  simp only [get?, remove]
  clear nodup
  induction entries with
  | nil => simp
  | cons entry entries ih =>
    obtain ⟨k, info⟩ := entry
    by_cases hk : k = id
    · subst hk
      by_cases hkey : key = k
      · simpa [hkey] using ih
      · have : (key == k) = false := by simpa using hkey
        simpa [List.lookup_cons, this, hkey] using ih
    · by_cases hkey : key = k
      · simp [hkey, hk]
      · have : (key == k) = false := by simpa using hkey
        simpa [hk, List.lookup_cons, this] using ih

/-- An id without an entry is free. -/
theorem exists_create {r : Registry ν} {id : String} (h : r.get? id = none) (info : ν) :
    ∃ s, r.create id info = .ok s := by
  have hfree : id ∉ r.entries.map Prod.fst := by
    intro hmem
    obtain ⟨⟨key, value⟩, hentry, rfl⟩ := List.mem_map.mp hmem
    exact absurd rfl (bne_iff_ne.mp (List.lookup_eq_none_iff.mp h _ hentry))
  exact ⟨_, dif_neg hfree⟩

end Registry

end TunnelRelay
