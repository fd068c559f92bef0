/-
  FormulaQuery/Proofs/Lookup.lean
  ===============================
  **Values under keys.**  Prefixes in a scope, the attributes of a tag and the values of a
  draft are lists of pairs, of which the first one with a key counts.  A pair is found
  under its key if keys are distinct, and pairs with other keys can be dropped.
-/
import Mathlib.Data.List.Nodup

namespace FormulaQuery

variable {α β : Type} [BEq α] [LawfulBEq α] {entries : List (α × β)} {key : α}

theorem lookup_of_mem (h : (entries.map Prod.fst).Nodup) {value : β}
    (hmem : (key, value) ∈ entries) : entries.lookup key = some value := by
  obtain ⟨front, rest, rfl⟩ := List.append_of_mem hmem
  refine List.lookup_eq_some_iff.mpr ⟨front, rest, rfl, ?_⟩
  rw [List.map_append, List.map_cons, List.nodup_append] at h
  intro entry hentry
  have hne := h.2.2 entry.1 (List.mem_map_of_mem hentry) key List.mem_cons_self
  exact bne_iff_ne.mpr hne.symm

theorem lookup_filter (keep : α → Bool) (h : keep key = true) :
    (entries.filter fun e => keep e.1).lookup key = entries.lookup key := by
  induction entries with
  | nil => rfl
  | cons e entries ih =>
    rw [List.filter_cons, List.lookup_cons]
    by_cases he : key = e.1
    · subst he
      rw [if_pos h, List.lookup_cons, beq_self_eq_true]
    · have hskip : (key == e.1) = false := beq_eq_false_iff_ne.mpr he
      rw [hskip]
      split
      · rw [List.lookup_cons, hskip, ih]
      · exact ih

end FormulaQuery
