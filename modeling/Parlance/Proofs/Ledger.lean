import Parlance.Ledger

/-!
# What a ledger holds

Putting a value changes what its name is looked up to, and no other name; a name that is there keeps
its place, and entries with new names are appended.
-/

namespace Parlance.Ledger

variable {α : Type} {ledger entries : List (String × α)} {name other : String} {value : α}

/-- A name is found if it is one of those that the ledger has. -/
theorem lookup_isSome_iff_mem :
    (ledger.lookup name).isSome = true ↔ name ∈ ledger.map Prod.fst := by
  simp [List.lookup_isSome_iff]

/-- The names of a ledger stay if one of them gets another value. -/
theorem put_names (h : (ledger.lookup name).isSome = true) :
    (put ledger name value).map Prod.fst = ledger.map Prod.fst := by
  rw [lookup_isSome_iff_mem] at h
  induction ledger with
  | nil => simp at h
  | cons entry rest ih =>
      rw [put]
      split
      · rename_i heq
        simp [heq]
      · rename_i hne
        have hrest : name ∈ rest.map Prod.fst := by
          rcases List.mem_cons.1 h with heq | hmem
          · exact (hne heq.symm).elim
          · exact hmem
        rw [List.map_cons, ih hrest, List.map_cons]

/-- The name that a value is put for is looked up to it. -/
theorem put_lookup_self : (put ledger name value).lookup name = some value := by
  induction ledger with
  | nil => simp [put]
  | cons entry rest ih =>
      rw [put]
      split
      · simp
      · rename_i hne
        rw [List.lookup_cons, ih, beq_eq_false_iff_ne.2 (Ne.symm hne)]

/-- Other names are looked up to what they were. -/
theorem put_lookup_of_ne (h : other ≠ name) :
    (put ledger name value).lookup other = ledger.lookup other := by
  induction ledger with
  | nil => simp [put, h]
  | cons entry rest ih =>
      rw [put]
      split
      · rename_i heq
        rw [List.lookup_cons, List.lookup_cons, heq, beq_eq_false_iff_ne.2 h]
      · rw [List.lookup_cons, List.lookup_cons, ih]

/-- An entry with a new name is appended. -/
theorem put_of_not_mem (h : name ∉ ledger.map Prod.fst) :
    put ledger name value = ledger ++ [(name, value)] := by
  induction ledger with
  | nil => rfl
  | cons entry rest ih =>
      rw [List.map_cons, List.mem_cons, not_or] at h
      rw [put, if_neg (Ne.symm h.1), ih h.2, List.cons_append]

/-- Entries with new names are appended. -/
theorem putAll_of_nodup (h : ((ledger ++ entries).map Prod.fst).Nodup) :
    putAll ledger entries = ledger ++ entries := by
  induction entries generalizing ledger with
  | nil => simp [putAll]
  | cons entry rest ih =>
      have hnew : entry.1 ∉ ledger.map Prod.fst := by
        rw [List.map_append, List.nodup_append] at h
        exact fun hmem => h.2.2 _ hmem _ (by simp) rfl
      rw [putAll, List.foldl_cons, ← putAll, put_of_not_mem hnew, ih (by simpa using h),
        List.append_assoc]
      rfl

/-- In entries without a repetition, each name is looked up to its value. -/
theorem lookup_of_mem (hnodup : (entries.map Prod.fst).Nodup) (hmem : (name, value) ∈ entries) :
    entries.lookup name = some value := by
  induction entries with
  | nil => cases hmem
  | cons entry rest ih =>
      rw [List.map_cons, List.nodup_cons] at hnodup
      rcases List.mem_cons.1 hmem with rfl | hrest
      · simp
      · have hne : name ≠ entry.1 :=
          fun heq => hnodup.1 (heq ▸ List.mem_map_of_mem hrest)
        rw [List.lookup_cons, beq_eq_false_iff_ne.2 hne, ih hnodup.2 hrest]

/-- A name is looked up to the value at the place where it comes first. -/
theorem lookup_idxOf (h : entries.lookup name = some value) :
    ∃ hlt : (entries.map Prod.fst).idxOf name < entries.length,
      entries[(entries.map Prod.fst).idxOf name].2 = value := by
  induction entries with
  | nil => cases h
  | cons entry rest ih =>
      rw [List.lookup_cons] at h
      by_cases heq : name = entry.1
      · rw [heq, beq_self_eq_true] at h
        cases h
        simp [heq]
      · rw [beq_eq_false_iff_ne.2 heq] at h
        obtain ⟨hlt, hvalue⟩ := ih h
        have hidx : ((entry :: rest).map Prod.fst).idxOf name =
            (rest.map Prod.fst).idxOf name + 1 := by
          rw [List.map_cons, List.idxOf_cons, beq_eq_false_iff_ne.2 (Ne.symm heq)]
          rfl
        refine ⟨by rw [hidx, List.length_cons]; omega, ?_⟩
        simpa only [hidx, List.getElem_cons_succ] using hvalue

end Parlance.Ledger
