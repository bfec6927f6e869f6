/-
  Largest values by key, and order statistics: which values of a list lie above a bound,
  counted, against the value at a given rank of its descending order.
-/
import ConstellationMonitor.Foundation.Ordered

namespace ConstellationMonitor.Foundation

open Std

/-! ## Ranks -/

/-- In descending order, the value at rank `rank` lies above a bound exactly when more than
`rank` values do. -/
theorem lt_getElem?_iff_countP {values : List Nat} (descending : values.Pairwise (· ≥ ·))
    {rank value : Nat} (h : values[rank]? = some value) (bound : Nat) :
    bound < value ↔ rank < values.countP fun other => decide (bound < other) := by
  induction values generalizing rank with
  | nil => simp at h
  | cons head rest ih =>
    obtain ⟨hhead, hrest⟩ := List.pairwise_cons.mp descending
    by_cases habove : bound < head
    · rw [List.countP_cons_of_pos (by simpa using habove)]
      cases rank with
      | zero =>
        obtain rfl : head = value := by simpa using h
        simp [habove]
      | succ rank =>
        have hvalue : rest[rank]? = some value := by simpa using h
        rw [ih hrest hvalue]
        omega
    · -- nothing after the head lies above what the head does not lie above
      have hnone : (head :: rest).countP (fun other => decide (bound < other)) = 0 := by
        refine List.countP_eq_zero.mpr fun other hother => ?_
        rcases List.mem_cons.mp hother with rfl | hother
        · simpa using habove
        · have := hhead other hother
          simp only [decide_eq_true_eq]
          omega
      have hle : value ≤ head := by
        rcases List.mem_cons.mp (List.mem_of_getElem? h) with rfl | hmem
        · exact le_rfl
        · exact hhead value hmem
      rw [hnone]
      omega

/-- The value at a rank of the descending order of a list. -/
theorem lt_insertionSort_getElem?_iff {values : List Nat} {rank value : Nat}
    (h : (values.insertionSort (· ≥ ·))[rank]? = some value) (bound : Nat) :
    bound < value ↔ rank < values.countP fun other => decide (bound < other) := by
  rw [lt_getElem?_iff_countP (List.pairwise_insertionSort (· ≥ ·) values) h,
    (List.perm_insertionSort (· ≥ ·) values).countP_eq]

/-- There is a value at a rank when more than that many values lie above some bound. -/
theorem insertionSort_getElem?_isSome {values : List Nat} {rank : Nat} (bound : Nat)
    (h : rank < values.countP fun other => decide (bound < other)) :
    ∃ value, (values.insertionSort (· ≥ ·))[rank]? = some value := by
  have hlength : rank < (values.insertionSort (· ≥ ·)).length := by
    rw [List.length_insertionSort]
    exact h.trans_le List.countP_le_length
  exact ⟨_, List.getElem?_eq_getElem hlength⟩

/-! ## Sizes -/

/-- A set listed by fewer members is no larger. -/
theorem size_ofList_le {α : Type} [Ord α] [TransOrd α] [LawfulEqOrd α] {left right : List α}
    (h : left ⊆ right) : (ExtTreeSet.ofList left).size ≤ (ExtTreeSet.ofList right).size := by
  classical
  have hnodup : ∀ set : ExtTreeSet α, set.toList.Nodup := fun set =>
    ExtTreeSet.distinct_toList.imp fun {left right} hne heq => hne (by simp [heq])
  rw [← ExtTreeSet.length_toList, ← ExtTreeSet.length_toList]
  refine (List.Nodup.subperm (hnodup _) fun value hvalue => ?_).length_le
  simp only [ExtTreeSet.mem_toList, ExtTreeSet.mem_ofList, List.contains_iff_mem] at hvalue ⊢
  exact h hvalue

/-! ## The largest value of each key -/

section Latest

variable {κ : Type} [Ord κ] [TransOrd κ] [LawfulEqOrd κ] [DecidableEq κ]

/-- Raise the value of a key. -/
def raiseKey (latest : ExtTreeMap κ Nat) (entry : κ × Nat) : ExtTreeMap κ Nat :=
  latest.insert entry.1
    (match latest[entry.1]? with
    | some value => max value entry.2
    | none => entry.2)

/-- The largest value listed for each key. -/
def latestByKey (entries : List (κ × Nat)) : ExtTreeMap κ Nat :=
  entries.foldl raiseKey ∅

theorem raiseKey_above (latest : ExtTreeMap κ Nat) (entry : κ × Nat) (key : κ) (bound : Nat) :
    (∃ value, (raiseKey latest entry)[key]? = some value ∧ bound < value) ↔
      (∃ value, latest[key]? = some value ∧ bound < value) ∨ (entry.1 = key ∧ bound < entry.2) := by
  unfold raiseKey
  rw [getElem?_insert_iff]
  by_cases hkey : entry.1 = key
  · subst hkey
    cases latest[entry.1]? with
    | none => simp
    | some value => simp
  · simp [hkey]

theorem foldl_raiseKey_above (entries : List (κ × Nat)) (latest : ExtTreeMap κ Nat) (key : κ)
    (bound : Nat) : (∃ value, (entries.foldl raiseKey latest)[key]? = some value ∧ bound < value) ↔
      (∃ value, latest[key]? = some value ∧ bound < value) ∨
        ∃ entry ∈ entries, entry.1 = key ∧ bound < entry.2 := by
  induction entries generalizing latest with
  | nil => simp
  | cons entry rest ih =>
    rw [List.foldl_cons, ih, raiseKey_above]
    simp [or_assoc]

/-- The largest value of a key lies above a bound when one of its values does. -/
theorem latestByKey_above (entries : List (κ × Nat)) (key : κ) (bound : Nat) :
    (∃ value, (latestByKey entries)[key]? = some value ∧ bound < value) ↔
      ∃ entry ∈ entries, entry.1 = key ∧ bound < entry.2 := by
  simp [latestByKey, foldl_raiseKey_above]

/-- As many largest values lie above a bound as keys have a value above it. -/
theorem countP_latestByKey (entries : List (κ × Nat)) (bound : Nat) :
    ((latestByKey entries).values.countP fun value => decide (bound < value)) =
      (ExtTreeSet.ofList ((entries.filter fun entry => decide (bound < entry.2)).map
        Prod.fst)).size := by
  rw [values_eq_map_toList, List.countP_map, List.countP_eq_length_filter,
    ← ExtTreeSet.length_toList, ← List.length_map Prod.fst]
  have hkeys : ((latestByKey entries).toList.map Prod.fst).Nodup := by
    rw [ExtTreeMap.map_fst_toList_eq_keys]
    exact ExtTreeMap.nodup_keys
  have hset : (ExtTreeSet.ofList ((entries.filter fun entry => decide (bound < entry.2)).map
      Prod.fst)).toList.Nodup :=
    ExtTreeSet.distinct_toList.imp fun {left right} hne heq => hne (by simp [heq])
  refine List.Perm.length_eq ((List.perm_ext_iff_of_nodup
    (hkeys.sublist (List.filter_sublist.map Prod.fst)) hset).mpr fun key => ?_)
  have hleft : key ∈ ((latestByKey entries).toList.filter
      ((fun value => decide (bound < value)) ∘ Prod.snd)).map Prod.fst ↔
      ∃ value, (latestByKey entries)[key]? = some value ∧ bound < value := by
    simp [ExtTreeMap.mem_toList_iff_getElem?_eq_some]
  rw [hleft, latestByKey_above]
  simp [ExtTreeSet.mem_ofList]

end Latest

end ConstellationMonitor.Foundation
