/-
  Ordered collections: the lexicographic order on pairs, orders carried along an
  injection, and sorted duplicate-free lists.  Maps and sets are the extensional tree
  maps and sets of the standard library; the lemmas here restate their lookup rules
  with equality of keys in place of the comparison.
-/
import ConstellationMonitor.Foundation.Text

namespace ConstellationMonitor.Foundation

open Std

/-- Pairs are ordered lexicographically, as derived on tuples. -/
instance instOrdPair {α β : Type} [Ord α] [Ord β] : Ord (α × β) := lexOrd

/-! ## Orders carried along an injection -/

section Carried

variable {α β : Type} [Ord β]

/-- The order of a record read off its fields, listed by `fields`. -/
@[reducible] def ordOf (fields : α → β) : Ord α := ⟨compareOn fields⟩

theorem transOrd_ordOf [TransOrd β] (fields : α → β) : @TransOrd α (ordOf fields) :=
  inferInstanceAs (TransCmp (compareOn fields))

theorem lawfulEqOrd_ordOf [LawfulEqOrd β] {fields : α → β}
    (injective : Function.Injective fields) : @LawfulEqOrd α (ordOf fields) :=
  letI := ordOf fields
  { compare_self := by
      intro value
      exact ReflOrd.compare_self (a := fields value)
    eq_of_compare := by
      intro left right h
      exact injective (LawfulEqOrd.eq_of_compare (a := fields left) (b := fields right) h) }

end Carried

/-! ## Lookup rules -/

section Maps

variable {κ β : Type} [Ord κ] [TransOrd κ] [LawfulEqOrd κ]

theorem getElem?_insert_iff [DecidableEq κ] (map : ExtTreeMap κ β) (key other : κ) (value : β) :
    (map.insert key value)[other]? = if key = other then some value else map[other]? := by
  simp [ExtTreeMap.getElem?_insert]

theorem getElem?_erase_iff [DecidableEq κ] (map : ExtTreeMap κ β) (key other : κ) :
    (map.erase key)[other]? = if key = other then none else map[other]? := by
  simp [ExtTreeMap.getElem?_erase]

/-- `BTreeMap::retain` keeps an entry exactly when the test accepts it. -/
theorem getElem?_filter_eq_some (map : ExtTreeMap κ β) (keep : κ → β → Bool) (key : κ) (value : β) :
    (map.filter keep)[key]? = some value ↔ map[key]? = some value ∧ keep key value = true := by
  simp [ExtTreeMap.getElem?_filter]

/-- `BTreeSet::retain` keeps a member exactly when the test accepts it. -/
theorem mem_filter_iff (set : ExtTreeSet κ) (keep : κ → Bool) (key : κ) :
    key ∈ set.filter keep ↔ key ∈ set ∧ keep key = true := by
  simp [ExtTreeSet.mem_filter]

end Maps

/-! ## First entries -/

/-- In a lexicographic order, what comes first has the smaller first component. -/
theorem fst_le_of_compare_lt {β : Type} [Ord β] (left right : Nat × β)
    (h : compare left right = .lt) : left.1 ≤ right.1 := by
  change (compare left.1 right.1).then (compare left.2 right.2) = .lt at h
  cases hfst : compare left.1 right.1 with
  | lt => exact (Nat.compare_eq_lt.mp hfst).le
  | eq => exact (Nat.compare_eq_eq.mp hfst).le
  | gt => simp [hfst, Ordering.then] at h

/-- When the first entry of an ordered list fails a downward closed test, every entry
does. -/
theorem not_of_head?_filter {α : Type} {order : α → α → Prop} {test : α → Bool}
    (down : ∀ left right, order left right → test right = true → test left = true)
    {values : List α} (ordered : values.Pairwise order)
    (h : values.head?.filter test = none) : ∀ value ∈ values, test value = false := by
  cases values with
  | nil => simp
  | cons head rest =>
    have hhead : test head = false := by simpa using h
    intro value hvalue
    rcases List.mem_cons.mp hvalue with rfl | hrest
    · exact hhead
    · by_contra htrue
      have hlater := down head value ((List.pairwise_cons.mp ordered).1 value hrest)
        (by simpa using htrue)
      simp [hhead] at hlater

/-- The first entry of an ordered list comes before every entry. -/
theorem head?_least {α : Type} {order : α → α → Prop} (rank : α → Nat)
    (monotone : ∀ left right, order left right → rank left ≤ rank right)
    {values : List α} (ordered : values.Pairwise order) {head : α}
    (h : values.head? = some head) : ∀ value ∈ values, rank head ≤ rank value := by
  cases values with
  | nil => simp at h
  | cons first rest =>
    obtain rfl : first = head := by simpa using h
    exact List.forall_mem_cons.mpr
      ⟨le_rfl, fun value hrest => monotone _ _ ((List.pairwise_cons.mp ordered).1 value hrest)⟩

/-! ## The entries of a map, in order -/

section Entries

variable {α β : Type} {r : α → α → Prop} [DecidableRel r]

variable {κ : Type} [Ord κ] [TransOrd κ] [LawfulEqOrd κ]

omit [LawfulEqOrd κ] in
theorem values_eq_map_toList (map : ExtTreeMap κ β) : map.values = map.toList.map Prod.snd := by
  obtain ⟨⟨inner⟩⟩ := map
  induction inner using Quotient.ind with
  | _ inner =>
    show inner.inner.values = (DTreeMap.Internal.Impl.Const.toList inner.inner).map Prod.snd
    rw [DTreeMap.Internal.Impl.values_eq_map_snd,
      DTreeMap.Internal.Impl.Const.toList_eq_toListModel_map]
    simp

theorem mem_values (map : ExtTreeMap κ β) (value : β) :
    value ∈ map.values ↔ ∃ key : κ, map[key]? = some value := by
  simp [values_eq_map_toList, ExtTreeMap.mem_toList_iff_getElem?_eq_some]

end Entries

/-! ## Sorted lists without duplicates -/

section Sorted

variable {α : Type} [Ord α] [TransOrd α]

/-- `Vec::sort` followed by `Vec::dedup`. -/
def sortDedup (values : List α) : List α := (ExtTreeSet.ofList values).toList

theorem sortDedup_pairwise (values : List α) :
    (sortDedup values).Pairwise fun left right => compare left right = .lt :=
  ExtTreeSet.ordered_toList

@[simp] theorem mem_sortDedup [LawfulEqOrd α] [DecidableEq α] (values : List α) (value : α) :
    value ∈ sortDedup values ↔ value ∈ values := by
  simp [sortDedup, ExtTreeSet.mem_ofList]

/-- Sorting forgets order and repetition. -/
theorem sortDedup_congr [LawfulEqOrd α] [DecidableEq α] {left right : List α}
    (h : ∀ value, value ∈ left ↔ value ∈ right) : sortDedup left = sortDedup right := by
  have hasymm : Std.Asymm fun left right : α => compare left right = .lt :=
    ⟨fun first second hfirst hsecond => by
      rw [OrientedCmp.gt_of_lt hsecond] at hfirst
      cases hfirst⟩
  exact List.Pairwise.eq_of_mem_iff (sortDedup_pairwise left) (sortDedup_pairwise right)
    fun value => by simp [h]

theorem nodup_of_pairwise_lt {values : List α}
    (h : values.Pairwise fun left right => compare left right = .lt) : values.Nodup :=
  h.imp fun {left right} hlt heq => by simp [heq] at hlt

/-- Sorting a list without repetition keeps its length. -/
theorem length_sortDedup [LawfulEqOrd α] [DecidableEq α] {values : List α}
    (nodup : values.Nodup) : (sortDedup values).length = values.length :=
  ((List.perm_ext_iff_of_nodup (nodup_of_pairwise_lt (sortDedup_pairwise values)) nodup).mpr
    fun value => mem_sortDedup values value).length_eq

/-- `items.windows(2).all(|pair| pair[0] < pair[1])`. -/
def strictlySorted : List α → Bool
  | left :: right :: rest => (compare left right).isLT && strictlySorted (right :: rest)
  | _ => true

theorem strictlySorted_iff_pairwise {values : List α} : strictlySorted values = true ↔
    values.Pairwise fun left right => compare left right = .lt := by
  let below := fun left right : α => compare left right = .lt
  have : Trans below below below := ⟨TransCmp.lt_trans⟩
  rw [← List.isChain_iff_pairwise]
  induction values with
  | nil => simp [strictlySorted]
  | cons head rest ih => cases rest <;> simp_all [strictlySorted]

@[simp] theorem strictlySorted_sortDedup (values : List α) :
    strictlySorted (sortDedup values) = true :=
  strictlySorted_iff_pairwise.mpr (sortDedup_pairwise values)

/-- `Vec::sort_by_key` followed by `Vec::dedup_by_key`: the first value of each key, in
key order. -/
def sortDedupBy {β : Type} (key : β → α) (values : List β) : List β :=
  (values.foldl (fun map value => map.insertIfNew (key value) value)
    (∅ : ExtTreeMap α β)).values

end Sorted

end ConstellationMonitor.Foundation
