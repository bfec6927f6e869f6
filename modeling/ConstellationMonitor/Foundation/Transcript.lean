/-
  Transcripts: lists of items written one after another with no count, and when the items
  can be told apart again.

  `Splits` collects what has to be known of the items and of what may follow them; a list of
  items is then determined by what was written (`Splits.inj`).  Parts behind their lengths
  and items behind a literal tag are the two cases used most.
-/
import ConstellationMonitor.Foundation.Wire

namespace ConstellationMonitor.Foundation

section Items

variable {α β : Type}

/-- Items of `domain`, written by `encode`, can be told apart: `Follow` is what may come after
the last item and `Rest` what may come after any of them. -/
structure Splits (encode : α → List β) (domain : α → Prop) (Rest Follow : List β → Prop) :
    Prop where
  rest_of_follow : ∀ {rest}, Follow rest → Rest rest
  rest_encode : ∀ {item rest}, domain item → Rest rest → Rest (encode item ++ rest)
  distinct : ∀ {left right rest more}, domain left → domain right → Rest rest → Rest more →
    encode left ++ rest = encode right ++ more → left = right ∧ rest = more
  separated : ∀ {item rest follow}, domain item → Rest rest → Follow follow →
    encode item ++ rest ≠ follow

namespace Splits

variable {encode : α → List β} {domain : α → Prop} {Rest Follow : List β → Prop}

theorem rest_flatMap (h : Splits encode domain Rest Follow) {items : List α} {rest : List β}
    (hitems : ∀ item ∈ items, domain item) (hrest : Rest rest) :
    Rest (items.flatMap encode ++ rest) := by
  induction items with
  | nil => exact hrest
  | cons item items ih =>
    obtain ⟨hitem, hitems⟩ := List.forall_mem_cons.mp hitems
    rw [List.flatMap_cons, List.append_assoc]
    exact h.rest_encode hitem (ih hitems)

/-- The items and what follows them are determined by what was written. -/
theorem inj (h : Splits encode domain Rest Follow) {left right : List α} {rest more : List β}
    (hleft : ∀ item ∈ left, domain item) (hright : ∀ item ∈ right, domain item)
    (hrest : Follow rest) (hmore : Follow more)
    (heq : left.flatMap encode ++ rest = right.flatMap encode ++ more) :
    left = right ∧ rest = more := by
  induction left generalizing right with
  | nil =>
    cases right with
    | nil => exact ⟨rfl, heq⟩
    | cons other others =>
      obtain ⟨hother, hothers⟩ := List.forall_mem_cons.mp hright
      rw [List.flatMap_cons, List.append_assoc] at heq
      exact absurd heq.symm (h.separated hother
        (h.rest_flatMap hothers (h.rest_of_follow hmore)) hrest)
  | cons item items ih =>
    obtain ⟨hitem, hitems⟩ := List.forall_mem_cons.mp hleft
    have htail := h.rest_flatMap hitems (h.rest_of_follow hrest)
    rw [List.flatMap_cons, List.append_assoc] at heq
    cases right with
    | nil => exact absurd heq (h.separated hitem htail hmore)
    | cons other others =>
      obtain ⟨hother, hothers⟩ := List.forall_mem_cons.mp hright
      rw [List.flatMap_cons, List.append_assoc] at heq
      obtain ⟨rfl, hmatch⟩ := h.distinct hitem hother htail
        (h.rest_flatMap hothers (h.rest_of_follow hmore)) heq
      obtain ⟨rfl, rfl⟩ := ih hitems hothers hmatch
      exact ⟨rfl, rfl⟩

/-- Items that start with a literal tag, before something that does not. -/
theorem tagged {fields : α → List β} (tag : β)
    (distinct : ∀ {left right rest more}, domain left → domain right →
      fields left ++ rest = fields right ++ more → left = right ∧ rest = more) :
    Splits (fun item => tag :: fields item) domain (fun _ => True)
      (fun rest => rest.head? ≠ some tag) where
  rest_of_follow _ := trivial
  rest_encode _ _ := trivial
  distinct hleft hright _ _ heq := distinct hleft hright (List.cons.inj heq).2
  separated _ _ hfollow heq := hfollow (by rw [← heq]; rfl)

end Splits

/-- A section of items behind one tag does not start with another. -/
theorem head?_tagged_ne {fields : α → List β} {items : List α} {rest : List β} {tag other : β}
    (htags : other ≠ tag) (hrest : rest.head? ≠ some tag) :
    (items.flatMap (fun item => other :: fields item) ++ rest).head? ≠ some tag := by
  cases items with
  | nil => exact hrest
  | cons item items => simpa using htags

end Items

/-! ## Parts behind their lengths -/

theorem beBytes_injective {width left right : Nat} (hleft : left < 256 ^ width)
    (hright : right < 256 ^ width) (h : beBytes width left = beBytes width right) :
    left = right := by
  rw [← ofBe_beBytes hleft, h, ofBe_beBytes hright]

/-- A part behind its length. -/
def delimitedPart (part : List UInt8) : List UInt8 := beBytes 8 part.length ++ part

theorem splits_delimitedPart :
    Splits delimitedPart (fun part => part.length < 256 ^ 8) (fun _ => True) (· = []) where
  rest_of_follow _ := trivial
  rest_encode _ _ := trivial
  distinct := by
    intro left right rest more hleft hright _ _ heq
    rw [delimitedPart, delimitedPart, List.append_assoc, List.append_assoc] at heq
    obtain ⟨hlength, hrest⟩ := List.append_inj heq (by simp)
    exact List.append_inj hrest (beBytes_injective hleft hright hlength)
  separated := by
    rintro part rest _ - - rfl hempty
    have := congrArg List.length hempty
    simp [delimitedPart] at this

/-- Parts behind their lengths are determined by what was written. -/
theorem delimited_injective {left right : List (List UInt8)}
    (hleft : ∀ part ∈ left, part.length < 256 ^ 8) (hright : ∀ part ∈ right, part.length < 256 ^ 8)
    (h : left.flatMap delimitedPart = right.flatMap delimitedPart) : left = right :=
  (splits_delimitedPart.inj hleft hright rfl rfl (by simpa using h)).1

end ConstellationMonitor.Foundation
