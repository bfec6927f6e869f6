/-
  Parts of a byte string between two positions, and checked access to them.

  Code that indexes a buffer aborts when a position lies outside it.  Checked access returns a
  fault instead, so that a proof can say that the fault never occurs.
-/
import ConstellationMonitor.Foundation.Wire

namespace ConstellationMonitor.Foundation

/-! ## Parts -/

/-- The bytes from one position up to another. -/
def part (bytes : List UInt8) (start stop : Nat) : List UInt8 :=
  (bytes.drop start).take (stop - start)

section Parts

variable {bytes : List UInt8} {start middle stop : Nat}

theorem length_part (h : stop ≤ bytes.length) : (part bytes start stop).length = stop - start := by
  rw [part, List.length_take, List.length_drop]
  omega

/-- A part is the big-endian form of the word it stands for. -/
theorem part_eq_beBytes (h : stop ≤ bytes.length) :
    part bytes start stop = beBytes (stop - start) (ofBe (part bytes start stop)) := by
  have hword := beBytes_ofBe (part bytes start stop)
  rw [length_part h] at hword
  exact hword.symm

/-- Parts that follow each other make up the part from the first to the last. -/
theorem part_append_part (bytes : List UInt8) (hstart : start ≤ middle) (hstop : middle ≤ stop) :
    part bytes start middle ++ part bytes middle stop = part bytes start stop := by
  have hsplit : stop - start = (middle - start) + (stop - middle) := by omega
  rw [part, part, part, hsplit, List.take_add, List.drop_drop]
  congr 3
  omega

/-- A part of a part. -/
theorem part_part (bytes : List UInt8) {inner outer : Nat} (h : start + outer ≤ stop) :
    part (part bytes start stop) inner outer = part bytes (start + inner) (start + outer) := by
  rw [part, part, part, List.drop_take, List.take_take, List.drop_drop]
  congr 1
  omega

theorem part_drop (bytes : List UInt8) (front inner outer : Nat) :
    part (bytes.drop front) inner outer = part bytes (front + inner) (front + outer) := by
  rw [part, part, List.drop_drop]
  congr 1
  omega

theorem part_length (bytes : List UInt8) (start : Nat) :
    part bytes start bytes.length = bytes.drop start := by
  rw [part, List.take_of_length_le]
  rw [List.length_drop]

/-- What the bytes from a position on start with is the part of its length there. -/
theorem prefix_drop_iff {whole : List UInt8} (h : start ≤ bytes.length) :
    whole <+: bytes.drop start ↔
      start + whole.length ≤ bytes.length ∧ part bytes start (start + whole.length) = whole := by
  rw [List.prefix_iff_eq_take, part, Nat.add_sub_cancel_left]
  constructor
  · intro hwhole
    have hlength := congrArg List.length hwhole
    rw [List.length_take, List.length_drop] at hlength
    exact ⟨by omega, hwhole.symm⟩
  · rintro ⟨-, hwhole⟩
    exact hwhole.symm

/-- A part that is made of two. -/
theorem part_eq_append_iff {left right : List UInt8}
    (h : start + left.length + right.length ≤ bytes.length) :
    part bytes start (start + (left ++ right).length) = left ++ right ↔
      part bytes start (start + left.length) = left ∧
        part bytes (start + left.length) (start + left.length + right.length) = right := by
  rw [List.length_append, ← Nat.add_assoc,
    ← part_append_part bytes (Nat.le_add_right start left.length) (Nat.le_add_right _ _)]
  constructor
  · intro hwhole
    refine List.append_inj hwhole ?_
    rw [length_part (by omega), Nat.add_sub_cancel_left]
  · rintro ⟨hleft, hright⟩
    rw [hleft, hright]

/-- A part that is made of four. -/
theorem part_eq_append_four_iff {first second third fourth : List UInt8}
    (h : start + first.length + second.length + third.length + fourth.length ≤ bytes.length) :
    part bytes start (start + (first ++ (second ++ (third ++ fourth))).length) =
        first ++ (second ++ (third ++ fourth)) ↔ part bytes start (start + first.length) = first ∧
        part bytes (start + first.length) (start + first.length + second.length) = second ∧
        part bytes (start + first.length + second.length)
          (start + first.length + second.length + third.length) = third ∧
        part bytes (start + first.length + second.length + third.length)
          (start + first.length + second.length + third.length + fourth.length) = fourth := by
  rw [part_eq_append_iff (by rw [List.length_append, List.length_append]; omega),
    part_eq_append_iff (by rw [List.length_append]; omega), part_eq_append_iff h]

end Parts

/-- A byte string cut into parts of given widths. -/
def cut : List Nat → List UInt8 → List (List UInt8)
  | [], _ => []
  | width :: rest, bytes => bytes.take width :: cut rest (bytes.drop width)

theorem flatten_cut {widths : List Nat} {bytes : List UInt8} (h : bytes.length = widths.sum) :
    (cut widths bytes).flatten = bytes := by
  induction widths generalizing bytes with
  | nil => exact (List.eq_nil_of_length_eq_zero h).symm
  | cons width rest ih =>
    rw [List.sum_cons] at h
    rw [cut, List.flatten_cons, ih (by rw [List.length_drop]; omega), List.take_append_drop]

theorem cut_flatten (parts : List (List UInt8)) :
    cut (parts.map List.length) parts.flatten = parts := by
  induction parts with
  | nil => rfl
  | cons first rest ih =>
    rw [List.map_cons, cut, List.flatten_cons, List.take_left, List.drop_left, ih]

/-- A byte string of the right length is made of parts exactly if it is cut into them. -/
theorem eq_flatten_iff {widths : List Nat} {bytes : List UInt8} {parts : List (List UInt8)}
    (hbytes : bytes.length = widths.sum) (hparts : parts.map List.length = widths) :
    bytes = parts.flatten ↔ cut widths bytes = parts := by
  constructor
  · rintro rfl
    rw [← hparts, cut_flatten]
  · intro h
    rw [← h, flatten_cut hbytes]

/-! ## Checked access -/

section Checked

variable {ε α β : Type} (fault : ε)

/-- `&bytes[start..stop]`. -/
def slice (bytes : List UInt8) (start stop : Nat) : Except ε (List UInt8) :=
  if start ≤ stop ∧ stop ≤ bytes.length then .ok (part bytes start stop) else .error fault

/-- `bytes[position]`. -/
def byteAt (bytes : List UInt8) (position : Nat) : Except ε UInt8 :=
  match bytes[position]? with
  | some byte => .ok byte
  | none => .error fault

/-- `from_be_bytes` of a slice that must have the width of the word. -/
def wordOf (width : Nat) (bytes : List UInt8) : Except ε Nat :=
  if bytes.length = width then .ok (ofBe bytes) else .error fault

/-- The computation decides a condition on its result: it returns one that meets it, or stops
for another reason than the fault when none does. -/
def Decides (condition : α → Prop) : Except ε α → Prop
  | .ok value => condition value
  | .error error => error ≠ fault ∧ ∀ value, ¬condition value

namespace Decides

variable {fault : ε} {condition : β → Prop}

theorem ne_fault {computation : Except ε β} (h : Decides fault condition computation) :
    computation ≠ .error fault := by
  rintro rfl
  exact h.1 rfl

theorem of_ok {computation : Except ε β} {value : β} (h : Decides fault condition computation)
    (ok : computation = .ok value) : condition value := by
  subst ok
  exact h

theorem exists_ok {computation : Except ε β} {value : β} (h : Decides fault condition computation)
    (met : condition value) : ∃ result, computation = .ok result ∧ condition result := by
  cases computation with
  | ok result => exact ⟨result, rfl, h⟩
  | error error => exact absurd met (h.2 value)

theorem refuseIf {bad : Bool} {error : ε} {rest : Unit → Except ε β} (other : error ≠ fault)
    (hbad : bad = true → ∀ value, ¬condition value)
    (hrest : bad = false → Decides fault condition (rest ())) :
    Decides fault condition (Foundation.refuseIf bad error >>= rest) := by
  cases bad with
  | false => exact hrest rfl
  | true => exact ⟨other, hbad rfl⟩

/-- A refusal unless `good`, which every result needs. -/
theorem require {good : Prop} [Decidable (¬good)] {error : ε} {rest : Unit → Except ε β}
    (other : error ≠ fault) (needed : ∀ value, condition value → good)
    (hrest : good → Decides fault condition (rest ())) :
    Decides fault condition (Foundation.refuseIf (decide (¬good)) error >>= rest) :=
  .refuseIf other (fun hbad value h => of_decide_eq_true hbad (needed value h))
    fun hgood => hrest (Classical.not_not.mp (of_decide_eq_false hgood))

/-- A refusal of what exceeds a bound. -/
theorem atMost {number bound : Nat} {error : ε} {rest : Unit → Except ε β} (other : error ≠ fault)
    (needed : ∀ value, condition value → number ≤ bound)
    (hrest : number ≤ bound → Decides fault condition (rest ())) :
    Decides fault condition (Foundation.refuseIf (decide (number > bound)) error >>= rest) :=
  .refuseIf other
    (fun hbad value h => absurd (of_decide_eq_true hbad) (Nat.not_lt.mpr (needed value h)))
    fun hgood => hrest (Nat.not_lt.mp (of_decide_eq_false hgood))

theorem slice {bytes : List UInt8} {start stop : Nat} {rest : List UInt8 → Except ε β}
    (h : start ≤ stop) (hstop : stop ≤ bytes.length)
    (hrest : Decides fault condition (rest (part bytes start stop))) :
    Decides fault condition (Foundation.slice fault bytes start stop >>= rest) := by
  rw [Foundation.slice, if_pos ⟨h, hstop⟩]
  exact hrest

theorem byteAt {bytes : List UInt8} {position : Nat} {rest : UInt8 → Except ε β}
    (h : position < bytes.length) (hrest : ∀ byte, part bytes position (position + 1) = [byte] →
      Decides fault condition (rest byte)) :
    Decides fault condition (Foundation.byteAt fault bytes position >>= rest) := by
  rw [Foundation.byteAt, List.getElem?_eq_getElem h]
  refine hrest bytes[position] ?_
  rw [part, Nat.add_sub_cancel_left, List.drop_eq_getElem_cons h, List.take_succ_cons,
    List.take_zero]

theorem wordOf {width : Nat} {bytes : List UInt8} {rest : Nat → Except ε β}
    (h : bytes.length = width) (hrest : Decides fault condition (rest (ofBe bytes))) :
    Decides fault condition (Foundation.wordOf fault width bytes >>= rest) := by
  rw [Foundation.wordOf, if_pos h]
  exact hrest

theorem mapError {δ : Type} {first : Except δ α} {rename : δ → ε} {rest : α → Except ε β}
    (other : ∀ error, rename error ≠ fault)
    (hnone : ∀ error, first = .error error → ∀ value, ¬condition value)
    (hrest : ∀ value, first = .ok value → Decides fault condition (rest value)) :
    Decides fault condition (first.mapError rename >>= rest) := by
  cases first with
  | ok value => exact hrest value rfl
  | error error => exact ⟨other error, hnone error rfl⟩

/-- A computation that decides a condition, followed by one that goes on with what it found. -/
theorem bind {first : Except ε α} {rest : α → Except ε β} {premise : α → Prop}
    (hfirst : Decides fault premise first)
    (hnone : (∀ value, ¬premise value) → ∀ value, ¬condition value)
    (hrest : ∀ value, premise value → Decides fault condition (rest value)) :
    Decides fault condition (first >>= rest) := by
  cases first with
  | ok value => exact hrest value hfirst
  | error error => exact ⟨hfirst.1, hnone hfirst.2⟩

end Decides

end Checked

end ConstellationMonitor.Foundation
