/-
  Wire formats: writers that append bytes, readers that take bytes off the front, and
  formats that pair the two.

  A format is exact when its reader returns what its writer wrote and accepts nothing
  else.  Formats are put together from parts, and exactness of the whole follows from
  exactness of the parts.
-/
import ConstellationMonitor.Foundation.Fallible

namespace ConstellationMonitor.Foundation

/-! ## Big-endian words -/

@[simp] theorem length_beBytes (width value : Nat) : (beBytes width value).length = width := by
  induction width with
  | zero => rfl
  | succ width ih => simp [beBytes, ih]

/-- The number big-endian bytes stand for, as `from_be_bytes` gives it. -/
def ofBe : List UInt8 → Nat
  | [] => 0
  | byte :: rest => byte.toNat * 256 ^ rest.length + ofBe rest

theorem ofBe_eq_ofDigits (bytes : List UInt8) :
    ofBe bytes = Nat.ofDigits 256 (bytes.reverse.map UInt8.toNat) := by
  induction bytes with
  | nil => rfl
  | cons byte rest ih =>
    rw [ofBe, ih, List.reverse_cons, List.map_append, Nat.ofDigits_append]
    simp [Nat.add_comm, Nat.mul_comm]

theorem digit_lt (bytes : List UInt8) : ∀ digit ∈ bytes.reverse.map UInt8.toNat, digit < 256 := by
  intro digit hdigit
  obtain ⟨byte, -, rfl⟩ := List.mem_map.mp hdigit
  exact byte.toNat_lt

theorem ofBe_lt (bytes : List UInt8) : ofBe bytes < 256 ^ bytes.length := by
  simpa [ofBe_eq_ofDigits] using Nat.ofDigits_lt_base_pow_length (by decide) (digit_lt bytes)

theorem ofBe_beBytes_mod (width value : Nat) :
    ofBe (beBytes width value) = value % 256 ^ width := by
  induction width with
  | zero => simp [beBytes, ofBe, Nat.mod_one]
  | succ width ih =>
    have hbyte : (value / 256 ^ width % 256).toUInt8.toNat = value / 256 ^ width % 256 := by
      simp
    rw [beBytes, ofBe, length_beBytes, hbyte, ih, Nat.mod_pow_succ]
    ring

theorem ofBe_beBytes {width value : Nat} (h : value < 256 ^ width) :
    ofBe (beBytes width value) = value := by
  rw [ofBe_beBytes_mod, Nat.mod_eq_of_lt h]

theorem ofBe_injective {left right : List UInt8} (length : left.length = right.length)
    (h : ofBe left = ofBe right) : left = right := by
  rw [ofBe_eq_ofDigits, ofBe_eq_ofDigits] at h
  have hdigits := Nat.ofDigits_inj_of_len_eq (by decide) (by simpa using length) (digit_lt left)
    (digit_lt right) h
  exact List.reverse_injective (List.map_injective_iff.mpr (fun _ _ => UInt8.toNat_inj.mp) hdigits)

theorem beBytes_ofBe (bytes : List UInt8) : beBytes bytes.length (ofBe bytes) = bytes :=
  ofBe_injective (length_beBytes _ _) (ofBe_beBytes (ofBe_lt bytes))

namespace Wire

/-! ## Writers -/

/-- A program that appends bytes to what has been written. -/
abbrev Writer (ε : Type) : Type → Type := StateT (List UInt8) (Except ε)

/-- A program that takes bytes off the front of what is left to read. -/
abbrev Reader (ε : Type) : Type → Type := StateT (List UInt8) (Except ε)

variable {ε α β γ : Type}

/-- What a writer writes. -/
def Writer.finish (writer : Writer ε PUnit) : Except ε (List UInt8) := (writer []).map Prod.snd

/-- One piece after another. -/
def joined (first second : Except ε (List UInt8)) : Except ε (List UInt8) := do
  let left ← first
  let right ← second
  return left ++ right

theorem joined_eq_ok {first second : Except ε (List UInt8)} {bytes : List UInt8} :
    joined first second = .ok bytes ↔
      ∃ left right, first = .ok left ∧ second = .ok right ∧ bytes = left ++ right := by
  cases first <;> cases second <;> simp [joined, bind, Except.bind, pure, Except.pure, eq_comm]

theorem joined_assoc (first second third : Except ε (List UInt8)) :
    joined (joined first second) third = joined first (joined second third) := by
  cases first <;> cases second <;> cases third <;>
    simp [joined, bind, Except.bind, pure, Except.pure]

/-- A writer appends the same bytes wherever it starts. -/
class Appends (writer : Writer ε PUnit) : Prop where
  append : ∀ written, writer written =
    writer.finish.map fun bytes => (PUnit.unit, written ++ bytes)

theorem append_eq (writer : Writer ε PUnit) [Appends writer] (written : List UInt8) :
    writer written = writer.finish.map fun bytes => (PUnit.unit, written ++ bytes) :=
  Appends.append written

instance appends_modify (bytes : List UInt8) :
    Appends (modify (· ++ bytes) : Writer ε PUnit) :=
  ⟨fun _ => rfl⟩

instance appends_pure : Appends (pure ⟨⟩ : Writer ε PUnit) :=
  ⟨fun written => by simp [Writer.finish, pure, StateT.pure, Except.pure, Except.map]⟩

instance appends_throw (error : ε) : Appends (throw error : Writer ε PUnit) := ⟨fun _ => rfl⟩

theorem bind_apply (first : Writer ε PUnit) (second : PUnit → Writer ε PUnit)
    (written : List UInt8) :
    (first >>= second) written = first written >>= fun result => second result.1 result.2 := rfl

theorem finish_bind (first second : Writer ε PUnit) [Appends second] :
    (first >>= fun _ => second).finish = joined first.finish second.finish := by
  unfold Writer.finish
  rw [bind_apply]
  cases hfirst : first [] with
  | error error => rfl
  | ok result =>
    show Except.map Prod.snd (second result.2) = joined (.ok result.2) second.finish
    rw [append_eq second]
    cases second.finish <;> rfl

instance appends_bind (first second : Writer ε PUnit) [Appends first] [Appends second] :
    Appends (first >>= fun _ => second) where
  append written := by
    rw [finish_bind, bind_apply, append_eq first]
    cases first.finish with
    | error error => rfl
    | ok bytes =>
      show second (written ++ bytes) = _
      rw [append_eq second]
      cases second.finish with
      | error error => rfl
      | ok more =>
        show Except.ok (PUnit.unit, written ++ bytes ++ more) =
          Except.ok (PUnit.unit, written ++ (bytes ++ more))
        rw [List.append_assoc]

theorem finish_refuse (bad : Prop) [Decidable bad] (error : ε) (writer : Writer ε PUnit) :
    (if bad then throw error else writer : Writer ε PUnit).finish =
      if bad then .error error else writer.finish := by
  split <;> rfl

instance appends_ite (condition : Prop) [Decidable condition] (first second : Writer ε PUnit)
    [Appends first] [Appends second] : Appends (if condition then first else second) := by
  split <;> assumption

instance appends_forM (values : List α) (body : α → Writer ε PUnit)
    [∀ value, Appends (body value)] : Appends (forM values body) := by
  induction values with
  | nil => exact appends_pure
  | cons head rest ih =>
    rw [List.forM_cons]
    exact appends_bind _ _

/-! ## Formats -/

/-- A way to write values and a way to read them back, with what is known of the values:
`typed` is what their types say and `bounded` what the reader asks for beyond that. -/
structure Format (ε α : Type) where
  put : α → Except ε (List UInt8)
  get : Reader ε α
  typed : α → Prop
  bounded : α → Prop

/-- The reader returns what was written and accepts nothing else. -/
class Format.Exact (format : Format ε α) : Prop where
  complete : ∀ {value : α} {bytes : List UInt8} (rest : List UInt8), format.typed value →
    format.bounded value → format.put value = .ok bytes →
      format.get (bytes ++ rest) = .ok (value, rest)
  sound : ∀ {input : List UInt8} {value : α} {rest : List UInt8},
    format.get input = .ok (value, rest) → format.typed value ∧ format.bounded value ∧
      ∃ bytes, format.put value = .ok bytes ∧ input = bytes ++ rest

theorem Format.exact_of_iff {format : Format ε α}
    (h : ∀ input value rest, format.get input = .ok (value, rest) ↔
      format.typed value ∧ format.bounded value ∧
        ∃ bytes, format.put value = .ok bytes ∧ input = bytes ++ rest) : format.Exact where
  complete rest htyped hbounded hput := (h _ _ rest).mpr ⟨htyped, hbounded, _, hput, rfl⟩
  sound hget := (h _ _ _).mp hget

namespace Format

/-- One format after another. -/
def prod (first : Format ε α) (second : Format ε β) : Format ε (α × β) where
  put value := joined (first.put value.1) (second.put value.2)
  get := do
    let left ← first.get
    let right ← second.get
    return (left, right)
  typed value := first.typed value.1 ∧ second.typed value.2
  bounded value := first.bounded value.1 ∧ second.bounded value.2

/-- A format for values in another shape. -/
def map (format : Format ε α) (shape : α ≃ β) : Format ε β where
  put value := format.put (shape.symm value)
  get := do
    let value ← format.get
    return shape value
  typed value := format.typed (shape.symm value)
  bounded value := format.bounded (shape.symm value)

/-- The value can be written, and what is written can be read. -/
def Admits (format : Format ε α) (value : α) : Prop :=
  format.bounded value ∧ ∃ bytes, format.put value = .ok bytes

@[simp] theorem admits_prod (first : Format ε α) (second : Format ε β) (value : α × β) :
    (first.prod second).Admits value ↔ first.Admits value.1 ∧ second.Admits value.2 := by
  simp only [Admits, prod, joined_eq_ok]
  constructor
  · rintro ⟨⟨hbounded, hbounded'⟩, _, left, right, hleft, hright, -⟩
    exact ⟨⟨hbounded, left, hleft⟩, ⟨hbounded', right, hright⟩⟩
  · rintro ⟨⟨hbounded, left, hleft⟩, ⟨hbounded', right, hright⟩⟩
    exact ⟨⟨hbounded, hbounded'⟩, _, left, right, hleft, hright, rfl⟩

@[simp] theorem admits_map (format : Format ε α) (shape : α ≃ β) (value : β) :
    (format.map shape).Admits value ↔ format.Admits (shape.symm value) := Iff.rfl

/-- Reading a pair and going on is reading its parts one after the other. -/
theorem prod_get_bind (first : Format ε α) (second : Format ε β) (body : α × β → Reader ε γ) :
    (first.prod second).get >>= body =
      first.get >>= fun left => second.get >>= fun right => body (left, right) := by
  simp only [prod, bind_assoc, pure_bind]

theorem map_get_bind (format : Format ε α) (shape : α ≃ β) (body : β → Reader ε γ) :
    (format.map shape).get >>= body = format.get >>= fun value => body (shape value) := by
  simp only [map, bind_assoc, pure_bind]

end Format

theorem read_bind_eq_ok (first : Reader ε α) (second : α → Reader ε β) (input rest : List UInt8)
    (result : β) : (first >>= second) input = .ok (result, rest) ↔
      ∃ value between, first input = .ok (value, between) ∧
        second value between = .ok (result, rest) := by
  show (first input >>= fun found => second found.1 found.2) = _ ↔ _
  rw [except_bind_eq_ok]
  constructor
  · rintro ⟨⟨value, between⟩, hfirst, hsecond⟩
    exact ⟨value, between, hfirst, hsecond⟩
  · rintro ⟨value, between, hfirst, hsecond⟩
    exact ⟨(value, between), hfirst, hsecond⟩

theorem read_refuse_eq_ok {bad : Prop} [Decidable bad] {error : ε} {reader : Reader ε α}
    {input rest : List UInt8} {result : α} :
    (if bad then throw error else reader : Reader ε α) input = .ok (result, rest) ↔
      ¬bad ∧ reader input = .ok (result, rest) := by
  split
  · rename_i hbad
    refine ⟨fun h => (nomatch h), fun h => absurd hbad h.1⟩
  · rename_i hbad
    exact ⟨fun h => ⟨hbad, h⟩, fun h => h.2⟩

instance exact_prod (first : Format ε α) (second : Format ε β) [first.Exact] [second.Exact] :
    (first.prod second).Exact where
  complete := by
    rintro ⟨left, right⟩ bytes rest ⟨htyped, htyped'⟩ ⟨hbounded, hbounded'⟩ hput
    obtain ⟨start, finish, hleft, hright, rfl⟩ := joined_eq_ok.mp hput
    refine (read_bind_eq_ok _ _ _ _ _).mpr ⟨left, finish ++ rest, ?_, ?_⟩
    · rw [List.append_assoc]
      exact Format.Exact.complete _ htyped hbounded hleft
    · exact (read_bind_eq_ok _ _ _ _ _).mpr ⟨right, rest,
        Format.Exact.complete _ htyped' hbounded' hright, rfl⟩
  sound := by
    intro input value rest hget
    obtain ⟨left, between, hleft, hget⟩ := (read_bind_eq_ok _ _ _ _ _).mp hget
    obtain ⟨right, last, hright, hget⟩ := (read_bind_eq_ok _ _ _ _ _).mp hget
    obtain ⟨rfl, rfl⟩ := Prod.mk.inj (Except.ok.inj hget)
    obtain ⟨htyped, hbounded, start, hput, rfl⟩ := Format.Exact.sound hleft
    obtain ⟨htyped', hbounded', finish, hput', rfl⟩ := Format.Exact.sound hright
    exact ⟨⟨htyped, htyped'⟩, ⟨hbounded, hbounded'⟩, start ++ finish,
      joined_eq_ok.mpr ⟨start, finish, hput, hput', rfl⟩, (List.append_assoc _ _ _).symm⟩

instance exact_map (format : Format ε α) (shape : α ≃ β) [format.Exact] :
    (format.map shape).Exact where
  complete := by
    intro value bytes rest htyped hbounded hput
    refine (read_bind_eq_ok _ _ _ _ _).mpr ⟨shape.symm value, rest,
      Format.Exact.complete rest htyped hbounded hput, ?_⟩
    rw [shape.apply_symm_apply]
    rfl
  sound := by
    intro input value rest hget
    obtain ⟨found, last, hfound, hget⟩ := (read_bind_eq_ok _ _ _ _ _).mp hget
    obtain ⟨rfl, rfl⟩ := Prod.mk.inj (Except.ok.inj hget)
    obtain ⟨htyped, hbounded, hput⟩ := Format.Exact.sound hfound
    simpa [Format.map] using And.intro htyped (And.intro hbounded hput)

/-! ## Lists -/

/-- Read a number of values. -/
def readTimes (reader : Reader ε α) : Nat → Reader ε (List α)
  | 0 => pure []
  | count + 1 => do
    let head ← reader
    let rest ← readTimes reader count
    return head :: rest

/-- Write values one after another. -/
def putAll (put : α → Except ε (List UInt8)) : List α → Except ε (List UInt8)
  | [] => .ok []
  | head :: rest => joined (put head) (putAll put rest)

theorem finish_forM (values : List α) (body : α → Writer ε PUnit) [∀ value, Appends (body value)] :
    (forM values body).finish = putAll (fun value => (body value).finish) values := by
  induction values with
  | nil => rfl
  | cons head rest ih => rw [List.forM_cons, finish_bind, ih, putAll]

section Lists

variable (format : Format ε α)

theorem readTimes_putAll [format.Exact] {values : List α} {bytes : List UInt8}
    (rest : List UInt8) (typed : ∀ value ∈ values, format.typed value)
    (bounded : ∀ value ∈ values, format.bounded value)
    (hput : putAll format.put values = .ok bytes) :
    readTimes format.get values.length (bytes ++ rest) = .ok (values, rest) := by
  induction values generalizing bytes with
  | nil =>
    obtain rfl : [] = bytes := Except.ok.inj hput
    rfl
  | cons head more ih =>
    obtain ⟨start, finish, hhead, hmore, rfl⟩ := joined_eq_ok.mp hput
    refine (read_bind_eq_ok _ _ _ _ _).mpr ⟨head, finish ++ rest, ?_, ?_⟩
    · rw [List.append_assoc]
      exact Format.Exact.complete _ (typed head (by simp)) (bounded head (by simp)) hhead
    · exact (read_bind_eq_ok _ _ _ _ _).mpr ⟨more, rest, ih
        (fun value hvalue => typed value (by simp [hvalue]))
        (fun value hvalue => bounded value (by simp [hvalue])) hmore, rfl⟩

omit format in
theorem exists_putAll {format : Format ε α} {values : List α}
    (admits : ∀ value ∈ values, format.Admits value) :
    ∃ bytes, putAll format.put values = .ok bytes := by
  induction values with
  | nil => exact ⟨[], rfl⟩
  | cons head rest ih =>
    obtain ⟨-, first, hfirst⟩ := admits head (by simp)
    obtain ⟨second, hsecond⟩ := ih fun value hvalue => admits value (by simp [hvalue])
    exact ⟨_, joined_eq_ok.mpr ⟨first, second, hfirst, hsecond, rfl⟩⟩

theorem putAll_readTimes [format.Exact] {count : Nat} {input rest : List UInt8}
    {values : List α} (hget : readTimes format.get count input = .ok (values, rest)) :
    values.length = count ∧ (∀ value ∈ values, format.typed value) ∧
      (∀ value ∈ values, format.bounded value) ∧
      ∃ bytes, putAll format.put values = .ok bytes ∧ input = bytes ++ rest := by
  induction count generalizing input values with
  | zero =>
    obtain ⟨rfl, rfl⟩ := Prod.mk.inj (Except.ok.inj hget)
    exact ⟨rfl, by simp, by simp, [], rfl, rfl⟩
  | succ count ih =>
    obtain ⟨head, between, hhead, hget⟩ := (read_bind_eq_ok _ _ _ _ _).mp hget
    obtain ⟨more, last, hmore, hget⟩ := (read_bind_eq_ok _ _ _ _ _).mp hget
    obtain ⟨rfl, rfl⟩ := Prod.mk.inj (Except.ok.inj hget)
    obtain ⟨htyped, hbounded, start, hput, rfl⟩ := Format.Exact.sound hhead
    obtain ⟨rfl, htyped', hbounded', finish, hput', rfl⟩ := ih hmore
    refine ⟨rfl, by simpa using ⟨htyped, htyped'⟩, by simpa using ⟨hbounded, hbounded'⟩,
      start ++ finish, joined_eq_ok.mpr ⟨start, finish, hput, hput', rfl⟩, ?_⟩
    exact (List.append_assoc _ _ _).symm

end Lists

/-! ## Fixed pieces -/

/-- Take a number of bytes off the front. -/
def take (count : Nat) (short : ε) : Reader ε (List UInt8) := fun input =>
  if count ≤ input.length then .ok (input.take count, input.drop count) else .error short

theorem take_eq_ok {count : Nat} {short : ε} {input bytes rest : List UInt8} :
    take count short input = .ok (bytes, rest) ↔ bytes.length = count ∧ input = bytes ++ rest := by
  unfold take
  constructor
  · intro h
    split at h
    · rename_i hcount
      obtain ⟨rfl, rfl⟩ := Prod.mk.inj (Except.ok.inj h)
      exact ⟨by simp [hcount], (List.take_append_drop _ _).symm⟩
    · cases h
  · rintro ⟨rfl, rfl⟩
    simp

/-! ## Words, counted lists and lengths -/

namespace Format

/-- A big-endian word of a number of bytes. -/
def word (width : Nat) (short : ε) : Format ε Nat where
  put value := .ok (beBytes width value)
  get := do return ofBe (← take width short)
  typed value := value < 256 ^ width
  bounded _ := True

theorem word_get_eq_ok {width value : Nat} {short : ε} {input rest : List UInt8} :
    (word width short).get input = .ok (value, rest) ↔
      value < 256 ^ width ∧ input = beBytes width value ++ rest := by
  refine (read_bind_eq_ok _ _ _ _ _).trans ?_
  constructor
  · rintro ⟨bytes, between, hfixed, hvalue⟩
    obtain ⟨rfl, rfl⟩ := take_eq_ok.mp hfixed
    obtain ⟨rfl, rfl⟩ := Prod.mk.inj (Except.ok.inj hvalue)
    exact ⟨ofBe_lt bytes, by rw [beBytes_ofBe]⟩
  · rintro ⟨hvalue, rfl⟩
    refine ⟨beBytes width value, rest, take_eq_ok.mpr ⟨length_beBytes _ _, rfl⟩, ?_⟩
    rw [ofBe_beBytes hvalue]
    rfl

instance exact_word (width : Nat) (short : ε) : (word width short).Exact :=
  exact_of_iff fun input value rest => by
    rw [word_get_eq_ok]
    simp [word]

/-- A list with its count before it.  The writer refuses a count the word cannot hold, the
reader one above a maximum. -/
def counted (format : Format ε α) (width maximum : Nat) (short long excess : ε) :
    Format ε (List α) where
  put values :=
    if values.length ≥ 256 ^ width then .error long
    else joined (.ok (beBytes width values.length)) (putAll format.put values)
  get := do
    let count ← (word width short).get
    if count > maximum then throw excess else readTimes format.get count
  typed values := ∀ value ∈ values, format.typed value
  bounded values := values.length ≤ maximum ∧ ∀ value ∈ values, format.bounded value

section Counted

variable {format : Format ε α} {width maximum : Nat} {short long excess : ε}

theorem counted_put_eq_ok {values : List α} {bytes : List UInt8} :
    (counted format width maximum short long excess).put values = .ok bytes ↔
      values.length < 256 ^ width ∧ ∃ more, putAll format.put values = .ok more ∧
        bytes = beBytes width values.length ++ more := by
  refine ite_error_eq_ok.trans ?_
  rw [not_le, joined_eq_ok]
  refine and_congr_right fun _ => ?_
  constructor
  · rintro ⟨_, more, hcount, hmore, rfl⟩
    obtain rfl := Except.ok.inj hcount
    exact ⟨more, hmore, rfl⟩
  · rintro ⟨more, hmore, rfl⟩
    exact ⟨_, more, rfl, hmore, rfl⟩

instance exact_counted [format.Exact] : (counted format width maximum short long excess).Exact where
  complete := by
    rintro values bytes rest htyped ⟨hmaximum, hbounded⟩ hput
    obtain ⟨hcount, more, hmore, rfl⟩ := counted_put_eq_ok.mp hput
    refine (read_bind_eq_ok _ _ _ _ _).mpr ⟨values.length, more ++ rest,
      word_get_eq_ok.mpr ⟨hcount, List.append_assoc _ _ _⟩,
      read_refuse_eq_ok.mpr ⟨not_lt.mpr hmaximum, ?_⟩⟩
    exact readTimes_putAll format rest htyped hbounded hmore
  sound := by
    intro input values rest hget
    obtain ⟨count, between, hcount, hread⟩ := (read_bind_eq_ok _ _ _ _ _).mp hget
    obtain ⟨hmaximum, htimes⟩ := read_refuse_eq_ok.mp hread
    obtain ⟨hsmall, rfl⟩ := word_get_eq_ok.mp hcount
    obtain ⟨rfl, htyped, hbounded, more, hmore, rfl⟩ := putAll_readTimes format htimes
    exact ⟨htyped, ⟨not_lt.mp hmaximum, hbounded⟩, _, counted_put_eq_ok.mpr
      ⟨hsmall, more, hmore, rfl⟩, (List.append_assoc _ _ _).symm⟩

theorem admits_counted (fits : maximum < 256 ^ width) {values : List α}
    (length : values.length ≤ maximum) (admits : ∀ value ∈ values, format.Admits value) :
    (counted format width maximum short long excess).Admits values := by
  obtain ⟨more, hmore⟩ := exists_putAll admits
  exact ⟨⟨length, fun value hvalue => (admits value hvalue).1⟩, _,
    counted_put_eq_ok.mpr ⟨by omega, more, hmore, rfl⟩⟩

end Counted

/-- What is written for a value the reader takes has at most this many bytes. -/
class AtMost (format : Format ε α) (limit : outParam Nat) : Prop where
  length_le : ∀ {value : α} {bytes : List UInt8}, format.bounded value →
    format.put value = .ok bytes → bytes.length ≤ limit

instance atMost_word (width : Nat) (short : ε) : (word width short).AtMost width where
  length_le := by
    rintro value _ - ⟨⟩
    rw [length_beBytes]

instance atMost_prod (first : Format ε α) (second : Format ε β) (left right : Nat)
    [first.AtMost left] [second.AtMost right] : (first.prod second).AtMost (left + right) where
  length_le := by
    rintro value bytes ⟨hbounded, hbounded'⟩ hput
    obtain ⟨start, finish, hleft, hright, rfl⟩ := joined_eq_ok.mp hput
    rw [List.length_append]
    exact Nat.add_le_add (AtMost.length_le hbounded hleft) (AtMost.length_le hbounded' hright)

instance atMost_map (format : Format ε α) (shape : α ≃ β) (limit : Nat) [format.AtMost limit] :
    (format.map shape).AtMost limit where
  length_le := by
    intro value bytes hbounded hput
    have hformat : format.AtMost limit := inferInstance
    exact hformat.length_le hbounded hput

theorem length_putAll_le (format : Format ε α) (limit : Nat) [format.AtMost limit]
    {values : List α} {bytes : List UInt8} (bounded : ∀ value ∈ values, format.bounded value)
    (hput : putAll format.put values = .ok bytes) : bytes.length ≤ values.length * limit := by
  induction values generalizing bytes with
  | nil =>
    obtain rfl : [] = bytes := Except.ok.inj hput
    simp
  | cons head rest ih =>
    obtain ⟨start, finish, hhead, hrest, rfl⟩ := joined_eq_ok.mp hput
    have hstart := AtMost.length_le (bounded head (by simp)) hhead
    have hfinish := ih (fun value hvalue => bounded value (by simp [hvalue])) hrest
    rw [List.length_append, List.length_cons, Nat.succ_mul]
    omega

instance atMost_counted (format : Format ε α) (width maximum limit : Nat) (short long excess : ε)
    [format.AtMost limit] :
    (counted format width maximum short long excess).AtMost (width + maximum * limit) where
  length_le := by
    rintro values bytes ⟨hmaximum, hbounded⟩ hput
    obtain ⟨-, more, hmore, rfl⟩ := counted_put_eq_ok.mp hput
    rw [List.length_append, length_beBytes]
    exact Nat.add_le_add_left ((length_putAll_le format limit hbounded hmore).trans
      (Nat.mul_le_mul_right limit hmaximum)) width

end Format

end Wire

end ConstellationMonitor.Foundation
