/-
  Concerns/Timestamp.lean --- the timestamp recogniser of status documents
  (`is_rfc3339`, `monitor-project-concerns/src/lib.rs`).

  A string is its UTF-8 bytes, as in the source, which mixes byte offsets with string
  slices; `none` is the panic of a slice that splits a character.  The recogniser is
  compared with two grammars of one shape: the one of the format, and a looser one where
  a number may start with a plus sign and a fraction may have no digit.
-/
import ConstellationMonitor.Foundation.Text

namespace ConstellationMonitor.Concerns

open Foundation

/-! ## Slices and numbers of the standard library -/

/-- A byte that goes on with a character. -/
def continues (byte : UInt8) : Bool := decide (0x80 ≤ byte ∧ byte ≤ 0xbf)

/-- `str::is_char_boundary`. -/
def isCharBoundary (bytes : List UInt8) (index : Nat) : Bool :=
  index == 0 || index == bytes.length || bytes[index]?.any (!continues ·)

/-- The bytes of a range. -/
def word (bytes : List UInt8) (first last : Nat) : List UInt8 :=
  (bytes.drop first).take (last - first)

/-- `str::get`; indexing gives the same or panics. -/
def slice (bytes : List UInt8) (first last : Nat) : Option (List UInt8) :=
  if first ≤ last ∧ isCharBoundary bytes first ∧ isCharBoundary bytes last then
    some (word bytes first last)
  else none

/-- `u8::is_ascii_digit`. -/
def isDigit (byte : UInt8) : Bool := decide (0x30 ≤ byte ∧ byte ≤ 0x39)

/-- One digit of `parse::<u32>`. -/
def pushDigit (value : Nat) (byte : UInt8) : Option Nat :=
  if isDigit byte ∧ value * 10 + (byte.toNat - 0x30) < 2 ^ 32 then
    some (value * 10 + (byte.toNat - 0x30))
  else none

/-- The number that digits stand for. -/
def digitsValue (bytes : List UInt8) : Option Nat := bytes.foldlM pushDigit 0

/-- `parse::<u32>`, which takes one leading plus sign. -/
def parseU32 : List UInt8 → Option Nat
  | [] | [0x2b] => none
  | 0x2b :: rest => digitsValue rest
  | bytes => digitsValue bytes

/-- `matches!` with a range. -/
def within (low high : Nat) (number : Option Nat) : Bool :=
  number.any fun value => decide (low ≤ value ∧ value ≤ high)

/-! ## The recogniser -/

/-- `zulu`. -/
def isZulu (zone : List UInt8) : Option Bool :=
  if zone = [0x5a] then some true
  else if zone.head? = some 0x2e ∧ zone.getLast? = some 0x5a then
    (slice zone 1 (zone.length - 1)).map (·.all isDigit)
  else some false

/-- The last conjunct of `offset`: what stands before its six bytes. -/
def isFraction (zone : List UInt8) : Option Bool :=
  if zone.length = 6 then some true
  else do
    if (← slice zone 0 (zone.length - 6)).head? = some 0x2e then
      (slice zone 1 (zone.length - 6)).map (·.all isDigit)
    else some false

/-- `offset`. -/
def isOffset (zone : List UInt8) : Option Bool :=
  if zone.length ≥ 6 then do
    let part ← slice zone (zone.length - 6) zone.length
    if (part.head? = some 0x2b ∨ part.head? = some 0x2d) ∧ part[3]? = some 0x3a then
      if within 0 23 (parseU32 (← slice part 1 3)) then
        if within 0 59 (parseU32 (← slice part 4 6)) then isFraction zone else some false
      else some false
    else some false
  else some false

/-- `date`, over a reading of the number in a range of bytes. -/
def isDate (number : Nat → Nat → Option Nat) : Bool :=
  within 1 9999 (number 0 4) && within 1 12 (number 5 7) && within 1 31 (number 8 10)

/-- `time`. -/
def isTime (number : Nat → Nat → Option Nat) : Bool :=
  within 0 23 (number 11 13) && within 0 59 (number 14 16) && within 0 60 (number 17 19)

/-- `is_rfc3339`. -/
def isRfc3339 (value : Text) : Option Bool :=
  let bytes := value.bytes
  if bytes.length < 20 ∨ bytes[10]? ≠ some 0x54 then some false
  else if bytes[4]? ≠ some 0x2d ∨ bytes[7]? ≠ some 0x2d ∨ bytes[13]? ≠ some 0x3a ∨
      bytes[16]? ≠ some 0x3a then some false
  else do
    let number (first last : Nat) := (slice bytes first last).bind parseU32
    let date := isDate number
    let time := isTime number
    let zone ← slice bytes 19 bytes.length
    let zulu ← isZulu zone
    -- `||` and `&&` only skip what cannot panic: `offset` is bound before.
    let offset ← isOffset zone
    return date && time && (zulu || offset)

/-! ## The grammars -/

/-- Nothing, or a dot and at least so many digits. -/
def Fraction (least : Nat) (bytes : List UInt8) : Prop :=
  bytes = [] ∨ ∃ digits : List UInt8, bytes = 0x2e :: digits ∧ digits.all isDigit = true ∧
    least ≤ digits.length

section Grammar

variable (number : List UInt8 → Option Nat) (least : Nat)

/-- A sign, hours and minutes. -/
def Offset (part : List UInt8) : Prop :=
  part.length = 6 ∧ (part.head? = some 0x2b ∨ part.head? = some 0x2d) ∧ part[3]? = some 0x3a ∧
    within 0 23 (number (word part 1 3)) = true ∧ within 0 59 (number (word part 4 6)) = true

/-- The separators of date and time. -/
def Separated (bytes : List UInt8) : Prop :=
  20 ≤ bytes.length ∧ bytes[10]? = some 0x54 ∧ bytes[4]? = some 0x2d ∧ bytes[7]? = some 0x2d ∧
    bytes[13]? = some 0x3a ∧ bytes[16]? = some 0x3a

instance (bytes : List UInt8) : Decidable (Separated bytes) := inferInstanceAs (Decidable (_ ∧ _))

/-- Date and time with their separators, then a fraction and the zone. -/
def Timestamp (value : Text) : Prop :=
  Separated value.bytes ∧ isDate (fun first last => number (word value.bytes first last)) = true ∧
    isTime (fun first last => number (word value.bytes first last)) = true ∧
    ∃ fraction zone, value.bytes.drop 19 = fraction ++ zone ∧ Fraction least fraction ∧
      (zone = [0x5a] ∨ Offset number zone)

end Grammar

/-- The format: numbers are digits, and a fraction has one at least. -/
def Strict (value : Text) : Prop := Timestamp digitsValue 1 value

/-- A number may also have a plus sign for its first digit, and a fraction no digit. -/
def Loose (value : Text) : Prop := Timestamp parseU32 0 value

/-- The zone, or the last six bytes of it, start inside a character. -/
def Splits (value : Text) : Prop :=
  Separated value.bytes ∧ (isCharBoundary value.bytes 19 = false ∨
    25 ≤ value.length ∧ isCharBoundary value.bytes (value.length - 6) = false)

instance (value : Text) : Decidable (Splits value) := inferInstanceAs (Decidable (_ ∧ _))

/-! ## Characters -/

/-- A character starts right after each ASCII byte. -/
def Characters (bytes : List UInt8) : Prop :=
  ∀ index byte, bytes[index]? = some byte → byte ≤ 0x7f → isCharBoundary bytes (index + 1) = true

/-- One byte of the UTF-8 decoder: it stands between two characters after an ASCII byte,
and starts none with a byte that goes on with one. -/
theorem utf8From_cons {missing : Nat} {low high byte : UInt8} {rest : List UInt8}
    (h : Text.utf8From missing low high (byte :: rest) = true) (hlow : missing = 0 ∨ 0x80 ≤ low) :
    (missing = 0 → continues byte = false) ∧ ∃ missing' low' high',
      Text.utf8From missing' low' high' rest = true ∧ (missing' = 0 ∨ 0x80 ≤ low') ∧
        (byte ≤ 0x7f → missing' = 0) := by
  cases missing with
  | zero =>
    unfold Text.utf8From at h
    refine ⟨?_, ?_⟩
    · intro _
      grind [continues]
    · split_ifs at h <;> exact ⟨_, _, _, h, by decide, by grind⟩
  | succ missing =>
    simp only [Text.utf8From, Bool.and_eq_true, decide_eq_true_eq] at h
    exact ⟨by simp, missing, 0x80, 0xbf, h.2, .inr (by decide), by grind⟩

theorem characters_of_utf8From {missing : Nat} {low high : UInt8} {bytes : List UInt8}
    (h : Text.utf8From missing low high bytes = true) (hlow : missing = 0 ∨ 0x80 ≤ low) :
    (missing = 0 → ∀ byte ∈ bytes.head?, continues byte = false) ∧ Characters bytes := by
  induction bytes generalizing missing low high with
  | nil => exact ⟨by simp, by simp [Characters]⟩
  | cons first rest ih =>
    obtain ⟨hstart, missing', low', high', hrest, hlow', hascii⟩ := utf8From_cons h hlow
    obtain ⟨hstarts, hcharacters⟩ := ih hrest hlow'
    refine ⟨by simpa using hstart, ?_⟩
    intro index byte hbyte hle
    cases index with
    | zero =>
      obtain rfl : first = byte := by simpa using hbyte
      have hnext := hstarts (hascii hle)
      cases rest with
      | nil => simp [isCharBoundary]
      | cons next rest => simpa [isCharBoundary] using hnext
    | succ index =>
      have hnext := hcharacters index byte (by simpa using hbyte) hle
      simpa [isCharBoundary] using hnext

section Slices

variable {bytes : List UInt8} {first last : Nat}

theorem boundary_of_ascii {byte : UInt8} (h : bytes[first]? = some byte) (hascii : byte ≤ 0x7f) :
    isCharBoundary bytes first = true := by
  have hstart : continues byte = false := by grind [continues]
  simp [isCharBoundary, h, hstart]

theorem boundary_length : isCharBoundary bytes bytes.length = true := by simp [isCharBoundary]

theorem boundary_drop (hfirst : first ≤ bytes.length) :
    isCharBoundary (bytes.drop first) last = true ↔
      last = 0 ∨ isCharBoundary bytes (first + last) = true := by
  simp only [isCharBoundary, List.length_drop, List.getElem?_drop]
  grind

theorem Characters.drop (h : Characters bytes) (hfirst : first ≤ bytes.length) :
    Characters (bytes.drop first) := by
  intro index byte hbyte hascii
  rw [List.getElem?_drop] at hbyte
  exact (boundary_drop hfirst).mpr (.inr (h (first + index) byte hbyte hascii))

theorem slice_eq (hle : first ≤ last) (hfirst : isCharBoundary bytes first = true)
    (hlast : isCharBoundary bytes last = true) :
    slice bytes first last = some (word bytes first last) :=
  if_pos ⟨hle, hfirst, hlast⟩

theorem parseU32_continues {byte : UInt8} (rest : List UInt8) (h : continues byte = true) :
    parseU32 (byte :: rest) = none := by
  have hplus : byte ≠ 0x2b := by
    rintro rfl
    exact absurd h (by decide)
  have hdigit : isDigit byte = false := by grind [continues, isDigit]
  simp [parseU32, digitsValue, pushDigit, hplus, hdigit]

/-- A word that starts inside a character is not a number anyway. -/
theorem number_slice (hlt : first < last) (hlength : last ≤ bytes.length)
    (hlast : isCharBoundary bytes last = true) :
    (slice bytes first last).bind parseU32 = parseU32 (word bytes first last) := by
  by_cases hfirst : isCharBoundary bytes first = true
  · rw [slice_eq hlt.le hfirst hlast]
    rfl
  · have hsplit : slice bytes first last = none := if_neg fun h => hfirst h.2.1
    have hin : first < bytes.length := by omega
    have hcontinues : continues bytes[first] = true := by
      simp only [isCharBoundary, List.getElem?_eq_getElem hin] at hfirst
      grind
    have hword : word bytes first last = bytes[first] :: word bytes (first + 1) last := by
      rw [word, List.drop_eq_getElem_cons hin, show last - first = last - (first + 1) + 1 by omega]
      rfl
    rw [hsplit, hword, parseU32_continues _ hcontinues]
    rfl

end Slices

/-! ## The zone -/

section Zone

variable {zone : List UInt8}

theorem isZulu_eq (h : Characters zone) : ∃ found, isZulu zone = some found ∧
      (found = true ↔ ∃ fraction, zone = fraction ++ [0x5a] ∧ Fraction 0 fraction) := by
  unfold isZulu
  split_ifs with hbare hdot
  · exact ⟨true, rfl, by simpa using ⟨[], hbare, .inl rfl⟩⟩
  · obtain ⟨hhead, hlast⟩ := hdot
    obtain ⟨digits, rfl⟩ : ∃ digits, zone = 0x2e :: (digits ++ [0x5a]) := by
      obtain ⟨rest, rfl⟩ := List.head?_eq_some_iff.mp hhead
      obtain ⟨front, hfront⟩ := List.getLast?_eq_some_iff.mp hlast
      cases front with
      | nil => simp at hfront
      | cons byte front => exact ⟨front, congrArg _ (List.cons.inj hfront).2⟩
    have hend : (0x2e :: (digits ++ [0x5a]) : List UInt8)[digits.length + 1]? = some 0x5a := by simp
    have hlength : (0x2e :: (digits ++ [0x5a]) : List UInt8).length - 1 = digits.length + 1 := by
      simp
    have hword : word (0x2e :: (digits ++ [0x5a])) 1 (digits.length + 1) = digits := by simp [word]
    rw [hlength, slice_eq (by omega) (h 0 0x2e rfl (by decide))
      (boundary_of_ascii hend (by decide)), hword]
    refine ⟨_, rfl, ?_⟩
    constructor
    · intro hall
      exact ⟨0x2e :: digits, rfl, .inr ⟨digits, rfl, hall, by omega⟩⟩
    · rintro ⟨fraction, heq, rfl | ⟨others, rfl, hall, -⟩⟩
      · simp at heq
      · obtain rfl : digits = others := by simpa using heq
        exact hall
  · refine ⟨false, rfl, ?_⟩
    simp only [Bool.false_eq_true, false_iff]
    rintro ⟨fraction, rfl, rfl | ⟨digits, rfl, -⟩⟩
    · exact hbare rfl
    · exact hdot ⟨rfl, List.getLast?_concat⟩

theorem isFraction_eq (h : Characters zone) (hlength : 6 ≤ zone.length)
    (hboundary : isCharBoundary zone (zone.length - 6) = true) :
    ∃ found, isFraction zone = some found ∧
      (found = true ↔ Fraction 0 (zone.take (zone.length - 6))) := by
  unfold isFraction
  split_ifs with hbare
  · exact ⟨true, rfl, by simp [Fraction, hbare]⟩
  · rw [slice_eq (by omega) (by simp [isCharBoundary]) hboundary, Option.bind_eq_bind,
      Option.bind_some]
    have hword : word zone 0 (zone.length - 6) = zone.take (zone.length - 6) := by simp [word]
    rw [hword]
    cases hfront : zone.take (zone.length - 6) with
    | nil =>
      have hnone := congrArg List.length hfront
      rw [List.length_take, List.length_nil] at hnone
      omega
    | cons dot digits =>
      by_cases hdot : dot = 0x2e
      · have hfirst : zone[0]? = some 0x2e := by
          rw [← List.getElem?_take_of_lt (show 0 < zone.length - 6 by omega), hfront, hdot]
          rfl
        have hdigits : word zone 1 (zone.length - 6) = digits := by
          rw [word, ← List.drop_take, hfront]
          rfl
        rw [if_pos (by simp [hdot]), slice_eq (by omega) (h 0 _ hfirst (by decide)) hboundary,
          hdigits]
        exact ⟨_, rfl, by simp [Fraction, hdot]⟩
      · exact ⟨false, if_neg (by simpa using hdot), by simp [Fraction, hdot]⟩

theorem isOffset_eq (h : Characters zone)
    (hboundary : 6 ≤ zone.length → isCharBoundary zone (zone.length - 6) = true) :
    ∃ found, isOffset zone = some found ∧
      (found = true ↔ ∃ fraction part, zone = fraction ++ part ∧ Fraction 0 fraction ∧
        Offset parseU32 part) := by
  -- The six bytes of an offset can only be the last six.
  have hsplit : (∃ fraction part, zone = fraction ++ part ∧ Fraction 0 fraction ∧
      Offset parseU32 part) ↔ 6 ≤ zone.length ∧ Fraction 0 (zone.take (zone.length - 6)) ∧
        Offset parseU32 (zone.drop (zone.length - 6)) := by
    constructor
    · rintro ⟨fraction, part, rfl, hfraction, hoffset⟩
      have hpart : (fraction ++ part).length - 6 = fraction.length := by
        rw [List.length_append, hoffset.1, Nat.add_sub_cancel]
      rw [hpart, List.take_left, List.drop_left, List.length_append]
      exact ⟨by have := hoffset.1; omega, hfraction, hoffset⟩
    · rintro ⟨-, hfraction, hoffset⟩
      exact ⟨_, _, (List.take_append_drop _ zone).symm, hfraction, hoffset⟩
  rw [hsplit]
  unfold isOffset
  split_ifs with hlength
  · have hboundary := hboundary hlength
    have hpart : word zone (zone.length - 6) zone.length = zone.drop (zone.length - 6) := by
      simp [word]
    rw [slice_eq (by omega) hboundary boundary_length, Option.bind_eq_bind, Option.bind_some, hpart]
    generalize hlast : zone.drop (zone.length - 6) = part
    have hsix : part.length = 6 := by
      rw [← hlast, List.length_drop]
      omega
    have hcharacters : Characters part := hlast ▸ h.drop (by omega)
    split_ifs with hshape
    · obtain ⟨hsign, hcolon⟩ := hshape
      have hascii : isCharBoundary part 1 = true := by
        rw [List.head?_eq_getElem?] at hsign
        rcases hsign with hplus | hminus
        · exact hcharacters 0 _ hplus (by decide)
        · exact hcharacters 0 _ hminus (by decide)
      rw [slice_eq (by omega) hascii (boundary_of_ascii hcolon (by decide)),
        slice_eq (by omega) (hcharacters 3 _ hcolon (by decide)) (hsix ▸ boundary_length)]
      simp only [Option.bind_some]
      by_cases hhour : within 0 23 (parseU32 (word part 1 3)) = true
      · rw [if_pos hhour]
        by_cases hminute : within 0 59 (parseU32 (word part 4 6)) = true
        · obtain ⟨found, hfound, hiff⟩ := isFraction_eq h hlength hboundary
          rw [if_pos hminute]
          refine ⟨found, hfound, hiff.trans ⟨fun hfraction => ?_, fun hwhole => hwhole.2.1⟩⟩
          exact ⟨hlength, hfraction, hsix, hsign, hcolon, hhour, hminute⟩
        · exact ⟨false, if_neg hminute, by simp [Offset, hminute]⟩
      · exact ⟨false, if_neg hhour, by simp [Offset, hhour]⟩
    · exact ⟨false, rfl, by simp [Offset]; tauto⟩
  · exact ⟨false, rfl, by simp [hlength]⟩

theorem isOffset_splits (hlength : 6 ≤ zone.length)
    (h : isCharBoundary zone (zone.length - 6) = false) : isOffset zone = none := by
  simp [isOffset, slice, hlength, h]

end Zone

/-! ## The recogniser -/

section Recogniser

variable {value : Text}

theorem isRfc3339_separated (hseparated : Separated value.bytes)
    (hzone : isCharBoundary value.bytes 19 = true) :
    isRfc3339 value = (isZulu (value.bytes.drop 19)).bind fun zulu =>
      (isOffset (value.bytes.drop 19)).bind fun offset =>
        some (isDate (fun first last => parseU32 (word value.bytes first last)) &&
          isTime (fun first last => parseU32 (word value.bytes first last)) &&
            (zulu || offset)) := by
  obtain ⟨hlength, hday, hyear, hmonth, hhour, hminute⟩ := hseparated
  have hrest : word value.bytes 19 value.bytes.length = value.bytes.drop 19 := by simp [word]
  unfold isRfc3339
  rw [if_neg (by simp [hday, hlength]), if_neg (by simp [hyear, hmonth, hhour, hminute])]
  dsimp only [isDate, isTime]
  rw [number_slice (by omega) (by omega) (boundary_of_ascii hyear (by decide)),
    number_slice (by omega) (by omega) (boundary_of_ascii hmonth (by decide)),
    number_slice (by omega) (by omega) (boundary_of_ascii hday (by decide)),
    number_slice (by omega) (by omega) (boundary_of_ascii hhour (by decide)),
    number_slice (by omega) (by omega) (boundary_of_ascii hminute (by decide)),
    number_slice (by omega) (by omega) hzone,
    slice_eq (by omega) hzone boundary_length, hrest]
  rfl

theorem isRfc3339_not_separated (h : ¬ Separated value.bytes) : isRfc3339 value = some false := by
  unfold isRfc3339
  by_cases hshort : value.bytes.length < 20 ∨ value.bytes[10]? ≠ some 0x54
  · exact if_pos hshort
  · refine (if_neg hshort).trans (if_pos ?_)
    unfold Separated at h
    grind

theorem characters_zone (hutf8 : value.isUtf8 = true) (hseparated : Separated value.bytes) :
    Characters (value.bytes.drop 19) :=
  (characters_of_utf8From hutf8 (.inl rfl)).2.drop (Nat.le_of_succ_le hseparated.1)

/-- The place of the offset in the zone and in the whole. -/
theorem boundary_offset (hseparated : Separated value.bytes)
    (hzone : isCharBoundary value.bytes 19 = true) (hlength : 6 ≤ (value.bytes.drop 19).length) :
    isCharBoundary (value.bytes.drop 19) ((value.bytes.drop 19).length - 6) =
      isCharBoundary value.bytes (value.length - 6) := by
  rw [List.length_drop] at *
  rw [Bool.eq_iff_iff, boundary_drop (Nat.le_of_succ_le hseparated.1),
    show 19 + (value.bytes.length - 19 - 6) = value.length - 6 by unfold Text.length; omega]
  refine or_iff_right_of_imp fun hfirst => ?_
  rw [show value.length - 6 = 19 by unfold Text.length; omega]
  exact hzone

/-- Without a split character the looser grammar is recognised. -/
theorem isRfc3339_loose (hutf8 : value.isUtf8 = true) (hsplits : ¬ Splits value) :
    ∃ found, isRfc3339 value = some found ∧ (found = true ↔ Loose value) := by
  by_cases hseparated : Separated value.bytes
  · obtain ⟨hzone, hlast⟩ : isCharBoundary value.bytes 19 = true ∧ (25 ≤ value.length →
        isCharBoundary value.bytes (value.length - 6) = true) := by
      simpa [Splits, hseparated] using hsplits
    have hcharacters := characters_zone hutf8 hseparated
    obtain ⟨zulu, hzulu, hzuluIff⟩ := isZulu_eq hcharacters
    obtain ⟨offset, hoffset, hoffsetIff⟩ := isOffset_eq hcharacters fun hlength => by
      rw [boundary_offset hseparated hzone hlength]
      rw [List.length_drop] at hlength
      exact hlast (by unfold Text.length; omega)
    rw [isRfc3339_separated hseparated hzone, hzulu, Option.bind_some, hoffset, Option.bind_some]
    refine ⟨_, rfl, ?_⟩
    simp only [Bool.and_eq_true, Bool.or_eq_true, hzuluIff, hoffsetIff, Loose, Timestamp,
      hseparated, true_and, and_assoc]
    refine and_congr_right fun _ => and_congr_right fun _ => ?_
    constructor
    · rintro (⟨fraction, heq, hfraction⟩ | ⟨fraction, part, heq, hfraction, hpart⟩)
      · exact ⟨fraction, [0x5a], heq, hfraction, .inl rfl⟩
      · exact ⟨fraction, part, heq, hfraction, .inr hpart⟩
    · rintro ⟨fraction, part, heq, hfraction, rfl | hpart⟩
      · exact .inl ⟨fraction, heq, hfraction⟩
      · exact .inr ⟨fraction, part, heq, hfraction, hpart⟩
  · exact ⟨false, isRfc3339_not_separated hseparated, by simp [Loose, Timestamp, hseparated]⟩

theorem isRfc3339_splits (hutf8 : value.isUtf8 = true) (hsplits : Splits value) :
    isRfc3339 value = none := by
  obtain ⟨hseparated, hplace⟩ := hsplits
  by_cases hzone : isCharBoundary value.bytes 19 = true
  · obtain ⟨hlength, hoffset⟩ : 25 ≤ value.length ∧
        isCharBoundary value.bytes (value.length - 6) = false := by simpa [hzone] using hplace
    have hsix : 6 ≤ (value.bytes.drop 19).length := by
      rw [List.length_drop]
      unfold Text.length at hlength
      omega
    rw [← boundary_offset hseparated hzone hsix] at hoffset
    obtain ⟨zulu, hzulu, -⟩ := isZulu_eq (characters_zone hutf8 hseparated)
    rw [isRfc3339_separated hseparated hzone, hzulu, isOffset_splits hsix hoffset]
    rfl
  · obtain ⟨hlength, hday, hyear, hmonth, hhour, hminute⟩ := hseparated
    simp [isRfc3339, slice, hzone, Nat.not_lt.mpr hlength, hday, hyear, hmonth, hhour, hminute]

end Recogniser

/-- On every string: the recogniser panics exactly if the zone, or its last six bytes, start
inside a character; it accepts the looser grammar; so it is right about the format exactly if
no character is split and the string is not read by the looser grammar alone. -/
theorem is_rfc3339_exact_iff (value : Text) (hutf8 : value.isUtf8 = true) :
    (isRfc3339 value = none ↔ Splits value) ∧
      (isRfc3339 value = some true ↔ ¬ Splits value ∧ Loose value) ∧
      ((∃ found, isRfc3339 value = some found ∧ (found = true ↔ Strict value)) ↔
        ¬ Splits value ∧ (Loose value ↔ Strict value)) := by
  by_cases hsplits : Splits value
  · simp [isRfc3339_splits hutf8 hsplits, hsplits]
  · obtain ⟨found, hfound, hloose⟩ := isRfc3339_loose hutf8 hsplits
    simp [hfound, hsplits, hloose]

/-- An ordinary timestamp is read rightly. -/
theorem is_rfc3339_exact_utc : ∃ found, isRfc3339 "2026-01-01T00:00:00Z" = some found ∧
      (found = true ↔ Strict "2026-01-01T00:00:00Z") := by
  have hloose : Loose "2026-01-01T00:00:00Z" := ⟨by decide +kernel, by decide +kernel,
    by decide +kernel, [], [0x5a], by decide +kernel, .inl rfl, .inl rfl⟩
  have hstrict : Strict "2026-01-01T00:00:00Z" := ⟨by decide +kernel, by decide +kernel,
    by decide +kernel, [], [0x5a], by decide +kernel, .inl rfl, .inl rfl⟩
  exact (is_rfc3339_exact_iff _ (by decide +kernel)).2.2.mpr
    ⟨by decide +kernel, fun _ => hstrict, fun _ => hloose⟩

/-- A month with a plus sign and a fraction without digits are accepted, and a character
across the start of the zone ends the collection. -/
theorem is_rfc3339_misread :
    (isRfc3339 "2026-+1-01T00:00:00Z" = some true ∧ ¬ Strict "2026-+1-01T00:00:00Z") ∧
      (isRfc3339 "2026-01-01T00:00:00.Z" = some true ∧ ¬ Strict "2026-01-01T00:00:00.Z") ∧
      isRfc3339 "2026-01-01T00:00:0éZ" = none := by
  refine ⟨⟨by decide +kernel, ?_⟩, ⟨by decide +kernel, ?_⟩, by decide +kernel⟩
  · rintro ⟨-, hdate, -⟩
    exact absurd hdate (by decide +kernel)
  · rintro ⟨-, -, -, fraction, zone, heq, hfraction, hzone⟩
    have hlength : fraction.length + zone.length = 2 := by
      rw [← List.length_append, ← heq]
      decide +kernel
    have hzoneLength : zone.length = 1 ∨ zone.length = 6 := by
      rcases hzone with rfl | hoffset
      · exact .inl rfl
      · exact .inr hoffset.1
    rcases hfraction with rfl | ⟨digits, rfl, -, hleast⟩
    · simp only [List.length_nil] at hlength
      omega
    · simp only [List.length_cons] at hlength
      omega

end ConstellationMonitor.Concerns
