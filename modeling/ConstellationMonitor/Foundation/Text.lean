/-
  Byte texts: owned strings as their UTF-8 bytes, the order the standard library
  gives them, and the number formatting used to build identities and transcripts.

  A text is compared, measured and hashed through its bytes only, so nothing here
  depends on decoding.  Control characters are recognised on the encoding: the C0
  block and DEL are single bytes, the C1 block is the lead byte `0xC2` followed by a
  byte below `0xA0`.
-/
import Mathlib

namespace ConstellationMonitor.Foundation

/-- An owned string, as its UTF-8 bytes. -/
structure Text where
  /-- the encoded bytes -/
  bytes : List UInt8
  deriving DecidableEq, Inhabited

namespace Text

/-- The bytes of a literal. -/
def ofString (value : String) : Text := ⟨value.toByteArray.data.toList⟩

instance : Coe String Text := ⟨ofString⟩

instance : Append Text := ⟨fun left right => ⟨left.bytes ++ right.bytes⟩⟩

@[simp] theorem bytes_append (left right : Text) :
    (left ++ right).bytes = left.bytes ++ right.bytes := rfl

/-- Strings are ordered by their bytes. -/
instance : Ord Text := ⟨compareOn Text.bytes⟩

instance : Std.TransOrd Text := inferInstanceAs (Std.TransCmp (compareOn Text.bytes))

instance : Std.LawfulEqOrd Text where
  compare_self := by
    intro text
    exact Std.ReflOrd.compare_self (a := text.bytes)
  eq_of_compare := by
    intro left right h
    have hbytes : left.bytes = right.bytes :=
      Std.LawfulEqOrd.eq_of_compare (a := left.bytes) (b := right.bytes) h
    cases left
    cases right
    exact congrArg Text.mk hbytes

/-- `str::len`. -/
def length (text : Text) : Nat := text.bytes.length

@[simp] theorem length_append (left right : Text) :
    (left ++ right).length = left.length + right.length := by
  simp [length]

/-- `str::is_empty`. -/
def isEmpty (text : Text) : Bool := text.bytes.isEmpty

/-- Whether encoded text contains a control character. -/
def bytesHaveControl : List UInt8 → Bool
  | [] => false
  | byte :: rest =>
    decide (byte < 0x20) || decide (byte = 0x7f) ||
      (decide (byte = 0xc2) && rest.head?.any fun next => decide (next < 0xa0)) ||
      bytesHaveControl rest

/-- `value.chars().any(char::is_control)`. -/
def hasControl (text : Text) : Bool := bytesHaveControl text.bytes

/-- Text of printable ASCII has no control character. -/
theorem hasControl_eq_false {text : Text}
    (printable : ∀ byte ∈ text.bytes, 0x20 ≤ byte ∧ byte < 0x7f) : text.hasControl = false := by
  unfold hasControl
  generalize text.bytes = bytes at printable
  induction bytes with
  | nil => rfl
  | cons byte rest ih =>
    obtain ⟨hlow, hhigh⟩ := printable byte (by simp)
    have hlead : byte ≠ 0xc2 := by
      rintro rfl
      exact absurd hhigh (by decide)
    simp [bytesHaveControl, hlow, UInt8.ne_of_lt hhigh, hlead,
      ih fun other hother => printable other (by simp [hother])]

/-- The bytes a multi-byte character may go on with, given how many are missing and the
range of the next one. -/
def utf8From : Nat → UInt8 → UInt8 → List UInt8 → Bool
  | 0, _, _, [] => true
  | _ + 1, _, _, [] => false
  | 0, _, _, byte :: rest =>
    if byte ≤ 0x7f then utf8From 0 0 0 rest
    else if 0xc2 ≤ byte ∧ byte ≤ 0xdf then utf8From 1 0x80 0xbf rest
    else if byte = 0xe0 then utf8From 2 0xa0 0xbf rest
    else if byte = 0xed then utf8From 2 0x80 0x9f rest
    else if 0xe1 ≤ byte ∧ byte ≤ 0xef then utf8From 2 0x80 0xbf rest
    else if byte = 0xf0 then utf8From 3 0x90 0xbf rest
    else if 0xf1 ≤ byte ∧ byte ≤ 0xf3 then utf8From 3 0x80 0xbf rest
    else if byte = 0xf4 then utf8From 3 0x80 0x8f rest
    else false
  | missing + 1, low, high, byte :: rest =>
    decide (low ≤ byte) && decide (byte ≤ high) && utf8From missing 0x80 0xbf rest

/-- Whether `str::from_utf8` accepts the bytes. -/
def isUtf8 (text : Text) : Bool := utf8From 0 0 0 text.bytes

/-- Text of printable ASCII is UTF-8. -/
theorem isUtf8_of_printable {text : Text}
    (printable : ∀ byte ∈ text.bytes, 0x20 ≤ byte ∧ byte < 0x7f) : text.isUtf8 = true := by
  unfold isUtf8
  generalize text.bytes = bytes at printable
  induction bytes with
  | nil => rfl
  | cons byte rest ih =>
    have hascii : byte ≤ 0x7f := UInt8.le_of_lt (printable byte (by simp)).2
    rw [utf8From, if_pos hascii]
    exact ih fun other hother => printable other (by simp [hother])

/-- `str::contains`. -/
def contains (text part : Text) : Bool := decide (part.bytes <:+: text.bytes)

/-- `str::split` at one byte. -/
def split (separator : UInt8) (text : Text) : List Text :=
  (text.bytes.splitOn separator).map Text.mk

/-- `str::strip_prefix`. -/
def stripStart (start text : Text) : Option Text :=
  if start.bytes.isPrefixOf text.bytes then
    some ⟨text.bytes.drop start.bytes.length⟩
  else none

/-- The loop of `trimStartMatches`; a text has at most its length of starts to drop. -/
def trimStartLoop (start : Text) : Nat → Text → Text
  | 0, text => text
  | fuel + 1, text =>
    match stripStart start text with
    | none => text
    | some rest => trimStartLoop start fuel rest

/-- `str::trim_start_matches`. -/
def trimStartMatches (start text : Text) : Text := trimStartLoop start text.length text

/-- Join texts with a separator. -/
def join (separator : Text) : List Text → Text
  | [] => ⟨[]⟩
  | [last] => last
  | head :: rest => head ++ separator ++ join separator rest

/-- The digits of a number in a base up to sixteen, as lower-case bytes. -/
def digits (base value : Nat) : List UInt8 :=
  (Nat.toDigits base value).map fun digit => digit.toNat.toUInt8

/-- The decimal form of a number, as `{}` prints it. -/
def decimal (value : Nat) : Text := ⟨digits 10 value⟩

/-- Left padding with zeros up to a width, as `{:0width}` prints it. -/
def padded (width : Nat) (text : Text) : Text :=
  ⟨List.replicate (width - text.bytes.length) 0x30 ++ text.bytes⟩

/-- The lower-case hexadecimal form of a number padded to a width, as
`{:0width x}` prints it. -/
def paddedHex (width value : Nat) : Text := padded width ⟨digits 16 value⟩

/-- The lower-case hexadecimal digit of a nibble. -/
def hexDigit (nibble : Nat) : UInt8 :=
  (if nibble < 10 then 0x30 + nibble else 0x57 + nibble).toUInt8

/-- Two lower-case hexadecimal digits for each byte. -/
def hexBytes : List UInt8 → List UInt8
  | [] => []
  | byte :: rest =>
    hexDigit (byte.toNat / 16) :: hexDigit (byte.toNat % 16) :: hexBytes rest

@[simp] theorem length_hexBytes (bytes : List UInt8) :
    (hexBytes bytes).length = 2 * bytes.length := by
  induction bytes with
  | nil => rfl
  | cons byte rest ih =>
    simp only [hexBytes, List.length_cons, ih]
    omega

end Text

/-! ## Big-endian words -/

/-- The `width` big-endian bytes of a number, as `to_be_bytes` gives them. -/
def beBytes : Nat → Nat → List UInt8
  | 0, _ => []
  | width + 1, value => (value / 256 ^ width % 256).toUInt8 :: beBytes width value

/-- The largest 64-bit word. -/
def u64Max : Nat := 2 ^ 64 - 1

/-- `u64::saturating_add`. -/
def satAdd (left right : Nat) : Nat := min (left + right) u64Max

theorem satAdd_le (left right : Nat) : satAdd left right ≤ u64Max := Nat.min_le_right _ _

theorem satAdd_le_add (left right : Nat) : satAdd left right ≤ left + right :=
  Nat.min_le_left _ _

end ConstellationMonitor.Foundation
