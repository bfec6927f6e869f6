/-
  Attention/Condition.lean --- condition identity and the tokens it is made of.

  A condition is named `constellation:{site}:{component}:{rule}[:{target_class}]`.  Tokens
  hold no colon, so the name determines its parts.
-/
import ConstellationMonitor.Attention.Registry
import ConstellationMonitor.Foundation.Fallible

namespace ConstellationMonitor.Attention

open Foundation

/-! ## Tokens -/

def isAsciiLowercase (byte : UInt8) : Bool := decide (0x61 ≤ byte) && decide (byte ≤ 0x7a)

def isAsciiDigit (byte : UInt8) : Bool := decide (0x30 ≤ byte) && decide (byte ≤ 0x39)

def isAsciiAlphanumeric (byte : UInt8) : Bool :=
  isAsciiLowercase byte || isAsciiDigit byte || (decide (0x41 ≤ byte) && decide (byte ≤ 0x5a))

def isAsciiHexdigit (byte : UInt8) : Bool :=
  isAsciiDigit byte || (decide (0x61 ≤ byte) && decide (byte ≤ 0x66)) ||
    (decide (0x41 ≤ byte) && decide (byte ≤ 0x46))

def toAsciiLowercase (byte : UInt8) : UInt8 :=
  if 0x41 ≤ byte ∧ byte ≤ 0x5a then byte + 0x20 else byte

/-- `bytes.windows(width).any(test)`. -/
def anyWindow (width : Nat) (test : List UInt8 → Bool) : List UInt8 → Bool
  | [] => false
  | byte :: rest =>
    (decide (width ≤ (byte :: rest).length) && test ((byte :: rest).take width)) ||
      anyWindow width test rest

/-- Every byte of a window is a dash at the given places and passes the test elsewhere. -/
def dashed (places : List Nat) (test : UInt8 → Bool) (window : List UInt8) : Bool :=
  window.zipIdx.all fun entry =>
    if entry.2 ∈ places then entry.1 == 0x2d else test entry.1

/-- The loop over runs of hexadecimal digits and of digits. -/
def identityRuns : Nat → Nat → List UInt8 → Option Text
  | _, _, [] => none
  | hexRun, digitRun, byte :: rest =>
    let hexRun := if isAsciiHexdigit byte then hexRun + 1 else 0
    let digitRun := if isAsciiDigit byte then digitRun + 1 else 0
    if hexRun ≥ 32 then some "a hexadecimal identifier"
    else if digitRun ≥ 8 then some "a numeric timestamp or identifier"
    else identityRuns hexRun digitRun rest

/-- `per_event_identity`: the per-event identity a condition value appears to carry. -/
def perEventIdentity (value : Text) : Option Text :=
  let bytes := value.bytes.map toAsciiLowercase
  if anyWindow 6 (· == (Text.ofString "sha256").bytes) bytes then some "a digest"
  else if anyWindow 36 (dashed [8, 13, 18, 23] isAsciiHexdigit) bytes then some "a UUID"
  else if anyWindow 10 (dashed [4, 7] isAsciiDigit) bytes then some "a date"
  else match identityRuns 0 0 bytes with
    | some kind => some kind
    | none => if bytes.all isAsciiDigit then some "a numeric identifier" else none

def isTokenByte (byte : UInt8) : Bool :=
  isAsciiLowercase byte || isAsciiDigit byte || byte == 0x2e || byte == 0x5f || byte == 0x2d

/-- A value in quotation marks, as `{:?}` prints it when nothing needs escaping. -/
def quoted (value : Text) : Text := "\"" ++ value ++ "\""

/-- `validate_token`: 1..=maximum of `[a-z0-9._-]`, starting with an alphanumeric, and not
shaped like a per-event identity. -/
def validateToken (label value : Text) (maximum : Nat) : Except Text Unit := do
  refuseIf (value.isEmpty || decide (value.length > maximum) ||
      !(value.bytes.head?.any isAsciiAlphanumeric) || !(value.bytes.all isTokenByte))
    (label ++ " " ++ quoted value ++ " must be 1..=" ++ Text.decimal maximum ++
      " characters of [a-z0-9._-] starting with a letter or digit")
  match perEventIdentity value with
  | some kind => .error (label ++ " " ++ quoted value ++ " looks like " ++ kind ++
      "; a condition names a stable class, not an event")
  | none => .ok ()

/-! ## Keys -/

structure ConditionKey where
  site : Text
  component : Text
  rule : Text
  targetClass : Option Text
  deriving DecidableEq

namespace ConditionKey

/-- `ConditionKey::new`: build and validate a key with NQ's submission rules. -/
def new (site component rule : Text) (targetClass : Option Text) : Except Text ConditionKey := do
  validateToken "site" site 64
  validateToken "component" component 64
  validateToken "rule" rule 64
  match targetClass with
  | some target => validateToken "target_class" target 48
  | none => pure ()
  pure { site, component, rule, targetClass }

/-- `ConditionKey::id`. -/
def id (key : ConditionKey) : Text :=
  let name := Text.ofString "constellation:" ++ key.site ++ ":" ++ key.component ++ ":" ++ key.rule
  match key.targetClass with
  | some target => name ++ ":" ++ target
  | none => name

/-- `ConditionKey::event_prefix`. -/
def eventPrefix (key : ConditionKey) : Text :=
  match key.targetClass with
  | some target => key.site ++ "-" ++ key.rule ++ "-" ++ target
  | none => key.site ++ "-" ++ key.rule

end ConditionKey

/-! ## What an accepted token is -/

/-- The checks of `validateToken`, as facts. -/
structure IsToken (value : Text) (maximum : Nat) : Prop where
  nonempty : value.isEmpty = false
  bounded : value.length ≤ maximum
  starts : value.bytes.head?.any isAsciiAlphanumeric = true
  bytes : value.bytes.all isTokenByte = true
  stable : perEventIdentity value = none

theorem validateToken_eq_ok (label value : Text) (maximum : Nat) :
    validateToken label value maximum = .ok () ↔ IsToken value maximum := by
  have hmatch : (match perEventIdentity value with
      | some kind => Except.error (label ++ " " ++ quoted value ++ " looks like " ++ kind ++
          "; a condition names a stable class, not an event")
      | none => .ok ()) = Except.ok () ↔ perEventIdentity value = none := by
    cases perEventIdentity value <;> simp
  unfold validateToken
  rw [check_bind_eq_ok, refuseIf_eq_ok, hmatch]
  constructor
  · rintro ⟨hshape, hstable⟩
    simp only [Bool.or_eq_false_iff, Bool.not_eq_false', decide_eq_false_iff_not] at hshape
    obtain ⟨⟨⟨hempty, hlength⟩, hstarts⟩, hbytes⟩ := hshape
    exact ⟨hempty, by omega, hstarts, hbytes, hstable⟩
  · intro h
    have hlength := h.bounded
    simp [h.nonempty, h.starts, h.bytes, h.stable, hlength]

/-- A token holds no colon. -/
theorem IsToken.no_colon {value : Text} {maximum : Nat} (h : IsToken value maximum) :
    (0x3a : UInt8) ∉ value.bytes := by
  intro hmem
  have hbyte := List.all_eq_true.mp h.bytes _ hmem
  simp [isTokenByte, isAsciiLowercase, isAsciiDigit] at hbyte

theorem new_eq_ok (site component rule : Text) (targetClass : Option Text) (key : ConditionKey) :
    ConditionKey.new site component rule targetClass = .ok key ↔
      IsToken site 64 ∧ IsToken component 64 ∧ IsToken rule 64 ∧
        (∀ target ∈ targetClass, IsToken target 48) ∧
        key = { site, component, rule, targetClass } := by
  unfold ConditionKey.new
  rw [check_bind_eq_ok, check_bind_eq_ok, check_bind_eq_ok, validateToken_eq_ok,
    validateToken_eq_ok, validateToken_eq_ok]
  cases targetClass with
  | none => simp [pure, Except.pure, eq_comm]
  | some target =>
    simp only [check_bind_eq_ok, validateToken_eq_ok, Option.mem_def, Option.some.injEq,
      forall_eq', pure, Except.pure, Except.ok.injEq]
    constructor <;> rintro ⟨h1, h2, h3, h4, h5⟩ <;> exact ⟨h1, h2, h3, h4, h5.symm⟩

/-! ## A name determines its parts -/

/-- Two texts split at their first separator in one way only. -/
theorem append_separator_inj {separator : UInt8} {left right rest rest' : List UInt8}
    (hleft : separator ∉ left) (hright : separator ∉ right)
    (h : left ++ separator :: rest = right ++ separator :: rest') :
    left = right ∧ rest = rest' := by
  have htake : ∀ {front back : List UInt8}, separator ∉ front →
      (front ++ separator :: back).takeWhile (· != separator) = front := by
    intro front back hfront
    rw [List.takeWhile_append_of_pos fun byte hbyte => by
      simpa using fun heq : byte = separator => hfront (heq ▸ hbyte)]
    simp
  obtain rfl : left = right := by rw [← htake hleft, h, htake hright]
  simpa using h

/-- The parts of a key hold no colon. -/
structure ConditionKey.Plain (key : ConditionKey) : Prop where
  site : (0x3a : UInt8) ∉ key.site.bytes
  component : (0x3a : UInt8) ∉ key.component.bytes
  rule : (0x3a : UInt8) ∉ key.rule.bytes
  target : ∀ target ∈ key.targetClass, (0x3a : UInt8) ∉ target.bytes

theorem plain_of_new {site component rule : Text} {targetClass : Option Text}
    {key : ConditionKey} (h : ConditionKey.new site component rule targetClass = .ok key) :
    key.Plain := by
  obtain ⟨hsite, hcomponent, hrule, htarget, rfl⟩ := (new_eq_ok _ _ _ _ _).mp h
  exact ⟨hsite.no_colon, hcomponent.no_colon, hrule.no_colon,
    fun target hmem => (htarget target hmem).no_colon⟩

theorem id_bytes (key : ConditionKey) : key.id.bytes = (Text.ofString "constellation:").bytes ++
      (key.site.bytes ++ 0x3a :: (key.component.bytes ++ 0x3a ::
        (key.rule.bytes ++ (key.targetClass.map fun target => 0x3a :: target.bytes).getD []))) := by
  have hcolon : (Text.ofString ":").bytes = [0x3a] := by decide
  unfold ConditionKey.id
  cases key.targetClass <;> simp [hcolon]

theorem ConditionKey.Plain.id_inj {left right : ConditionKey} (hleft : left.Plain)
    (hright : right.Plain) (h : left.id = right.id) : left = right := by
  have hbytes := congrArg Text.bytes h
  rw [id_bytes, id_bytes] at hbytes
  obtain ⟨hsite, hbytes⟩ :=
    append_separator_inj hleft.site hright.site (List.append_cancel_left hbytes)
  obtain ⟨hcomponent, hbytes⟩ := append_separator_inj hleft.component hright.component hbytes
  obtain ⟨leftSite, leftComponent, leftRule, leftTarget⟩ := left
  obtain ⟨rightSite, rightComponent, rightRule, rightTarget⟩ := right
  have hrule : leftRule = rightRule ∧ leftTarget = rightTarget := by
    have hl := hleft.rule
    have hr := hright.rule
    simp only at hl hr hbytes
    cases leftTarget with
    | none =>
      cases rightTarget with
      | none => exact ⟨congrArg Text.mk (by simpa using hbytes), rfl⟩
      | some target =>
        simp only [Option.map_none, Option.getD_none, List.append_nil, Option.map_some,
          Option.getD_some] at hbytes
        exact absurd (by simp [hbytes]) hl
    | some target =>
      cases rightTarget with
      | none =>
        simp only [Option.map_none, Option.getD_none, List.append_nil, Option.map_some,
          Option.getD_some] at hbytes
        exact absurd (by simp [← hbytes]) hr
      | some other =>
        simp only [Option.map_some, Option.getD_some] at hbytes
        obtain ⟨hrule, htarget⟩ := append_separator_inj hl hr hbytes
        exact ⟨congrArg Text.mk hrule, by rw [show target = other from congrArg Text.mk htarget]⟩
  obtain ⟨rfl, rfl⟩ := hrule
  obtain rfl : leftSite = rightSite := congrArg Text.mk hsite
  obtain rfl : leftComponent = rightComponent := congrArg Text.mk hcomponent
  rfl

/-! ## Fault classes of a label

`{label}.{class}` is a token whenever the label is one and the class is short: the dot ends
every run and lies in no window an identity could fill. -/

theorem anyWindow_append_dot {width : Nat} {test : List UInt8 → Bool}
    (hdot : ∀ window, test window = true → (0x2e : UInt8) ∉ window) (hwidth : 0 < width)
    {left right : List UInt8} (hleft : anyWindow width test left = false)
    (hright : anyWindow width test right = false) :
    anyWindow width test (left ++ 0x2e :: right) = false := by
  have hhere : ∀ front : List UInt8, (∀ short : width ≤ front.length,
      test (front.take width) = false) →
      (decide (width ≤ (front ++ 0x2e :: right).length) &&
        test ((front ++ 0x2e :: right).take width)) = false := by
    intro front hfront
    by_cases hlong : width ≤ front.length
    · rw [List.take_append_of_le_length hlong, hfront hlong, Bool.and_false]
    · have hmem : (0x2e : UInt8) ∈ (front ++ 0x2e :: right).take width := by
        have hsplit : width = front.length + (width - front.length - 1 + 1) := by omega
        rw [hsplit, List.take_length_add_append, List.take_succ_cons]
        simp
      cases htest : test ((front ++ 0x2e :: right).take width) with
      | true => exact absurd hmem (hdot _ htest)
      | false => rw [Bool.and_false]
  induction left with
  | nil =>
    have := hhere [] fun hlong => absurd hlong (by simp; omega)
    simpa [anyWindow, hright] using this
  | cons byte left ih =>
    simp only [anyWindow, Bool.or_eq_false_iff] at hleft
    have := hhere (byte :: left) fun hlong => by
      have hfirst := hleft.1
      rwa [decide_eq_true hlong, Bool.true_and] at hfirst
    simp only [List.cons_append, anyWindow, Bool.or_eq_false_iff]
    exact ⟨this, ih hleft.2⟩

theorem identityRuns_append_dot {left right : List UInt8} {hexRun digitRun : Nat}
    (hleft : identityRuns hexRun digitRun left = none) :
    identityRuns hexRun digitRun (left ++ 0x2e :: right) = identityRuns 0 0 right := by
  induction left generalizing hexRun digitRun with
  | nil =>
    have hhex : isAsciiHexdigit 0x2e = false := by decide
    have hdigit : isAsciiDigit 0x2e = false := by decide
    simp [identityRuns, hhex, hdigit]
  | cons byte left ih =>
    simp only [identityRuns, List.cons_append] at hleft ⊢
    generalize (if isAsciiHexdigit byte = true then hexRun + 1 else 0) = hexRun' at hleft ⊢
    generalize (if isAsciiDigit byte = true then digitRun + 1 else 0) = digitRun' at hleft ⊢
    by_cases hhex : hexRun' ≥ 32
    · simp [hhex] at hleft
    · by_cases hdigit : digitRun' ≥ 8
      · simp [hhex, hdigit] at hleft
      · rw [if_neg hhex, if_neg hdigit] at hleft ⊢
        exact ih hleft

theorem dashed_no_dot {places : List Nat} {test : UInt8 → Bool} (htest : test 0x2e = false)
    (window : List UInt8) (h : dashed places test window = true) : (0x2e : UInt8) ∉ window := by
  intro hmem
  obtain ⟨index, hindex, hget⟩ := List.getElem_of_mem hmem
  have hentry : ((0x2e : UInt8), index) ∈ window.zipIdx := by
    rw [List.mem_zipIdx_iff_getElem?]
    simp [← hget, hindex]
  have := List.all_eq_true.mp h _ hentry
  split at this
  · simp at this
  · simp [htest] at this

theorem perEventIdentity_eq_none (value : Text) :
    perEventIdentity value = none ↔
      (let bytes := value.bytes.map toAsciiLowercase
       anyWindow 6 (· == (Text.ofString "sha256").bytes) bytes = false ∧
        anyWindow 36 (dashed [8, 13, 18, 23] isAsciiHexdigit) bytes = false ∧
        anyWindow 10 (dashed [4, 7] isAsciiDigit) bytes = false ∧
        identityRuns 0 0 bytes = none ∧ bytes.all isAsciiDigit = false) := by
  simp only [perEventIdentity]
  cases hdigest : anyWindow 6 (· == (Text.ofString "sha256").bytes)
      (value.bytes.map toAsciiLowercase) <;>
    cases huuid : anyWindow 36 (dashed [8, 13, 18, 23] isAsciiHexdigit)
      (value.bytes.map toAsciiLowercase) <;>
    cases hdate : anyWindow 10 (dashed [4, 7] isAsciiDigit)
      (value.bytes.map toAsciiLowercase) <;>
    cases hruns : identityRuns 0 0 (value.bytes.map toAsciiLowercase) <;>
    cases hdigits : (value.bytes.map toAsciiLowercase).all isAsciiDigit <;> simp

/-- Two tokens joined by a dot are no per-event identity when neither is one, except that
the whole may no longer be all digits. -/
theorem perEventIdentity_append_dot {left right : Text} (hleft : perEventIdentity left = none)
    (hright : perEventIdentity right = none) : perEventIdentity (left ++ "." ++ right) = none := by
  rw [perEventIdentity_eq_none] at hleft hright ⊢
  obtain ⟨hdigestL, huuidL, hdateL, hrunsL, _⟩ := hleft
  obtain ⟨hdigestR, huuidR, hdateR, hrunsR, _⟩ := hright
  have hbytes : (left ++ "." ++ right).bytes.map toAsciiLowercase =
      left.bytes.map toAsciiLowercase ++ 0x2e :: right.bytes.map toAsciiLowercase := by
    have hdot : (Text.ofString ".").bytes = [0x2e] := by decide
    have hlower : toAsciiLowercase 0x2e = 0x2e := by decide
    simp [hdot, hlower]
  simp only [hbytes]
  refine ⟨anyWindow_append_dot ?_ (by decide) hdigestL hdigestR,
    anyWindow_append_dot (dashed_no_dot (by decide)) (by decide) huuidL huuidR,
    anyWindow_append_dot (dashed_no_dot (by decide)) (by decide) hdateL hdateR, ?_, ?_⟩
  · intro window hwindow
    obtain rfl := eq_of_beq hwindow
    decide
  · rw [identityRuns_append_dot hrunsL, hrunsR]
  · have hdot : isAsciiDigit 0x2e = false := by decide
    simp [hdot]

/-- A label and a class joined by a dot are a token. -/
theorem IsToken.append_dot {left right : Text} {maximum maximum' total : Nat}
    (hleft : IsToken left maximum) (hright : IsToken right maximum')
    (htotal : maximum + 1 + maximum' ≤ total) : IsToken (left ++ "." ++ right) total := by
  have hdot : (Text.ofString ".").bytes = [0x2e] := by decide
  have hlength : (Text.ofString ".").length = 1 := by decide
  obtain ⟨byte, rest, hbytes⟩ : ∃ byte rest, left.bytes = byte :: rest := by
    cases hb : left.bytes with
    | nil => simpa [Text.isEmpty, hb] using hleft.nonempty
    | cons byte rest => exact ⟨byte, rest, rfl⟩
  refine ⟨by simp [Text.isEmpty, hbytes], ?_, ?_, ?_,
    perEventIdentity_append_dot hleft.stable hright.stable⟩
  · have h1 := hleft.bounded
    have h2 := hright.bounded
    simp only [Text.length_append, hlength]
    omega
  · have := hleft.starts
    simpa [hbytes] using this
  · have h1 := hleft.bytes
    have h2 := hright.bytes
    have h3 : isTokenByte 0x2e = true := by decide
    simp only [Text.bytes_append, List.all_append, h1, h2, hdot, List.all_cons, h3, List.all_nil,
      Bool.and_self]

end ConstellationMonitor.Attention
