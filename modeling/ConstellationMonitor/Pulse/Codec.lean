/-
  The wire form of a pulse is exact.

  Every field has a format, the format of a frame is put together from them, and encoder
  and decoder are the two sides of that format between the checks of the frame.  A valid
  frame is far from the bound on the size of a frame, so that bound refuses none.
-/
import ConstellationMonitor.Pulse.Wire
import ConstellationMonitor.Evaluation.Reference

namespace ConstellationMonitor.Pulse

open Foundation Foundation.Wire ConstellationMonitor.Types

/-! ## Writers of fields -/

section Writers

instance appends_extend (bytes : List UInt8) : Appends (extend bytes) := appends_modify bytes

instance (value : Nat) : Appends (putU16 value) := appends_extend _
instance (value : Nat) : Appends (putU64 value) := appends_extend _

instance (value : Text) : Appends (putString value) := by
  unfold putString
  infer_instance

instance (count : Nat) (field : Text) : Appends (putCount count field) := by
  unfold putCount
  infer_instance

instance (values : List Text) : Appends (putStrings values) := by
  unfold putStrings
  infer_instance

instance (signal : BoundedSignalValueV1) : Appends (putSignal signal) := by
  unfold putSignal
  infer_instance

instance : ∀ authentication, Appends (putAuthentication authentication)
  | .placeholder _ => inferInstanceAs (Appends (extend [0] >>= fun _ => _))
  | .mac _ _ _ => inferInstanceAs (Appends (extend [1] >>= fun _ => _))

end Writers

/-! ## Words and texts -/

/-- A big-endian word. -/
def word (width : Nat) : Format PulseError Nat := .word width .truncated

instance (width : Nat) : (word width).Exact := Format.exact_word _ _
instance (width : Nat) : (word width).AtMost width := Format.atMost_word _ _

/-- A text with its length. -/
def string (field : Text) : Format PulseError Text where
  put value := (putString value).finish
  get := WireReader.string field
  typed value := value.isUtf8 = true
  bounded _ := True

variable {field value : Text} {input rest : List UInt8}

theorem string_put_eq_ok {bytes : List UInt8} : (string field).put value = .ok bytes ↔
      value.length ≤ maxFieldBytes ∧ bytes = beBytes 2 value.length ++ value.bytes := by
  show (putString value).finish = _ ↔ _
  rw [putString, finish_refuse, finish_refuse, finish_bind, ite_error_eq_ok, ite_error_eq_ok,
    joined_eq_ok, not_lt]
  refine and_congr_right fun hlength => ?_
  constructor
  · rintro ⟨-, _, _, hleft, hright, rfl⟩
    obtain rfl := Except.ok.inj hleft
    obtain rfl := Except.ok.inj hright
    rfl
  · rintro rfl
    simp only [maxFieldBytes] at hlength
    exact ⟨by omega, _, _, rfl, rfl, rfl⟩

theorem string_get_eq_ok : WireReader.string field input = .ok (value, rest) ↔ value.isUtf8 = true ∧
      value.length ≤ maxFieldBytes ∧ input = beBytes 2 value.length ++ value.bytes ++ rest := by
  rw [WireReader.string, read_bind_eq_ok]
  constructor
  · rintro ⟨length, between, hlength, hread⟩
    obtain ⟨_, rfl⟩ := Format.word_get_eq_ok.mp hlength
    obtain ⟨hbound, hfixed⟩ := read_refuse_eq_ok.mp hread
    obtain ⟨bytes, last, hbytes, hchecked⟩ := (read_bind_eq_ok _ _ _ _ _).mp hfixed
    obtain ⟨hutf8, hvalue⟩ := read_refuse_eq_ok.mp hchecked
    obtain ⟨rfl, rfl⟩ := take_eq_ok.mp hbytes
    obtain ⟨rfl, rfl⟩ := Prod.mk.inj (Except.ok.inj hvalue)
    exact ⟨by simpa using hutf8, not_lt.mp hbound, (List.append_assoc _ _ _).symm⟩
  · rintro ⟨hutf8, hlength, rfl⟩
    refine ⟨value.length, value.bytes ++ rest, Format.word_get_eq_ok.mpr ⟨?_, ?_⟩,
      read_refuse_eq_ok.mpr ⟨not_lt.mpr hlength, (read_bind_eq_ok _ _ _ _ _).mpr ⟨value.bytes,
        rest, take_eq_ok.mpr ⟨rfl, rfl⟩, read_refuse_eq_ok.mpr ⟨by simpa using hutf8, rfl⟩⟩⟩⟩
    · simp only [maxFieldBytes] at hlength
      omega
    · rw [List.append_assoc]

instance exact_string (field : Text) : (string field).Exact :=
  Format.exact_of_iff fun input value rest => by
    simp only [string_put_eq_ok]
    refine string_get_eq_ok.trans ?_
    simp [string]

instance atMost_string (field : Text) : (string field).AtMost (2 + maxFieldBytes) where
  length_le := by
    intro value bytes _ hput
    obtain ⟨hlength, rfl⟩ := string_put_eq_ok.mp hput
    rw [List.length_append, length_beBytes]
    exact Nat.add_le_add_left hlength 2

theorem admits_string (h : value.length ≤ maxFieldBytes) :
    (string field).Admits value := ⟨trivial, _, string_put_eq_ok.mpr ⟨h, rfl⟩⟩

/-- An identity is its text. -/
def identityShape (kind : IdentityKind) : Text ≃ Identity kind where
  toFun := Identity.mk
  invFun := Identity.text
  left_inv := Identity.leftInverse_text kind
  right_inv := Identity.rightInverse_text kind

/-- An identity on the wire. -/
def identity (kind : IdentityKind) (field : Text) : Format PulseError (Identity kind) :=
  (string field).map (identityShape kind)

instance (kind : IdentityKind) (field : Text) : (identity kind field).Exact := exact_map _ _
instance (kind : IdentityKind) (field : Text) : (identity kind field).AtMost (2 + maxFieldBytes) :=
  Format.atMost_map _ _ _

/-- A digest is its text. -/
def digestShape : Text ≃ DigestV1 where
  toFun := DigestV1.mk
  invFun := DigestV1.text
  left_inv _ := rfl
  right_inv _ := rfl

/-- A digest on the wire. -/
def digest (field : Text) : Format PulseError DigestV1 := (string field).map digestShape

instance (field : Text) : (digest field).Exact := exact_map _ _
instance (field : Text) : (digest field).AtMost (2 + maxFieldBytes) := Format.atMost_map _ _ _

/-! ## Profiles and coverage -/

/-- The fields of a profile in the order of the wire. -/
def profileShape : (Text × Nat × DigestV1) ≃ ObservationProfileIdV1 where
  toFun := fun (name, version, semanticDigest) => { name, version, semanticDigest }
  invFun profile := (profile.name, profile.version, profile.semanticDigest)
  left_inv _ := rfl
  right_inv _ := rfl

/-- A profile on the wire. -/
def profile : Format PulseError ObservationProfileIdV1 :=
  ((string "profile.name").prod ((word 2).prod (digest "profile.semantic_digest"))).map
    profileShape

instance : profile.Exact := exact_map _ _
instance : profile.AtMost (2 + maxFieldBytes + (2 + (2 + maxFieldBytes))) :=
  Format.atMost_map _ _ _

/-- A counted list of texts. -/
def strings (field : Text) (maximum : Nat) : Format PulseError (List Text) :=
  .counted (string field) 2 maximum .truncated (.bound "wire list") (.bound field)

instance (field : Text) (maximum : Nat) : (strings field maximum).Exact := Format.exact_counted
instance (field : Text) (maximum : Nat) :
    (strings field maximum).AtMost (2 + maximum * (2 + maxFieldBytes)) :=
  Format.atMost_counted _ _ _ _ _ _ _

/-- The count before a list is refused only past its word. -/
theorem finish_putCount {α : Type} (values : List α) (field : Text) (body : α → WireWriter PUnit)
    [∀ value, Appends (body value)] :
    (putCount values.length field >>= fun _ => forM values body).finish =
      if values.length ≥ 256 ^ 2 then .error (.bound field)
      else joined (.ok (beBytes 2 values.length))
        (putAll (fun value => (body value).finish) values) := by
  rw [finish_bind, finish_forM, putCount, finish_refuse]
  split <;> rfl

theorem strings_put (field : Text) (maximum : Nat) (values : List Text) :
    (putStrings values).finish = (strings field maximum).put values :=
  finish_putCount values "wire list" putString

/-- The two lists of a coverage descriptor. -/
def coverageShape : (List Text × List Text) ≃ CoverageDescriptorV1 where
  toFun := fun (expected, observed) => { expected, observed }
  invFun coverage := (coverage.expected, coverage.observed)
  left_inv _ := rfl
  right_inv _ := rfl

/-- A coverage descriptor on the wire. -/
def coverage : Format PulseError CoverageDescriptorV1 :=
  ((strings "coverage.expected" maxCoverageTags).prod
    (strings "coverage.observed" maxCoverageTags)).map coverageShape

instance : coverage.Exact := exact_map _ _
instance : coverage.AtMost (2 + maxCoverageTags * (2 + maxFieldBytes) +
    (2 + maxCoverageTags * (2 + maxFieldBytes))) :=
  Format.atMost_map _ _ _

/-! ## Signals -/

/-- A number by its bits. -/
def float : Format PulseError Float64 where
  put value := .ok (beBytes 8 value.bits.toNat)
  get := do return ⟨.ofNat (← WireReader.u64)⟩
  typed _ := True
  bounded _ := True

instance exact_float : float.Exact :=
  Format.exact_of_iff fun input value rest => by
    refine (read_bind_eq_ok _ _ _ _ _).trans ?_
    constructor
    · rintro ⟨found, between, hfound, hvalue⟩
      obtain ⟨hsmall, rfl⟩ := Format.word_get_eq_ok.mp hfound
      obtain ⟨rfl, rfl⟩ := Prod.mk.inj (Except.ok.inj hvalue)
      refine ⟨trivial, trivial, _, rfl, ?_⟩
      rw [UInt64.toNat_ofNat', Nat.mod_eq_of_lt (by omega)]
    · rintro ⟨-, -, _, ⟨⟩, rfl⟩
      refine ⟨value.bits.toNat, rest, Format.word_get_eq_ok.mpr ⟨value.bits.toNat_lt, rfl⟩, ?_⟩
      rw [UInt64.ofNat_toNat]
      rfl

instance : float.AtMost 8 where
  length_le := by
    rintro value _ - ⟨⟩
    exact (length_beBytes 8 _).le

/-- One byte, as the number it stands for. -/
theorem byte_get_eq_ok {value : Nat} : WireReader.byte input = .ok (value, rest) ↔
      value < 256 ^ 1 ∧ input = beBytes 1 value ++ rest :=
  Format.word_get_eq_ok

/-- An assessment by its tag. -/
def assessment : Format PulseError SignalAssessmentV1 where
  put value := .ok [assessmentTag value]
  get := WireReader.assessment
  typed _ := True
  bounded _ := True

theorem beBytes_assessmentTag (value : SignalAssessmentV1) :
    beBytes 1 (assessmentTag value).toNat = [assessmentTag value] := by
  cases value <;> decide

instance exact_assessment : assessment.Exact :=
  Format.exact_of_iff fun input value rest => by
    refine (read_bind_eq_ok _ _ _ _ _).trans ?_
    constructor
    · rintro ⟨found, between, hfound, hvalue⟩
      obtain ⟨-, rfl⟩ := byte_get_eq_ok.mp hfound
      split at hvalue
      case h_5 => cases hvalue
      all_goals
        obtain ⟨rfl, rfl⟩ := Prod.mk.inj (Except.ok.inj hvalue)
        exact ⟨trivial, trivial, _, rfl, rfl⟩
    · rintro ⟨-, -, _, ⟨⟩, rfl⟩
      refine ⟨(assessmentTag value).toNat, rest, byte_get_eq_ok.mpr
        ⟨(assessmentTag value).toNat_lt, by rw [beBytes_assessmentTag]⟩, ?_⟩
      cases value <;> rfl

instance : assessment.AtMost 1 where
  length_le := by
    rintro value _ - ⟨⟩
    rfl

/-- The fields of a signal in the order of the wire. -/
def signalShape : (Text × Float64 × Text × SignalAssessmentV1) ≃ BoundedSignalValueV1 where
  toFun := fun (name, value, unit, assessment) => { name, value, unit, assessment }
  invFun signal := (signal.name, signal.value, signal.unit, signal.assessment)
  left_inv _ := rfl
  right_inv _ := rfl

/-- A signal on the wire. -/
def signal : Format PulseError BoundedSignalValueV1 :=
  ((string "signal.name").prod (float.prod ((string "signal.unit").prod assessment))).map
    signalShape

instance : signal.Exact := exact_map _ _
instance : signal.AtMost (2 + maxFieldBytes + (8 + (2 + maxFieldBytes + 1))) :=
  Format.atMost_map _ _ _

theorem signal_put (value : BoundedSignalValueV1) :
    (putSignal value).finish = signal.put value := by
  rw [putSignal, finish_bind, finish_bind, finish_bind]
  rfl

theorem signal_get : signal.get = WireReader.signal := by
  show Format.get _ >>= _ = _
  simp only [Format.prod_get_bind, float, bind_assoc, pure_bind]
  rfl

/-- A counted list of signals. -/
def signals : Format PulseError (List BoundedSignalValueV1) :=
  .counted signal 2 maxSignals .truncated (.bound "signals") (.bound "signals")

instance : signals.Exact := Format.exact_counted
instance : signals.AtMost
    (2 + maxSignals * (2 + maxFieldBytes + (8 + (2 + maxFieldBytes + 1)))) :=
  Format.atMost_counted _ _ _ _ _ _ _

theorem signals_put (values : List BoundedSignalValueV1) :
    joined (putCount values.length "signals").finish (forM values putSignal).finish =
      signals.put values := by
  rw [← finish_bind, finish_putCount]
  simp only [signal_put]
  rfl

theorem signals_get : signals.get = WireReader.counted WireReader.signal "signals" maxSignals := by
  rw [← signal_get]
  rfl

/-! ## Authentication and the magic -/

/-- An authentication field by its kind. -/
def authentication : Format PulseError AuthenticationFieldV1 where
  put value := (putAuthentication value).finish
  get := WireReader.authentication
  typed value := ∀ text ∈ authenticationTexts value, text.isUtf8 = true
  bounded _ := True

/-- The three texts of a message authentication code. -/
def mac : Format PulseError (Text × Text × Text) :=
  (string "authentication.scheme").prod
    ((string "authentication.key_id").prod (string "authentication.tag"))

theorem authentication_put_placeholder (disclosure : Text) :
    authentication.put (.placeholder disclosure) =
      joined (.ok [0]) ((string "authentication.disclosure").put disclosure) := by
  show (extend [0] >>= fun _ => putString disclosure).finish = _
  rw [finish_bind]
  rfl

theorem authentication_put_mac (scheme keyId tag : Text) :
    authentication.put (.mac scheme keyId tag) =
      joined (.ok [1]) (mac.put (scheme, keyId, tag)) := by
  show (extend [1] >>= fun _ => putString scheme >>= fun _ => putString keyId >>= fun _ =>
    putString tag).finish = _
  rw [finish_bind, finish_bind, finish_bind]
  rfl

/-- Reading a message authentication code is reading its three texts. -/
theorem readMac_eq_ok {value : AuthenticationFieldV1} :
    (do
      let scheme ← WireReader.string "authentication.scheme"
      let keyId ← WireReader.string "authentication.key_id"
      let tag ← WireReader.string "authentication.tag"
      return .mac scheme keyId tag : WireReader AuthenticationFieldV1) input = .ok (value, rest) ↔
      ∃ scheme keyId tag, mac.get input = .ok ((scheme, keyId, tag), rest) ∧
        value = .mac scheme keyId tag := by
  have hread : (mac.get >>= fun texts => pure (.mac texts.1 texts.2.1 texts.2.2) :
      WireReader AuthenticationFieldV1) = do
      let scheme ← WireReader.string "authentication.scheme"
      let keyId ← WireReader.string "authentication.key_id"
      let tag ← WireReader.string "authentication.tag"
      return .mac scheme keyId tag := by
    simp only [mac, Format.prod_get_bind]
    rfl
  rw [← hread, read_bind_eq_ok]
  constructor
  · rintro ⟨⟨scheme, keyId, tag⟩, between, hmac, hvalue⟩
    obtain ⟨rfl, rfl⟩ := Prod.mk.inj (Except.ok.inj hvalue)
    exact ⟨scheme, keyId, tag, hmac, rfl⟩
  · rintro ⟨scheme, keyId, tag, hmac, rfl⟩
    exact ⟨(scheme, keyId, tag), rest, hmac, rfl⟩

instance exact_authentication : authentication.Exact where
  complete := by
    rintro (⟨disclosure⟩ | ⟨scheme, keyId, tag⟩) bytes rest htyped - hput
    · rw [authentication_put_placeholder] at hput
      obtain ⟨_, more, ⟨⟩, hmore, rfl⟩ := joined_eq_ok.mp hput
      refine (read_bind_eq_ok _ _ _ _ _).mpr ⟨0, more ++ rest,
        byte_get_eq_ok.mpr ⟨by decide, rfl⟩, (read_bind_eq_ok _ _ _ _ _).mpr
          ⟨disclosure, rest, ?_, rfl⟩⟩
      exact (exact_string _).complete rest (htyped _ (by simp [authenticationTexts])) trivial hmore
    · rw [authentication_put_mac] at hput
      obtain ⟨_, more, ⟨⟩, hmore, rfl⟩ := joined_eq_ok.mp hput
      have hmac : mac.Exact := exact_prod _ _
      have hread := hmac.complete rest
        ⟨htyped _ (by simp [authenticationTexts]), htyped _ (by simp [authenticationTexts]),
          htyped _ (by simp [authenticationTexts])⟩ ⟨trivial, trivial, trivial⟩ hmore
      refine (read_bind_eq_ok _ _ _ _ _).mpr ⟨1, more ++ rest,
        byte_get_eq_ok.mpr ⟨by decide, rfl⟩, ?_⟩
      exact readMac_eq_ok.mpr ⟨scheme, keyId, tag, hread, rfl⟩
  sound := by
    intro input value rest hget
    obtain ⟨kind, between, hkind, hread⟩ := (read_bind_eq_ok _ _ _ _ _).mp hget
    obtain ⟨-, rfl⟩ := byte_get_eq_ok.mp hkind
    split at hread
    · obtain ⟨disclosure, last, hdisclosure, hvalue⟩ := (read_bind_eq_ok _ _ _ _ _).mp hread
      obtain ⟨rfl, rfl⟩ := Prod.mk.inj (Except.ok.inj hvalue)
      obtain ⟨htyped, -, more, hmore, rfl⟩ := (exact_string _).sound hdisclosure
      have htyped : disclosure.isUtf8 = true := htyped
      refine ⟨?_, trivial, [0] ++ more, ?_, rfl⟩
      · simp [authentication, authenticationTexts, htyped]
      · rw [authentication_put_placeholder]
        exact joined_eq_ok.mpr ⟨_, more, rfl, hmore, rfl⟩
    · obtain ⟨scheme, keyId, tag, hmac, rfl⟩ := readMac_eq_ok.mp hread
      have hexact : mac.Exact := exact_prod _ _
      obtain ⟨⟨hscheme, hkeyId, htag⟩, -, more, hmore, rfl⟩ := hexact.sound hmac
      refine ⟨?_, trivial, [1] ++ more, ?_, rfl⟩
      · have hscheme : scheme.isUtf8 = true := hscheme
        have hkeyId : keyId.isUtf8 = true := hkeyId
        have htag : tag.isUtf8 = true := htag
        simp [authentication, authenticationTexts, hscheme, hkeyId, htag]
      · rw [authentication_put_mac]
        exact joined_eq_ok.mpr ⟨_, more, rfl, hmore, rfl⟩
    · cases hread

instance atMost_authentication : authentication.AtMost (1 + 3 * (2 + maxFieldBytes)) where
  length_le := by
    rintro (⟨disclosure⟩ | ⟨scheme, keyId, tag⟩) bytes - hput
    · rw [authentication_put_placeholder] at hput
      obtain ⟨_, more, ⟨⟩, hmore, rfl⟩ := joined_eq_ok.mp hput
      have hlength := (atMost_string _).length_le trivial hmore
      simp only [List.length_append, List.length_singleton]
      omega
    · rw [authentication_put_mac] at hput
      obtain ⟨_, more, ⟨⟩, hmore, rfl⟩ := joined_eq_ok.mp hput
      have hmac : mac.AtMost _ := Format.atMost_prod _ _ _ _
      have hlength := hmac.length_le ⟨trivial, trivial, trivial⟩ hmore
      simp only [List.length_append, List.length_singleton]
      omega

/-- The magic, which stands for nothing but itself. -/
def magic : Format PulseError PUnit where
  put _ := .ok wireMagic
  get := WireReader.magic
  typed _ := True
  bounded _ := True

instance exact_magic : magic.Exact :=
  Format.exact_of_iff fun input value rest => by
    refine (read_bind_eq_ok _ _ _ _ _).trans ?_
    constructor
    · rintro ⟨found, between, hfound, hchecked⟩
      obtain ⟨hsame, hvalue⟩ := read_refuse_eq_ok.mp hchecked
      obtain ⟨-, rfl⟩ := take_eq_ok.mp hfound
      obtain ⟨-, rfl⟩ := Prod.mk.inj (Except.ok.inj hvalue)
      exact ⟨trivial, trivial, wireMagic, rfl, by rw [not_not.mp hsame]⟩
    · rintro ⟨-, -, _, ⟨⟩, rfl⟩
      exact ⟨wireMagic, rest, take_eq_ok.mpr ⟨rfl, rfl⟩,
        read_refuse_eq_ok.mpr ⟨not_not.mpr rfl, rfl⟩⟩

instance : magic.AtMost 4 where
  length_le := by
    rintro value _ - ⟨⟩
    decide

/-! ## Frames -/

/-- The fields of a frame in the order of the wire. -/
def frameShape :
    (PUnit × Nat × SubjectId × IncarnationId × ObserverId × IncarnationId × Nat × Nat × Nat ×
      ObservationProfileIdV1 × ObservationPolicyGenerationId × CoverageDescriptorV1 ×
      List BoundedSignalValueV1 × DigestV1 × AuthenticationFieldV1) ≃ PulseFrameV1 where
  toFun := fun
    | (_, schemaVersion, subject, subjectIncarnation, observer, observerIncarnation, sequence,
        observerMonotonicNs, validityMs, profile, observationPolicyGeneration, coverage, signals,
        observationDigest, authentication) =>
        { schemaVersion, subject, subjectIncarnation, observer, observerIncarnation, sequence,
          observerMonotonicNs, validityMs, profile, observationPolicyGeneration, coverage, signals,
          observationDigest, authentication }
  invFun frame :=
      (⟨⟩, frame.schemaVersion, frame.subject, frame.subjectIncarnation, frame.observer,
      frame.observerIncarnation, frame.sequence, frame.observerMonotonicNs, frame.validityMs,
      frame.profile, frame.observationPolicyGeneration, frame.coverage, frame.signals,
      frame.observationDigest, frame.authentication)
  left_inv _ := rfl
  right_inv _ := rfl

/-- A frame on the wire. -/
def frame : Format PulseError PulseFrameV1 :=
  Format.map
    (magic.prod ((word 2).prod ((identity .subjectId "subject").prod
      ((identity .incarnationId "subject_incarnation").prod ((identity .observerId "observer").prod
      ((identity .incarnationId "observer_incarnation").prod ((word 8).prod ((word 8).prod
      ((word 8).prod (profile.prod ((identity .observationPolicyGenerationId
      "observation_policy_generation").prod (coverage.prod (signals.prod
      ((digest "observation_digest").prod authentication))))))))))))))
    frameShape

instance : frame.Exact := exact_map _ _

/-- The most a frame can take is well within the bound. -/
theorem length_frame_le {value : PulseFrameV1} {bytes : List UInt8} (hbounded : frame.bounded value)
    (hput : frame.put value = .ok bytes) : bytes.length ≤ maxWireFrameBytes := by
  have hmost : frame.AtMost _ := Format.atMost_map _ _ _
  exact (hmost.length_le hbounded hput).trans (by decide)

theorem frame_put (value : PulseFrameV1) : (putFrame value).finish = frame.put value := by
  have hshape : frame.put value = joined (.ok wireMagic) (joined _ (joined _ (joined _ (joined _
      (joined _ (joined _ (joined _ (joined _ (joined (joined _ (joined _ _)) (joined _
        (joined (joined _ _) (joined (signals.put value.signals) (joined _ _))))))))))))) := rfl
  rw [hshape, ← signals_put]
  simp only [putFrame, finish_bind, joined_assoc,
    strings_put "coverage.expected" maxCoverageTags value.coverage.expected,
    strings_put "coverage.observed" maxCoverageTags value.coverage.observed]
  rfl

theorem frame_get : frame.get = WireReader.frame := by
  show Format.get _ >>= _ = _
  simp only [Format.prod_get_bind, identity, digest, profile, coverage, Format.map_get_bind,
    signals_get]
  rfl

theorem typed_frame (value : PulseFrameV1) : frame.typed value ↔ WellTyped value := by
  show (True ∧ Fits 2 value.schemaVersion ∧ value.subject.text.isUtf8 = true ∧
    value.subjectIncarnation.text.isUtf8 = true ∧ value.observer.text.isUtf8 = true ∧
    value.observerIncarnation.text.isUtf8 = true ∧ Fits 8 value.sequence ∧
    Fits 8 value.observerMonotonicNs ∧ Fits 8 value.validityMs ∧
    (value.profile.name.isUtf8 = true ∧ Fits 2 value.profile.version ∧
      value.profile.semanticDigest.text.isUtf8 = true) ∧
    value.observationPolicyGeneration.text.isUtf8 = true ∧
    ((∀ tag ∈ value.coverage.expected, tag.isUtf8 = true) ∧
      ∀ tag ∈ value.coverage.observed, tag.isUtf8 = true) ∧
    (∀ signal ∈ value.signals, signal.name.isUtf8 = true ∧ True ∧ signal.unit.isUtf8 = true ∧
      True) ∧
    value.observationDigest.text.isUtf8 = true ∧
    ∀ text ∈ authenticationTexts value.authentication, text.isUtf8 = true) ↔ _
  simp only [wellTyped_iff, frameTexts, List.forall_mem_append, List.forall_mem_cons,
    List.not_mem_nil, false_implies, implies_true, and_true, true_and, List.forall_mem_flatMap]
  tauto

/-! ## What the checks of a frame say about its fields -/

section Checks

variable {field : Text} {previous : Option Text} {values : List BoundedSignalValueV1}

theorem length_of_validateField {value : Text} (h : validateField field value = .ok ()) :
    value.length ≤ maxFieldBytes := by
  simp only [validateField, check_bind_eq_ok, refuseIf_eq_ok, decide_eq_false_iff_not, not_lt] at h
  exact h.2.1

theorem validateField_of_sortedTags {values : List Text}
    (h : validateSortedTagsFrom field previous values = .ok ()) :
    ∀ value ∈ values, validateField field value = .ok () := by
  induction values generalizing previous with
  | nil => simp
  | cons head rest ih =>
    simp only [validateSortedTagsFrom, check_bind_eq_ok] at h
    exact List.forall_mem_cons.mpr ⟨h.1, ih h.2.2⟩

theorem validate_of_validateSignals
    (h : PulseFrameV1.validateSignalsFrom previous values = .ok ()) :
    ∀ value ∈ values, value.validate = .ok () := by
  induction values generalizing previous with
  | nil => simp
  | cons head rest ih =>
    simp only [PulseFrameV1.validateSignalsFrom, check_bind_eq_ok] at h
    exact List.forall_mem_cons.mpr ⟨h.1, ih h.2.2⟩

theorem admits_field {value : Text} (h : validateField field value = .ok ()) (on : Text) :
    (string on).Admits value := admits_string (length_of_validateField h)

theorem admits_identity {kind : IdentityKind} {value : Identity kind}
    (h : value.validate = .ok ()) (field : Text) : (identity kind field).Admits value := by
  have hvalid : ValidIdentity value.text := (Identity.validate_eq_ok value).mp h
  have hadmits : (string field).Admits value.text := admits_string (hvalid.2.1.trans (by decide))
  exact hadmits

theorem admits_digest {value : DigestV1} (h : value.validate = .ok ()) (field : Text) :
    (digest field).Admits value := by
  have hlength : value.text.length ≤ maxFieldBytes := by
    rw [DigestV1.length_of_validate h]
    decide
  have hadmits : (string field).Admits value.text := admits_string hlength
  exact hadmits

theorem admits_profile {value : ObservationProfileIdV1} (h : value.validate = .ok ()) :
    profile.Admits value := by
  simp only [ObservationProfileIdV1.validate, check_bind_eq_ok, mapError_eq_ok] at h
  simp only [profile, Format.admits_map, Format.admits_prod]
  exact ⟨admits_field h.1 _, ⟨trivial, _, rfl⟩, admits_digest h.2.2 _⟩

theorem admits_strings {values : List Text} (h : validateSortedTags field values = .ok ()) :
    (strings field maxCoverageTags).Admits values := by
  simp only [validateSortedTags, check_bind_eq_ok, refuseIf_eq_ok, decide_eq_false_iff_not,
    not_lt] at h
  exact Format.admits_counted (by decide) h.1 fun value hvalue =>
    admits_field (validateField_of_sortedTags h.2 value hvalue) _

theorem admits_coverage {value : CoverageDescriptorV1} (h : value.validate = .ok ()) :
    coverage.Admits value := by
  simp only [CoverageDescriptorV1.validate, check_bind_eq_ok] at h
  simp only [coverage, Format.admits_map, Format.admits_prod]
  exact ⟨admits_strings h.1, admits_strings h.2.1⟩

theorem admits_signal {value : BoundedSignalValueV1} (h : value.validate = .ok ()) :
    signal.Admits value := by
  simp only [BoundedSignalValueV1.validate, check_bind_eq_ok] at h
  simp only [signal, Format.admits_map, Format.admits_prod]
  exact ⟨admits_field h.1 _, ⟨trivial, _, rfl⟩, admits_field h.2.1 _, ⟨trivial, _, rfl⟩⟩

theorem admits_signals (length : values.length ≤ maxSignals)
    (h : PulseFrameV1.validateSignalsFrom none values = .ok ()) : signals.Admits values :=
  Format.admits_counted (by decide) length fun value hvalue =>
    admits_signal (validate_of_validateSignals h value hvalue)

theorem admits_authentication {value : AuthenticationFieldV1} (h : value.validate = .ok ()) :
    authentication.Admits value := by
  refine ⟨trivial, ?_⟩
  cases value with
  | placeholder disclosure =>
    rw [authentication_put_placeholder]
    obtain ⟨-, more, hmore⟩ := admits_field h "authentication.disclosure"
    exact ⟨_, joined_eq_ok.mpr ⟨_, more, rfl, hmore, rfl⟩⟩
  | mac scheme keyId tag =>
    simp only [AuthenticationFieldV1.validate, check_bind_eq_ok] at h
    obtain ⟨hscheme, hkeyId, htag⟩ := h
    have hmac : mac.Admits (scheme, keyId, tag) := by
      simp only [mac, Format.admits_prod]
      exact ⟨admits_field hscheme _, admits_field hkeyId _, admits_field htag _⟩
    rw [authentication_put_mac]
    obtain ⟨-, more, hmore⟩ := hmac
    exact ⟨_, joined_eq_ok.mpr ⟨_, more, rfl, hmore, rfl⟩⟩

/-- A frame that passes its checks can be written and read. -/
theorem admits_frame {sha256 : Sha256} {value : PulseFrameV1}
    (h : value.validate sha256 = .ok ()) : frame.Admits value := by
  replace h := PulseFrameV1.unsealed_of_validate h
  simp only [PulseFrameV1.validateUnsealed, check_bind_eq_ok, mapError_eq_ok] at h
  obtain ⟨-, hsubject, hincarnation, hobserver, hboot, hgeneration, -, hprofile, hcoverage,
    hlength, hsignals, hauthentication, hdigest⟩ := h
  have hlength : value.signals.length ≤ maxSignals := by simpa using hlength
  simp only [frame, Format.admits_map, Format.admits_prod]
  exact ⟨⟨trivial, _, rfl⟩, ⟨trivial, _, rfl⟩, admits_identity hsubject _,
    admits_identity hincarnation _, admits_identity hobserver _, admits_identity hboot _,
    ⟨trivial, _, rfl⟩, ⟨trivial, _, rfl⟩, ⟨trivial, _, rfl⟩, admits_profile hprofile,
    admits_identity hgeneration _, admits_coverage hcoverage, admits_signals hlength hsignals,
    admits_digest hdigest _, admits_authentication hauthentication⟩

end Checks

/-! ## Encoder and decoder -/

section Codec

variable {sha256 : Sha256}

variable {value : PulseFrameV1}

/-- What passes the checks is written, and nothing else is. -/
theorem encodeWire_eq_ok {bytes : List UInt8} : encodeWire sha256 value = .ok bytes ↔
      value.validate sha256 = .ok () ∧ frame.put value = .ok bytes := by
  rw [encodeWire, check_bind_eq_ok, frame_put, except_bind_eq_ok]
  refine and_congr_right fun hvalid => ?_
  constructor
  · rintro ⟨output, hput, houtput⟩
    obtain rfl : output = bytes := Except.ok.inj (ite_error_eq_ok.mp houtput).2
    exact hput
  · intro hput
    have hlength := length_frame_le (admits_frame hvalid).1 hput
    exact ⟨bytes, hput, ite_error_eq_ok.mpr ⟨not_lt.mpr hlength, rfl⟩⟩

/-- A frame is read exactly from what the encoder writes for it. -/
theorem decodeWire_eq_ok {bytes : List UInt8} : decodeWire sha256 bytes = .ok value ↔
      WellTyped value ∧ encodeWire sha256 value = .ok bytes := by
  rw [encodeWire_eq_ok, ← typed_frame]
  refine ite_error_eq_ok.trans ?_
  rw [except_bind_eq_ok, ← frame_get]
  constructor
  · rintro ⟨-, ⟨found, rest⟩, hread, hchecked⟩
    obtain ⟨hrest, hchecked⟩ := ite_error_eq_ok.mp hchecked
    obtain ⟨hvalid, hfound⟩ := (check_bind_eq_ok _ _ _).mp hchecked
    obtain rfl : found = value := Except.ok.inj hfound
    obtain rfl : rest = [] := not_not.mp hrest
    obtain ⟨htyped, -, written, hput, rfl⟩ := Format.Exact.sound hread
    rw [List.append_nil]
    exact ⟨htyped, hvalid, hput⟩
  · rintro ⟨htyped, hvalid, hput⟩
    have hbounded := (admits_frame hvalid).1
    have hread := Format.Exact.complete [] htyped hbounded hput
    rw [List.append_nil] at hread
    exact ⟨not_lt.mpr (length_frame_le hbounded hput), (value, []), hread,
      ite_error_eq_ok.mpr ⟨not_not.mpr rfl, (check_bind_eq_ok _ _ _).mpr ⟨hvalid, rfl⟩⟩⟩

/-- What the encoder says of a frame that does not pass its checks is what the checks say. -/
theorem encodeWire_eq_error {error : PulseError} :
    encodeWire sha256 value = .error error ↔ value.validate sha256 = .error error := by
  cases hvalid : value.validate sha256 with
  | error other =>
    have hrefused : encodeWire sha256 value = .error other := by
      rw [encodeWire, hvalid]
      rfl
    simp [hrefused]
  | ok =>
    obtain ⟨bytes, hput⟩ := (admits_frame hvalid).2
    simp [encodeWire_eq_ok.mpr ⟨hvalid, hput⟩]

/-- The byte strings the decoder accepts and the valid frames correspond one to one. -/
theorem exists_decoded_equiv (sha256 : Sha256) :
    ∃ decoded : {bytes // ∃ frame, decodeWire sha256 bytes = .ok frame} ≃
        {frame // WellTyped frame ∧ frame.validate sha256 = .ok ()},
      ∀ bytes, decodeWire sha256 bytes.val = .ok (decoded bytes).val := by
  have hvalid : ∀ {bytes frame}, decodeWire sha256 bytes = .ok frame →
      WellTyped frame ∧ frame.validate sha256 = .ok () := fun h =>
    ⟨(decodeWire_eq_ok.mp h).1, (encodeWire_eq_ok.mp (decodeWire_eq_ok.mp h).2).1⟩
  refine ⟨Equiv.ofBijective (fun bytes => ⟨bytes.2.choose, hvalid bytes.2.choose_spec⟩) ⟨?_, ?_⟩,
    fun bytes => bytes.2.choose_spec⟩
  · rintro ⟨left, hleft⟩ ⟨right, hright⟩ hsame
    have hframe : hleft.choose = hright.choose := congrArg Subtype.val hsame
    have hencoded := (decodeWire_eq_ok.mp hleft.choose_spec).2
    rw [hframe, (decodeWire_eq_ok.mp hright.choose_spec).2] at hencoded
    exact Subtype.ext (Except.ok.inj hencoded).symm
  · rintro ⟨frame, htyped, hframe⟩
    obtain ⟨bytes, hput⟩ := (admits_frame hframe).2
    have hdecoded : decodeWire sha256 bytes = .ok frame :=
      decodeWire_eq_ok.mpr ⟨htyped, encodeWire_eq_ok.mpr ⟨hframe, hput⟩⟩
    have haccepted : ∃ frame, decodeWire sha256 bytes = .ok frame := ⟨frame, hdecoded⟩
    have hsame := haccepted.choose_spec.symm.trans hdecoded
    exact ⟨⟨bytes, haccepted⟩, Subtype.ext (Except.ok.inj hsame)⟩

end Codec

/-- The wire codec of pulses is exact: a frame is encoded exactly if it passes its checks, and
is refused only with what its checks say; decoding gives back the frame that was encoded, and
encoding the bytes that were decoded.  So the byte strings the decoder accepts and the valid
frames correspond one to one. -/
theorem wire_codec_exact (sha256 : Sha256) :
    (∀ frame, (∃ bytes, encodeWire sha256 frame = .ok bytes) ↔ frame.validate sha256 = .ok ()) ∧
    (∀ frame error, encodeWire sha256 frame = .error error ↔ frame.validate sha256 = .error error) ∧
    (∀ frame bytes, WellTyped frame → encodeWire sha256 frame = .ok bytes →
      decodeWire sha256 bytes = .ok frame) ∧ (∀ bytes frame, decodeWire sha256 bytes = .ok frame →
      WellTyped frame ∧ encodeWire sha256 frame = .ok bytes) ∧
    ∃ decoded : {bytes // ∃ frame, decodeWire sha256 bytes = .ok frame} ≃
        {frame // WellTyped frame ∧ frame.validate sha256 = .ok ()},
      ∀ bytes, decodeWire sha256 bytes.val = .ok (decoded bytes).val := by
  refine ⟨fun frame => ?_, fun _ _ => encodeWire_eq_error,
    fun _ _ htyped hencoded => decodeWire_eq_ok.mpr ⟨htyped, hencoded⟩,
    fun _ _ hdecoded => decodeWire_eq_ok.mp hdecoded, exists_decoded_equiv sha256⟩
  constructor
  · rintro ⟨bytes, hencoded⟩
    exact (encodeWire_eq_ok.mp hencoded).1
  · intro hvalid
    obtain ⟨bytes, hput⟩ := (admits_frame hvalid).2
    exact ⟨bytes, encodeWire_eq_ok.mpr ⟨hvalid, hput⟩⟩

open Evaluation.Reference in
/-- A sealed frame survives the wire. -/
theorem wire_codec_exact_sealed :
    ∃ bytes, encodeWire sha256 ((unsealed "observer" 7 ⟨0x3fd0000000000000⟩).sealed sha256) =
        .ok bytes ∧ decodeWire sha256 bytes =
        .ok ((unsealed "observer" 7 ⟨0x3fd0000000000000⟩).sealed sha256) := by
  obtain ⟨hencodes, -, hreads, -⟩ := wire_codec_exact sha256
  obtain ⟨bytes, hencoded⟩ := (hencodes
    ((unsealed "observer" 7 ⟨0x3fd0000000000000⟩).sealed sha256)).mpr (by decide +kernel)
  refine ⟨bytes, hencoded, hreads _ bytes ?_ hencoded⟩
  exact ⟨by decide +kernel, by decide +kernel, by decide +kernel, by decide +kernel,
    by decide +kernel, by decide +kernel⟩

/-- No byte string the decoder accepts is a proper prefix of another: a frame that was cut short,
or with anything after it, is refused. -/
theorem accepted_prefix_free (sha256 : Sha256) :
    IsAntichain (· <+: ·) {bytes | ∃ frame, decodeWire sha256 bytes = .ok frame} := by
  rintro _ ⟨short, hshort⟩ _ ⟨long, hlong⟩ hne ⟨rest, rfl⟩
  simp only [decodeWire_eq_ok, encodeWire_eq_ok, ← typed_frame] at hshort hlong
  -- Reading the longer one stops where the shorter one ends, and again at its own end.
  have hread := Format.Exact.complete rest hshort.1 (admits_frame hshort.2.1).1 hshort.2.2
  have hwhole := Format.Exact.complete [] hlong.1 (admits_frame hlong.2.1).1 hlong.2.2
  rw [List.append_nil, hread] at hwhole
  obtain ⟨-, rfl⟩ := Prod.mk.inj (Except.ok.inj hwhole)
  exact hne (List.append_nil _).symm

end ConstellationMonitor.Pulse
