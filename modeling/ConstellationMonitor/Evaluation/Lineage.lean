/-
  Retired observer incarnations at the receiver (`ReceiverTracker` in
  `pulse-evaluator/src/receiver.rs`), over any sequence of calls.

  A restart retires the incarnation it replaces, and the set of retired incarnations only
  grows.  But it is looked at only while the stream is live under another incarnation, and a
  configured subject replacement takes the subject's streams out.  Between the two calls a
  retired incarnation stays refused; after a subject replacement it can come back as the first
  of a stream.
-/
import ConstellationMonitor.Evaluation.Reference

namespace ConstellationMonitor.Evaluation

open Foundation ConstellationMonitor.Types
open Std (ExtTreeMap ExtTreeSet)

/-! ## Calls -/

/-- The arguments of `ReceiverTracker::annotate`. -/
structure TrackedArrival where
  frame : PulseFrameV1
  arrivalMonotonicMs : Nat
  transportPath : Text
  transportObservedDelayMs : Option Nat
  authentication : AuthenticationResultV1

/-- A call that changes a tracker. -/
inductive TrackerCall where
  | annotate (arrival : TrackedArrival)
  | activateSubjectIncarnation (subject : SubjectId) (replacement : IncarnationId)

namespace ReceiverTracker

/-- `ReceiverTracker::annotate` of an arrival. -/
def annotateArrival (sha256 : Sha256) (arrival : TrackedArrival) (tracker : ReceiverTracker) :
    Except PulseError (ReceiverAnnotationV1 × ReceiverTracker) :=
  tracker.annotate sha256 arrival.frame arrival.arrivalMonotonicMs arrival.transportPath
    arrival.transportObservedDelayMs arrival.authentication

/-- The tracker after a call; a call that fails changes nothing. -/
def perform (sha256 : Sha256) (tracker : ReceiverTracker) : TrackerCall → ReceiverTracker
  | .annotate arrival => (tracker.annotateArrival sha256 arrival).toOption.elim tracker Prod.snd
  | .activateSubjectIncarnation subject replacement =>
    (tracker.activateSubjectIncarnation subject replacement).toOption.getD tracker

/-- The tracker after a sequence of calls. -/
def performAll (sha256 : Sha256) (calls : List TrackerCall) (tracker : ReceiverTracker) :
    ReceiverTracker :=
  calls.foldl (perform sha256) tracker

end ReceiverTracker

/-- Whether an arrival is stale by the delay its transport observed. -/
def TrackedArrival.Stale (arrival : TrackedArrival) : Prop :=
  ∃ delay ∈ arrival.transportObservedDelayMs, delay ≥ arrival.frame.validityMs

/-- The dispositions that put a frame into its stream. -/
def Advances (disposition : ArrivalDispositionV1) : Prop :=
  disposition = .first ∨ disposition = .continuous ∨ disposition = .gap ∨
    disposition = .restarted

instance (disposition : ArrivalDispositionV1) : Decidable (Advances disposition) :=
  inferInstanceAs (Decidable (_ ∨ _))

/-- The call replaces no incarnation of the subject: it is not an activation that names the
subject with an incarnation that passes the identity rules. -/
def TrackerCall.Spares (subject : SubjectId) : TrackerCall → Prop
  | .annotate _ => True
  | .activateSubjectIncarnation other replacement =>
    other = subject → ¬ValidIdentity replacement.text

/-! ## What one call does -/

namespace ReceiverTracker

section Steps

variable {sha256 : Sha256} {arrival : TrackedArrival} {tracker next : ReceiverTracker}
  {annotated : ReceiverAnnotationV1}

/-- Everything an annotation that succeeds can be. -/
theorem annotateArrival_cases
    (h : tracker.annotateArrival sha256 arrival = .ok (annotated, next)) :
    (arrival.Stale ∧ annotated.disposition = .stale ∧ next = tracker) ∨
    (¬arrival.Stale ∧ (arrival.frame.subject, arrival.frame.subjectIncarnation) ∈
        tracker.retiredSubjectIncarnations ∧ annotated.disposition = .replay ∧ next = tracker) ∨
    (¬arrival.Stale ∧ (arrival.frame.subject, arrival.frame.subjectIncarnation) ∉
        tracker.retiredSubjectIncarnations ∧ annotated.disposition =
        ((tracker.observeSubject arrival.frame).observeStream arrival.frame).1.1 ∧
      next = ((tracker.observeSubject arrival.frame).observeStream arrival.frame).2) := by
  have hstale : (arrival.transportObservedDelayMs.any fun delay =>
      decide (delay ≥ arrival.frame.validityMs)) = true ↔ arrival.Stale := by
    rw [TrackedArrival.Stale]
    cases arrival.transportObservedDelayMs <;> simp
  simp only [annotateArrival, annotate, check_bind_eq_ok] at h
  obtain ⟨-, h⟩ := h
  split at h
  · rename_i hdelay
    obtain ⟨rfl, rfl⟩ := Prod.mk.inj (Except.ok.inj h)
    exact .inl ⟨hstale.mp hdelay, rfl, rfl⟩
  · rename_i hfresh
    rw [hstale] at hfresh
    split at h
    · rename_i hretired
      obtain ⟨rfl, rfl⟩ := Prod.mk.inj (Except.ok.inj h)
      exact .inr (.inl ⟨hfresh, ExtTreeSet.contains_iff_mem.mp hretired, rfl, rfl⟩)
    · rename_i hlive
      obtain ⟨rfl, rfl⟩ := Prod.mk.inj (Except.ok.inj h)
      exact .inr (.inr ⟨hfresh, fun hmem => hlive (ExtTreeSet.contains_iff_mem.mpr hmem), rfl,
        rfl⟩)

@[simp] theorem observeSubject_streams (frame : PulseFrameV1) :
    (tracker.observeSubject frame).streams = tracker.streams := by
  unfold observeSubject
  repeat' split
  all_goals rfl

@[simp] theorem observeSubject_retired (frame : PulseFrameV1) :
    (tracker.observeSubject frame).retired = tracker.retired := by
  unfold observeSubject
  repeat' split
  all_goals rfl

/-- The incarnation is retired on the stream, which is live under another one. -/
def Barred (key : ReceiverStreamKey) (incarnation : IncarnationId) (tracker : ReceiverTracker) :
    Prop :=
  (key, incarnation) ∈ tracker.retired ∧
    ∃ live, tracker.streams[key]? = some live ∧ live.incarnation ≠ incarnation

variable {incarnation : IncarnationId} {key : ReceiverStreamKey}
  {entries : List (ReceiverStreamKey × Lineage)} {pair : ReceiverStreamKey × IncarnationId}

/-- Taking a frame in bars nothing less: a restart goes to an incarnation that is not retired. -/
theorem barred_observeStream (frame : PulseFrameV1) (h : Barred key incarnation tracker) :
    Barred key incarnation (tracker.observeStream frame).2 := by
  obtain ⟨hretired, live, hlive, hother⟩ := h
  unfold observeStream
  dsimp only
  have hadvanced : (streamKey frame = key → frame.observerIncarnation ≠ incarnation) →
      ∃ live, (tracker.streams.insert (streamKey frame)
          ⟨frame.observerIncarnation, frame.sequence⟩)[key]? = some live ∧
        live.incarnation ≠ incarnation := by
    intro hframe
    rw [getElem?_insert_iff]
    by_cases hkey : streamKey frame = key
    · exact ⟨_, if_pos hkey, hframe hkey⟩
    · exact ⟨live, by rw [if_neg hkey, hlive], hother⟩
  split
  · rename_i stream hstream
    have hsame : streamKey frame = key → stream = live := by
      rintro rfl
      exact Option.some.inj (hstream.symm.trans hlive)
    split
    · rename_i hincarnation
      split
      · exact ⟨hretired, live, hlive, hother⟩
      · exact ⟨hretired, hadvanced fun hkey => by rw [← hincarnation, hsame hkey]; exact hother⟩
    · split
      · exact ⟨hretired, live, hlive, hother⟩
      · rename_i hfresh
        refine ⟨ExtTreeSet.mem_insert.mpr (.inr hretired), hadvanced fun hkey hsame => hfresh ?_⟩
        rw [hkey, hsame]
        exact ExtTreeSet.contains_iff_mem.mpr hretired
  · rename_i hnone
    refine ⟨hretired, hadvanced fun hkey => ?_⟩
    rw [hkey, hlive] at hnone
    cases hnone

theorem barred_annotateArrival
    (hok : tracker.annotateArrival sha256 arrival = .ok (annotated, next))
    (h : Barred key incarnation tracker) : Barred key incarnation next := by
  rcases annotateArrival_cases hok with ⟨-, -, rfl⟩ | ⟨-, -, -, rfl⟩ | ⟨-, -, -, rfl⟩
  · exact h
  · exact h
  · refine barred_observeStream _ ?_
    simpa [Barred] using h

/-- A restart bars the incarnation it replaces. -/
theorem barred_of_restarted {live : Lineage}
    (hok : tracker.annotateArrival sha256 arrival = .ok (annotated, next))
    (hrestarted : annotated.disposition = .restarted)
    (hlive : tracker.streams[streamKey arrival.frame]? = some live) :
    Barred (streamKey arrival.frame) live.incarnation next := by
  rcases annotateArrival_cases hok with ⟨-, hstale, -⟩ | ⟨-, -, hreplay, -⟩ | ⟨-, -, hseen, rfl⟩
  · simp [hrestarted] at hstale
  · simp [hrestarted] at hreplay
  · rw [hrestarted] at hseen
    simp only [observeStream, observeSubject_streams, hlive] at hseen ⊢
    split at hseen
    · -- a number of the same incarnation is never a restart
      exfalso
      revert hseen
      unfold Lineage.classifySequence
      repeat' split
      all_goals simp
    · rename_i hother
      split at hseen
      · cases hseen
      · rename_i hfresh
        rw [if_neg hother, if_neg hfresh]
        exact ⟨ExtTreeSet.mem_insert_self, ⟨arrival.frame.observerIncarnation,
          arrival.frame.sequence⟩, by rw [getElem?_insert_iff, if_pos rfl],
          fun hsame => hother hsame.symm⟩

theorem getElem?_foldl_erase {streams : ExtTreeMap ReceiverStreamKey Lineage}
    (h : ∀ entry ∈ entries, entry.1 ≠ key) :
    (entries.foldl (fun streams entry => streams.erase entry.1) streams)[key]? = streams[key]? := by
  induction entries generalizing streams with
  | nil => rfl
  | cons entry rest ih =>
    obtain ⟨hentry, hrest⟩ := List.forall_mem_cons.mp h
    rw [List.foldl_cons, ih hrest, getElem?_erase_iff, if_neg hentry]

theorem mem_foldl_insert {retired : ExtTreeSet (ReceiverStreamKey × IncarnationId)}
    (h : pair ∈ retired) : pair ∈ entries.foldl
      (fun retired entry => retired.insert (entry.1, entry.2.incarnation)) retired := by
  induction entries generalizing retired with
  | nil => exact h
  | cons entry rest ih => exact ih (ExtTreeSet.mem_insert.mpr (.inr h))

theorem activate_eq_ok {subject : SubjectId} {replacement : IncarnationId}
    (h : tracker.activateSubjectIncarnation subject replacement = .ok next) :
    ValidIdentity replacement.text ∧ next.streams = (tracker.streams.toList.filter fun entry =>
        decide (entry.1.subject = subject)).foldl
          (fun streams entry => streams.erase entry.1) tracker.streams ∧
      next.retired = (tracker.streams.toList.filter fun entry =>
        decide (entry.1.subject = subject)).foldl
          (fun retired entry => retired.insert (entry.1, entry.2.incarnation)) tracker.retired := by
  simp only [activateSubjectIncarnation, check_bind_eq_ok, mapError_eq_ok,
    Identity.validate_eq_ok] at h
  obtain ⟨-, hvalid, h⟩ := h
  obtain rfl := Except.ok.inj h
  exact ⟨hvalid, rfl, rfl⟩

/-- Everything a call can do. -/
theorem perform_cases (sha256 : Sha256) (tracker : ReceiverTracker) (call : TrackerCall) :
    tracker.perform sha256 call = tracker ∨ (∃ arrival annotated, call = .annotate arrival ∧
      tracker.annotateArrival sha256 arrival = .ok (annotated, tracker.perform sha256 call)) ∨
    ∃ subject replacement, call = .activateSubjectIncarnation subject replacement ∧
      tracker.activateSubjectIncarnation subject replacement =
        .ok (tracker.perform sha256 call) := by
  cases call with
  | annotate arrival =>
    cases hok : tracker.annotateArrival sha256 arrival with
    | error => exact .inl (by simp [perform, hok, Except.toOption])
    | ok result =>
      exact .inr (.inl ⟨arrival, result.1, rfl, by simp [perform, hok, Except.toOption]⟩)
  | activateSubjectIncarnation subject replacement =>
    cases hok : tracker.activateSubjectIncarnation subject replacement with
    | error => exact .inl (by simp [perform, hok, Except.toOption])
    | ok next =>
      exact .inr (.inr ⟨subject, replacement, rfl, by simp [perform, hok, Except.toOption]⟩)

theorem mem_retired_observeStream (frame : PulseFrameV1) (h : pair ∈ tracker.retired) :
    pair ∈ (tracker.observeStream frame).2.retired := by
  unfold observeStream
  dsimp only
  repeat' split
  all_goals first
    | exact h
    | exact ExtTreeSet.mem_insert.mpr (.inr h)

/-- No call takes an incarnation out of the retired ones. -/
theorem mem_retired_perform (call : TrackerCall) (h : pair ∈ tracker.retired) :
    pair ∈ (tracker.perform sha256 call).retired := by
  rcases perform_cases sha256 tracker call with hsame | ⟨arrival, annotated, -, hok⟩ |
    ⟨subject, replacement, -, hok⟩
  · rwa [hsame]
  · rcases annotateArrival_cases hok with ⟨-, -, hnext⟩ | ⟨-, -, -, hnext⟩ | ⟨-, -, -, hnext⟩
    · rwa [hnext]
    · rwa [hnext]
    · rw [hnext]
      exact mem_retired_observeStream _ (by simpa using h)
  · rw [(activate_eq_ok hok).2.2]
    exact mem_foldl_insert h

theorem barred_perform {call : TrackerCall} (hcall : call.Spares key.subject)
    (h : Barred key incarnation tracker) :
    Barred key incarnation (tracker.perform sha256 call) := by
  rcases perform_cases sha256 tracker call with hsame | ⟨arrival, annotated, -, hok⟩ |
    ⟨subject, replacement, rfl, hok⟩
  · rwa [hsame]
  · exact barred_annotateArrival hok h
  · refine ⟨mem_retired_perform _ h.1, ?_⟩
    obtain ⟨hvalid, hstreams, -⟩ := activate_eq_ok hok
    obtain ⟨live, hlive, hother⟩ := h.2
    refine ⟨live, ?_, hother⟩
    rw [hstreams, getElem?_foldl_erase fun entry hentry hkey => ?_, hlive]
    have hsubject : entry.1.subject = subject := by
      simpa using (List.mem_filter.mp hentry).2
    exact hcall (by rw [← hsubject, hkey]) hvalid

theorem barred_performAll {calls : List TrackerCall}
    (hcalls : ∀ call ∈ calls, call.Spares key.subject) (h : Barred key incarnation tracker) :
    Barred key incarnation (tracker.performAll sha256 calls) := by
  induction calls generalizing tracker with
  | nil => exact h
  | cons call rest ih =>
    obtain ⟨hcall, hrest⟩ := List.forall_mem_cons.mp hcalls
    exact ih hrest (barred_perform hcall h)

theorem mem_retired_performAll (calls : List TrackerCall)
    (h : (key, incarnation) ∈ tracker.retired) :
    (key, incarnation) ∈ (tracker.performAll sha256 calls).retired := by
  induction calls generalizing tracker with
  | nil => exact h
  | cons call rest ih => exact ih (mem_retired_perform call h)

/-- The stream would take the incarnation in: it is not live, or live under that incarnation and
behind the frame. -/
def Revivable (frame : PulseFrameV1) (tracker : ReceiverTracker) : Prop :=
  ∀ live, tracker.streams[streamKey frame]? = some live →
    live.incarnation = frame.observerIncarnation ∧ live.sequence < frame.sequence

theorem advances_classifySequence (lineage : Lineage) (sequence : Nat) :
    Advances (lineage.classifySequence sequence).1 ↔ lineage.sequence < sequence := by
  unfold Lineage.classifySequence
  by_cases hsame : sequence = lineage.sequence
  · simp [hsame, Advances]
  · by_cases hbelow : sequence < lineage.sequence
    · simp [hsame, hbelow, Advances]
      omega
    · by_cases hnext : sequence = satAdd lineage.sequence 1
      · simp only [if_neg hsame, if_neg hbelow, if_pos hnext, Advances]
        simp
        omega
      · simp only [if_neg hsame, if_neg hbelow, if_neg hnext, Advances]
        simp
        omega

/-- A frame of a retired incarnation is taken in exactly if it is fresh, its subject incarnation
is not retired, and its stream would take it in. -/
theorem advances_iff_revivable
    (hok : tracker.annotateArrival sha256 arrival = .ok (annotated, next))
    (hretired : (streamKey arrival.frame, arrival.frame.observerIncarnation) ∈ tracker.retired) :
    Advances annotated.disposition ↔
      ¬arrival.Stale ∧ (arrival.frame.subject, arrival.frame.subjectIncarnation) ∉
        tracker.retiredSubjectIncarnations ∧ Revivable arrival.frame tracker := by
  rcases annotateArrival_cases hok with ⟨hstale, hseen, -⟩ | ⟨-, hgone, hseen, -⟩ |
    ⟨hfresh, hsubject, hseen, -⟩
  · simp [hseen, hstale, Advances]
  · simp [hseen, hgone, Advances]
  · rw [hseen, and_iff_right hfresh, and_iff_right hsubject, observeStream, Revivable]
    simp only [observeSubject_streams, observeSubject_retired]
    cases hlive : tracker.streams[streamKey arrival.frame]? with
    | none => simp [Advances]
    | some live =>
      by_cases hsame : live.incarnation = arrival.frame.observerIncarnation
      · have hclass := advances_classifySequence live arrival.frame.sequence
        by_cases hbehind : arrival.frame.sequence ≤ live.sequence
        · simp [hsame, hbehind, hclass]
        · simp [hsame, hbehind, hclass]
      · simp [hsame, ExtTreeSet.contains_iff_mem.mpr hretired, Advances]

end Steps

/-- Once a restart has retired an incarnation on a stream, a later frame of that incarnation is
taken in exactly if it is fresh, of a live subject incarnation, and the stream is not live under
another incarnation; and as long as no call replaces an incarnation of the subject, the stream
is, so that no such frame is taken in. -/
theorem retired_incarnation_barred {sha256 : Sha256} {tracker restarted : ReceiverTracker}
    {arrival : TrackedArrival} {annotated : ReceiverAnnotationV1} {live : Lineage}
    (hlive : tracker.streams[streamKey arrival.frame]? = some live)
    (hok : tracker.annotateArrival sha256 arrival = .ok (annotated, restarted))
    (hrestarted : annotated.disposition = .restarted) (calls : List TrackerCall)
    {late : TrackedArrival} (hkey : streamKey late.frame = streamKey arrival.frame)
    (hincarnation : late.frame.observerIncarnation = live.incarnation)
    {result : ReceiverAnnotationV1} {last : ReceiverTracker}
    (hlate : (restarted.performAll sha256 calls).annotateArrival sha256 late = .ok (result, last)) :
    (Advances result.disposition ↔ ¬late.Stale ∧
      (late.frame.subject, late.frame.subjectIncarnation) ∉
        (restarted.performAll sha256 calls).retiredSubjectIncarnations ∧
      Revivable late.frame (restarted.performAll sha256 calls)) ∧
    ((∀ call ∈ calls, call.Spares arrival.frame.subject) → ¬Advances result.disposition) := by
  have hbarred := barred_of_restarted hok hrestarted hlive
  have hretired : (streamKey late.frame, late.frame.observerIncarnation) ∈
      (restarted.performAll sha256 calls).retired := by
    rw [hkey, hincarnation]
    exact mem_retired_performAll calls hbarred.1
  have hiff := advances_iff_revivable hlate hretired
  refine ⟨hiff, fun hcalls hadvances => ?_⟩
  obtain ⟨-, other, hother, hdifferent⟩ :=
    (barred_performAll hcalls hbarred :
      Barred (streamKey arrival.frame) live.incarnation (restarted.performAll sha256 calls))
  rw [← hkey] at hother
  exact hdifferent (((hiff.mp hadvances).2.2 other hother).1.trans hincarnation)

/-! ## A restart, with and without a subject replacement after it -/

section Restart

open Reference (unsealed sha256)

/-- The arrival of a frame of an observer incarnation under a subject incarnation. -/
def arrivalOf (observerIncarnation subjectIncarnation : Text) (sequence : Nat) :
    TrackedArrival where
  frame := { unsealed "observer" sequence ⟨0x3fd0000000000000⟩ with
    observerIncarnation := ⟨observerIncarnation⟩
    subjectIncarnation := ⟨subjectIncarnation⟩ }.sealed sha256
  arrivalMonotonicMs := sequence
  transportPath := "loopback"
  transportObservedDelayMs := some 0
  authentication := .verified "fixture" "observer"

/-- A tracker that has seen one frame of the first incarnation. -/
def tracked : ReceiverTracker :=
  (new "receiver" "r1" "clock").performAll sha256 [.annotate (arrivalOf "b1" "i1" 1)]

/-- The disposition of an arrival. -/
def dispositionOf (tracker : ReceiverTracker) (arrival : TrackedArrival) :
    Option ArrivalDispositionV1 :=
  (tracker.annotateArrival sha256 arrival).toOption.map fun result => result.1.disposition

theorem exists_of_dispositionOf {tracker : ReceiverTracker} {arrival : TrackedArrival}
    {disposition : ArrivalDispositionV1} (h : dispositionOf tracker arrival = some disposition) :
    ∃ annotated, tracker.annotateArrival sha256 arrival =
        .ok (annotated, tracker.perform sha256 (.annotate arrival)) ∧
      annotated.disposition = disposition := by
  cases hok : tracker.annotateArrival sha256 arrival with
  | error error => simp [dispositionOf, hok, Except.toOption] at h
  | ok result =>
    refine ⟨result.1, ?_, by simpa [dispositionOf, hok, Except.toOption] using h⟩
    simp [perform, hok, Except.toOption]

/-- The same tracker after a restart of the observer. -/
def restartedTracker : ReceiverTracker :=
  tracked.perform sha256 (.annotate (arrivalOf "b2" "i1" 1))

/-- While the subject stays, the replaced incarnation is refused. -/
theorem retired_incarnation_barred_late : ∃ result last, (restartedTracker.performAll sha256
        [.annotate (arrivalOf "b2" "i1" 2)]).annotateArrival sha256 (arrivalOf "b1" "i1" 2) =
          .ok (result, last) ∧ ¬Advances result.disposition := by
  obtain ⟨annotated, hok, hrestarted⟩ := exists_of_dispositionOf
    (show dispositionOf tracked (arrivalOf "b2" "i1" 1) = some .restarted by decide +kernel)
  obtain ⟨result, hlate, -⟩ := exists_of_dispositionOf
    (show dispositionOf (restartedTracker.performAll sha256 [.annotate (arrivalOf "b2" "i1" 2)])
      (arrivalOf "b1" "i1" 2) = some .replay by decide +kernel)
  have hlive : tracked.streams[streamKey (arrivalOf "b2" "i1" 1).frame]? = some ⟨"b1", 1⟩ := by
    decide +kernel
  exact ⟨result, _, hlate, (retired_incarnation_barred hlive hok hrestarted
    [.annotate (arrivalOf "b2" "i1" 2)] (by decide +kernel) (by decide +kernel) hlate).2
      (by simp [TrackerCall.Spares])⟩

/-- After a subject replacement the replaced incarnation opens its stream anew. -/
theorem retired_incarnation_revives :
    tracked.streams[streamKey (arrivalOf "b1" "i2" 2).frame]? = some ⟨"b1", 1⟩ ∧
    dispositionOf tracked (arrivalOf "b2" "i1" 1) = some .restarted ∧
    dispositionOf (restartedTracker.performAll sha256
      [.activateSubjectIncarnation "subject" "i2"]) (arrivalOf "b1" "i2" 2) = some .first := by
  decide +kernel

end Restart

end ReceiverTracker

end ConstellationMonitor.Evaluation
