import Zrotext.Delivery.Run

/-!
# Evidence behind a state

A state that says that the radio has spoken is backed by the callbacks that the
fenced attempt has recorded, and as long as they are recorded the fence stays.
-/

namespace Zrotext.Delivery

open Domain Foundation List Table

/-! ## What callbacks amount to -/

/-- All segments of a message, of which there is at least one, were sent. -/
structure SentInFull (events : List MessageEvent) (count : Nat) : Prop where
  positive : 0 < count
  segments : ((events.filter (·.evidenceCode == .sentCallbackOk)).map (·.segmentIndex)).Perm
      ((range count).map fun index : Nat => some (index : Int))
  declared : ∀ event ∈ events, event.evidenceCode = .sentCallbackOk →
    event.segmentCount = some ↑count
  unfailed : ∀ event ∈ events, event.evidenceCode ≠ .sentCallbackFailed
  unconflicted : ∀ event ∈ events, event.evidenceCode ≠ .callbackConflict

/-- The only segment of a message failed. -/
structure FailedAlone (events : List MessageEvent) (event : MessageEvent) : Prop where
  alone : events.filter (·.evidenceCode.isSentCallback) = [event]
  failed : event.evidenceCode = .sentCallbackFailed
  declared : event.segmentCount = some 1
  unconflicted : ∀ event ∈ events, event.evidenceCode ≠ .callbackConflict

/-- Messages of which all segments were sent. -/
def isSubmitted : MessageState → Bool
  | .submitted | .delivered | .deliveryUnknown => true
  | _ => false

/-- The evidence of an attempt backs a state. -/
structure Backs (events : List MessageEvent) (state : MessageState) : Prop where
  submitted : isSubmitted state = true → ∃ count, SentInFull events count
  failed : state = .failed → ∃ event, FailedAlone events event
  delivered : state = .delivered → ∃ event ∈ events, event.evidenceCode = .deliveryCallbackOk

variable {events : List MessageEvent} {count : Nat}

theorem Backs.of_quiet (notSubmitted : isSubmitted state = false)
    (notFailed : state ≠ .failed) : Backs events state where
  submitted := by
    intro submitted
    rw [notSubmitted] at submitted
    cases submitted
  failed := fun failed => absurd failed notFailed
  delivered := by
    rintro rfl
    cases notSubmitted

theorem SentInFull.append (full : SentInFull events count) {event : MessageEvent}
    (notCallback : event.evidenceCode.isSentCallback = false)
    (notConflict : event.evidenceCode ≠ .callbackConflict) :
    SentInFull (events ++ [event]) count := by
  have notOk : event.evidenceCode ≠ .sentCallbackOk := by
    intro isOk
    simp [isOk, EvidenceCode.isSentCallback] at notCallback
  have notFailed : event.evidenceCode ≠ .sentCallbackFailed := by
    intro isFailed
    simp [isFailed, EvidenceCode.isSentCallback] at notCallback
  refine ⟨full.positive, ?_, ?_, ?_, ?_⟩
  · rw [filter_append, filter_cons_of_neg (by simpa using notOk), filter_nil, append_nil]
    exact full.segments
  · exact forall_mem_concat full.declared fun isOk => absurd isOk notOk
  · exact forall_mem_concat full.unfailed notFailed
  · exact forall_mem_concat full.unconflicted notConflict

/-- Callbacks of segments either succeeded or failed. -/
theorem countP_isSentCallback (events : List MessageEvent) :
    events.countP (·.evidenceCode.isSentCallback) =
      events.countP (·.evidenceCode == .sentCallbackOk) +
        events.countP (·.evidenceCode == .sentCallbackFailed) := by
  induction events with
  | nil => rfl
  | cons event rest ih =>
    rw [countP_cons, countP_cons, countP_cons, ih]
    cases event.evidenceCode <;>
      simp [EvidenceCode.isSentCallback] <;> omega

/-- Distinct segments below a count, as many as the count, are all of them. -/
theorem segments_perm {segments : List (Option Int)} (distinct : segments.Nodup)
    (inRange : ∀ segment ∈ segments,
      ∃ index : Int, segment = some index ∧ 0 ≤ index ∧ index < count)
    (enough : segments.length = count) : segments.Perm
      ((range count).map fun index : Nat => some (index : Int)) := by
  have subset : segments ⊆ (range count).map fun index : Nat => some (index : Int) := by
    intro segment present
    obtain ⟨index, rfl, low, high⟩ := inRange segment present
    obtain ⟨natural, rfl⟩ := Int.eq_ofNat_of_zero_le low
    exact mem_map.mpr ⟨natural, mem_range.mpr (by omega), rfl⟩
  refine (subperm_of_subset distinct subset).perm_of_length_le ?_
  rw [length_map, length_range, enough]

theorem SentInFull.complete {event : MessageEvent} (isOk : event.evidenceCode = .sentCallbackOk)
    (isIndex : event.segmentIndex = some index)
    (isCount : event.segmentCount = some ↑count) (inRange : 0 ≤ index ∧ index < count)
    (callbacks : ∀ other ∈ events, other.evidenceCode.isSentCallback →
      ∃ segment : Int, other.segmentIndex = some segment ∧
        other.segmentCount = some ↑count ∧ 0 ≤ segment ∧ segment < count)
    (distinct : ((events ++ [event]).filter (·.evidenceCode.isSentCallback)).Pairwise
        fun first second => first.segmentIndex ≠ second.segmentIndex)
    (oks : events.countP (·.evidenceCode == .sentCallbackOk) + 1 = count)
    (all : events.countP (·.evidenceCode.isSentCallback) < count) (unconflicted : ∀ other ∈ events,
      other.evidenceCode ≠ .callbackConflict) :
    SentInFull (events ++ [event]) count := by
  have isOks : (events ++ [event]).filter (·.evidenceCode == .sentCallbackOk) =
      events.filter (·.evidenceCode == .sentCallbackOk) ++ [event] := by
    rw [filter_append, filter_cons_of_pos (by simpa using isOk), filter_nil]
  have callback : ∀ other : MessageEvent, other.evidenceCode = .sentCallbackOk →
      other.evidenceCode.isSentCallback := by
    intro other otherOk
    rw [otherOk]
    rfl
  have unfailed : events.countP (·.evidenceCode == .sentCallbackFailed) = 0 := by
    have split := countP_isSentCallback events
    omega
  refine ⟨by omega, segments_perm ?_ ?_ ?_, ?_, ?_, ?_⟩
  · have part : ((events ++ [event]).filter (·.evidenceCode == .sentCallbackOk)).Sublist
        ((events ++ [event]).filter (·.evidenceCode.isSentCallback)) := by
      refine monotone_filter_right _ ?_
      intro other otherOk
      exact callback other (beq_iff_eq.mp otherOk)
    exact pairwise_map.mpr (distinct.sublist part)
  · rw [isOks, forall_mem_map]
    refine forall_mem_concat (fun other old => ?_) ⟨index, isIndex, inRange⟩
    obtain ⟨stored, otherOk⟩ := mem_filter.mp old
    obtain ⟨own, isOwn, _, low, high⟩ :=
      callbacks other stored (callback other (beq_iff_eq.mp otherOk))
    exact ⟨own, isOwn, low, high⟩
  · rw [isOks, length_map, length_append, ← countP_eq_length_filter, length_singleton, oks]
  · refine forall_mem_concat (fun other old otherOk => ?_) fun _ => isCount
    obtain ⟨_, _, isDeclared, _⟩ := callbacks other old (callback other otherOk)
    exact isDeclared
  · refine forall_mem_concat (fun other old => ?_) (by simp [isOk])
    simpa using countP_eq_zero.mp unfailed other old
  · exact forall_mem_concat unconflicted (by simp [isOk])

/-! ## The evidence of a record -/

/-- The events of a record fit its fence and its state. -/
structure Record.Evidenced (record : Record) : Prop where
  callbacks : ∀ event ∈ record.events, event.evidenceCode.isSentCallback = true →
      ∃ index count : Int, event.segmentIndex = some index ∧
        event.segmentCount = some count ∧ 0 ≤ index ∧ index < count
  segments : Unique sentSegmentIndex record.events
  held : ∀ event ∈ record.events, event.evidenceCode.isContrary = true →
    ∃ fence, record.fence = some fence ∧ fence.attemptId = event.attemptId
  conflicted : ∀ event ∈ record.events,
    event.evidenceCode = .callbackConflict → record.message.state = .unknown
  backed : ∀ fence, record.fence = some fence →
    Backs (record.events.filter (·.attemptId == fence.attemptId)) record.message.state

namespace Record

variable {record : Record}

variable {code : EvidenceCode} {fence : DispatchFence}

theorem ne_conflict_of_quiet (quiet : code.isContrary = false) : code ≠ .callbackConflict := by
  rintro rfl
  cases quiet

/-- A report of a segment names the segment and the number of segments. -/
theorem segment_of_wellFormed (wellFormed : malformedRadioEvent event = false)
    (isCallback : isSentCallback event.evidence) :
    ∃ index count : Int, event.segmentIndex = some index ∧
      event.segmentCount = some count ∧ 0 ≤ index ∧ index < count := by
  unfold malformedRadioEvent at wellFormed
  simp only [Bool.or_eq_false_iff] at wellFormed
  obtain ⟨⟨⟨⟨⟨⟨_, _⟩, low⟩, high⟩, paired⟩, named⟩, _⟩ := wellFormed
  rw [isCallback] at named
  match isIndex : event.segmentIndex, isCount : event.segmentCount with
  | none, _ => simp [isIndex] at named
  | some index, none => simp [isIndex, isCount] at paired
  | some index, some count =>
    rw [isIndex] at low high
    rw [isCount] at high
    simp only [Option.any_some, decide_eq_false_iff_not, not_lt] at low
    simp only [decide_eq_false_iff_not, not_le] at high
    exact ⟨index, count, rfl, rfl, low, high⟩

theorem isSentCallback_of_code {evidence : Evidence} (isCode : evidenceCode evidence = some code) :
    code.isSentCallback = isSentCallback evidence := by
  cases evidence <;> cases isCode <;> rfl

section

variable (evidenced : record.Evidenced)

include evidenced

theorem Evidenced.holder (isFence : record.fence = some fence)
    {event : MessageEvent} (present : event ∈ record.events)
    (contrary : event.evidenceCode.isContrary) : fence.attemptId = event.attemptId := by
  obtain ⟨prior, isPrior, holder⟩ := evidenced.held event present contrary
  cases isFence.symm.trans isPrior
  exact holder

/-- Without a fence the radio has not spoken. -/
theorem Evidenced.quiet (noFence : record.fence = none)
    {event : MessageEvent} (present : event ∈ record.events) :
    event.evidenceCode.isContrary = false := by
  rw [Bool.eq_false_iff]
  intro contrary
  obtain ⟨fence, isFence, _⟩ := evidenced.held event present contrary
  rw [noFence] at isFence
  cases isFence

theorem Evidenced.move (noFence : record.fence = none)
    (message : Message) (job : DispatchJob) (ledger : List LedgerEntry) :
    Evidenced { record with message, job, ledger } := by
  refine { evidenced with conflicted := fun _ present isConflict => ?_, backed := ?_ }
  · exact absurd isConflict (ne_conflict_of_quiet (evidenced.quiet noFence present))
  · intro fence isFence
    rw [noFence] at isFence
    cases isFence

/-- Evidence that a sweep writes says nothing about the radio. -/
theorem Evidenced.sweep (isFence : record.fence = some fence)
    (notUnknown : record.message.state ≠ .unknown) {event : MessageEvent}
    (notContrary : event.evidenceCode.isContrary = false)
    (isHolder : event.attemptId = fence.attemptId) (message : Message)
    (attempts : List MessageAttempt) (outcome : AttemptStatus)
    (backs : Backs (record.events.filter (·.attemptId == fence.attemptId) ++
      [event]) message.state) :
    Evidenced
      { record with
        message, events := record.events ++ [event]
        attempts
        fence := some (fence.record outcome) } := by
  have notCallback : event.evidenceCode.isSentCallback = false := by
    cases isCode : event.evidenceCode <;>
      simp_all [EvidenceCode.isContrary, EvidenceCode.isSentCallback]
  refine ⟨?_, ?_, ?_, ?_, ?_⟩
  · refine forall_mem_concat evidenced.callbacks ?_
    intro isCallback
    rw [notCallback] at isCallback
    cases isCallback
  · refine evidenced.segments.append fun other _ => ?_
    refine Index.on_free_iff.mpr ?_
    intro value isValue
    rw [if_neg (by simp [notCallback])] at isValue
    cases isValue
  · refine forall_mem_concat (fun other old contrary => ?_) (by simp [notContrary])
    exact ⟨_, rfl, evidenced.holder isFence old contrary⟩
  · refine forall_mem_concat (fun other old isConflict => ?_) fun isConflict => ?_
    · exact absurd (evidenced.conflicted other old isConflict) notUnknown
    · exact absurd isConflict (ne_conflict_of_quiet notContrary)
  · rintro _ ⟨⟩
    change Backs ((record.events ++ [event]).filter (·.attemptId == fence.attemptId)) message.state
    rw [filter_append_of_eq isHolder]
    exact backs

end

/-- What evidence other than the callbacks of segments leads to. -/
theorem apply_cases {evidence : Evidence} {current next : MessageState}
    (isCode : evidenceCode evidence = some code) (notCallback : isSentCallback evidence = false)
    (notProof : evidence ≠ .provenNoSubmit) (applied : current.apply evidence = .ok next) :
    next = .submitting ∨ next = .unknown ∨ isSubmitted current ∧
        (code = .deliveryCallbackOk ∧ next = .delivered ∨
          code = .deliveryTimeout ∧ next = .deliveryUnknown) := by
  cases evidence <;> cases isCode <;>
    first
      | exact absurd rfl notProof
      | exact absurd notCallback (by decide)
      | cases current <;> cases applied <;> simp [isSubmitted]

section Reports

variable {next : MessageState} (reports : record.Reports deployment event code next fence)

include reports

/-- What an attempt recorded before a report that is no conflict. -/
theorem Reports.unconflicted (notConflict : event.evidence ≠ .callbackConflict) :
    ∀ other ∈ record.events.filter (·.attemptId == event.attemptId),
      other.evidenceCode ≠ .callbackConflict := by
  have guarded := (radioState_eq_ok_iff.mp reports.transition).1
  have none := guarded.unconflicted notConflict
  intro other present isConflict
  have absent := any_eq_false.mp none other present
  exact absent (beq_iff_eq.mpr isConflict)

variable (evidenced : record.Evidenced)

include evidenced

/-- An event in the history of a record that is a callback names its segment. -/
theorem Reports.callbacks : ∀ other ∈ record.events ++ [eventRow deployment event code next],
      other.evidenceCode.isSentCallback →
        ∃ index count : Int, other.segmentIndex = some index ∧
          other.segmentCount = some count ∧ 0 ≤ index ∧ index < count := by
  refine forall_mem_concat evidenced.callbacks ?_
  intro isCallback
  refine segment_of_wellFormed reports.wellFormed ?_
  rw [← isSentCallback_of_code reports.isCode]
  exact isCallback

theorem Reports.segments :
    Unique sentSegmentIndex (record.events ++ [eventRow deployment event code next]) :=
  evidenced.segments.append (reports.free _ (mem_cons_of_mem _ (mem_singleton_self _)))

theorem Reports.distinct : ((record.events.filter (·.attemptId == event.attemptId) ++
      [eventRow deployment event code next]).filter (·.evidenceCode.isSentCallback)).Pairwise
        fun first second => first.segmentIndex ≠ second.segmentIndex := by
  rw [← filter_append_of_eq (by rfl)]
  refine ((reports.segments evidenced).sublist
    (filter_sublist.trans filter_sublist)).imp_of_mem ?_
  intro first second isFirst isSecond free same
  obtain ⟨firstOwn, firstSent⟩ := mem_filter.mp isFirst
  obtain ⟨secondOwn, secondSent⟩ := mem_filter.mp isSecond
  obtain ⟨stored, firstHolder⟩ := mem_filter.mp firstOwn
  obtain ⟨_, secondHolder⟩ := mem_filter.mp secondOwn
  obtain ⟨index, _, isIndex, _⟩ := reports.callbacks evidenced first stored firstSent
  refine Index.on_free_iff.mp free (first.attemptId, index) ?_ ?_
  · rw [if_pos firstSent, isIndex]
    rfl
  · rw [if_pos secondSent, ← same, isIndex, beq_iff_eq.mp firstHolder, beq_iff_eq.mp secondHolder]
    rfl

omit reports in
theorem Evidenced.sameCount {count : Int} (counted : Counted event
      (record.evidence event.attemptId event.segmentCount) count) :
    ∀ other ∈ record.events.filter (·.attemptId == event.attemptId),
      other.evidenceCode.isSentCallback →
        ∃ segment : Int, other.segmentIndex = some segment ∧
          other.segmentCount = some count ∧ 0 ≤ segment ∧ segment < count := by
  intro other present isCallback
  obtain ⟨index, own, isIndex, isOwn, low, high⟩ :=
    evidenced.callbacks other (mem_of_mem_filter present) isCallback
  have sameCount := counted.sameCount
  unfold Record.evidence evidenceOf at sameCount
  have agrees := countP_eq_zero.mp sameCount other present
  rw [counted.declared, isOwn, isCallback] at agrees
  simp only [Option.any_some, bne_iff_ne, ne_eq, Bool.true_and, Decidable.not_not] at agrees
  subst agrees
  exact ⟨index, isIndex, isOwn, low, high⟩

theorem Reports.sentInFull (isOk : event.evidence = .sentCallbackOk) {count : Int}
    (counted : Counted event (record.evidence event.attemptId event.segmentCount) count)
    (whole : ((record.evidence event.attemptId event.segmentCount).sentOk : Int) + 1 = count) :
    ∃ count, SentInFull (record.events.filter (·.attemptId == event.attemptId) ++
        [eventRow deployment event code next]) count := by
  have isCode := reports.isCode
  rw [isOk] at isCode
  cases isCode
  obtain ⟨index, declared, isIndex, isDeclared, inRange⟩ :=
    segment_of_wellFormed reports.wellFormed (by rw [isOk]; rfl)
  have sameDeclared : declared = count := Option.some.inj (isDeclared.symm.trans counted.declared)
  have callbacks := evidenced.sameCount counted
  subst sameDeclared
  rw [← whole] at callbacks inRange isDeclared
  refine ⟨_, SentInFull.complete rfl isIndex isDeclared inRange callbacks
    (reports.distinct evidenced) rfl ?_ (reports.unconflicted (by simp [isOk]))⟩
  have room := counted.room
  rw [← whole] at room
  exact Int.ofNat_lt.mp room

theorem Reports.backs (notProof : event.evidence ≠ .provenNoSubmit) :
    Backs (record.events.filter (·.attemptId == event.attemptId) ++
      [eventRow deployment event code next]) next := by
  have moves := (radioState_eq_ok_iff.mp reports.transition).2
  have isCode := reports.isCode
  have before := evidenced.backed fence reports.fenced
  rw [reports.holder] at before
  generalize isPrior : record.evidence event.attemptId event.segmentCount = prior at moves
  cases moves with
  | failed isFailed counted waits =>
    rw [isFailed] at isCode
    cases isCode
    have noneSent : (record.events.filter (·.attemptId == event.attemptId)).countP
          (·.evidenceCode.isSentCallback) = 0 := by
      have room := counted.room
      rw [← isPrior] at room
      change ((countP _ _ : Nat) : Int) < 1 at room
      omega
    refine ⟨nofun, fun _ => ⟨eventRow deployment event
      .sentCallbackFailed .failed, ?_, rfl, counted.declared, ?_⟩,
      nofun⟩
    · rw [filter_append, filter_eq_nil_iff.mpr (countP_eq_zero.mp noneSent)]
      rfl
    · exact forall_mem_concat (reports.unconflicted (by simp [isFailed])) (nofun)
  | lost => exact .of_quiet rfl (nofun)
  | complete isOk counted whole waits =>
    subst isPrior
    exact ⟨fun _ => reports.sentInFull evidenced isOk counted whole, nofun, nofun⟩
  | waiting _ _ _ waits =>
    rcases awaitsCallbacks_iff.mp waits with isState | isState <;>
      · rw [isState]
        exact .of_quiet rfl (nofun)
  | applied notCallback applied =>
    rcases apply_cases isCode notCallback notProof applied with
      rfl | rfl | ⟨submitted, ⟨rfl, rfl⟩ | ⟨rfl, rfl⟩⟩
    · exact .of_quiet rfl (nofun)
    · exact .of_quiet rfl (nofun)
    · obtain ⟨count, full⟩ := before.submitted submitted
      refine ⟨fun _ => ⟨count, full.append rfl (nofun)⟩, nofun, fun _ => ?_⟩
      exact ⟨_, mem_append_right _ (mem_singleton_self _), rfl⟩
    · obtain ⟨count, full⟩ := before.submitted submitted
      exact ⟨fun _ => ⟨count, full.append rfl (by rintro ⟨⟩)⟩, by rintro ⟨⟩, by rintro ⟨⟩⟩

theorem Evidenced.follow (notProof : event.evidence ≠ .provenNoSubmit) (time : Time)
    (attempts : List MessageAttempt) (status : AttemptStatus) : Evidenced
      { record with
        message := record.message.moveTo next time
        events := record.events ++ [eventRow deployment event code next], attempts
        fence := some (fence.record status) } := by
  refine ⟨reports.callbacks evidenced, reports.segments evidenced, ?_, ?_, ?_⟩
  · refine forall_mem_concat (fun other old contrary => ?_) fun _ => ⟨_, rfl, reports.holder⟩
    exact ⟨_, rfl, evidenced.holder reports.fenced old contrary⟩
  · intro other present isConflict
    by_cases isReport : event.evidence = .callbackConflict
    · have moves := (radioState_eq_ok_iff.mp reports.transition).2
      cases moves with
      | failed isEvidence | lost isEvidence | complete isEvidence
      | waiting isEvidence => simp [isReport] at isEvidence
      | applied _ applied =>
        rw [isReport] at applied
        generalize record.message.state = current at applied
        cases current <;> cases applied <;> rfl
    · refine absurd isConflict ?_
      rcases mem_append.mp present with old | isNew
      · intro isConflict
        refine reports.unconflicted isReport other ?_ isConflict
        refine mem_filter.mpr ⟨old, beq_iff_eq.mpr ?_⟩
        rw [← evidenced.holder reports.fenced old (by rw [isConflict]; rfl),
          reports.holder]
      · rw [mem_singleton.mp isNew]
        intro isConflict
        have isCode := reports.isCode
        rw [show code = .callbackConflict from isConflict] at isCode
        cases isEvidence : event.evidence <;> simp_all [evidenceCode]
  · rintro _ ⟨⟩
    change Backs ((record.events ++ [eventRow deployment event code next]).filter
      (·.attemptId == fence.attemptId)) next
    rw [reports.holder, filter_append_of_eq (by rfl)]
    exact reports.backs evidenced notProof

/-- A no-submit proof is about an attempt of which the radio said nothing. -/
theorem Evidenced.release (isProof : event.evidence = .provenNoSubmit) (message : Message)
    (attempts : List MessageAttempt) (job : DispatchJob) : Evidenced
      { record with
        message, events := record.events ++ [eventRow deployment event code next]
        attempts, fence := none
        job } := by
  have unopposed := (radioState_provenNoSubmit isProof reports.transition).2
  have quiet : ∀ other ∈ record.events ++ [eventRow deployment event code next],
      other.evidenceCode.isContrary = false := by
    refine forall_mem_concat (fun other old => Bool.eq_false_iff.mpr fun contrary => ?_) ?_
    · refine any_eq_false.mp unopposed other ?_ contrary
      refine mem_filter.mpr ⟨old, beq_iff_eq.mpr ?_⟩
      rw [← evidenced.holder reports.fenced old contrary, reports.holder]
    · have isCode := reports.isCode
      rw [isProof] at isCode
      cases isCode
      rfl
  refine ⟨reports.callbacks evidenced, reports.segments evidenced, ?_, ?_, nofun⟩
  · intro other present contrary
    rw [quiet other present] at contrary
    cases contrary
  · exact fun other present isConflict =>
      absurd isConflict (ne_conflict_of_quiet (quiet other present))

end Reports

theorem isSilent_state (silent : isSilent clock row) :
    row.message.state = .claimed ∨ row.message.state = .submitting := by
  simp only [isSilent, Bool.and_eq_true, Bool.or_eq_true, beq_iff_eq] at silent
  exact silent.2.imp (fun claimed => claimed.1.1) fun waiting => waiting.1.1

theorem Step.evidenced {next : Record} (coherent : record.Coherent) (before : record.Evidenced)
    (step : record.Step deployment next) : next.Evidenced := by
  cases step with
  | reserve => exact ⟨before.1, before.2, before.3, before.4, before.5⟩
  | claim ungranted | close _ ungranted =>
    exact before.move (coherent.fence_eq_none ungranted) _ _ _
  | grant ungranted claimed =>
    have noFence := coherent.fence_eq_none ungranted
    refine ⟨before.callbacks, before.segments, ?_, before.conflicted, ?_⟩
    · intro event present contrary
      rw [before.quiet noFence present] at contrary
      cases contrary
    · rintro _ ⟨⟩
      rw [claimed]
      exact .of_quiet rfl (nofun)
  | release reports isProof => exact before.release reports isProof _ _ _
  | follow reports notProof => exact before.follow reports notProof _ _ _
  | @silence clock fence attempt id isFence present isHolder silent =>
    have notUnknown : record.message.state ≠ .unknown := by
      intro isUnknown
      rcases isSilent_state silent with isState | isState <;> cases isUnknown.symm.trans isState
    refine before.sweep isFence notUnknown ?_ isHolder _ _ _ (.of_quiet rfl (nofun))
    unfold silenceCode
    split_ifs <;> rfl
  | @timeOut clock fence attempt id isFence present isHolder lacks =>
    simp only [lacksReceipt, Bool.and_eq_true, beq_iff_eq] at lacks
    have submitted : record.message.state = .submitted := lacks.1.1.1.1
    have sameFence : record.fence = some (fence.record fence.outcome) := isFence
    have backed := before.backed fence isFence
    obtain ⟨count, full⟩ := backed.submitted (by rw [submitted]; rfl)
    rw [sameFence]
    refine before.sweep isFence (by simp [submitted]) rfl isHolder _ _ _ ?_
    exact ⟨fun _ => ⟨count, full.append rfl (by rintro ⟨⟩)⟩, by rintro ⟨⟩, by rintro ⟨⟩⟩

end Record

theorem World.run_evidenced (directory : Directory) (id : Uuid)
    (holds : ((World.start directory).run deployment steps).tables.Holds id record) :
    record.Evidenced := by
  refine run_records (fun clock row _ => ⟨?_, .nil, ?_, ?_, nofun⟩) Record.Step.evidenced holds <;>
    rintro _ ⟨⟩

/-- After every run, a message that is submitted, delivered, of unknown
delivery or failed has a fence, and what the fenced attempt has recorded backs
the state. -/
theorem state_backed_by_segment_evidence (deployment : Deployment) (directory : Directory)
    (steps : List Step) (message : Message) (stored : message ∈
      ((World.start directory).run deployment steps).tables.messages)
    (spoken : isSubmitted message.state = true ∨ message.state = .failed) :
    ∃ fence, ((World.start directory).run deployment steps).tables.fences.filter
        (·.messageId == message.id) = [fence] ∧
      Backs (((World.start directory).run deployment steps).tables.events.filter
        (·.attemptId == fence.attemptId)) message.state := by
  have coherent := World.run_coherent deployment directory steps
  obtain ⟨record, holds, sound, rfl⟩ := coherent.record_of_message stored
  have evidenced := World.run_evidenced directory _ holds
  cases isFence : record.fence with
  | none =>
    have unfenced := sound.unfenced isFence
    generalize record.message.state = state at unfenced spoken
    rcases spoken with submitted | rfl
    · cases state <;> cases submitted <;> cases unfenced
    · cases unfenced
  | some fence =>
    refine ⟨fence, ?_, ?_⟩
    · rw [holds.fences, isFence]
      rfl
    · rw [coherent.fence_events holds sound isFence]
      exact evidenced.backed fence isFence

/-- The only segment of the sent message has its callback. -/
theorem state_backed_by_segment_evidence_drill :
    let tables := Drill.tablesAfter Drill.sending
    ∃ message ∈ tables.messages, isSubmitted message.state = true ∧
      ∃ fence, tables.fences.filter (·.messageId == message.id) = [fence] ∧
        Backs (tables.events.filter (·.attemptId == fence.attemptId)) message.state := by
  have stored : ∃ message ∈ (Drill.tablesAfter Drill.sending).messages,
      isSubmitted message.state = true := by
    decide +kernel
  obtain ⟨message, present, submitted⟩ := stored
  exact ⟨message, present, submitted,
    state_backed_by_segment_evidence Drill.deployment Drill.directory
      Drill.sending message present (.inl submitted)⟩

namespace Record

/-- Once the radio has spoken, a record keeps its attempts and its fence. -/
structure Settled (attempts : List Uuid) (attemptId : Uuid) (record : Record) : Prop where
  evidenced : record.Evidenced
  spoken : ∃ event ∈ record.events, event.evidenceCode.isContrary = true
  attempts : record.attempts.map (·.id) = attempts
  fenced : ∃ fence, record.fence = some fence ∧ fence.attemptId = attemptId

theorem map_id_become (attempts : List MessageAttempt) (id : Uuid) (status : AttemptStatus)
    (time : Time) : (Table.update (·.id == id) (MessageAttempt.become status time)
      attempts).map (·.id) = attempts.map (·.id) :=
  map_update MessageAttempt.id (by intro row; rfl) attempts

theorem Settled.step {next : Record} {attempts : List Uuid} {record : Record}
    (coherent : record.Coherent)
    (settled : record.Settled attempts attemptId) (step : record.Step deployment next) :
    next.Settled attempts attemptId := by
  obtain ⟨event, present, contrary⟩ := settled.spoken
  obtain ⟨own, isOwn, isHolder⟩ := settled.fenced
  have evidenced := step.evidenced coherent settled.evidenced
  have granted : record.job.grantIssuedAt ≠ none := by
    intro ungranted
    rw [coherent.fence_eq_none ungranted] at isOwn
    cases isOwn
  cases step with
  | reserve =>
    exact ⟨evidenced, settled.spoken, settled.attempts, settled.fenced⟩
  | claim ungranted | close _ ungranted | grant ungranted => exact absurd ungranted granted
  | release =>
    obtain ⟨fence, isFence, _⟩ := evidenced.held event (mem_append_left _ present) contrary
    cases isFence
  | follow reports =>
    refine ⟨evidenced, ⟨event, mem_append_left _ present, contrary⟩,
      (map_id_become ..).trans settled.attempts, _, rfl, ?_⟩
    rw [← isHolder, Option.some.inj (isOwn.symm.trans reports.fenced)]
    rfl
  | silence isFence =>
    refine ⟨evidenced, ⟨event, mem_append_left _ present, contrary⟩,
      (map_id_become ..).trans settled.attempts, _, rfl, ?_⟩
    rw [← isHolder, Option.some.inj (isOwn.symm.trans isFence)]
    rfl
  | timeOut =>
    exact ⟨evidenced, ⟨event, mem_append_left _ present, contrary⟩,
      settled.attempts, settled.fenced⟩

end Record

theorem issueGrant_leads_ungranted {tables : Tables} (claim : Claim) (session : SessionRecord)
    (attemptId : Uuid) :
    Transaction.Leads (issueGrant deployment directory clock claim session attemptId)
      (fun _ _ => ∃ job ∈ tables.jobs, job.messageId = claim.messageId ∧ job.grantIssuedAt = none)
      (fun _ _ => True) tables := by
  unfold issueGrant grantInTransaction
  simp only [Transaction.leads_bind, leads_enterHostedTransaction,
    Transaction.leads_get, Transaction.leads_compute, implies_true, and_true]
  rintro _ _ _ ⟨message, recipient⟩ allowed
  obtain ⟨job, listed, _, isId, _, ungranted, _⟩ := grantable_eq_ok allowed
  exact .of_fact ⟨job, listed, isId, ungranted⟩ _

/-- Once an event of the radio is recorded for a message, no later step adds an
attempt or a fence to the message, and every request for a grant fails. -/
theorem no_grant_after_radio_evidence (deployment : Deployment) (directory : Directory)
    (earlier later : List Step) (event : MessageEvent) (recorded : event ∈
      ((World.start directory).run deployment earlier).tables.events)
    (contrary : event.evidenceCode.isContrary = true) :
    let before := ((World.start directory).run deployment earlier).tables
    let after := ((World.start directory).run deployment (earlier ++ later)).tables
    ((after.attempts.filter (·.messageId == event.messageId)).map (·.id) =
      (before.attempts.filter (·.messageId == event.messageId)).map (·.id)) ∧
    ((after.fences.filter (·.messageId == event.messageId)).map (·.attemptId) =
      (before.fences.filter (·.messageId == event.messageId)).map (·.attemptId)) ∧
    ∀ (now : Directory) (clock : Clock) (claim : Claim)
      (session : SessionRecord) (attemptId : Uuid) (grant : GrantRecord),
      claim.messageId = event.messageId →
      ((issueGrant deployment now clock claim session attemptId).commitWhen
        grantCommits after).1 ≠ .ok grant := by
  intro before after
  have coherent : before.Coherent := World.run_coherent deployment directory earlier
  obtain ⟨record, holds, sound, isEvent⟩ := coherent.record_of_event recorded
  have evidenced := World.run_evidenced directory _ holds
  obtain ⟨fence, isFence, _⟩ := evidenced.held event isEvent contrary
  have settled : record.Settled (record.attempts.map (·.id)) fence.attemptId :=
    ⟨evidenced, ⟨event, isEvent, contrary⟩, rfl, fence, isFence, rfl⟩
  obtain ⟨afterCoherent, next, nextHolds, nextSettled⟩ :=
    (Preserved.of_record Record.Settled.step event.messageId).run coherent
      ⟨record, holds, settled⟩ later
  rw [← World.run_append] at afterCoherent nextHolds
  obtain ⟨nextFence, isNextFence, isHolder⟩ := nextSettled.fenced
  refine ⟨?_, ?_, ?_⟩
  · rw [nextHolds.attempts, holds.attempts]
    exact nextSettled.attempts
  · rw [nextHolds.fences, holds.fences, isFence, isNextFence]
    exact congrArg (fun id => [id]) isHolder
  · intro now clock claim session attemptId grant isId issued
    obtain ⟨job, listed, isJobId, ungranted⟩ :=
      (issueGrant_leads_ungranted claim session attemptId).of_result issued
    have isJob := nextHolds.job_eq listed (isJobId.trans isId)
    have noFence := (afterCoherent.sound nextHolds).fence_eq_none (isJob ▸ ungranted)
    rw [noFence] at isNextFence
    cases isNextFence

/-- A sent message is not claimed again. -/
theorem no_grant_after_radio_evidence_drill :
    let later := Drill.sending ++ [.claimDue (Drill.clock 200) Drill.request fun _ => false]
    ∃ event ∈ (Drill.tablesAfter Drill.sending).events, event.evidenceCode.isContrary = true ∧
      ((Drill.tablesAfter later).attempts.filter (·.messageId == event.messageId)).map (·.id) =
        ((Drill.tablesAfter Drill.sending).attempts.filter
          (·.messageId == event.messageId)).map (·.id) := by
  have stored : ∃ event ∈ (Drill.tablesAfter Drill.sending).events,
      event.evidenceCode.isContrary = true := by
    decide +kernel
  obtain ⟨event, recorded, contrary⟩ := stored
  exact ⟨event, recorded, contrary, (no_grant_after_radio_evidence Drill.deployment Drill.directory
      Drill.sending _ event recorded contrary).1⟩

end Zrotext.Delivery
