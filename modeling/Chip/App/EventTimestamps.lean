import Chip.App.EventReports
import Mathlib.Data.List.Chain

/-! The timestamps of fetched events. The fetch sends a system timestamp as the difference to the
timestamp of the event that it copied before, of whichever type that one is, and an epoch
timestamp as it is; the client adds a difference only to a system timestamp. -/
namespace Chip.App.EventManagement

open List EventSizes Proc

/-- The field that the fetch sends for a timestamp after this one. -/
def stamp (previous : Option Timestamp) (timestamp : Timestamp) : EventField :=
  match previous, timestamp.mType with
  | some before, .system => .deltaSystemTimestamp (timestamp.mValue - before.mValue)
  | _, _ => timestamp.field

/-- The report of an event that is copied after one with this timestamp. -/
def report (previous : Option Timestamp) (event : LoggedEvent) : EventDataIB :=
  [.path event.mPath, .eventNumber event.mEventNumber, .priority event.mPriority,
    stamp previous event.mTimestamp, .data event.eventData]

/-- The reports of events that are copied one after the other. -/
def reports : Option Timestamp → List LoggedEvent → List EventDataIB
  | _, [] => []
  | previous, event :: rest => report previous event :: reports (some event.mTimestamp) rest

/-- The timestamp that events leave behind for the one after them. -/
def lastTimestamp (previous : Option Timestamp) (events : List LoggedEvent) : Option Timestamp :=
  events.foldl (fun _ event => some event.mTimestamp) previous

theorem reports_append (previous : Option Timestamp) (events others : List LoggedEvent) :
  reports previous (events ++ others) =
    reports previous events ++ reports (lastTimestamp previous events) others := by
  induction events generalizing previous with
  | nil => rfl
  | cons event rest ih => simp only [cons_append, reports, ih, lastTimestamp, foldl_cons]

theorem lastTimestamp_concat (previous : Option Timestamp) (events : List LoggedEvent)
  (event : LoggedEvent) :
  lastTimestamp previous (events ++ [event]) = some event.mTimestamp := by
  simp [lastTimestamp]

def LoggedEvent.envelope (event : LoggedEvent) : EventEnvelopeContext where
  hasPath := true
  hasPriority := true
  mCurrentTime := event.mTimestamp
  mPriority := event.mPriority
  mPath := event.mPath
  mEventNumber := event.mEventNumber
  mFabricIndex :=
    if event.mFabricIndex = kUndefinedFabricIndex then none else some event.mFabricIndex

theorem LoggedEvent.foldl_constructEvent (event : LoggedEvent) :
  event.constructEvent.foldl EventEnvelopeContext.fetchEventParameters {} = event.envelope := by
  obtain ⟨path, ⟨type, value⟩, priority, fabricIndex, number, data⟩ := event
  cases type <;> by_cases hFabric : fabricIndex = kUndefinedFabricIndex <;>
    simp [constructEvent, envelope, Timestamp.field, hFabric,
      EventEnvelopeContext.fetchEventParameters]

/-- A context that has copied an event with this timestamp last. It never notes the type. -/
structure Follows (previous : Option Timestamp) (ctx : EventLoadOutContext) : Prop where
  type : ctx.mPreviousTime.mType = .system
  first : ctx.mFirst = previous.isNone
  value : ∀ timestamp ∈ previous, ctx.mPreviousTime.mValue = timestamp.mValue

variable {sizes : EventSizes} {request : EventRequest}

def copied (ctx : EventLoadOutContext) : EventField → List EventField
  | .fabricIndex _ => []
  | .systemTimestamp value =>
    if !ctx.mFirst && ctx.mCurrentTime.mType = ctx.mPreviousTime.mType then
      [.deltaSystemTimestamp (ctx.mCurrentTime.mValue - ctx.mPreviousTime.mValue)]
    else [.systemTimestamp value]
  | .epochTimestamp value =>
    if !ctx.mFirst && ctx.mCurrentTime.mType = ctx.mPreviousTime.mType then
      [.deltaEpochTimestamp (ctx.mCurrentTime.mValue - ctx.mPreviousTime.mValue)]
    else [.epochTimestamp value]
  | field => [field]

def EventSizes.total (sizes : EventSizes) (fields : EventDataIB) : Nat :=
  (fields.map sizes.field).sum

theorem EventSizes.total_append (fields others : EventDataIB) :
  sizes.total (fields ++ others) = sizes.total fields + sizes.total others := by
  simp [total]

/-- A call that adds these fields to the report if there is room for them, and that changes
nothing but the writer. -/
def Writes (fields : EventDataIB) (bytes : Nat) (ctx : EventLoadOutContext) (call : FetchM Unit) :
  Prop :=
  if bytes ≤ ctx.mWriter.room then
    call ctx = (.ok (), { ctx with mWriter := { ctx.mWriter with
      fields := ctx.mWriter.fields ++ fields, room := ctx.mWriter.room - bytes } })
  else ∃ writer, call ctx = (.error .noMemory, { ctx with mWriter := writer })

variable {ctx : EventLoadOutContext} {previous : Option Timestamp} {event : LoggedEvent}

theorem Writes.congr {fields : EventDataIB} {bytes : Nat} {call call' : FetchM Unit}
  (h : Writes fields bytes ctx call) (hCall : call' ctx = call ctx) :
  Writes fields bytes ctx call' := by
  unfold Writes at h ⊢
  rwa [hCall]

theorem putField_writes (field : EventField) (ctx : EventLoadOutContext) :
  Writes [field] (sizes.total [field]) ctx (putField sizes field) := by
  have hTotal : sizes.total [field] = sizes.field field := by simp [total]
  unfold Writes putField useRoom
  rw [hTotal]
  by_cases hRoom : sizes.field field ≤ ctx.mWriter.room
  · simp [hRoom]
  · simp only [hRoom, if_false]
    exact ⟨ctx.mWriter, by simp [hRoom]⟩

theorem copyAndAdjustDeltaTime_writes (sizes : EventSizes) (field : EventField) (ctx : EventLoadOutContext) :
  Writes (copied ctx field) (sizes.total (copied ctx field)) ctx
    (copyAndAdjustDeltaTime sizes field) := by
  cases field with
  | fabricIndex value => simp [Writes, copied, copyAndAdjustDeltaTime, total]
  | systemTimestamp value | epochTimestamp value =>
    simp only [copied]
    split <;> rename_i hDelta
    · refine (putField_writes _ ctx).congr ?_
      simp only [copyAndAdjustDeltaTime, read_bind, if_pos hDelta]
    · refine (putField_writes _ ctx).congr ?_
      simp only [copyAndAdjustDeltaTime, read_bind, if_neg hDelta]
  | _ => exact putField_writes _ ctx

theorem copied_congr {ctx ctx' : EventLoadOutContext} (hFirst : ctx'.mFirst = ctx.mFirst)
  (hCurrent : ctx'.mCurrentTime = ctx.mCurrentTime)
  (hPrevious : ctx'.mPreviousTime = ctx.mPreviousTime) : copied ctx' = copied ctx := by
  funext field
  cases field <;> simp only [copied, hFirst, hCurrent, hPrevious]

theorem copyFields_writes (sizes : EventSizes) (fields : EventDataIB) (ctx : EventLoadOutContext) :
  Writes (fields.flatMap (copied ctx)) (sizes.total (fields.flatMap (copied ctx))) ctx
    (copyFields sizes fields) := by
  induction fields generalizing ctx with
  | nil => simp [Writes, copyFields, total]
  | cons field rest ih =>
    have hField := copyAndAdjustDeltaTime_writes sizes field ctx
    rw [flatMap_cons, total_append]
    unfold Writes at hField ⊢
    by_cases hRoom : sizes.total (copied ctx field) ≤ ctx.mWriter.room
    · rw [if_pos hRoom] at hField
      rw [copyFields, bind_ok hField]
      generalize hNext : ({ ctx with mWriter := { ctx.mWriter with
        fields := ctx.mWriter.fields ++ copied ctx field
        room := ctx.mWriter.room - sizes.total (copied ctx field) } } :
        EventLoadOutContext) = next
      have hCopied : copied next = copied ctx := by
        subst hNext
        exact copied_congr rfl rfl rfl
      have hRest := ih next
      rw [hCopied] at hRest
      unfold Writes at hRest
      subst hNext
      by_cases hAll : sizes.total (copied ctx field) +
          sizes.total (rest.flatMap (copied ctx)) ≤ ctx.mWriter.room
      · rw [if_pos hAll]
        rw [if_pos (by simp only; omega)] at hRest
        rw [hRest]
        simp only [append_assoc, Nat.sub_sub]
      · rw [if_neg hAll]
        rw [if_neg (by simp only; omega)] at hRest
        exact hRest
    · rw [if_neg hRoom] at hField
      obtain ⟨writer, hFail⟩ := hField
      rw [if_neg (by omega)]
      exact ⟨writer, by rw [copyFields, bind_error hFail]⟩

def EventSizes.report (sizes : EventSizes) (fields : EventDataIB) : Nat :=
  sizes.framing + sizes.total fields

theorem flatMap_copied (hFollows : Follows previous ctx) (hCurrent : ctx.mCurrentTime = event.mTimestamp) :
  event.constructEvent.flatMap (copied ctx) = report previous event := by
  have hStamp : copied ctx event.mTimestamp.field = [stamp previous event.mTimestamp] := by
    obtain ⟨path, ⟨type, value⟩, priority, fabricIndex, number, data⟩ := event
    cases previous with
    | none => cases type <;> simp [copied, stamp, Timestamp.field, hFollows.first]
    | some before =>
      have hValue := hFollows.value before rfl
      cases type <;>
        simp [copied, stamp, Timestamp.field, hFollows.first, hFollows.type, hCurrent, hValue]
  unfold LoggedEvent.constructEvent report
  split <;> simp only [cons_append, nil_append, flatMap_cons, flatMap_nil,
    hStamp] <;> rfl

theorem copyEvent_eq (sizes : EventSizes) (hFollows : Follows previous ctx)
  (hCurrent : ctx.mCurrentTime = event.mTimestamp) :
  if sizes.report (report previous event) ≤ ctx.mWriter.room then
    copyEvent sizes event.constructEvent ctx = (.ok (), { ctx with mWriter :=
      { reports := ctx.mWriter.reports ++ [report previous event]
        fields := report previous event
        room := ctx.mWriter.room - sizes.report (report previous event) } })
  else ∃ writer, copyEvent sizes event.constructEvent ctx =
    (.error .noMemory, { ctx with mWriter := writer }) := by
  unfold EventSizes.report copyEvent
  by_cases hFraming : sizes.framing ≤ ctx.mWriter.room
  · have hOpened : useRoom sizes.framing (fun writer => { writer with fields := [] }) ctx =
        (.ok (), { ctx with mWriter :=
          { ctx.mWriter with fields := [], room := ctx.mWriter.room - sizes.framing } }) := by
      simp [useRoom, hFraming]
    rw [Proc.bind_ok hOpened]
    generalize hNext : ({ ctx with mWriter :=
      { ctx.mWriter with fields := [], room := ctx.mWriter.room - sizes.framing } } :
      EventLoadOutContext) = next
    have hCopied : event.constructEvent.flatMap (copied next) = report previous event := by
      subst hNext
      exact flatMap_copied ⟨hFollows.type, hFollows.first, hFollows.value⟩ hCurrent
    have hFields := copyFields_writes sizes event.constructEvent next
    rw [hCopied] at hFields
    unfold Writes at hFields
    subst hNext
    by_cases hAll : sizes.framing + sizes.total (report previous event) ≤ ctx.mWriter.room
    · rw [if_pos (by simp only; omega)] at hFields
      rw [if_pos hAll, Proc.bind_ok hFields]
      simp only [Proc.modify_apply, List.nil_append, Nat.sub_sub]
    · rw [if_neg (by simp only; omega)] at hFields
      obtain ⟨writer, hFail⟩ := hFields
      rw [if_neg hAll]
      exact ⟨writer, by rw [Proc.bind_error hFail]⟩
  · rw [if_neg (by omega)]
    refine ⟨ctx.mWriter, ?_⟩
    have hRefused : useRoom sizes.framing (fun writer => { writer with fields := [] }) ctx =
        (.error .noMemory, ctx) := by
      simp [useRoom, hFraming]
    rw [Proc.bind_error hRefused]

/-- What `EventIterator` reports of an event, for a fetch from this event number:
`CHIP_EVENT_ID_FOUND` of one that is to be copied. -/
def interest (request : EventRequest) (start : UInt64) (event : LoggedEvent) :
  Except ChipError Unit :=
  match checkEventContext request
    { mWriter := { room := 0 }, mStartingEventNumber := start
      mCurrentEventNumber := event.mEventNumber } event.envelope with
  | .ok () => .error .eventIdFound
  | .error .unexpectedEvent => .ok ()
  | .error e => .error e

/-- The events that a fetch from this event number is to copy: those that pass the check, up to
one for which access control fails. -/
def wanted (request : EventRequest) (start : UInt64) : List LoggedEvent → List LoggedEvent
  | [] => []
  | event :: rest =>
    match interest request start event with
    | .error .eventIdFound => event :: wanted request start rest
    | .ok () => wanted request start rest
    | .error _ => []

def EventLoadOutContext.at (ctx : EventLoadOutContext) (event : LoggedEvent) :
  EventLoadOutContext :=
  { ctx with mCurrentTime := event.mTimestamp, mCurrentEventNumber := event.mEventNumber }

theorem eventIterator_eq (event : LoggedEvent) (ctx : EventLoadOutContext) :
  eventIterator request event.constructEvent ctx =
    (interest request ctx.mStartingEventNumber event, ctx.at event) := by
  unfold eventIterator
  rw [event.foldl_constructEvent]
  change (match checkEventContext request (ctx.at event) event.envelope with
    | .ok () => fail ChipError.eventIdFound
    | .error .unexpectedEvent => pure ()
    | .error e => fail e : FetchM Unit) (ctx.at event) =
    (match checkEventContext request (ctx.at event) event.envelope with
      | .ok () => .error .eventIdFound
      | .error .unexpectedEvent => .ok ()
      | .error e => .error e, ctx.at event)
  cases checkEventContext request (ctx.at event) event.envelope with
  | ok => rfl
  | error e => cases e <;> rfl

/-- The context after a copy of an event that follows one with this timestamp. -/
def EventLoadOutContext.afterCopy (ctx : EventLoadOutContext) (sizes : EventSizes)
  (previous : Option Timestamp) (event : LoggedEvent) : EventLoadOutContext :=
  { ctx.at event with
    mWriter :=
      { reports := ctx.mWriter.reports ++ [report previous event]
        fields := report previous event
        room := ctx.mWriter.room - sizes.report (report previous event) }
    mPreviousTime := { ctx.mPreviousTime with mValue := event.mTimestamp.mValue }
    mFirst := false
    mEventCount := ctx.mEventCount + 1 }

theorem copyEventsSince_eq (sizes : EventSizes) (request : EventRequest) (event : LoggedEvent)
  (hFollows : Follows previous ctx) :
  copyEventsSince sizes request event.constructEvent ctx =
    match interest request ctx.mStartingEventNumber event with
    | .error .eventIdFound =>
      if sizes.report (report previous event) ≤ ctx.mWriter.room then
        (.ok (), ctx.afterCopy sizes previous event)
      else (.error .noMemory, ctx.at event)
    | result => (result, ctx.at event) := by
  unfold copyEventsSince
  rw [attempt_bind, eventIterator_eq]
  cases hInterest : interest request ctx.mStartingEventNumber event with
  | ok => rfl
  | error e =>
    by_cases hFound : e = .eventIdFound
    · subst hFound
      have hFollowsAt : Follows previous (ctx.at event) :=
        ⟨hFollows.type, hFollows.first, hFollows.value⟩
      have hCopy := copyEvent_eq sizes hFollowsAt (rfl : _ = event.mTimestamp)
      change if sizes.report (report previous event) ≤ ctx.mWriter.room then _ else _ at hCopy
      simp only [read_bind, attempt_bind]
      by_cases hRoom : sizes.report (report previous event) ≤ ctx.mWriter.room
      · rw [if_pos hRoom]
        rw [if_pos hRoom] at hCopy
        rw [hCopy]
        rfl
      · rw [if_neg hRoom]
        rw [if_neg hRoom] at hCopy
        obtain ⟨writer, hFail⟩ := hCopy
        rw [hFail]
        rfl
    · cases e <;> first | rfl | exact absurd rfl hFound

def EventSizes.all (sizes : EventSizes) (fields : List EventDataIB) : Nat :=
  (fields.map sizes.report).sum

/-- A context of a fetch with this writer from this event number that has copied these events. -/
structure HasCopied (sizes : EventSizes) (writer : EventWriter) (start : UInt64)
    (events : List LoggedEvent) (ctx : EventLoadOutContext) : Prop where
  follows : Follows (lastTimestamp none events) ctx
  reports : ctx.mWriter.reports = writer.reports ++ reports none events
  room : ctx.mWriter.room + sizes.all (EventManagement.reports none events) = writer.room
  count : ctx.mEventCount = events.length
  start : ctx.mStartingEventNumber = start

variable {writer : EventWriter} {start : UInt64} {events : List LoggedEvent}
  {ctx ctx' : EventLoadOutContext}

theorem HasCopied.at (h : HasCopied sizes writer start events ctx) (event : LoggedEvent) :
  HasCopied sizes writer start events (ctx.at event) :=
  ⟨⟨h.follows.type, h.follows.first, h.follows.value⟩, h.reports, h.room, h.count, h.start⟩

theorem HasCopied.afterCopy (h : HasCopied sizes writer start events ctx)
  (hRoom : sizes.report (report (lastTimestamp none events) event) ≤ ctx.mWriter.room) :
  HasCopied sizes writer start (events ++ [event])
    (ctx.afterCopy sizes (lastTimestamp none events) event) where
  follows := by
    rw [lastTimestamp_concat]
    exact ⟨h.follows.type, rfl, fun timestamp hTimestamp => by cases hTimestamp; rfl⟩
  reports := by
    rw [reports_append]
    simp [EventLoadOutContext.afterCopy, h.reports, EventManagement.reports]
  room := by
    have hBefore := h.room
    rw [reports_append]
    simp only [EventLoadOutContext.afterCopy, EventSizes.all, List.map_append, List.sum_append,
      EventManagement.reports, List.map_cons, List.map_nil, List.sum_cons, List.sum_nil] at hBefore ⊢
    omega
  count := by simp [EventLoadOutContext.afterCopy, h.count]
  start := h.start

theorem copyStored_copies (request : EventRequest) (stored : List LoggedEvent)
  (h : HasCopied sizes writer start events ctx) :
  ∃ more, more <+: wanted request start stored ∧
    HasCopied sizes writer start (events ++ more)
      (copyStored sizes request (stored.map LoggedEvent.constructEvent) ctx).2 ∧
    (sizes.all (reports (lastTimestamp none events) (wanted request start stored)) ≤
      ctx.mWriter.room → more = wanted request start stored) := by
  induction stored generalizing events ctx with
  | nil => exact ⟨[], List.nil_prefix, by simpa [copyStored] using h, fun _ => rfl⟩
  | cons event rest ih =>
    have hEvent := copyEventsSince_eq sizes request event h.follows
    rw [h.start] at hEvent
    rw [List.map_cons, copyStored, wanted]
    cases hInterest : interest request start event with
    | ok =>
      rw [hInterest] at hEvent
      rw [Proc.bind_ok hEvent]
      exact ih (h.at event)
    | error e =>
      rw [hInterest] at hEvent
      by_cases hFound : e = .eventIdFound
      · subst hFound
        simp only at hEvent
        by_cases hRoom :
            sizes.report (report (lastTimestamp none events) event) ≤ ctx.mWriter.room
        · rw [if_pos hRoom] at hEvent
          rw [Proc.bind_ok hEvent]
          obtain ⟨more, hPrefix, hCopied, hAll⟩ := ih (h.afterCopy hRoom)
          refine ⟨event :: more, List.cons_prefix_cons.2 ⟨rfl, hPrefix⟩, by simpa using hCopied, ?_⟩
          intro hFits
          rw [lastTimestamp_concat] at hAll
          rw [hAll]
          simp only [reports, EventSizes.all, List.map_cons, List.sum_cons] at hFits
          simp only [EventLoadOutContext.afterCopy, EventSizes.all]
          omega
        · rw [if_neg hRoom] at hEvent
          rw [Proc.bind_error hEvent]
          refine ⟨[], List.nil_prefix, by simpa using h.at event, ?_⟩
          intro hFits
          simp only [reports, EventSizes.all, List.map_cons, List.sum_cons] at hFits
          omega
      · have hStop : copyEventsSince sizes request event.constructEvent ctx =
            (.error e, ctx.at event) := by
          cases e <;> first | exact hEvent | exact absurd rfl hFound
        rw [Proc.bind_error hStop]
        refine ⟨[], List.nil_prefix, by simpa using h.at event, ?_⟩
        cases e <;> first | exact fun _ => rfl | exact absurd rfl hFound

theorem fetchEventsSince_reports (sizes : EventSizes) (request : EventRequest)
    (stored : List LoggedEvent) (start : UInt64) (room : Nat) :
    let fetch :=
      fetchEventsSince sizes request (stored.map LoggedEvent.constructEvent) { room := room } start
    fetch.aWriter.reports =
        reports none ((wanted request start stored).take fetch.aEventCount) ∧
      (sizes.all (reports none (wanted request start stored)) ≤ room →
        (wanted request start stored).take fetch.aEventCount = wanted request start stored) := by
  intro fetch
  have hStart : HasCopied sizes { room := room } start []
      { mWriter := { room := room }, mStartingEventNumber := start } :=
    ⟨⟨rfl, rfl, fun _ hNone => by cases hNone⟩, rfl, by simp [reports, EventSizes.all], rfl, rfl⟩
  obtain ⟨more, hPrefix, hCopied, hAll⟩ := copyStored_copies request stored hStart
  generalize hRun : copyStored sizes request (stored.map LoggedEvent.constructEvent)
    { mWriter := { room := room }, mStartingEventNumber := start } = run at hCopied
  have hFetch : fetch.aWriter = run.2.mWriter ∧ fetch.aEventCount = run.2.mEventCount := by
    simp only [fetch, fetchEventsSince, hRun]
    obtain ⟨result, ctx⟩ := run
    cases result with
    | ok => exact ⟨rfl, rfl⟩
    | error e => cases e <;> exact ⟨rfl, rfl⟩
  have hTake : (wanted request start stored).take fetch.aEventCount = more := by
    rw [hFetch.2, hCopied.count, List.nil_append]
    exact (List.prefix_iff_eq_take.1 hPrefix).symm
  refine ⟨?_, fun hFits => ?_⟩
  · rw [hTake, hFetch.1, hCopied.reports]
    rfl
  · rw [hTake, hAll hFits]

def LoggedEvent.header (event : LoggedEvent) : EventHeader :=
  ⟨event.mPath, event.mEventNumber, event.mPriority, event.mTimestamp⟩

/-- A system timestamp does not come directly after an epoch timestamp. -/
def KeepsType (before after : Timestamp) : Prop :=
  before.mType = .epoch → after.mType = .epoch

instance (before after : Timestamp) : Decidable (KeepsType before after) :=
  inferInstanceAs (Decidable (before.mType = .epoch → after.mType = .epoch))

theorem decodeEventHeader_first (event : LoggedEvent) (client : Timestamp) :
  (report none event).decodeEventHeader { mTimestamp := client } = .ok event.header := by
  obtain ⟨path, ⟨type, value⟩, priority, fabricIndex, number, data⟩ := event
  cases type <;> rfl

theorem decodeEventHeader_next (event : LoggedEvent) (before : Timestamp) :
  (report (some before) event).decodeEventHeader { mTimestamp := before } =
    if KeepsType before event.mTimestamp then .ok event.header
    else .error .imMalformedEventDataIB := by
  obtain ⟨path, ⟨type, value⟩, priority, fabricIndex, number, data⟩ := event
  obtain ⟨beforeType, beforeValue⟩ := before
  cases type with
  | epoch => cases beforeType <;> rfl
  | system =>
    cases beforeType with
    | epoch => rfl
    | system =>
      have hSum : beforeValue + (value - beforeValue) = value := by
        rw [UInt64.add_comm, UInt64.sub_add_cancel]
      change Except.ok (EventHeader.mk path number priority
        ⟨.system, beforeValue + (value - beforeValue)⟩) = _
      rw [hSum]
      rfl

def delivered (events : List LoggedEvent) : List (EventHeader × List UInt8) :=
  events.map fun event => (event.header, event.eventData)

theorem processEventReportIBs_cons {client : Timestamp} {rest : List EventDataIB}
  (hHeader : (report previous event).decodeEventHeader { mTimestamp := client } = .ok event.header)
  (others : List LoggedEvent) :
  processEventReportIBs client (report previous event :: rest) = .ok (delivered (event :: others)) ↔
    processEventReportIBs event.mTimestamp rest = .ok (delivered others) := by
  have hData : (report previous event).getData = .ok event.eventData := by
    unfold report stamp Timestamp.field
    split
    · rfl
    · split <;> rfl
  rw [processEventReportIBs, hHeader]
  simp only [bind, Except.bind, hData]
  cases hRest : processEventReportIBs event.header.mTimestamp rest with
  | error e =>
    have hOthers : processEventReportIBs event.mTimestamp rest = .error e := hRest
    simp [hOthers]
  | ok headers =>
    have hOthers : processEventReportIBs event.mTimestamp rest = .ok headers := hRest
    simp [hOthers, delivered]

theorem processEventReportIBs_next (before : Timestamp) (events : List LoggedEvent) :
  processEventReportIBs before (reports (some before) events) = .ok (delivered events) ↔
    (before :: events.map (·.mTimestamp)).IsChain KeepsType := by
  induction events generalizing before with
  | nil => simp [reports, processEventReportIBs, delivered]
  | cons event rest ih =>
    have hHeader := decodeEventHeader_next event before
    rw [map_cons, isChain_cons_cons, reports]
    by_cases hKeeps : KeepsType before event.mTimestamp
    · rw [if_pos hKeeps] at hHeader
      rw [processEventReportIBs_cons hHeader, ih]
      exact ⟨fun hRest => ⟨hKeeps, hRest⟩, fun h => h.2⟩
    · rw [if_neg hKeeps] at hHeader
      rw [processEventReportIBs, hHeader]
      exact iff_of_false (fun h => by cases h) (fun h => hKeeps h.1)

theorem processEventReportIBs_iff (client : Timestamp) (events : List LoggedEvent) :
  processEventReportIBs client (reports none events) = .ok (delivered events) ↔
    (events.map (·.mTimestamp)).IsChain KeepsType := by
  cases events with
  | nil => simp [reports, processEventReportIBs, delivered]
  | cons event rest =>
    rw [reports, processEventReportIBs_cons (decodeEventHeader_first event client),
      processEventReportIBs_next, map_cons]

def fetchInto (sizes : EventSizes) (request : EventRequest) (stored : List LoggedEvent)
  (start : UInt64) (room : Nat) : FetchResult :=
  fetchEventsSince sizes request (stored.map LoggedEvent.constructEvent) { room := room } start

/-- The events of the log that a fetch reports: of those that it is to copy, as many as it
counts. -/
def reported (sizes : EventSizes) (request : EventRequest) (stored : List LoggedEvent)
  (start : UInt64) (room : Nat) : List LoggedEvent :=
  (wanted request start stored).take (fetchInto sizes request stored start room).aEventCount

/-- The client decodes what a fetch has written to exactly the events that were reported, with
the timestamps they were logged with. -/
def TimestampsSurvive (sizes : EventSizes) (request : EventRequest) (stored : List LoggedEvent)
  (start : UInt64) (client : Timestamp) (room : Nat) : Prop :=
  processEventReportIBs client (fetchInto sizes request stored start room).aWriter.reports =
    .ok (delivered (reported sizes request stored start room))

/-- The timestamps of a fetch survive exactly if it does not report an event with a system
timestamp directly after one with an epoch timestamp; and they do so whatever room the writer
has exactly if no two such events are next to each other among those that the fetch is to copy. -/
theorem timestamps_survive_iff (sizes : EventSizes) (request : EventRequest)
    (stored : List LoggedEvent) (start : UInt64) (client : Timestamp) :
    (∀ room, TimestampsSurvive sizes request stored start client room ↔
      ((reported sizes request stored start room).map (·.mTimestamp)).IsChain KeepsType) ∧
    ((∀ room, TimestampsSurvive sizes request stored start client room) ↔
      ((wanted request start stored).map (·.mTimestamp)).IsChain KeepsType) := by
  have hCall : ∀ room, TimestampsSurvive sizes request stored start client room ↔
      ((reported sizes request stored start room).map (·.mTimestamp)).IsChain KeepsType := by
    intro room
    have hReports := (fetchEventsSince_reports sizes request stored start room).1
    unfold TimestampsSurvive reported fetchInto
    rw [hReports]
    exact processEventReportIBs_iff client _
  refine ⟨hCall, fun hAll => ?_, fun hChain room => ?_⟩
  · obtain ⟨room, hRoom⟩ : ∃ room, sizes.all (reports none (wanted request start stored)) ≤ room :=
      ⟨_, Nat.le_refl _⟩
    have hReported := (fetchEventsSince_reports sizes request stored start room).2 hRoom
    have hChain := (hCall room).1 (hAll room)
    unfold reported fetchInto at hChain
    rwa [hReported] at hChain
  · refine (hCall room).2 ?_
    unfold reported
    rw [List.map_take]
    exact hChain.take _

/-- A subject that may read every event, interested in all of them. -/
def anyEvent : EventRequest where
  mpInterestedEventPaths := [⟨none, none, none⟩]
  fabricIndex := 1
  check := fun _ => .ok ()

/-- The wall clock was known when the first event was logged, and was not when the second one
was: the difference that is sent for the second event is refused. -/
theorem timestamps_do_not_survive :
    ¬ TimestampsSurvive ⟨fun _ => 1, 4⟩ anyEvent
      [⟨⟨1, 0x28, 0⟩, ⟨.epoch, 1700000000000⟩, 2, 0, 1, []⟩, ⟨⟨1, 0x28, 1⟩, ⟨.system, 5000⟩, 2, 0, 2, []⟩]
      0 {} 1000 := by
  have hRefused : processEventReportIBs {} (fetchInto ⟨fun _ => 1, 4⟩ anyEvent
      [⟨⟨1, 0x28, 0⟩, ⟨.epoch, 1700000000000⟩, 2, 0, 1, []⟩, ⟨⟨1, 0x28, 1⟩, ⟨.system, 5000⟩, 2, 0, 2, []⟩]
      0 1000).aWriter.reports = .error .imMalformedEventDataIB := by decide +kernel
  unfold TimestampsSurvive
  rw [hRefused]
  nofun

end Chip.App.EventManagement
