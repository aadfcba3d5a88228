import Bug.Event.Message
import Bug.Primitive.DateTime
import Bug.Primitive.Uuid

/-!
# Events as the backend stores them

Every source of events turns what it received into a `NewEvent` before it
reaches the event processor.  The conversion from a transmitted event replaces
the seconds of a device that had no clock, and panics on instants that `chrono`
cannot represent.
-/

namespace Bug.Db

open Bug.Encoding

inductive EventKind where
  | sound
  | position
  | luminosity
  deriving DecidableEq

inductive EventPayload where
  | sound (wavFile : String)
  | position (start stop : Coordinates)
  | luminosity (start stop : Int32)
  deriving DecidableEq

structure NewEvent where
  kind : EventKind
  payload : EventPayload
  startedAt : DateTime
  endedAt : DateTime
  deviceId : Uuid
  deriving DecidableEq

namespace NewEvent

/-- The seconds to store: the transmitted ones, or the current second when
either of them is zero. -/
def storedSecs (clock : Clock) (event : Event) : Int64 × Int64 :=
  if event.startedAtSecs = 0 ∨ event.endedAtSecs = 0 then
    (clock.second, clock.second)
  else
    (event.startedAtSecs, event.endedAtSecs)

/-- `NewEvent::from((event, device_id))`. -/
def ofEvent (clock : Clock) (event : Event) (deviceId : Uuid) : Option NewEvent := do
  let (startedAtSecs, endedAtSecs) := storedSecs clock event
  let startedAt ← DateTime.fromTimestamp startedAtSecs event.startedAtNsecs
  let endedAt ← DateTime.fromTimestamp endedAtSecs event.endedAtNsecs
  return {
    kind := match event.payload with
      | .sound _ => .sound
      | .position _ _ => .position
      | .luminosity _ _ => .luminosity
    payload := match event.payload with
      | .sound wavFile => .sound wavFile.val
      | .position start stop => .position start stop
      | .luminosity start stop => .luminosity start stop
    startedAt := startedAt
    endedAt := endedAt
    deviceId := deviceId }

/-- The transmitted fields that the conversion accepts: nanoseconds inside the
leap-second range, and seconds of a representable date unless the current
second replaces them. -/
def Representable (event : Event) : Prop :=
  event.startedAtNsecs.toNat < 2000000000 ∧ event.endedAtNsecs.toNat < 2000000000 ∧
    (event.startedAtSecs = 0 ∨ event.endedAtSecs = 0 ∨
      DateTime.InRange event.startedAtSecs ∧ DateTime.InRange event.endedAtSecs)

theorem isSome_fromTimestamp_iff (secs : Int64) (nsecs : UInt32) :
    (DateTime.fromTimestamp secs nsecs).isSome ↔
      DateTime.InRange secs ∧ nsecs.toNat < 2000000000 := by
  unfold DateTime.fromTimestamp
  split <;> simp_all

theorem inRange_storedSecs_iff (clock : Clock) (event : Event) :
    DateTime.InRange (storedSecs clock event).1 ∧ DateTime.InRange (storedSecs clock event).2 ↔
      event.startedAtSecs = 0 ∨ event.endedAtSecs = 0 ∨
        DateTime.InRange event.startedAtSecs ∧ DateTime.InRange event.endedAtSecs := by
  unfold storedSecs
  split
  · rename_i unset
    rw [← or_assoc]
    exact ⟨fun _ => .inl unset, fun _ => ⟨clock.inRange_second, clock.inRange_second⟩⟩
  · rename_i set
    rw [← or_assoc, or_iff_right set]

/-- The conversion of a transmitted event succeeds exactly on representable
fields, whatever the clock shows. -/
theorem isSome_ofEvent_iff (clock : Clock) (event : Event) (deviceId : Uuid) :
    (ofEvent clock event deviceId).isSome ↔ Representable event := by
  have parts : (ofEvent clock event deviceId).isSome ↔
      (DateTime.fromTimestamp (storedSecs clock event).1 event.startedAtNsecs).isSome ∧
        (DateTime.fromTimestamp (storedSecs clock event).2 event.endedAtNsecs).isSome := by
    cases started : DateTime.fromTimestamp (storedSecs clock event).1 event.startedAtNsecs <;>
      cases ended : DateTime.fromTimestamp (storedSecs clock event).2 event.endedAtNsecs <;>
      simp [ofEvent, started, ended]
  rw [parts, isSome_fromTimestamp_iff, isSome_fromTimestamp_iff, Representable,
    ← inRange_storedSecs_iff clock event]
  constructor
  · rintro ⟨⟨startRange, startNsecs⟩, endRange, endNsecs⟩
    exact ⟨startNsecs, endNsecs, startRange, endRange⟩
  · rintro ⟨startNsecs, endNsecs, startRange, endRange⟩
    exact ⟨⟨startRange, startNsecs⟩, endRange, endNsecs⟩

theorem deviceId_of_ofEvent {clock : Clock} {event : Event} {deviceId : Uuid}
    {newEvent : NewEvent} (converted : ofEvent clock event deviceId = some newEvent) :
    newEvent.deviceId = deviceId := by
  simp only [ofEvent, Option.bind_eq_bind, Option.bind_eq_some_iff] at converted
  rcases converted with ⟨startedAt, -, endedAt, -, equal⟩
  cases equal
  rfl

/-! ## The stored instants -/

/-- The transmitted seconds of a device that had no clock. -/
def Unset (event : Event) : Prop :=
  event.startedAtSecs = 0 ∨ event.endedAtSecs = 0

theorem storedSecs_of_unset {event : Event} (unset : Unset event) (clock : Clock) :
    storedSecs clock event = (clock.second, clock.second) :=
  if_pos unset

theorem storedSecs_of_set {event : Event} (isSet : ¬ Unset event) (clock : Clock) :
    storedSecs clock event = (event.startedAtSecs, event.endedAtSecs) :=
  if_neg isSet

theorem eq_of_fromTimestamp {secs : Int64} {nsecs : UInt32} {instant : DateTime}
    (converted : DateTime.fromTimestamp secs nsecs = some instant) :
    instant = ⟨secs.toInt, nsecs.toNat⟩ := by
  simp only [DateTime.fromTimestamp] at converted
  split at converted
  · cases converted
    rfl
  · cases converted

/-- The instants are the stored seconds with the transmitted nanoseconds. -/
theorem instants_of_ofEvent {clock : Clock} {event : Event} {deviceId : Uuid}
    {newEvent : NewEvent} (converted : ofEvent clock event deviceId = some newEvent) :
    newEvent.startedAt = ⟨(storedSecs clock event).1.toInt, event.startedAtNsecs.toNat⟩ ∧
      newEvent.endedAt = ⟨(storedSecs clock event).2.toInt, event.endedAtNsecs.toNat⟩ := by
  simp only [ofEvent, Option.bind_eq_bind, Option.bind_eq_some_iff] at converted
  rcases converted with ⟨startedAt, started, endedAt, ended, equal⟩
  cases equal
  exact ⟨eq_of_fromTimestamp started, eq_of_fromTimestamp ended⟩

theorem exists_ofEvent {event : Event} (representable : Representable event) (clock : Clock)
    (deviceId : Uuid) :
    ∃ newEvent, ofEvent clock event deviceId = some newEvent ∧
      newEvent.startedAt = ⟨(storedSecs clock event).1.toInt, event.startedAtNsecs.toNat⟩ ∧
      newEvent.endedAt = ⟨(storedSecs clock event).2.toInt, event.endedAtNsecs.toNat⟩ := by
  have isSome := (isSome_ofEvent_iff clock event deviceId).mpr representable
  rcases Option.isSome_iff_exists.mp isSome with ⟨newEvent, converted⟩
  exact ⟨newEvent, converted, instants_of_ofEvent converted⟩

/-- The conversion stamps an event of a device without a clock with the current
Unix seconds, and any other representable one with the transmitted instants. -/
def Stamped (clock : Clock) (event : Event) (deviceId : Uuid) : Prop :=
  (Unset event → ∃ newEvent, ofEvent clock event deviceId = some newEvent ∧
      newEvent.startedAt.secs = clock.unixSecs ∧ newEvent.endedAt.secs = clock.unixSecs) ∧
    (¬ Unset event → Representable event →
      ∃ newEvent, ofEvent clock event deviceId = some newEvent ∧
        newEvent.startedAt = ⟨event.startedAtSecs.toInt, event.startedAtNsecs.toNat⟩ ∧
        newEvent.endedAt = ⟨event.endedAtSecs.toInt, event.endedAtNsecs.toNat⟩)

theorem stamped_of_set {event : Event} (isSet : ¬ Unset event) (clock : Clock)
    (deviceId : Uuid) : Stamped clock event deviceId := by
  constructor
  · intro unset
    exact absurd unset isSet
  · intro _ representable
    have stored := exists_ofEvent representable clock deviceId
    rw [storedSecs_of_set isSet] at stored
    exact stored

theorem stamped_iff_of_unset {event : Event} (unset : Unset event) (clock : Clock)
    (deviceId : Uuid) :
    Stamped clock event deviceId ↔ Representable event ∧ clock.second.toInt = clock.unixSecs := by
  constructor
  · intro stamped
    rcases stamped.1 unset with ⟨newEvent, converted, startSecs, -⟩
    rw [(instants_of_ofEvent converted).1, storedSecs_of_unset unset] at startSecs
    constructor
    · exact (isSome_ofEvent_iff clock event deviceId).mp (Option.isSome_of_eq_some converted)
    · exact startSecs
  · rintro ⟨representable, now⟩
    constructor
    · intro _
      have stored := exists_ofEvent representable clock deviceId
      rw [storedSecs_of_unset unset] at stored
      rcases stored with ⟨newEvent, converted, startEq, endEq⟩
      rw [← now]
      exact ⟨newEvent, converted, congrArg DateTime.secs startEq, congrArg DateTime.secs endEq⟩
    · intro isSet
      exact absurd unset isSet

theorem representable_iff_of_unset {event : Event} (unset : Unset event) :
    Representable event ↔
      event.startedAtNsecs.toNat < 2000000000 ∧ event.endedAtNsecs.toNat < 2000000000 := by
  rw [Representable, ← or_assoc, ← and_assoc]
  exact and_iff_left (Or.inl unset)

/-- An event is stamped as it should be exactly when its device had a clock, or
when its nanoseconds are representable and the conversion runs within the first
minute of the Unix epoch, in a zone of whole minutes. -/
theorem stamped_iff_clock_set (clock : Clock) (event : Event) (deviceId : Uuid) :
    Stamped clock event deviceId ↔
      (event.startedAtSecs ≠ 0 ∧ event.endedAtSecs ≠ 0) ∨
        (event.startedAtNsecs.toNat < 2000000000 ∧ event.endedAtNsecs.toNat < 2000000000) ∧
          0 ≤ clock.unixSecs ∧ clock.unixSecs < 60 ∧ clock.offsetSecs % 60 = 0 := by
  rw [← not_or, ← Unset, ← clock.second_eq_unixSecs_iff]
  by_cases unset : Unset event
  · rw [stamped_iff_of_unset unset, representable_iff_of_unset unset,
      or_iff_right (not_not.mpr unset)]
  · exact iff_of_true (stamped_of_set unset clock deviceId) (Or.inl unset)

/-- What a device without a clock sends of a movement from 0.999 s to 1.1 s after
its start. -/
def lateSecond : Event where
  secret := 7
  startedAtSecs := 0
  startedAtNsecs := 999000000
  endedAtSecs := 1
  endedAtNsecs := 100000000
  payload := .luminosity 1 2

/-- In the year 2020, an event without a clock is filed in the first minute of
1970. -/
theorem not_stamped_unset :
    ¬ Stamped ⟨1600000000, 28800⟩ lateSecond (Uuid.ofNat 3) := by
  rw [stamped_iff_of_unset (Or.inl rfl), Clock.second_eq_unixSecs_iff]
  rintro ⟨-, -, early, -⟩
  exact absurd early (by decide)

/-! ## The order of the stored instants -/

/-- The transmitted start is not after the transmitted end. -/
def Ordered (event : Event) : Prop :=
  event.startedAtSecs < event.endedAtSecs ∨
    event.startedAtSecs = event.endedAtSecs ∧ event.startedAtNsecs ≤ event.endedAtNsecs

theorem Ordered.le_of_set {event : Event} (ordered : Ordered event) :
    (⟨event.startedAtSecs.toInt, event.startedAtNsecs.toNat⟩ : DateTime) ≤
      ⟨event.endedAtSecs.toInt, event.endedAtNsecs.toNat⟩ := by
  rw [DateTime.le_iff]
  rcases ordered with earlier | ⟨same, nsecs⟩
  · exact Or.inl (Int64.lt_iff_toInt_lt.mp earlier)
  · exact Or.inr ⟨congrArg Int64.toInt same, UInt32.le_iff_toNat_le.mp nsecs⟩

/-- Of an event whose transmitted instants are in order, the stored ones are in
order exactly when the device had a clock or the nanoseconds alone are in
order. -/
theorem stored_le_iff_nsecs_le (clock : Clock) (event : Event)
    (representable : Representable event) (ordered : Ordered event) (deviceId : Uuid) :
    ∃ newEvent, ofEvent clock event deviceId = some newEvent ∧
      (newEvent.startedAt ≤ newEvent.endedAt ↔
        (event.startedAtSecs ≠ 0 ∧ event.endedAtSecs ≠ 0) ∨
          event.startedAtNsecs ≤ event.endedAtNsecs) := by
  rcases exists_ofEvent representable clock deviceId with ⟨newEvent, converted, startEq, endEq⟩
  refine ⟨newEvent, converted, ?_⟩
  rw [startEq, endEq, ← not_or, ← Unset]
  by_cases unset : Unset event
  · rw [storedSecs_of_unset unset, or_iff_right (not_not.mpr unset), DateTime.le_iff,
      UInt32.le_iff_toNat_le]
    simp
  · rw [storedSecs_of_set unset]
    exact iff_of_true ordered.le_of_set (Or.inl unset)

/-- A movement within one second of a device without a clock keeps its order. -/
theorem stored_le_iff_nsecs_le_within_second :
    ∃ newEvent, ofEvent ⟨1600000000, 28800⟩ ⟨7, 0, 100000000, 0, 999000000, .luminosity 1 2⟩
        (Uuid.ofNat 3) = some newEvent ∧ newEvent.startedAt ≤ newEvent.endedAt := by
  rcases stored_le_iff_nsecs_le ⟨1600000000, 28800⟩
    ⟨7, 0, 100000000, 0, 999000000, .luminosity 1 2⟩ ⟨by decide, by decide, Or.inl rfl⟩
    (Or.inr ⟨rfl, by decide⟩) (Uuid.ofNat 3) with ⟨newEvent, converted, ordered⟩
  exact ⟨newEvent, converted, ordered.mpr (Or.inr (by decide))⟩

/-- A movement across a second of a device without a clock is stored backwards. -/
theorem stored_backwards_lateSecond :
    Representable lateSecond ∧ Ordered lateSecond ∧
      ∃ newEvent, ofEvent ⟨1600000000, 28800⟩ lateSecond (Uuid.ofNat 3) = some newEvent ∧
        ¬ newEvent.startedAt ≤ newEvent.endedAt := by
  refine ⟨⟨by decide, by decide, Or.inl rfl⟩, Or.inl (by decide), ?_⟩
  exact ⟨_, rfl, by decide⟩

end NewEvent

end Bug.Db
