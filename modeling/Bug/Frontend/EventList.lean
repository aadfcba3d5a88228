import Bug.Frontend.Store
import Bug.Primitive.Stable
import Bug.Transition.Labelled

/-!
# The lists of events

All events are listed by their start, which the adapter compares in whole
seconds.  The list of a day holds the events between two midnights, and an event
that starts at midnight is in the list of no day.
-/

namespace Bug.Frontend

open Bug.Db
open Bug.Transition

/-! ## The events of a day -/

namespace Dayjs

variable (utcOffset : Int)

/-- Between two midnights are the instants of the day but the first. -/
theorem isBetween_midnight_iff (date : Dayjs) (day : Int) :
    date.isBetween (midnight utcOffset day) (midnight utcOffset day).addDay = true ↔
      date.dayNumber utcOffset = day ∧ date ≠ date.startOfDay utcOffset := by
  rcases date with ⟨instant⟩
  rw [isBetween, Bool.and_eq_true, decide_eq_true_eq, decide_eq_true_eq]
  simp only [startOfDay, midnight, addDay, dayNumber, ne_eq, Dayjs.mk.injEq, milliSecondsPerDay]
  generalize DateTime.daysBeforeYear 1970 = epoch
  constructor
  · rintro ⟨after, before⟩
    constructor
    · omega
    · omega
  · rintro ⟨rfl, notMidnight⟩
    constructor
    · omega
    · omega

end Dayjs

namespace Store

/-- `makeSelectorEventsInDay`. -/
def selectEventsInDay (store : Store) : List SelectedEvent :=
  let filterInDay : Dayjs := ⟨store.event.filterInDay⟩
  store.selectEvents.filter fun selected =>
    (dayjs selected.event.startedAt).isBetween filterInDay filterInDay.addDay

/-- A click on a date. -/
def showDay (store : Store) (utcOffset day : Int) : Store :=
  { store with event := store.event.updateFilterInDay (Dayjs.midnight utcOffset day).valueOf }

theorem mem_selectEventsInDay_iff {store : Store} {utcOffset day : Int}
    {selected : SelectedEvent} :
    selected ∈ (store.showDay utcOffset day).selectEventsInDay ↔
      selected ∈ store.selectEvents ∧
        (dayjs selected.event.startedAt).dayNumber utcOffset = day ∧
          dayjs selected.event.startedAt ≠
            (dayjs selected.event.startedAt).startOfDay utcOffset := by
  rw [← Dayjs.isBetween_midnight_iff]
  exact List.mem_filter

end Store

/-! ## The order of all events -/

/-- What stores events. -/
inductive EventAction where
  | addEvent (id : Uuid) (event : EventEntity)
  | fetchSuccess (payload : Entities Uuid EventEntity)

namespace EventEntity

/-- The start of an event in milliseconds. -/
def start (event : EventEntity) : Int :=
  (dayjs event.startedAt).valueOf

end EventEntity

namespace EventSlice

/-- One action. -/
def reduce (slice : EventSlice) : EventAction → EventSlice
  | .addEvent id event => slice.addEvent id event
  | .fetchSuccess payload => slice.fetchSuccess payload

/-- The starts of all events do not decrease. -/
def Chronological (slice : EventSlice) : Prop :=
  slice.selectAll.Pairwise fun first second => first.2.start ≤ second.2.start

/-- The entries that an action stores. -/
def stored (slice : EventSlice) : EventAction → List (Uuid × EventEntity)
  | .addEvent id event => [(id, event)].filter fun entry => entry.1 ∉ slice.entities.keys
  | .fetchSuccess payload => payload.entries.filter fun entry => entry.1 ∉ slice.entities.keys

/-- The entries of a second are stored in the order of their starts. -/
def StoresInOrder (slice : EventSlice) (action : EventAction) : Prop :=
  Stable.OrderedWithin (fun entry => entry.2.unixMilli) (fun entry => entry.2.start)
    (slice.stored action) ∧
  ∀ present ∈ slice.entities.entries, ∀ new ∈ slice.stored action,
    present.2.unixMilli = new.2.unixMilli → present.2.start ≤ new.2.start

theorem entries_reduce (slice : EventSlice) (action : EventAction) :
    (slice.reduce action).entities.entries =
      slice.entities.entries ++ slice.stored action := by
  cases action with
  | addEvent id event => exact Entities.entries_addOne slice.entities id event
  | fetchSuccess payload => exact Entities.entries_addMany slice.entities payload.distinct

theorem start_le_of_unixMilli_lt (first second : EventEntity)
    (earlier : first.unixMilli < second.unixMilli) : first.start ≤ second.start := by
  rw [EventEntity.unixMilli, EventEntity.unixMilli, Dayjs.unixMilli, Dayjs.unixMilli, Dayjs.unix,
    Dayjs.unix] at earlier
  rw [EventEntity.start, EventEntity.start]
  omega

/-- The order is that of the starts where it is so within every second. -/
theorem chronological_iff (slice : EventSlice) :
    slice.Chronological ↔
      Stable.OrderedWithin (fun entry : Uuid × EventEntity => entry.2.unixMilli)
        (fun entry => entry.2.start) slice.entities.entries :=
  Stable.pairwise_insertionSort_iff _ _
    (fun first second => start_le_of_unixMilli_lt first.2 second.2) slice.entities.entries

theorem chronological_reduce_iff (slice : EventSlice) (action : EventAction) :
    (slice.reduce action).Chronological ↔ slice.Chronological ∧ slice.StoresInOrder action := by
  rw [chronological_iff, chronological_iff, entries_reduce]
  exact List.pairwise_append

/-- After any actions the events are in the order of their starts exactly when
every action stored the events of a second in the order of their starts. -/
theorem chronological_iff_storesInOrder (today : Int) (actions : List EventAction) :
    (actions.foldl reduce (initial today)).Chronological ↔
      Throughout (fun slice action => some (slice.reduce action)) StoresInOrder (initial today)
        actions := by
  have kept : ∀ slice action next, some (reduce slice action) = some next →
      (next.Chronological ↔ slice.Chronological ∧ slice.StoresInOrder action) := by
    intro slice action next reduced
    cases reduced
    exact slice.chronological_reduce_iff action
  have noEvents : (initial today).Chronological := List.Pairwise.nil
  rw [follow_iff_throughout kept (follow_some reduce (initial today) actions)]
  exact and_iff_right noEvents

/-- Two events of the same second, the later of which arrives first. -/
theorem not_chronological_sameSecond :
    let event (nsecs : Nat) : EventEntity :=
      ⟨.luminosity, .luminosity 0 100, ⟨1609416000, nsecs⟩, ⟨1609416060, 0⟩, .ofNat 1, .array []⟩
    ¬([EventAction.addEvent (.ofNat 2) (event 500000000),
        .addEvent (.ofNat 3) (event 250000000)].foldl reduce (initial 0)).Chronological := by
  intro event chronological
  rw [chronological_iff] at chronological
  have order := (List.pairwise_cons.mp chronological).1 _ List.mem_cons_self (by decide)
  revert order
  decide

end EventSlice

end Bug.Frontend
