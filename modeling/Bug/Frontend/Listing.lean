import Bug.Frontend.Exchange

/-!
# Listing the events

The listing reads the events with one statement and their labels with another,
and the database may change in between.  It never fails: it shows the events as
the first statement found them, each with the labels that the second one found
for it, and the endpoint of a single event agrees with it.
-/

namespace Bug.Frontend

open Bug.Db
open Bug.Transition

namespace World

theorem integral_transition {world next : World} {action : Action}
    (integral : world.tables.Integral) (transition : Transition world action next) :
    next.tables.Integral := by
  cases transition with
  | dispatched dispatchable => exact integral
  | served found unused => exact integral_serve integral _ _
  | failed found => exact integral
  | lost found => exact integral
  | received found => exact integral
  | announced found => exact integral
  | executed executed unused => exact integral_execute integral executed

theorem integral_of_follow {start final : World} {actions : List Action}
    (integral : start.tables.Integral) (reached : follow step start actions = some final) :
    final.tables.Integral := by
  have preserved : ∀ world action next, world.tables.Integral → step world action = some next →
      next.tables.Integral := fun world action next holds stepped =>
    integral_transition holds (transition_of_step stepped)
  exact @follow_preserves _ _ step (fun world => world.tables.Integral) preserved start integral
    actions final reached

end World

/-- The labels of an event are those that its rows refer to. -/
theorem mem_labelsOf_iff (tables : Tables) (event : Uuid) (label : Label) :
    label ∈ tables.labelsOf event ↔ label ∈ tables.labels ∧
      ∃ row ∈ tables.eventsLabels, row.eventId = event ∧ row.labelId = label.id := by
  simp only [Tables.labelsOf, List.mem_flatMap, List.mem_filter, decide_eq_true_eq]
  constructor
  · rintro ⟨row, ⟨stored, ofEvent⟩, present, same⟩
    exact ⟨present, row, stored, ofEvent, same.symm⟩
  · rintro ⟨present, row, stored, ofEvent, same⟩
    exact ⟨row, ⟨stored, ofEvent⟩, present, same.symm⟩

/-- A listing shows every event that its first statement finds, once and with
exactly the labels that its second statement finds joined to it, an event that is
deleted in between without any.  A single event is answered as the listing shows
it, and any other is not found. -/
theorem listing_of_run {today : Int} {before between : List World.Action} {world later : World}
    (reached : follow World.step (World.initial today) before = some world)
    (continued : follow World.step world between = some later) :
    ∃ rows, world.tables.listEvents later.tables = some rows ∧
      rows.map Prod.fst = world.tables.events ∧ (rows.map fun row => row.1.id).Nodup ∧
      (∀ row ∈ rows,
        (row.2.map Label.id).Nodup ∧
        (∀ label, label ∈ row.2 ↔ label ∈ later.tables.labels ∧
          ∃ joined ∈ later.tables.eventsLabels,
            joined.eventId = row.1.id ∧ joined.labelId = label.id) ∧
        (row.1.id ∉ later.tables.events.map EventRow.id → row.2 = []) ∧
        world.tables.readEvent later.tables row.1.id = .ok row) ∧
      ∀ id, id ∉ rows.map (fun row => row.1.id) →
        world.tables.readEvent later.tables id = .error (.diesel true) := by
  have integral := World.integral_of_follow Tables.integral_empty reached
  have still := World.integral_of_follow integral continued
  have ids : (world.tables.events.map fun event =>
      (event, later.tables.labelsOf event.id)).map (fun row => row.1.id) =
        world.tables.events.map EventRow.id := by
    rw [List.map_map]
    rfl
  refine ⟨_, Tables.listEvents_eq integral later.tables, ?_, ?_, ?_, ?_⟩
  · rw [List.map_map]
    exact List.map_id _
  · rw [ids]
    exact integral.events
  · intro row present
    rcases List.mem_map.mp present with ⟨event, stored, rfl⟩
    exact ⟨Tables.nodup_labelsOf still event.id, mem_labelsOf_iff later.tables event.id,
      Tables.labelsOf_of_absent still, Tables.readEvent_of_mem integral later.tables stored⟩
  · intro id absent
    rw [ids] at absent
    exact Tables.readEvent_of_absent later.tables absent

/-- An event with two labels. -/
def labelling : List World.Action :=
  [.execute (.insertDevice ⟨.ofNat 1, "bug", ""⟩),
    .execute (.insertEvent
      ⟨.ofNat 2, ⟨.luminosity, .luminosity 1 2, ⟨0, 0⟩, ⟨1, 0⟩, .ofNat 1⟩⟩),
    .execute (.insertLabel
      ⟨.ofNat 3, .luminosity, "dim", "", .luminosityDifference (.lt 9), .ofNat 1⟩),
    .execute (.insertLabel
      ⟨.ofNat 4, .luminosity, "dark", "", .luminosityDifference (.lt 2), .ofNat 1⟩),
    .execute (.insertEventLabel ⟨.ofNat 5, .ofNat 2, .ofNat 3⟩),
    .execute (.insertEventLabel ⟨.ofNat 6, .ofNat 2, .ofNat 4⟩)]

/-- One of the labels is deleted between the statements of a listing. -/
theorem listing_of_run_labelling :
    ∃ world later rows,
      follow World.step (World.initial 0) labelling = some world ∧
      follow World.step world [.execute (.deleteLabel (.ofNat 3))] = some later ∧
      world.tables.listEvents later.tables = some rows ∧
      rows.map (fun row => (row.1.id, row.2.map Label.id)) = [(.ofNat 2, [.ofNat 4])] := by
  have answer : ∃ world, follow World.step (World.initial 0) labelling = some world ∧
      ∃ later, follow World.step world [.execute (.deleteLabel (.ofNat 3))] = some later ∧
        (world.tables.listEvents later.tables).map
          (List.map fun row => (row.1.id, row.2.map Label.id)) =
            some [(.ofNat 2, [.ofNat 4])] := ⟨_, rfl, _, rfl, rfl⟩
  rcases answer with ⟨world, reached, later, continued, shown⟩
  rcases listing_of_run reached continued with ⟨rows, listed, -⟩
  rw [listed] at shown
  exact ⟨world, later, rows, reached, continued, listed, Option.some.inj shown⟩

end Bug.Frontend
