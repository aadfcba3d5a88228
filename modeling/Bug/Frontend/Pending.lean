import Bug.Frontend.System
import Mathlib.Data.List.Perm.Basic

/-!
# Pending requests

Any number of requests of one kind may be outstanding, and the store keeps one
status for all of them.  The first response of a kind ends the status, whether or
not others are still to come.
-/

namespace Bug.Frontend

open Bug.Db
open Bug.Transition

inductive RequestKind where
  | fetchDevices
  | createDevice
  | deleteDevice
  | fetchLabels
  | createLabel
  | deleteLabel
  | fetchEvents
  deriving DecidableEq

def Request.kind : Request → RequestKind
  | fetchDevices => .fetchDevices
  | createDevice _ => .createDevice
  | deleteDevice _ => .deleteDevice
  | fetchLabels => .fetchLabels
  | createLabel _ _ => .createLabel
  | deleteLabel _ => .deleteLabel
  | fetchEvents => .fetchEvents

def Response.kind : Response → RequestKind
  | fetchDevices _ => .fetchDevices
  | createDevice _ => .createDevice
  | deleteDevice _ _ => .deleteDevice
  | fetchLabels _ => .fetchLabels
  | createLabel _ _ _ => .createLabel
  | deleteLabel _ _ => .deleteLabel
  | fetchEvents _ => .fetchEvents

namespace Store

/-- The status of the requests of a kind. -/
def status (store : Store) : RequestKind → Status
  | .fetchDevices => store.device.fetch
  | .createDevice => store.device.create
  | .deleteDevice => store.device.delete
  | .fetchLabels => store.label.fetch
  | .createLabel => store.label.create
  | .deleteLabel => store.label.delete
  | .fetchEvents => store.event.fetch

theorem status_initial (today : Int) (kind : RequestKind) :
    (Store.initial today).status kind = .initial := by
  cases kind <;> rfl

theorem pending_dispatch (store : Store) (request : Request) (kind : RequestKind) :
    ((store.dispatch request).status kind).pending =
      if request.kind = kind then true else (store.status kind).pending := by
  cases request <;> cases kind <;> rfl

theorem status_addEventsLabels {store : Store} {payload : LabelGroups} {events : EventSlice}
    (updated : store.event.addEventsLabels payload = some events) (kind : RequestKind) :
    { store with event := events }.status kind = store.status kind := by
  rcases Option.map_eq_some_iff.mp updated with ⟨updates, _, rfl⟩
  cases kind <;> rfl

theorem pending_createLabel (store : Store) (device event : Uuid) (result : Except String Label)
    (kind : RequestKind) :
    ((store.createLabel device event result).status kind).pending =
      if .createLabel = kind then false else (store.status kind).pending := by
  cases result with
  | error error => cases kind <;> rfl
  | ok row =>
      rw [createLabel]
      split
      · rename_i events updated
        rw [status_addEventsLabels (by exact updated)]
        cases kind <;> rfl
      · cases kind <;> rfl

/-- A response ends the status of its kind and no other. -/
theorem pending_receive (store : Store) (response : Response) (kind : RequestKind) :
    ((store.receive response).status kind).pending =
      if response.kind = kind then false else (store.status kind).pending := by
  cases response with
  | fetchDevices result => cases result <;> cases kind <;> rfl
  | createDevice result => cases result <;> cases kind <;> rfl
  | deleteDevice id result => cases result <;> cases kind <;> rfl
  | fetchLabels result => cases result <;> cases kind <;> rfl
  | createLabel device event result => exact store.pending_createLabel device event result kind
  | deleteLabel label result => cases result <;> cases kind <;> rfl
  | fetchEvents result => cases result <;> cases kind <;> rfl

end Store

/-! ## A page with its outstanding requests -/

structure Page where
  store : Store
  /-- The number of requests of each kind that have not been answered. -/
  outstanding : RequestKind → Nat

namespace Page

def initial (today : Int) : Page where
  store := .initial today
  outstanding _ := 0

inductive Action where
  | dispatch (request : Request)
  | receive (response : Response)
  /-- An event arrives over the websocket. -/
  | announce (row : EventRow)

/-- A response arrives only while a request of its kind is outstanding. -/
def step : LabelledStep Page Action
  | page, .dispatch request =>
      some
        { store := page.store.dispatch request
          outstanding := Function.update page.outstanding request.kind
            (page.outstanding request.kind + 1) }
  | page, .receive response =>
      if page.outstanding response.kind = 0 then none
      else
        some
          { store := page.store.receive response
            outstanding := Function.update page.outstanding response.kind
              (page.outstanding response.kind - 1) }
  | page, .announce row => some { page with store := page.store.subscribeNewEvent row }

/-- The status of every kind tells whether a request of the kind is outstanding. -/
def Truthful (page : Page) : Prop :=
  ∀ kind, (page.store.status kind).pending = true ↔ page.outstanding kind ≠ 0

/-- A response is the last that is outstanding of its kind. -/
def LastOfKind (page : Page) : Action → Prop
  | .receive response => page.outstanding response.kind = 1
  | .dispatch _ => True
  | .announce _ => True

theorem truthful_initial (today : Int) : (initial today).Truthful := by
  intro kind
  rw [initial, Store.status_initial]
  exact iff_of_false Bool.false_ne_true (not_not.mpr rfl)

section Truthful

variable {page : Page} (truthful : page.Truthful)

include truthful

theorem Truthful.dispatched (request : Request) :
    Truthful
      { store := page.store.dispatch request
        outstanding := Function.update page.outstanding request.kind
          (page.outstanding request.kind + 1) } := by
  intro kind
  rw [Store.pending_dispatch]
  by_cases same : request.kind = kind
  · subst same
    simp
  · simp only [if_neg same, Function.update_of_ne (Ne.symm same)]
    exact truthful kind

theorem Truthful.received_iff {response : Response}
    (answered : page.outstanding response.kind ≠ 0) :
    Truthful
        { store := page.store.receive response
          outstanding := Function.update page.outstanding response.kind
            (page.outstanding response.kind - 1) } ↔
      page.outstanding response.kind = 1 := by
  constructor
  · intro truthfulNext
    have last := truthfulNext response.kind
    simp only [Store.pending_receive, if_true, Function.update_self, Bool.false_eq_true,
      false_iff, not_not] at last
    omega
  · intro last kind
    rw [Store.pending_receive]
    by_cases same : response.kind = kind
    · subst same
      simp [last]
    · simp only [if_neg same, Function.update_of_ne (Ne.symm same)]
      exact truthful kind

theorem Truthful.announced (row : EventRow) :
    Truthful { page with store := page.store.subscribeNewEvent row } := by
  intro kind
  have kept : (page.store.subscribeNewEvent row).status kind = page.store.status kind := by
    cases kind <;> rfl
  rw [kept]
  exact truthful kind

end Truthful

theorem truthful_step_iff {page next : Page} {action : Action} (truthful : page.Truthful)
    (stepped : step page action = some next) : next.Truthful ↔ page.LastOfKind action := by
  cases action with
  | dispatch request =>
      cases stepped
      exact iff_of_true (truthful.dispatched request) trivial
  | receive response =>
      rw [step] at stepped
      split at stepped
      · cases stepped
      · rename_i answered
        cases stepped
        exact truthful.received_iff answered
  | announce row =>
      cases stepped
      exact iff_of_true (truthful.announced row) trivial

/-- In every state of a run the statuses tell what is outstanding exactly when every
response was the last that was outstanding of its kind. -/
theorem truthful_iff_lastOfKind {today : Int} {actions : List Action} {final : Page}
    (reached : follow step (initial today) actions = some final) :
    (∀ before after page, actions = before ++ after →
      follow step (initial today) before = some page → page.Truthful) ↔
      Throughout step LastOfKind (initial today) actions :=
  forall_reached_iff_throughout (fun _ _ _ => truthful_step_iff) (truthful_initial today) reached

/-- A fetch that is answered before the next one starts. -/
theorem truthful_fetchEvents_twice :
    ∃ page, follow step (initial 0)
        [.dispatch .fetchEvents, .receive (.fetchEvents (.ok [])), .dispatch .fetchEvents] =
          some page ∧
      page.Truthful := by
  have reached : follow step (initial 0)
      [.dispatch .fetchEvents, .receive (.fetchEvents (.ok [])), .dispatch .fetchEvents] =
        some _ := rfl
  have truthful := (truthful_iff_lastOfKind reached).mpr ⟨trivial, rfl, trivial, trivial⟩
  exact ⟨_, reached, truthful _ [] _ (List.append_nil _).symm reached⟩

/-- Two containers fetch the events, and the first response ends the status of both. -/
theorem not_truthful_fetchEvents_overlapping :
    ∃ page, follow step (initial 0)
        [.dispatch .fetchEvents, .dispatch .fetchEvents, .receive (.fetchEvents (.ok []))] =
          some page ∧
      ¬page.Truthful := by
  refine ⟨_, rfl, ?_⟩
  intro truthful
  exact absurd ((truthful .fetchEvents).mpr (by decide)) Bool.false_ne_true

end Page

/-! ## The page of a world -/

theorem count_map_eraseIdx {α : Type} (kind : α → RequestKind) {items : List α} {index : Nat}
    {item : α} (found : items[index]? = some item) (other : RequestKind) :
    (items.map kind).count other =
      ((items.eraseIdx index).map kind).count other + if kind item = other then 1 else 0 := by
  rcases List.getElem?_eq_some_iff.mp found with ⟨inside, rfl⟩
  have permuted := (List.getElem_cons_eraseIdx_perm inside).map kind
  rw [← permuted.count_eq other, List.map_cons, List.count_cons]
  simp only [beq_iff_eq]

theorem kind_serve (tables : Tables) (generated : Generated) (request : Request) :
    (serve tables generated request).2.kind = request.kind := by
  cases request with
  | createDevice value =>
      rw [serve]
      split <;> rfl
  | createLabel value event =>
      simp only [serve]
      split <;> rfl
  | _ => rfl

theorem kind_fail (error : String) (request : Request) :
    (request.fail error).kind = request.kind := by
  cases request <;> rfl

theorem kind_lose (error : String) (response : Response) :
    (response.lose error).kind = response.kind := by
  cases response <;> rfl

theorem map_kind_lose {responses : List Response} {index : Nat} {response : Response}
    (found : responses[index]? = some response) (error : String) :
    (responses.set index (response.lose error)).map Response.kind =
      responses.map Response.kind := by
  rcases List.getElem?_eq_some_iff.mp found with ⟨inside, rfl⟩
  rw [List.map_set, kind_lose, ← List.map_set, List.set_getElem_self]

namespace World

/-- A request is outstanding until its response is received. -/
def page (world : World) : Page where
  store := world.store
  outstanding kind :=
    (world.requests.map Request.kind).count kind + (world.responses.map Response.kind).count kind

section Outstanding

variable {world : World} {index : Nat}

/-- A dispatched request is one more of its kind. -/
theorem outstanding_dispatched (request : Request) :
    (fun kind => ((world.requests ++ [request]).map Request.kind).count kind +
        (world.responses.map Response.kind).count kind) =
      Function.update world.page.outstanding request.kind
        (world.page.outstanding request.kind + 1) := by
  funext kind
  by_cases same : request.kind = kind
  · subst same
    simp only [page, List.map_append, List.map_singleton, List.count_append,
      List.count_singleton_self, Function.update_self]
    omega
  · simp [page, Function.update_of_ne (Ne.symm same), same]

/-- A request that is answered is outstanding as its response. -/
theorem outstanding_answered {request : Request} {response : Response}
    (found : world.requests[index]? = some request) (sameKind : response.kind = request.kind) :
    (fun kind => ((world.requests.eraseIdx index).map Request.kind).count kind +
        ((world.responses ++ [response]).map Response.kind).count kind) =
      world.page.outstanding := by
  funext kind
  simp only [page, List.map_append, List.map_singleton, List.count_append, sameKind,
    count_map_eraseIdx Request.kind found, List.count_singleton, beq_iff_eq]
  omega

/-- A received response is one less of its kind. -/
theorem outstanding_received {response : Response}
    (found : world.responses[index]? = some response) :
    (fun kind => (world.requests.map Request.kind).count kind +
        ((world.responses.eraseIdx index).map Response.kind).count kind) =
      Function.update world.page.outstanding response.kind
        (world.page.outstanding response.kind - 1) := by
  have counted := count_map_eraseIdx Response.kind found
  funext kind
  by_cases same : response.kind = kind
  · subst same
    simp only [page, counted, if_true, Function.update_self]
    omega
  · simp [page, Function.update_of_ne (Ne.symm same), counted, same]

theorem outstanding_ne_zero {response : Response}
    (found : world.responses[index]? = some response) :
    world.page.outstanding response.kind ≠ 0 := by
  simp only [page, count_map_eraseIdx Response.kind found, if_true]
  omega

end Outstanding

/-- Whatever the world does, its page does not notice or takes a step of its own. -/
theorem page_transition {world next : World} {action : Action}
    (transition : Transition world action next) :
    next.page = world.page ∨ ∃ pageAction, Page.step world.page pageAction = some next.page := by
  cases transition with
  | dispatched dispatchable =>
      rename_i request
      right
      exists .dispatch request
      rw [Page.step, ← outstanding_dispatched]
      rfl
  | served found unused =>
      left
      rw [page, outstanding_answered found (kind_serve _ _ _)]
      rfl
  | failed found =>
      left
      rw [page, outstanding_answered found (kind_fail _ _)]
      rfl
  | lost found =>
      left
      rw [page, page, map_kind_lose found]
  | received found =>
      rename_i response
      right
      exists .receive response
      rw [Page.step, if_neg (outstanding_ne_zero found), ← outstanding_received found]
      rfl
  | announced found =>
      rename_i event
      right
      exists .announce event
  | executed executed unused =>
      left
      rfl

/-- Every page of a world is reached by a run of pages. -/
theorem page_of_reachable {today : Int} {world : World} (reachable : Reachable today world) :
    ∃ actions, follow Page.step (Page.initial today) actions = some world.page := by
  apply invariant_of_reachable _ _ reachable
  · exact ⟨[], rfl⟩
  · rintro state action next ⟨actions, reached⟩ transition
    rcases page_transition transition with unnoticed | ⟨pageAction, stepped⟩
    · exact ⟨actions, by rw [reached, unnoticed]⟩
    · refine ⟨actions ++ [pageAction], ?_⟩
      rw [follow_concat, reached, Option.bind_some, stepped]

end World

end Bug.Frontend
