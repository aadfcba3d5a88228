import Bug.Frontend.Exchange
import Bug.Transition.Simulation
import Mathlib.Data.Nat.Pairing
import Mathlib.Logic.Encodable.Basic

/-!
# A page and the backend over the wire

The page and the backend exchange messages of HTTP and texts of a websocket.  A
message or a response may get lost, and whatever is under way may overtake the
rest.  Whatever happens on the wire happens between a page and a backend that
hand each other the requests, responses and events themselves.
-/

namespace Bug.Frontend

open Bug.Db
open Bug.Encoding
open Bug.Http
open Bug.Transition

/-- What a call ends with: a response, or an error of its own. -/
abbrev Reply := Except String HttpResponse

structure Wire where
  store : Store
  tables : Tables
  /-- The messages on their way to the server, and the requests they were made for. -/
  requests : List (Request × HttpRequest)
  /-- The replies on their way to the sagas. -/
  responses : List (Request × Reply)
  /-- The texts that the websocket was sent. -/
  announced : List Json
  /-- Every label there ever was. -/
  issued : List Label

namespace Wire

def initial (today : Int) : Wire where
  store := .initial today
  tables := .empty
  requests := []
  responses := []
  announced := []
  issued := []

/-- No label has the generated key of an earlier one. -/
def Unused (wire : Wire) (tables : Tables) : Prop :=
  ∀ label ∈ tables.labels, label.id ∈ wire.issued.map Label.id → label ∈ wire.issued

/-- The page takes a reply for a response. -/
def Resumes (formats : Formats) (answer : Request × Reply) (response : Response) : Prop :=
  Reads formats answer.1 (answer.2.bind Api.settle) response

/-- The page takes a text of the websocket for an event. -/
def Hears (formats : Formats) (text : Json) (event : EventRow) : Prop :=
  event.Regular ∧ text = event.serialize formats

inductive Step (formats : Formats) (wire : Wire) : Wire → Prop
  | dispatch {request : Request} {message : HttpRequest} :
      wire.store.Dispatchable request → request.message = .ok message →
      Step formats wire
        { wire with
          store := wire.store.dispatch request
          requests := wire.requests ++ [(request, message)] }
  /-- The call throws before it sends anything. -/
  | unsendable {request : Request} {error : String} :
      wire.store.Dispatchable request → request.message = .error error →
      Step formats wire
        { wire with
          store := wire.store.dispatch request
          responses := wire.responses ++ [(request, .error error)] }
  | serve {index : Nat} {request : Request} {message : HttpRequest} {database : DatabaseAddr} :
      wire.requests[index]? = some (request, message) →
      wire.Unused (call (routes formats) database wire.tables message).1 →
      Step formats wire
        { wire with
          tables := (call (routes formats) database wire.tables message).1
          requests := wire.requests.eraseIdx index
          responses := wire.responses ++
            [(request, .ok (call (routes formats) database wire.tables message).2)]
          issued := wire.issued ++
            (call (routes formats) database wire.tables message).1.labels }
  /-- A message does not get to the server. -/
  | fail {index : Nat} {request : Request} {message : HttpRequest} {error : String} :
      wire.requests[index]? = some (request, message) →
      Step formats wire
        { wire with
          requests := wire.requests.eraseIdx index
          responses := wire.responses ++ [(request, .error error)] }
  /-- A response is lost. -/
  | lose {index : Nat} {request : Request} {reply : Reply} {error : String} :
      wire.responses[index]? = some (request, reply) →
      Step formats wire
        { wire with responses := wire.responses.set index (request, .error error) }
  | receive {index : Nat} {answer : Request × Reply} {response : Response} :
      wire.responses[index]? = some answer → Resumes formats answer response →
      Step formats wire
        { wire with
          store := wire.store.receive response
          responses := wire.responses.eraseIdx index }
  /-- A text of the websocket arrives. -/
  | announce {index : Nat} {text : Json} {event : EventRow} :
      wire.announced[index]? = some text → Hears formats text event →
      Step formats wire { wire with store := wire.store.subscribeNewEvent event }
  /-- A statement of another client, whose events are announced. -/
  | execute {statement : Statement} {tables : Tables} :
      statement.execute wire.tables = some tables → wire.Unused tables →
      (∀ event ∈ statement.announced, event.Regular) →
      Step formats wire
        { wire with
          tables := tables
          announced := wire.announced ++ statement.announced.map (EventRow.serialize formats)
          issued := wire.issued ++ tables.labels }

/-- A page and a backend over the wire stand for ones that hand each other the
things themselves. -/
structure Represents (formats : Formats) (wire : Wire) (world : World) : Prop where
  store : wire.store = world.store
  tables : wire.tables = world.tables
  requests : List.Forall₂
    (fun sent request => sent.1 = request ∧ request.message = .ok sent.2)
    wire.requests world.requests
  responses : List.Forall₂ (Resumes formats) wire.responses world.responses
  announced : List.Forall₂ (Hears formats) wire.announced world.announced
  issued : ∀ label, label ∈ wire.issued ↔ label ∈ world.issued
  known : world.tables.labels ⊆ world.issued
  integral : world.tables.Integral
  regular : ∀ event ∈ world.tables.events, event.Regular

end Wire

/-! ## One step -/

/-- What a step can do, it does. -/
theorem World.step_of_transition {world next : World} {action : World.Action}
    (transition : World.Transition world action next) : World.step world action = some next := by
  cases transition with
  | dispatched dispatchable => rw [World.step, if_pos dispatchable]
  | served found unused =>
      simp only [World.step, found]
      exact if_pos unused
  | failed found => simp only [World.step, found]
  | lost found => simp only [World.step, found]
  | received found => simp only [World.step, found]
  | announced found => simp only [World.step, found]
  | executed executed unused =>
      rw [World.step, executed, Option.bind_some]
      exact if_pos unused

/-- A lost answer is a failed request. -/
theorem lose_serve (tables : Tables) (generated : Generated) (request : Request) (error : String) :
    (serve tables generated request).2.lose error = request.fail error := by
  cases request with
  | fetchDevices => rfl
  | createDevice value =>
      simp only [serve]
      split
      · rfl
      · rfl
  | deleteDevice id => rfl
  | fetchLabels => rfl
  | createLabel value event =>
      simp only [serve]
      split
      · rfl
      · rfl
  | deleteLabel label => rfl
  | fetchEvents => rfl

/-- A lost response is a failed request. -/
theorem lose_of_reads {formats : Formats} {request : Request}
    {settled : Except String (Option Json)} {response : Response}
    (reads : Reads formats request settled response) (error : String) :
    response.lose error = request.fail error := by
  cases reads with
  | thrown => cases request <;> rfl
  | fetchDevices => rfl
  | createDevice => rfl
  | deleteDevice => rfl
  | fetchLabels => rfl
  | createLabel => rfl
  | deleteLabel => rfl
  | fetchEvents regular => rfl

namespace Wire

section Represented

variable {formats : Formats} {wire : Wire} {world : World}

theorem Represents.unused_iff (represents : Represents formats wire world) (tables : Tables) :
    wire.Unused tables ↔ world.Unused tables := by
  have ids : ∀ id, id ∈ wire.issued.map Label.id ↔ id ∈ world.issued.map Label.id := by
    intro id
    simp only [List.mem_map, represents.issued]
  simp only [Unused, World.Unused, represents.issued, ids]

theorem represents_initial (formats : Formats) (today : Int) :
    Represents formats (initial today) (World.initial today) where
  store := rfl
  tables := rfl
  requests := .nil
  responses := .nil
  announced := .nil
  issued := fun label => Iff.rfl
  known := List.nil_subset _
  integral := Tables.integral_empty
  regular := by
    intro event present
    cases present

/-- Announced events are heard as they are. -/
theorem hears_map {events : List EventRow} (regular : ∀ event ∈ events, event.Regular) :
    List.Forall₂ (Hears formats) (events.map (EventRow.serialize formats)) events := by
  rw [List.forall₂_map_left_iff, List.forall₂_same]
  intro event present
  exact ⟨regular event present, rfl⟩

/-- A request is replied to. -/
theorem Represents.reply (represents : Represents formats wire world) (index : Nat)
    {request : Request} {reply : Reply} {response : Response}
    (resumes : Resumes formats (request, reply) response) {tables : Tables}
    (integral : tables.Integral) (events : tables.events ⊆ world.tables.events)
    {issued issued' : List Label} (same : ∀ label, label ∈ issued ↔ label ∈ issued')
    (known : tables.labels ⊆ issued') :
    Represents formats
      { wire with
        tables := tables
        requests := wire.requests.eraseIdx index
        responses := wire.responses ++ [(request, reply)]
        issued := issued }
      { world with
        tables := tables
        requests := world.requests.eraseIdx index
        responses := world.responses ++ [response]
        issued := issued' } where
  store := represents.store
  tables := rfl
  requests := forall₂_eraseIdx represents.requests index
  responses := List.rel_append represents.responses (.cons resumes .nil)
  announced := represents.announced
  issued := same
  known := known
  integral := integral
  regular := fun event present => represents.regular event (events present)

/-- The server handles a message. -/
theorem Represents.serve (represents : Represents formats wire world) {index : Nat}
    {request : Request} {message : HttpRequest} {database : DatabaseAddr}
    (found : wire.requests[index]? = some (request, message))
    (unused : wire.Unused (call (routes formats) database wire.tables message).1) :
    ∃ actions world', follow World.step world actions = some world' ∧
      Represents formats
        { wire with
          tables := (call (routes formats) database wire.tables message).1
          requests := wire.requests.eraseIdx index
          responses := wire.responses ++
            [(request, .ok (call (routes formats) database wire.tables message).2)]
          issued := wire.issued ++
            (call (routes formats) database wire.tables message).1.labels }
        world' := by
  rcases getElem?_of_forall₂ represents.requests found with ⟨other, waiting, rfl, sent⟩
  rcases exchange formats database represents.integral represents.regular request with
    ⟨own, ownSent, effect, reads⟩
  cases Except.ok.inj (ownSent.symm.trans sent)
  rw [represents.unused_iff] at unused
  rw [represents.tables] at unused ⊢
  rw [effect] at unused ⊢
  have resumes : ∀ answer, Reads formats request (Api.settle
      (call (routes formats) database world.tables message).2) answer →
      Resumes formats (request, .ok (call (routes formats) database world.tables message).2)
        answer := fun _ reads => reads
  have kept : ∀ label, label ∈ wire.issued ++ world.tables.labels ↔ label ∈ world.issued := by
    intro label
    rw [List.mem_append, represents.issued]
    exact or_iff_left_of_imp fun present => represents.known present
  have grown : ∀ label (tables : Tables),
      label ∈ wire.issued ++ tables.labels ↔ label ∈ world.issued ++ tables.labels := by
    intro label tables
    rw [List.mem_append, List.mem_append, represents.issued]
  have served := integral_serve represents.integral (generatedBy database) request
  have events := events_serve world.tables (generatedBy database) request
  cases outcome : database.outcome with
  | handled =>
      rw [outcome] at reads unused
      refine ⟨[.serve index (generatedBy database)], _, ?_,
        represents.reply index (resumes _ reads) served events (fun label => grown label _)
          (List.subset_append_right _ _)⟩
      rw [follow_singleton]
      exact World.step_of_transition (.served waiting unused)
  | undelivered error =>
      rw [outcome] at reads
      refine ⟨[.fail index internalMessage], _, ?_,
        represents.reply index (resumes _ reads) represents.integral (List.Subset.refl _) kept
          represents.known⟩
      rw [follow_singleton]
      exact World.step_of_transition (.failed waiting)
  | failed error =>
      rw [outcome] at reads
      refine ⟨[.fail index (statusMessage error)], _, ?_,
        represents.reply index (resumes _ reads) represents.integral (List.Subset.refl _) kept
          represents.known⟩
      rw [follow_singleton]
      exact World.step_of_transition (.failed waiting)
  | unacknowledged error =>
      rw [outcome] at reads unused
      refine ⟨[.serve index (generatedBy database),
        .lose world.responses.length (statusMessage error)], _, ?_,
        represents.reply index (resumes _ reads) served events (fun label => grown label _)
          (List.subset_append_right _ _)⟩
      have serving := World.step_of_transition
        (@World.Transition.served world index (generatedBy database) request waiting unused)
      rw [follow, serving, Option.bind_some, follow_singleton]
      have lost := World.step_of_transition
        (@World.Transition.lost
          { world with
            tables := (Frontend.serve world.tables (generatedBy database) request).1
            requests := world.requests.eraseIdx index
            responses := world.responses ++
              [(Frontend.serve world.tables (generatedBy database) request).2]
            issued := world.issued ++
              (Frontend.serve world.tables (generatedBy database) request).1.labels }
          world.responses.length (statusMessage error) _ List.getElem?_concat_length)
      rwa [List.set_append_right _ _ (Nat.le_refl _), Nat.sub_self, List.set_cons_zero,
        lose_serve] at lost

/-- Every step on the wire is a run between a page and a backend that hand each
other the things themselves. -/
theorem matches_step (formats : Formats) :
    Matches World.step (Step formats) (Represents formats) := by
  intro wire wire' world represents stepped
  cases stepped with
  | dispatch dispatchable sent =>
      rename_i request message
      rw [represents.store] at dispatchable
      have followed := World.step_of_transition (.dispatched dispatchable)
      exact ⟨[.dispatch request], _, (follow_singleton _ _ _).trans followed,
        { represents with
          store := congrArg (fun store => store.dispatch request) represents.store
          requests := List.rel_append represents.requests (.cons ⟨rfl, sent⟩ .nil) }⟩
  | unsendable dispatchable thrown =>
      rename_i request error
      rcases sendable request with ⟨message, sent⟩
      cases sent.symm.trans thrown
  | serve found unused => exact represents.serve found unused
  | fail found =>
      rename_i index request message error
      rcases getElem?_of_forall₂ represents.requests found with ⟨other, waiting, rfl, sent⟩
      have followed := World.step_of_transition (@World.Transition.failed world index error _ waiting)
      have resumes : Resumes formats (request, .error error) (request.fail error) := Reads.thrown
      exact ⟨[.fail index error], _, (follow_singleton _ _ _).trans followed,
        { represents with
          requests := forall₂_eraseIdx represents.requests index
          responses := List.rel_append represents.responses (.cons resumes .nil) }⟩
  | lose found =>
      rename_i index request reply error
      rcases getElem?_of_forall₂ represents.responses found with ⟨response, waiting, resumes⟩
      have followed := World.step_of_transition (@World.Transition.lost world index error _ waiting)
      have lost : Resumes formats (request, .error error) (response.lose error) := by
        rw [lose_of_reads resumes]
        exact Reads.thrown
      exact ⟨[.lose index error], _, (follow_singleton _ _ _).trans followed,
        { represents with responses := forall₂_set represents.responses index lost }⟩
  | receive found resumes =>
      rename_i index answer response
      rcases getElem?_of_forall₂ represents.responses found with ⟨other, waiting, resumesOther⟩
      cases Reads.unique resumes resumesOther rfl
      have followed := World.step_of_transition (.received waiting)
      exact ⟨[.receive index], _, (follow_singleton _ _ _).trans followed,
        { represents with
          store := congrArg (fun store => store.receive response) represents.store
          responses := forall₂_eraseIdx represents.responses index }⟩
  | announce found hears =>
      rename_i index text event
      rcases getElem?_of_forall₂ represents.announced found with ⟨other, waiting, hearsOther⟩
      have same : event = other := EventRow.serialize_injOn formats hears.1 hearsOther.1
        (hears.2.symm.trans hearsOther.2)
      cases same
      have followed := World.step_of_transition (.announced waiting)
      exact ⟨[.announce index], _, (follow_singleton _ _ _).trans followed,
        { represents with
          store := congrArg (fun store => store.subscribeNewEvent event) represents.store }⟩
  | execute executed unused regular =>
      rename_i statement tables
      rw [represents.tables] at executed
      rw [represents.unused_iff] at unused
      have followed := World.step_of_transition (.executed executed unused)
      refine ⟨[.execute statement], _, (follow_singleton _ _ _).trans followed,
        { represents with
          tables := rfl
          announced := List.rel_append represents.announced (hears_map regular)
          issued := ?_
          known := List.subset_append_right _ _
          integral := integral_execute represents.integral executed
          regular := ?_ }⟩
      · intro label
        rw [List.mem_append, List.mem_append, represents.issued]
      · intro event present
        rcases List.mem_append.mp (events_execute executed present) with old | new
        · exact represents.regular event old
        · exact regular event new

end Represented

/-! ## Every run -/

/-- The bytes of pairs of hexadecimal digits. -/
def bytesOfDigits : List Char → Option Bytes
  | [] => some []
  | high :: low :: digits => do
      let upper ← Hex.toDigit high
      let lower ← Hex.toDigit low
      let bytes ← bytesOfDigits digits
      return UInt8.ofNat (upper * 16 + lower) :: bytes
  | [_] => none

theorem bytesOfDigits_hexDigits (bytes : Bytes) :
    bytesOfDigits (Uuid.hexDigits bytes) = some bytes := by
  induction bytes with
  | nil => rfl
  | cons byte bytes ih =>
      have bound := byte.toNat_lt
      have upper := (@Hex.toDigit_digitChar (byte.toNat / 16) (by omega)).1
      have lower := (@Hex.toDigit_digitChar (byte.toNat % 16) (by omega)).1
      have split : Uuid.hexDigits (byte :: bytes) =
          Nat.digitChar (byte.toNat / 16) :: Nat.digitChar (byte.toNat % 16) ::
            Uuid.hexDigits bytes := rfl
      rw [split, bytesOfDigits, upper, lower, ih]
      simp only [Option.bind_eq_bind, Option.bind_some]
      rw [Nat.div_add_mod' byte.toNat 16, UInt8.ofNat_toNat]
      rfl

/-- Formats of digits. -/
def digitFormats : Formats where
  parseUuid text :=
    (bytesOfDigits (text.toList.filter (· ≠ '-'))).bind fun bytes =>
      if sixteen : bytes.length = 16 then some ⟨bytes, sixteen⟩ else none
  parseUuid_toString := by
    intro id
    have digits : (toString id).toList.filter (· ≠ '-') = Uuid.hexDigits id.bytes := by
      rw [← Uuid.filter_toChars id]
      exact congrArg (List.filter _) String.toList_ofList
    rw [digits, bytesOfDigits_hexDigits, Option.bind_some, dif_pos id.length_bytes]
  dateTime instant :=
    String.ofList (List.replicate (Nat.pair (Encodable.encode instant.secs) instant.nsecs) '1')
  dateTime_injOn := by
    intro left _ right _ same
    have lengths := congrArg List.length (String.ofList_injective same)
    rw [List.length_replicate, List.length_replicate, Nat.pair_eq_pair] at lengths
    cases left
    cases right
    rw [DateTime.mk.injEq]
    exact ⟨Encodable.encode_injective lengths.1, lengths.2⟩
  display _ := ""
  displayMailbox _ := ""

end Wire

end Bug.Frontend
