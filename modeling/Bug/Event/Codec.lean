import Bug.Event.Message
import Bug.Transition.Run

/-!
# The event codec on a TCP stream

`EventCodec` reads one event from the front of the receive buffer and then
clears the whole buffer.  `FramedRead` appends every read to the buffer and
decodes until the buffer is exhausted, so what a connection yields depends on
how TCP cut the byte stream into reads.
-/

namespace Bug

open Bug.Encoding
open Bug.Transition

namespace EventCodec

inductive Error where
  | io
  | codec
  | unhandled
  deriving DecidableEq

/-- The decoded item and the buffer left behind. -/
def decode (buf : Bytes) : Except Error (Option Event) × Bytes :=
  if !buf.isEmpty then
    match Event.codec.deserialize buf with
    | some event => (.ok (some event), [])
    | none => (.error .codec, [])
  else
    (.ok none, buf)

/-- The event is written behind whatever the buffer already holds. -/
def encode (data : Event) (buf : Bytes) : Bytes :=
  buf ++ Event.codec.encode data

@[simp]
theorem encode_nil (data : Event) : encode data [] = Event.codec.encode data :=
  rfl

theorem encode_ne_nil (data : Event) : encode data [] ≠ [] :=
  data.encode_ne_nil

@[simp]
theorem decode_nil : decode [] = (.ok none, []) :=
  rfl

/-- The one item that a nonempty buffer is read as. -/
def item (buf : Bytes) : Except Error Event :=
  match Event.codec.deserialize buf with
  | some event => .ok event
  | none => .error .codec

theorem decode_of_ne_nil {buf : Bytes} (nonempty : buf ≠ []) :
    decode buf = ((item buf).map some, []) := by
  rw [decode, if_pos (by simpa using nonempty), item]
  cases Event.codec.deserialize buf <;> rfl

theorem item_eq_ok_iff {buf : Bytes} {event : Event} :
    item buf = .ok event ↔ ∃ rest, buf = encode event [] ++ rest := by
  rw [encode_nil, ← Event.codec.deserialize_eq_some_iff, item]
  cases Event.codec.deserialize buf <;> simp

theorem decode_encode_append (event : Event) (rest : Bytes) :
    decode (encode event [] ++ rest) = (.ok (some event), []) := by
  have nonempty : encode event [] ++ rest ≠ [] := by
    simp [event.encode_ne_nil]
  rw [decode_of_ne_nil nonempty, item_eq_ok_iff.mpr ⟨rest, rfl⟩]
  rfl

theorem decode_strictPrefix {event : Event} {front missing : Bytes}
    (split : encode event [] = front ++ missing) (started : front ≠ []) (cut : missing ≠ []) :
    decode front = (.error .codec, []) := by
  rw [decode_of_ne_nil started, item, Event.codec.deserialize_strictPrefix split cut]
  rfl

/-- The event wire format is an exact prefix code: an event is recovered in
front of any continuation, and every cut inside its encoding is an error. -/
theorem decode_event_exact (event : Event) (rest : Bytes) :
    decode (encode event [] ++ rest) = (.ok (some event), []) ∧
      ∀ front missing, encode event [] = front ++ missing → front ≠ [] → missing ≠ [] →
        (decode front).1 = .error .codec := by
  constructor
  · exact decode_encode_append event rest
  · intro front missing split started cut
    rw [decode_strictPrefix split started cut]

/-- A sound event read from a longer buffer, and the same event cut inside the
length of its file name. -/
theorem decode_event_exact_sound :
    decode (encode ⟨1, 2, 3, 4, 5, .sound ⟨"a", by decide⟩⟩ [] ++ [7]) =
        (.ok (some ⟨1, 2, 3, 4, 5, .sound ⟨"a", by decide⟩⟩), []) ∧
      (decode ((encode ⟨1, 2, 3, 4, 5, .sound ⟨"a", by decide⟩⟩ []).take 40)).1 =
        .error .codec := by
  have recovered := decode_event_exact ⟨1, 2, 3, 4, 5, .sound ⟨"a", by decide⟩⟩
  constructor
  · exact (recovered [7]).1
  · exact (recovered []).2 _ _ (List.take_append_drop 40 _).symm (by decide) (by decide)

end EventCodec

namespace FramedRead

open EventCodec

/-- Decode until the decoder returns no item. -/
def drain (buf : Bytes) : List (Except Error Event) × Bytes :=
  match _decoded : decode buf with
  | (.ok none, rest) => ([], rest)
  | (.ok (some event), rest) => (.ok event :: (drain rest).1, (drain rest).2)
  | (.error error, rest) => (.error error :: (drain rest).1, (drain rest).2)
termination_by buf.length
decreasing_by
  all_goals
    have nonempty : buf ≠ [] := by
      rintro rfl
      simp at _decoded
    rw [decode_of_ne_nil nonempty] at _decoded
    rw [← (Prod.mk.inj _decoded).2]
    exact List.length_pos_iff.mpr nonempty

/-- One read of the socket: the bytes are appended to the buffer and the items
they complete are yielded. -/
def react : Reaction Bytes Bytes (Except Error Event)
  | buf, bytes => ((drain (buf ++ bytes)).2, (drain (buf ++ bytes)).1)

@[simp]
theorem drain_nil : drain [] = ([], []) := by
  rw [drain]
  rfl

theorem drain_of_ne_nil {buf : Bytes} (nonempty : buf ≠ []) : drain buf = ([item buf], []) := by
  rw [drain, decode_of_ne_nil nonempty]
  cases item buf <;> simp [Except.map]

/-- Every read is decoded on its own: nothing is carried over to the next. -/
theorem run_reads (reads : List Bytes) (nonempty : ∀ bytes ∈ reads, bytes ≠ []) :
    run react [] reads = ([], reads.map item) := by
  induction reads with
  | nil => rfl
  | cons bytes reads ih =>
      have head : react [] bytes = ([], [item bytes]) := by
        rw [react, List.nil_append, drain_of_ne_nil (nonempty bytes List.mem_cons_self)]
      rw [run_cons, head, ih fun other member => nonempty other (List.mem_cons_of_mem _ member)]
      rfl

/-- Reads that decode to the events hold at least the bytes of the events. -/
theorem length_flatten_le_of_items {reads : List Bytes} {events : List Event}
    (items : reads.map item = events.map .ok) :
    (events.map fun event => encode event []).flatten.length ≤ reads.flatten.length := by
  induction reads generalizing events with
  | nil =>
      cases events with
      | nil => rfl
      | cons event events => cases items
  | cons bytes reads ih =>
      cases events with
      | nil => cases items
      | cons event events =>
          obtain ⟨head, tail⟩ := List.cons.inj items
          obtain ⟨rest, rfl⟩ := item_eq_ok_iff.mp head
          have tailLe := ih tail
          simp only [List.map_cons, List.flatten_cons, List.length_append]
          omega

theorem eq_encodings_of_items {reads : List Bytes} {events : List Event}
    (cut : reads.flatten = (events.map fun event => encode event []).flatten)
    (items : reads.map item = events.map .ok) :
    reads = events.map fun event => encode event [] := by
  induction reads generalizing events with
  | nil =>
      cases events with
      | nil => rfl
      | cons event events => cases items
  | cons bytes reads ih =>
      cases events with
      | nil => cases items
      | cons event events =>
          obtain ⟨head, tail⟩ := List.cons.inj items
          obtain ⟨rest, rfl⟩ := item_eq_ok_iff.mp head
          have tailLe := length_flatten_le_of_items tail
          rw [List.map_cons, List.flatten_cons, List.flatten_cons, List.append_assoc] at cut
          have cutTail := List.append_cancel_left cut
          have lengths := congrArg List.length cutTail
          rw [List.length_append] at lengths
          obtain rfl : rest = [] := List.length_eq_zero_iff.mp (by omega)
          rw [List.map_cons, List.append_nil, ih cutTail tail]

/-- A connection yields exactly the events sent over it when, and only when,
every read holds exactly one encoded event. -/
theorem yields_events_iff (events : List Event) (reads : List Bytes)
    (nonempty : ∀ bytes ∈ reads, bytes ≠ [])
    (cut : reads.flatten = (events.map fun event => encode event []).flatten) :
    (run react [] reads).2 = events.map .ok ↔ reads = events.map fun event => encode event [] := by
  rw [run_reads reads nonempty]
  constructor
  · exact eq_encodings_of_items cut
  · rintro rfl
    rw [List.map_map]
    apply List.map_congr_left
    intro event _
    exact item_eq_ok_iff.mpr ⟨[], by simp⟩

/-- Two events in two reads that respect their boundary. -/
theorem yields_events_whole :
    (run react [] [encode ⟨1, 2, 3, 4, 5, .luminosity 6 7⟩ [],
        encode ⟨1, 8, 9, 10, 11, .luminosity 7 6⟩ []]).2 =
      [.ok ⟨1, 2, 3, 4, 5, .luminosity 6 7⟩, .ok ⟨1, 8, 9, 10, 11, .luminosity 7 6⟩] :=
  (yields_events_iff
    [⟨1, 2, 3, 4, 5, .luminosity 6 7⟩, ⟨1, 8, 9, 10, 11, .luminosity 7 6⟩] _
    (by simp [Event.encode_ne_nil]) rfl).mpr rfl

/-- One event that arrives in two reads is yielded as two errors. -/
theorem not_yields_split_event :
    ([[1], (encode ⟨1, 2, 3, 4, 5, .luminosity 6 7⟩ []).drop 1] : List Bytes).flatten =
        ([⟨1, 2, 3, 4, 5, .luminosity 6 7⟩].map fun event => encode event []).flatten ∧
      (run react [] [[1], (encode ⟨1, 2, 3, 4, 5, .luminosity 6 7⟩ []).drop 1]).2 ≠
        [.ok ⟨1, 2, 3, 4, 5, .luminosity 6 7⟩] := by
  constructor
  · rfl
  · rw [run_reads _ (by decide)]
    intro yielded
    cases yielded

end FramedRead

end Bug
