import Bug.Audio.Handler
import Bug.Db.Device
import Bug.Transition.Guarded

/-!
# The audio server over whole runs

The server keeps one audio handler for each client address and asks the database
for the device of an unknown address that announces itself.  Datagrams, replies
of the database, the stop signal and the work of the handlers come in any order,
except that the server takes nothing but the reply while a lookup is pending.
-/

namespace Bug

open Bug.Db
open Bug.Encoding
open Bug.Transition

inductive SocketAddr where
  | v4 (ip : UInt32) (port : UInt16)
  | v6 (ip : BitVec 128) (port : UInt16) (flowinfo scopeId : UInt32)
  deriving DecidableEq

/-- A datagram and where it came from. -/
structure UdpStream where
  buf : Bytes
  clientAddr : SocketAddr

/-- A started audio handler and the messages that it has not yet taken. -/
structure HandlerActor where
  handler : AudioHandler
  mailbox : List Bytes

def HandlerActor.doSend (actor : HandlerActor) (buf : Bytes) : HandlerActor :=
  { actor with mailbox := actor.mailbox ++ [buf] }

structure AudioServer where
  wavDirectory : PathBuf
  /-- The handler of an address, by its position among the started ones. -/
  writers : AList fun _ : SocketAddr => Nat
  /-- The handlers in the order in which they were started. -/
  handlers : List HandlerActor
  /-- The address and the format whose lookup the actor waits for. -/
  waiting : Option (SocketAddr × Spec)
  /-- Set by `ctx.stop()`. -/
  stopping : Bool

namespace AudioServer

/-- What the server does: messages to its handlers, lookups, answers to clients
and handlers started; and what its handlers do. -/
inductive Output where
  | doSend (writer : Nat) (buf : Bytes)
  | select (secret : UInt64)
  | write (response : Bytes) (clientAddr : SocketAddr)
  | start (clientAddr : SocketAddr) (writer : Nat)
  | effect (writer : Nat) (effect : Effect)

def new (wavDirectory : PathBuf) : AudioServer where
  wavDirectory := wavDirectory
  writers := ∅
  handlers := []
  waiting := none
  stopping := false

def doSend (server : AudioServer) (writer : Nat) (buf : Bytes) : AudioServer :=
  { server with handlers := server.handlers.modify writer (·.doSend buf) }

/-- Start a handler and bind it to the address. -/
def insert (server : AudioServer) (clientAddr : SocketAddr) (writer : AudioHandler) :
    AudioServer :=
  { server with
    writers := server.writers.insert clientAddr server.handlers.length
    handlers := server.handlers ++ [⟨writer, []⟩] }

def newHandler (clientAddr : SocketAddr) (spec : Spec) (device : DeviceReply)
    (server : AudioServer) : AudioServer × List Output :=
  match device with
  | .ok (.ok device) =>
      (server.insert clientAddr (AudioHandler.new server.wavDirectory spec device.id),
        [.start clientAddr server.handlers.length])
  | .ok (.error _) => (server, [])
  | .error _ => (server, [])

/-- The request for a client's format. -/
def handshake : Bytes :=
  Audio.codec.encode (.handshake : Audio F32)

/-- The stream handler on one datagram. -/
def handle (server : AudioServer) (packet : UdpStream) : AudioServer × List Output :=
  match server.writers.lookup packet.clientAddr with
  | some writer => (server.doSend writer packet.buf, [.doSend writer packet.buf])
  | none =>
      match Audio.codec.deserialize (α := Audio F32) packet.buf with
      | some (.spec secret spec) =>
          ({ server with waiting := some (packet.clientAddr, spec) }, [.select secret])
      | some _ => (server, [.write handshake packet.clientAddr])
      | none => (server, [])

/-- The continuation of a lookup. -/
def resume (server : AudioServer) (device : DeviceReply) : Option (AudioServer × List Output) :=
  server.waiting.map fun (clientAddr, spec) =>
    newHandler clientAddr spec device { server with waiting := none }

/-- A handler takes the oldest message of its mailbox. -/
def work (server : AudioServer) (writer : Nat) (hound : Hound) :
    Option (AudioServer × List Output) :=
  match server.handlers[writer]? with
  | some ⟨handler, buf :: mailbox⟩ =>
      let (handler, effects) := handler.handle ⟨buf, hound⟩
      some ({ server with handlers := server.handlers.set writer ⟨handler, mailbox⟩ },
        effects.map (.effect writer))
  | _ => none

inductive Input where
  | udpStream (packet : UdpStream)
  /-- The reply to the pending lookup. -/
  | reply (device : DeviceReply)
  | signal
  /-- The turn of a handler, with the outcomes its message meets. -/
  | work (writer : Nat) (hound : Hound)

/-- The server and its handlers: `wait` keeps everything but the reply back during
a lookup, and a stopping server takes nothing more. -/
def serve : GuardedReaction AudioServer Input Output
  | server, .udpStream packet =>
      if server.waiting = none ∧ server.stopping = false then some (server.handle packet) else none
  | server, .reply device => server.resume device
  | server, .signal =>
      if server.waiting = none ∧ server.stopping = false then
        some ({ server with stopping := true }, [])
      else
        none
  | server, .work writer hound => server.work writer hound

/-- Everything that one input can do. -/
inductive Served (server : AudioServer) : Input → AudioServer → List Output → Prop
  | forwarded {packet : UdpStream} {writer : Nat} : server.waiting = none →
      server.writers.lookup packet.clientAddr = some writer →
      Served server (.udpStream packet) (server.doSend writer packet.buf)
        [.doSend writer packet.buf]
  | announced {packet : UdpStream} {secret : UInt64} {spec : Spec} :
      server.writers.lookup packet.clientAddr = none →
      Audio.codec.deserialize (α := Audio F32) packet.buf = some (.spec secret spec) →
      Served server (.udpStream packet)
        { server with waiting := some (packet.clientAddr, spec) } [.select secret]
  | unannounced {packet : UdpStream} {outputs : List Output} : server.waiting = none →
      (∀ output ∈ outputs, output = .write handshake packet.clientAddr) →
      Served server (.udpStream packet) server outputs
  | resolved {clientAddr : SocketAddr} {spec : Spec} {device : Device} :
      server.waiting = some (clientAddr, spec) →
      Served server (.reply (.ok (.ok device)))
        ({ server with waiting := none }.insert clientAddr
          (AudioHandler.new server.wavDirectory spec device.id))
        [.start clientAddr server.handlers.length]
  | unresolved {device : DeviceReply} : Served server (.reply device)
      { server with waiting := none } []
  | signal : server.waiting = none → Served server .signal { server with stopping := true } []
  | worked {writer : Nat} {hound : Hound} {handler : AudioHandler} {buf : Bytes}
      {mailbox : List Bytes} : server.handlers[writer]? = some ⟨handler, buf :: mailbox⟩ →
      Served server (.work writer hound)
        { server with
          handlers := server.handlers.set writer ⟨(handler.handle ⟨buf, hound⟩).1, mailbox⟩ }
        ((handler.handle ⟨buf, hound⟩).2.map (.effect writer))

theorem served_of_serve {server next : AudioServer} {input : Input} {outputs : List Output}
    (served : server.serve input = some (next, outputs)) : Served server input next outputs := by
  cases input with
  | udpStream packet =>
      simp only [serve] at served
      split at served
      · rename_i ready
        simp only [handle, Option.some.injEq] at served
        split at served
        · rename_i writer known
          cases served
          exact .forwarded ready.1 known
        · rename_i unknown
          split at served
          · rename_i secret spec decoded
            cases served
            exact .announced unknown decoded
          · cases served
            exact .unannounced ready.1 fun output member => List.mem_singleton.mp member
          · cases served
            exact .unannounced ready.1 (List.forall_mem_nil _)
      · cases served
  | reply device =>
      simp only [serve, resume] at served
      rcases Option.map_eq_some_iff.mp served with ⟨⟨clientAddr, spec⟩, pending, handled⟩
      rcases device with error | (error | device)
      · cases handled
        exact .unresolved
      · cases handled
        exact .unresolved
      · cases handled
        exact .resolved pending
  | signal =>
      simp only [serve] at served
      split at served
      · rename_i ready
        cases served
        exact .signal ready.1
      · cases served
  | work writer hound =>
      simp only [serve, work] at served
      split at served
      · rename_i handler buf mailbox found
        cases served
        exact .worked found
      · cases served

/-! ## Handlers keep what they were started with -/

/-- The handler at a position serves the given format and device. -/
def Serves (server : AudioServer) (writer : Nat) (spec : Spec) (deviceId : Uuid) : Prop :=
  ∃ actor, server.handlers[writer]? = some actor ∧ actor.handler.spec = spec ∧
    actor.handler.deviceId = deviceId

section Step

variable {server next : AudioServer} {input : Input} {sent : List Output}

theorem Serves.doSend {writer : Nat} {spec : Spec} {deviceId : Uuid}
    (serves : server.Serves writer spec deviceId) (other : Nat) (buf : Bytes) :
    (server.doSend other buf).Serves writer spec deviceId := by
  rcases serves with ⟨actor, found, specEq, deviceEq⟩
  by_cases same : other = writer
  · subst same
    refine ⟨actor.doSend buf, ?_, specEq, deviceEq⟩
    simp [AudioServer.doSend, found]
  · refine ⟨actor, ?_, specEq, deviceEq⟩
    simp [AudioServer.doSend, same, found]

/-- A started handler keeps its format and its device. -/
theorem Serves.step {writer : Nat} {spec : Spec} {deviceId : Uuid}
    (serves : server.Serves writer spec deviceId) (step : Served server input next sent) :
    next.Serves writer spec deviceId := by
  cases step with
  | forwarded ready known => exact serves.doSend _ _
  | announced unknown decoded => exact serves
  | unannounced ready answered => exact serves
  | resolved pending =>
      rcases serves with ⟨actor, found, kept⟩
      refine ⟨actor, ?_, kept⟩
      have inside := (List.getElem?_eq_some_iff.mp found).1
      exact (List.getElem?_append_left inside).trans found
  | unresolved => exact serves
  | signal ready => exact serves
  | @worked other hound handler buf mailbox found =>
      rcases serves with ⟨actor, here, specEq, deviceEq⟩
      by_cases same : other = writer
      · subst same
        cases here.symm.trans found
        have inside := (List.getElem?_eq_some_iff.mp found).1
        have keeps := (AudioHandler.handlerStep_handle handler ⟨buf, hound⟩).keeps
        exact ⟨_, List.getElem?_set_self inside, keeps.1.trans specEq, keeps.2.trans deviceEq⟩
      · exact ⟨actor, (List.getElem?_set_ne same).trans here, specEq, deviceEq⟩

end Step

/-! ## Authenticated addresses -/

/-- The inputs that the server itself takes. -/
def Input.isOwn : Input → Bool
  | work _ _ => false
  | _ => true

/-- The server looked up the secret that this address announced with the format,
and the reply was the device. -/
def Authenticated (inputs : List Input) (outputs : List Output) (clientAddr : SocketAddr)
    (spec : Spec) (deviceId : Uuid) : Prop :=
  ∃ buf secret device,
    [.udpStream ⟨buf, clientAddr⟩, .reply (.ok (.ok device))] <:+: inputs.filter Input.isOwn ∧
      Audio.codec.deserialize (α := Audio F32) buf = some (.spec secret spec) ∧
      .select secret ∈ outputs ∧ device.id = deviceId

/-- The lookup that the server waits for. -/
def Pending (inputs : List Input) (outputs : List Output) (clientAddr : SocketAddr)
    (spec : Spec) : Prop :=
  ∃ front buf secret,
    inputs.filter Input.isOwn = front ++ [.udpStream ⟨buf, clientAddr⟩] ∧
      Audio.codec.deserialize (α := Audio F32) buf = some (.spec secret spec) ∧
      .select secret ∈ outputs

section Lookups

variable {inputs : List Input} {outputs sent : List Output} {clientAddr : SocketAddr}
  {spec : Spec} {deviceId : Uuid}

theorem Authenticated.mono (authenticated : Authenticated inputs outputs clientAddr spec deviceId)
    (input : Input) (sent : List Output) :
    Authenticated (inputs ++ [input]) (outputs ++ sent) clientAddr spec deviceId := by
  rcases authenticated with ⟨buf, secret, device, inside, decoded, selected, deviceEq⟩
  refine ⟨buf, secret, device, ?_, decoded, List.mem_append_left _ selected, deviceEq⟩
  rw [List.filter_append]
  exact inside.trans (List.prefix_append _ _).isInfix

/-- A turn of a handler leaves the lookup pending. -/
theorem Pending.work (pending : Pending inputs outputs clientAddr spec) (writer : Nat)
    (hound : Hound) (sent : List Output) :
    Pending (inputs ++ [.work writer hound]) (outputs ++ sent) clientAddr spec := by
  rcases pending with ⟨front, buf, secret, last, decoded, selected⟩
  refine ⟨front, buf, secret, ?_, decoded, List.mem_append_left _ selected⟩
  rw [List.filter_append, last]
  exact List.append_nil _

theorem Pending.resolved (pending : Pending inputs outputs clientAddr spec) (device : Device)
    (sent : List Output) :
    Authenticated (inputs ++ [.reply (.ok (.ok device))]) (outputs ++ sent) clientAddr spec
      device.id := by
  rcases pending with ⟨front, buf, secret, last, decoded, selected⟩
  refine ⟨buf, secret, device, ?_, decoded, List.mem_append_left _ selected, rfl⟩
  rw [List.filter_append, last, List.append_assoc]
  exact (List.suffix_append front _).isInfix

end Lookups

/-! ## Bindings -/

/-- The address that a handler was started for. -/
def Output.startedFor : Output → Option SocketAddr
  | start clientAddr _ => some clientAddr
  | _ => none

/-- What the inputs so far say about a server and its outputs. -/
structure Binds (server : AudioServer) (inputs : List Input) (outputs : List Output) : Prop where
  waiting : ∀ clientAddr spec, server.waiting = some (clientAddr, spec) →
    server.writers.lookup clientAddr = none ∧ Pending inputs outputs clientAddr spec
  bound : ∀ clientAddr writer, server.writers.lookup clientAddr = some writer →
    ∃ spec deviceId, server.Serves writer spec deviceId ∧
      Authenticated inputs outputs clientAddr spec deviceId
  once : (outputs.filterMap Output.startedFor).Nodup
  started : ∀ clientAddr ∈ outputs.filterMap Output.startedFor, clientAddr ∈ server.writers
  count : server.handlers.length = (outputs.filterMap Output.startedFor).length

theorem binds_new (wavDirectory : PathBuf) : Binds (new wavDirectory) [] [] := by
  constructor
  · intro clientAddr spec pending
    cases pending
  · exact Table.forall_empty _
  · exact List.nodup_nil
  · intro clientAddr member
    cases member
  · rfl

section BindsStep

variable {server next : AudioServer} {inputs : List Input} {input : Input}
  {outputs sent : List Output}

/-- A step that starts no handler leaves every binding in place. -/
theorem Binds.of_writers_eq (binds : Binds server inputs outputs)
    (step : Served server input next sent) (writersEq : next.writers = server.writers)
    (lengthEq : next.handlers.length = server.handlers.length)
    (silent : sent.filterMap Output.startedFor = [])
    (waiting : ∀ clientAddr spec, next.waiting = some (clientAddr, spec) →
      next.writers.lookup clientAddr = none ∧
        Pending (inputs ++ [input]) (outputs ++ sent) clientAddr spec) :
    Binds next (inputs ++ [input]) (outputs ++ sent) := by
  have startedEq : (outputs ++ sent).filterMap Output.startedFor =
      outputs.filterMap Output.startedFor := by
    rw [List.filterMap_append, silent, List.append_nil]
  constructor
  · exact waiting
  · intro clientAddr writer known
    rw [writersEq] at known
    rcases binds.bound clientAddr writer known with ⟨spec, deviceId, serves, authenticated⟩
    exact ⟨spec, deviceId, serves.step step, authenticated.mono input sent⟩
  · rw [startedEq]
    exact binds.once
  · rw [startedEq, writersEq]
    exact binds.started
  · rw [startedEq, lengthEq]
    exact binds.count

/-- The reply that resolves a lookup binds an address that had no handler. -/
theorem Binds.resolved (binds : Binds server inputs outputs) {clientAddr : SocketAddr}
    {spec : Spec} {device : Device} (pending : server.waiting = some (clientAddr, spec)) :
    Binds
      ({ server with waiting := none }.insert clientAddr
        (AudioHandler.new server.wavDirectory spec device.id))
      (inputs ++ [.reply (.ok (.ok device))])
      (outputs ++ [.start clientAddr server.handlers.length]) := by
  rcases binds.waiting clientAddr spec pending with ⟨unknown, asked⟩
  have unbound : clientAddr ∉ server.writers := AList.lookup_eq_none.mp unknown
  have startedEq :
      (outputs ++ [Output.start clientAddr server.handlers.length]).filterMap
          Output.startedFor =
        outputs.filterMap Output.startedFor ++ [clientAddr] := by
    rw [List.filterMap_append]
    rfl
  constructor
  · intro other otherSpec stillPending
    cases stillPending
  · apply Table.forall_insert
    · intro other writer known
      rcases binds.bound other writer known with ⟨otherSpec, deviceId, serves, authenticated⟩
      exact ⟨otherSpec, deviceId, serves.step (.resolved pending), authenticated.mono _ _⟩
    · refine ⟨spec, device.id, ?_, asked.resolved device _⟩
      exact ⟨_, List.getElem?_concat_length, rfl, rfl⟩
  · rw [startedEq]
    apply List.Nodup.append binds.once (List.nodup_singleton _)
    rw [List.disjoint_singleton]
    exact fun member => unbound (binds.started clientAddr member)
  · intro other member
    rw [startedEq] at member
    rw [insert, AList.mem_insert]
    rcases List.mem_append.mp member with earlier | now
    · exact Or.inr (binds.started other earlier)
    · exact Or.inl (List.mem_singleton.mp now)
  · rw [startedEq, List.length_append, ← binds.count]
    exact List.length_append

theorem Binds.step (binds : Binds server inputs outputs) (step : Served server input next sent) :
    Binds next (inputs ++ [input]) (outputs ++ sent) := by
  cases step with
  | forwarded ready known =>
      apply binds.of_writers_eq (.forwarded ready known) rfl (List.length_modify _ _ _) rfl
      intro clientAddr spec pending
      cases ready.symm.trans pending
  | @announced packet secret spec unknown decoded =>
      apply binds.of_writers_eq (.announced unknown decoded) rfl rfl rfl
      intro clientAddr otherSpec pending
      cases pending
      refine ⟨unknown, inputs.filter Input.isOwn, packet.buf, secret, ?_, decoded, ?_⟩
      · rw [List.filter_append]
        rfl
      · exact List.mem_append_right _ List.mem_cons_self
  | unannounced ready answered =>
      apply binds.of_writers_eq (.unannounced ready answered) rfl rfl
      · rw [List.filterMap_eq_nil_iff]
        intro output member
        rw [answered output member]
        rfl
      · intro clientAddr spec pending
        cases ready.symm.trans pending
  | resolved pending => exact binds.resolved pending
  | unresolved =>
      apply binds.of_writers_eq .unresolved rfl rfl rfl
      intro clientAddr spec pending
      cases pending
  | signal ready =>
      apply binds.of_writers_eq (.signal ready) rfl rfl rfl
      intro clientAddr spec pending
      cases ready.symm.trans pending
  | @worked writer hound handler buf mailbox found =>
      apply binds.of_writers_eq (.worked found) rfl List.length_set
      · rw [List.filterMap_map, List.filterMap_eq_nil_iff]
        intro effect member
        rfl
      · intro clientAddr spec pending
        rcases binds.waiting clientAddr spec pending with ⟨unknown, asked⟩
        exact ⟨unknown, asked.work writer hound _⟩

end BindsStep

theorem binds_run {wavDirectory : PathBuf} {inputs : List Input} {final : AudioServer}
    {outputs : List Output}
    (reached : guardedRun serve (new wavDirectory) inputs = some (final, outputs)) :
    Binds final inputs outputs :=
  guardedRun_invariant Binds (binds_new wavDirectory)
    (fun _ _ _ _ _ _ binds served => binds.step (served_of_serve served)) reached

/-- A bound address stays bound to its handler. -/
theorem Binds.lookup_eq {server next : AudioServer} {inputs : List Input} {input : Input}
    {outputs sent : List Output} (binds : Binds server inputs outputs)
    (step : Served server input next sent) {clientAddr : SocketAddr} {writer : Nat}
    (known : server.writers.lookup clientAddr = some writer) :
    next.writers.lookup clientAddr = some writer := by
  cases step with
  | @resolved other spec device pending =>
      have different : clientAddr ≠ other := by
        rintro rfl
        cases known.symm.trans (binds.waiting clientAddr spec pending).1
      exact (AList.lookup_insert_ne different).trans known
  | _ => exact known

/-- Over every run of the server and its handlers: a datagram is forwarded only
to a handler whose format and device were announced from its address and resolved
by the database; every handler was started for another address; and a bound
address keeps its handler, its format and its device. -/
theorem handlers_authenticated (wavDirectory : PathBuf) (inputs : List Input)
    (final : AudioServer) (outputs : List Output)
    (reached : guardedRun serve (new wavDirectory) inputs = some (final, outputs)) :
    (∀ input next sent writer buf, final.serve input = some (next, sent) →
        .doSend writer buf ∈ sent →
        ∃ clientAddr spec deviceId, input = .udpStream ⟨buf, clientAddr⟩ ∧
          final.Serves writer spec deviceId ∧
          Authenticated inputs outputs clientAddr spec deviceId) ∧
      (outputs.filterMap Output.startedFor).Nodup ∧
      final.handlers.length = (outputs.filterMap Output.startedFor).length ∧
      ∀ clientAddr writer, final.writers.lookup clientAddr = some writer →
        ∃ spec deviceId, final.Serves writer spec deviceId ∧
          ∀ more last sent, guardedRun serve final more = some (last, sent) →
            last.writers.lookup clientAddr = some writer ∧ last.Serves writer spec deviceId := by
  have binds := binds_run reached
  refine ⟨?_, binds.once, binds.count, ?_⟩
  · intro input next sent writer buf served member
    cases served_of_serve served with
    | @forwarded packet other ready known =>
        cases List.mem_singleton.mp member
        rcases binds.bound _ _ known with ⟨spec, deviceId, serves, authenticated⟩
        exact ⟨packet.clientAddr, spec, deviceId, rfl, serves, authenticated⟩
    | announced unknown decoded => cases List.mem_singleton.mp member
    | unannounced ready answered => cases answered _ member
    | resolved pending => cases List.mem_singleton.mp member
    | unresolved => cases member
    | signal ready => cases member
    | worked found =>
        rcases List.mem_map.mp member with ⟨effect, -, equal⟩
        cases equal
  · intro clientAddr writer known
    rcases binds.bound clientAddr writer known with ⟨spec, deviceId, serves, -⟩
    refine ⟨spec, deviceId, serves, ?_⟩
    intro more last sent continued
    have kept := guardedRun_invariant
      (fun server past answers => Binds server (inputs ++ past) (outputs ++ answers) ∧
        server.writers.lookup clientAddr = some writer ∧ server.Serves writer spec deviceId)
      (by simpa only [List.append_nil] using ⟨binds, known, serves⟩)
      (by
        rintro server past answers input next now ⟨bindsNow, knownNow, servesNow⟩ served
        have step := served_of_serve served
        rw [← List.append_assoc, ← List.append_assoc]
        exact ⟨bindsNow.step step, bindsNow.lookup_eq step knownNow, servesNow.step step⟩)
      continued
    exact kept.2

/-- A client announces itself, and the database knows it. -/
def announcement (client : SocketAddr) : List Input :=
  [.udpStream ⟨Audio.codec.encode (.spec 1 ⟨1, 44100, 16, .i16⟩ : Audio Int16), client⟩,
    .reply (.ok (.ok ⟨.ofNat 1, "desk", ""⟩))]

/-- The announced client is served under its device from then on. -/
theorem handlers_authenticated_desk :
    ∃ final outputs,
      guardedRun serve (new ["wav"]) (announcement (.v4 2130706433 3003)) =
          some (final, outputs) ∧
        final.writers.lookup (.v4 2130706433 3003) = some 0 ∧
        ∀ more last sent, guardedRun serve final more = some (last, sent) →
          last.writers.lookup (.v4 2130706433 3003) = some 0 := by
  have computed : (guardedRun serve (new ["wav"]) (announcement (.v4 2130706433 3003))).map
      (fun result => result.1.writers.lookup (.v4 2130706433 3003)) = some (some 0) := by
    decide +kernel
  rcases Option.map_eq_some_iff.mp computed with ⟨⟨final, outputs⟩, reached, known⟩
  refine ⟨final, outputs, reached, known, ?_⟩
  intro more last sent continued
  rcases (handlers_authenticated _ _ _ _ reached).2.2.2 _ _ known with ⟨spec, deviceId, -, kept⟩
  exact (kept more last sent continued).1

end AudioServer

end Bug
