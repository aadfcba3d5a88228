import Bug.Firmware.BugEvent
import Mathlib.Algebra.Order.Floor.Ring
import Mathlib.Data.Rat.Floor
import Mathlib.Tactic.Linarith
import Mathlib.Tactic.NormNum

/-!
# The access point and the wall clock

The network stack reports every change of the connection status through a
callback.  After the first successful connection the firmware asks a time server
for the Unix time and keeps it as the base of all timestamps; events carry
milliseconds of uptime, which the encoder adds to that base.
-/

namespace Bug.Firmware

open Bug.Encoding

/-- The type `nsapi_connection_status_t`. -/
inductive ConnectionStatus where
  | localUp
  | globalUp
  | disconnected
  | connecting
  | errorUnsupported
  deriving DecidableEq

structure Wifi where
  connectionStatus : ConnectionStatus
  ntpSecs : Int32
  deriving DecidableEq

namespace Wifi

/-- The access point after its constructor. -/
def new : Wifi where
  connectionStatus := .disconnected
  ntpSecs := 0

def connected (wifi : Wifi) : Bool :=
  wifi.connectionStatus = .localUp ∨ wifi.connectionStatus = .globalUp

def statusChangeCallback (wifi : Wifi) (connectionStatus : ConnectionStatus) : Wifi :=
  { wifi with connectionStatus := connectionStatus }

/-- `sync_timestamp`, given the answer of the time server and what `time` reads
after `set_time`. -/
def syncTimestamp (wifi : Wifi) (timestamp time : Int) : Wifi × Int :=
  if 0 < wifi.ntpSecs then
    (wifi, 0)
  else if timestamp < 0 then
    (wifi, timestamp)
  else
    ({ wifi with ntpSecs := Int32.ofInt time }, 0)

theorem ntpSecs_syncTimestamp {wifi : Wifi} {timestamp time : Int} (unset : ¬ 0 < wifi.ntpSecs)
    (answered : 0 ≤ timestamp) (nonneg : 0 ≤ time) (fits : time < 2 ^ 31) :
    (wifi.syncTimestamp timestamp time).1.ntpSecs.toInt = time := by
  rw [syncTimestamp, if_neg unset, if_neg (by omega)]
  apply Int32.toInt_ofInt_of_le
  · omega
  · omega

end Wifi

/-! ## Instants on the wire -/

/-- The instant of a transmitted timestamp, in seconds since the Unix epoch. -/
def instant (secs : Int64) (nsecs : UInt32) : ℚ :=
  secs.toInt + nsecs.toNat / 1000000000

/-- The true time at an uptime in milliseconds, given the true time at the
moment of synchronisation. -/
def trueTime (atSync : ℚ) (sync uptime : Nat) : ℚ :=
  atSync + (uptime - sync) / 1000

/-- Both transmitted instants lie within one second of the true ones. -/
def Accurate (atSync : ℚ) (sync : Nat) (range : TimeRange) (event : Event) : Prop :=
  |instant event.startedAtSecs event.startedAtNsecs -
      trueTime atSync sync range.startedAt.toNat| ≤ 1 ∧
    |instant event.endedAtSecs event.endedAtNsecs -
      trueTime atSync sync range.endedAt.toNat| ≤ 1

namespace BugEventCodec

theorem toInt_timestampSecs (ntpSecs : Int32) (time : UInt64) :
    (timestampSecs ntpSecs time).toInt64.toInt = ntpSecs.toInt + (time.toNat / 1000 : Nat) := by
  have low := ntpSecs.le_toInt
  have high := ntpSecs.toInt_lt
  have bound := time.toNat_lt
  rw [toInt64_timestampSecs]
  apply Int64.toInt_ofInt_of_le
  · omega
  · omega

/-- The encoder adds the whole uptime to its base. -/
theorem instant_timestamp (ntpSecs : Int32) (time : UInt64) :
    instant (timestampSecs ntpSecs time).toInt64 (timestampNsecs time) =
      ntpSecs.toInt + (time.toNat : ℚ) / 1000 := by
  have parts : (time.toNat : ℚ) = 1000 * (time.toNat / 1000 : Nat) + (time.toNat % 1000 : Nat) := by
    exact_mod_cast (Nat.div_add_mod time.toNat 1000).symm
  rw [instant, toInt_timestampSecs, toNat_timestampNsecs, parts, Int.cast_add, Int.cast_natCast,
    Nat.cast_mul]
  ring

/-- An encoded instant is off by the uptime at synchronisation, less the fraction
of a second that the base lacks. -/
theorem instant_sub_trueTime {ntpSecs : Int32} {atSync : ℚ} (base : ntpSecs.toInt = ⌊atSync⌋)
    (sync : Nat) (time : UInt64) :
    instant (timestampSecs ntpSecs time).toInt64 (timestampNsecs time) -
        trueTime atSync sync time.toNat = sync / 1000 - Int.fract atSync := by
  rw [instant_timestamp, trueTime, base, Int.fract]
  ring

/-- An event is accurate exactly when the clock was synchronised early enough,
whatever the times in it. -/
theorem accurate_event_iff {ntpSecs : Int32} {atSync : ℚ} (base : ntpSecs.toInt = ⌊atSync⌋)
    (codec : BugEventCodec) (kind : BugEventKind) (range : TimeRange) (sync : Nat) :
    Accurate atSync sync range (codec.event kind range ntpSecs) ↔
      (sync : ℚ) ≤ 1000 + 1000 * Int.fract atSync := by
  have below := Int.fract_lt_one atSync
  have nonneg : (0 : ℚ) ≤ sync := Nat.cast_nonneg sync
  simp only [Accurate, event, instant_sub_trueTime base, and_self, abs_le]
  constructor
  · intro bounds
    linarith [bounds.2]
  · intro early
    constructor
    · linarith
    · linarith

/-- Of a clock synchronised at the uptime `sync`, every event encoded later
carries instants within one second of the true ones exactly when the uptime at
synchronisation was at most one second and the fraction of the true time that
the base lacks. -/
theorem accurate_iff_synced_early (wifi : Wifi) (unset : ¬ 0 < wifi.ntpSecs) (timestamp : Int)
    (answered : 0 ≤ timestamp) (atSync : ℚ) (nonneg : 0 ≤ atSync) (fits : atSync < 2 ^ 31)
    (sync : Nat) (codec : BugEventCodec) (memory : Nat → UInt8) (kind : BugEventKind)
    (range : TimeRange) :
    (wifi.syncTimestamp timestamp ⌊atSync⌋).2 = 0 ∧
      ∃ event, EventCodec.decode (codec.encode memory kind range
          (wifi.syncTimestamp timestamp ⌊atSync⌋).1.ntpSecs).written = (.ok (some event), []) ∧
        (Accurate atSync sync range event ↔ (sync : ℚ) ≤ 1000 + 1000 * Int.fract atSync) := by
  have low : 0 ≤ ⌊atSync⌋ := Int.floor_nonneg.mpr nonneg
  have high : ⌊atSync⌋ < 2 ^ 31 := Int.floor_lt.mpr (by exact_mod_cast fits)
  have base := Wifi.ntpSecs_syncTimestamp unset answered low high
  constructor
  · rw [Wifi.syncTimestamp, if_neg unset, if_neg (not_lt.mpr answered)]
  · exact ⟨_, decode_written_encode codec memory kind range _,
      accurate_event_iff base codec kind range sync⟩

/-- A clock synchronised half a second after the start, at half past a true
second, keeps every event accurate. -/
theorem accurate_iff_synced_early_half :
    ∃ event, EventCodec.decode (BugEventCodec.encode ⟨7⟩ (fun _ => 0) (.luminosity ⟨1, 2⟩)
          ⟨6000, 7250⟩
          (Wifi.new.syncTimestamp 1600000000 ⌊(3200000001 / 2 : ℚ)⌋).1.ntpSecs).written =
        (.ok (some event), []) ∧ Accurate (3200000001 / 2) 500 ⟨6000, 7250⟩ event := by
  rcases (accurate_iff_synced_early Wifi.new (by decide) 1600000000 (by decide) (3200000001 / 2)
    (by norm_num) (by norm_num) 500 ⟨7⟩ (fun _ => 0) (.luminosity ⟨1, 2⟩) ⟨6000, 7250⟩).2 with
    ⟨event, decoded, accurate⟩
  have nonneg := Int.fract_nonneg (3200000001 / 2 : ℚ)
  exact ⟨event, decoded, accurate.mpr (by push_cast; linarith)⟩

/-- Five seconds of uptime before the synchronisation put every event five
seconds into the future. -/
theorem inaccurate_synced_late :
    ∃ event, EventCodec.decode (BugEventCodec.encode ⟨7⟩ (fun _ => 0) (.luminosity ⟨1, 2⟩)
          ⟨6000, 7250⟩ (Wifi.new.syncTimestamp 1600000000 1600000000).1.ntpSecs).written =
        (.ok (some event), []) ∧ ¬ Accurate 1600000000 5000 ⟨6000, 7250⟩ event := by
  have base : (Wifi.new.syncTimestamp 1600000000 1600000000).1.ntpSecs.toInt =
      ⌊(1600000000 : ℚ)⌋ := by
    rw [show (1600000000 : ℚ) = ((1600000000 : Int) : ℚ) by norm_num, Int.floor_intCast]
    rfl
  have whole : Int.fract (1600000000 : ℚ) = 0 := by
    exact_mod_cast Int.fract_natCast (R := ℚ) 1600000000
  refine ⟨_, decode_written_encode ⟨7⟩ (fun _ => 0) _ _ _, ?_⟩
  rw [accurate_event_iff base, whole]
  norm_num

end BugEventCodec

end Bug.Firmware
