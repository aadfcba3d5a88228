import Bug.Firmware.Wifi
import Bug.Transition.Labelled

/-!
# Recovering the access point

Any thread may report an error of the network stack.  The errors are counted by
their codes with atomic increments; a thread that finds more than three device
errors takes three of them back with a weak compare and exchange, which may fail,
and if it succeeds, queues another connection.  A connection that fails is
queued again after a while, and one call that finds no memory in the event queue
is dropped.
-/

namespace Bug.Firmware

open Bug.Transition

namespace Wifi

/-- `ns_err_to_idx`. -/
def nsErrToIdx (error : Int32) : Fin 21 :=
  if known : -3020 ≤ error.toInt ∧ error.toInt ≤ -3001 then
    ⟨(-error.toInt - 3001).toNat, by omega⟩
  else
    20

/-- `NSAPI_ERROR_DEVICE_ERROR`. -/
def deviceError : Int32 := -3012

/-- `DEVICE_ERROR_COUNT_THRETHOLD`. -/
def deviceErrorCountThreshold : UInt32 := 3

/-- `connect`, given what the driver and the time server answer. -/
def connect (wifi : Wifi) (joined timestamp time : Int) : Wifi × Int :=
  if joined ≠ 0 then (wifi, joined) else wifi.syncTimestamp timestamp time

end Wifi

/-- The access point, the calls in its event queue, and the threads that report
errors to it. -/
structure Recovery where
  wifi : Wifi
  errorCount : Fin 21 → UInt32
  /-- The counts that reporting threads are about to take from. -/
  exchanging : List UInt32
  /-- The `connect_callback`s that are ready to be called. -/
  queued : Nat
  /-- The `connect_callback`s that wait for their interval. -/
  delayed : Nat
  /-- Every reported error. -/
  reported : List Int32
  /-- How many exchanges succeeded and failed. -/
  succeeded : Nat
  failed : Nat
  /-- How many `connect_callback`s ended without another one. -/
  ended : Nat
  /-- How many calls found no memory. -/
  dropped : Nat

namespace Recovery

/-- The constructor queues the first connection. -/
def new : Recovery where
  wifi := .new
  errorCount _ := 0
  exchanging := []
  queued := 1
  delayed := 0
  reported := []
  succeeded := 0
  failed := 0
  ended := 0
  dropped := 0

inductive Action where
  /-- `report_error` up to its increment. -/
  | report (error : Int32)
  /-- The exchange of a thread, whether it fails for no reason, and whether the
  queue has memory. -/
  | exchange (index : Nat) (spurious allocated : Bool)
  /-- `connect_callback`, what it meets, and whether the queue has memory. -/
  | connect (joined timestamp time : Int) (allocated : Bool)
  /-- The interval of a `connect_callback` ends. -/
  | elapse
  | statusChange (connectionStatus : ConnectionStatus)

/-- The number of device errors. -/
def deviceErrors (recovery : Recovery) : UInt32 :=
  recovery.errorCount (Wifi.nsErrToIdx Wifi.deviceError)

/-- `core_util_atomic_incr_u32` and the test of its result. -/
def report (recovery : Recovery) (error : Int32) : Recovery :=
  let count := recovery.errorCount (Wifi.nsErrToIdx error) + 1
  { recovery with
    errorCount := Function.update recovery.errorCount (Wifi.nsErrToIdx error) count
    exchanging :=
      if error = Wifi.deviceError ∧ Wifi.deviceErrorCountThreshold < count then
        recovery.exchanging ++ [count]
      else
        recovery.exchanging
    reported := recovery.reported ++ [error] }

/-- `core_util_atomic_compare_exchange_weak_u32` and the call behind it. -/
def exchange (recovery : Recovery) (index : Nat) (count : UInt32) (spurious allocated : Bool) :
    Recovery :=
  if recovery.deviceErrors = count ∧ !spurious then
    { recovery with
      errorCount := Function.update recovery.errorCount (Wifi.nsErrToIdx Wifi.deviceError)
        (count - Wifi.deviceErrorCountThreshold)
      exchanging := recovery.exchanging.eraseIdx index
      succeeded := recovery.succeeded + 1
      queued := if allocated then recovery.queued + 1 else recovery.queued
      dropped := if allocated then recovery.dropped else recovery.dropped + 1 }
  else
    { recovery with
      exchanging := recovery.exchanging.eraseIdx index
      failed := recovery.failed + 1 }

/-- A `connect_callback` that was queued. -/
def connectCallback (recovery : Recovery) (joined timestamp time : Int) (allocated : Bool) :
    Recovery :=
  let connected := recovery.wifi.connect joined timestamp time
  let called := { recovery with
    wifi := connected.1
    queued := recovery.queued - 1 }
  if connected.2 < 0 then
    { called with
      delayed := if allocated then recovery.delayed + 1 else recovery.delayed
      dropped := if allocated then recovery.dropped else recovery.dropped + 1 }
  else
    { called with ended := recovery.ended + 1 }

def step : LabelledStep Recovery Action
  | recovery, .report error => some (recovery.report error)
  | recovery, .exchange index spurious allocated =>
      match recovery.exchanging[index]? with
      | some count => some (recovery.exchange index count spurious allocated)
      | none => none
  | recovery, .connect joined timestamp time allocated =>
      if 0 < recovery.queued then
        some (recovery.connectCallback joined timestamp time allocated)
      else
        none
  | recovery, .elapse =>
      if 0 < recovery.delayed then
        some { recovery with
          queued := recovery.queued + 1
          delayed := recovery.delayed - 1 }
      else
        none
  | recovery, .statusChange connectionStatus =>
      some { recovery with wifi := recovery.wifi.statusChangeCallback connectionStatus }

/-- How many reported errors have an index. -/
def reportsAt (recovery : Recovery) (index : Fin 21) : Nat :=
  recovery.reported.countP fun error => Wifi.nsErrToIdx error = index

/-! ## What every step keeps -/

/-- Every connection that was asked for is queued, delayed, ended or dropped. -/
def Conserved (recovery : Recovery) : Prop :=
  recovery.queued + recovery.delayed + recovery.ended + recovery.dropped =
    1 + recovery.succeeded

/-- The counters tell the reported errors, less what was taken back. -/
structure Counted (recovery : Recovery) : Prop where
  others : ∀ index, index ≠ Wifi.nsErrToIdx Wifi.deviceError →
    recovery.errorCount index = UInt32.ofNat (recovery.reportsAt index)
  device : recovery.deviceErrors + 3 * UInt32.ofNat recovery.succeeded =
    UInt32.ofNat (recovery.reportsAt (Wifi.nsErrToIdx Wifi.deviceError))

/-- While the counter has not overflowed, it is exact. -/
structure Exact (recovery : Recovery) : Prop where
  held : ∀ count ∈ recovery.exchanging, 3 < count.toNat
  exact : recovery.deviceErrors.toNat + 3 * recovery.succeeded =
    recovery.reportsAt (Wifi.nsErrToIdx Wifi.deviceError)
  positive : recovery.reportsAt (Wifi.nsErrToIdx Wifi.deviceError) ≠ 0 →
    0 < recovery.deviceErrors.toNat
  bounded : recovery.deviceErrors.toNat ≤ 3 + recovery.exchanging.length + recovery.failed

/-- A device error has an index of its own. -/
theorem nsErrToIdx_eq_device_iff (error : Int32) :
    Wifi.nsErrToIdx error = Wifi.nsErrToIdx Wifi.deviceError ↔ error = Wifi.deviceError := by
  constructor
  · intro same
    apply Int32.toInt_inj.mp
    have code : Wifi.deviceError.toInt = -3012 := by decide
    have index : Wifi.nsErrToIdx Wifi.deviceError = 11 := by decide
    rw [index] at same
    unfold Wifi.nsErrToIdx at same
    split at same
    · have value : (-error.toInt - 3001).toNat = 11 := congrArg Fin.val same
      omega
    · cases same
  · rintro rfl
    rfl

section Reports

variable (recovery : Recovery)

@[simp]
theorem deviceErrors_report (error : Int32) :
    (recovery.report error).deviceErrors =
      if error = Wifi.deviceError then recovery.deviceErrors + 1 else recovery.deviceErrors := by
  unfold deviceErrors report
  by_cases device : error = Wifi.deviceError
  · subst device
    simp
  · have different : Wifi.nsErrToIdx Wifi.deviceError ≠ Wifi.nsErrToIdx error :=
      fun same => device ((nsErrToIdx_eq_device_iff error).mp same.symm)
    rw [if_neg device]
    exact Function.update_of_ne different _ _

@[simp]
theorem reportsAt_report (error : Int32) (index : Fin 21) :
    (recovery.report error).reportsAt index =
      recovery.reportsAt index + if Wifi.nsErrToIdx error = index then 1 else 0 := by
  rw [reportsAt, report, List.countP_append, List.countP_singleton, reportsAt]
  simp

theorem deviceErrors_exchange (index : Nat) {count : UInt32} (spurious allocated : Bool)
    (exchanged : recovery.deviceErrors = count ∧ !spurious) :
    (recovery.exchange index count spurious allocated).deviceErrors = count - 3 := by
  rw [exchange, if_pos exchanged]
  exact Function.update_self (Wifi.nsErrToIdx Wifi.deviceError) _ recovery.errorCount

end Reports

/-! ## The connections -/

theorem conserved_step {recovery next : Recovery} {action : Action} (conserved : recovery.Conserved)
    (stepped : step recovery action = some next) : next.Conserved := by
  unfold Conserved at conserved ⊢
  cases action with
  | report error =>
      cases stepped
      exact conserved
  | exchange index spurious allocated =>
      simp only [step] at stepped
      split at stepped
      · rename_i count held
        cases stepped
        by_cases exchanged : recovery.deviceErrors = count ∧ !spurious
        · cases allocated with
          | true =>
              simp only [exchange, if_pos exchanged, if_true]
              omega
          | false =>
              simp only [exchange, if_pos exchanged, Bool.false_eq_true, if_false]
              omega
        · simp only [exchange, if_neg exchanged]
          exact conserved
      · cases stepped
  | connect joined timestamp time allocated =>
      rcases Option.ite_none_right_eq_some.mp stepped with ⟨queued, ended⟩
      cases ended
      by_cases failing : (recovery.wifi.connect joined timestamp time).2 < 0
      · cases allocated with
        | true =>
            simp only [connectCallback, if_pos failing, if_true]
            omega
        | false =>
            simp only [connectCallback, if_pos failing, Bool.false_eq_true, if_false]
            omega
      · simp only [connectCallback, if_neg failing]
        omega
  | elapse =>
      rcases Option.ite_none_right_eq_some.mp stepped with ⟨delayed, elapsed⟩
      cases elapsed
      simp only
      omega
  | statusChange connectionStatus =>
      cases stepped
      exact conserved

/-! ## The counters -/

theorem counted_step {recovery next : Recovery} {action : Action} (counted : recovery.Counted)
    (stepped : step recovery action = some next) : next.Counted := by
  cases action with
  | report error =>
      cases stepped
      constructor
      · intro index different
        have before := counted.others index different
        rw [reportsAt_report]
        by_cases same : Wifi.nsErrToIdx error = index
        · subst same
          rw [if_pos rfl, UInt32.ofNat_add, ← before]
          exact Function.update_self _ _ recovery.errorCount
        · rw [if_neg same, Nat.add_zero, ← before]
          exact Function.update_of_ne (Ne.symm same) _ _
      · have before := counted.device
        rw [deviceErrors_report, reportsAt_report]
        by_cases device : error = Wifi.deviceError
        · rw [if_pos device, if_pos ((nsErrToIdx_eq_device_iff error).mpr device), UInt32.ofNat_add,
            ← before]
          change recovery.deviceErrors + 1 + 3 * UInt32.ofNat recovery.succeeded = _
          grind
        · have different := fun same => device ((nsErrToIdx_eq_device_iff error).mp same)
          rw [if_neg device, if_neg different]
          exact before
  | exchange index spurious allocated =>
      simp only [step] at stepped
      split at stepped
      · rename_i count held
        cases stepped
        by_cases exchanged : recovery.deviceErrors = count ∧ !spurious
        · have before := counted.device
          have after := deviceErrors_exchange recovery index spurious allocated exchanged
          constructor
          · intro other different
            rw [exchange, if_pos exchanged]
            exact (Function.update_of_ne different _ _).trans (counted.others other different)
          · rw [after]
            rw [exchange, if_pos exchanged]
            change count - 3 + 3 * UInt32.ofNat (recovery.succeeded + 1) = UInt32.ofNat
              (recovery.reportsAt (Wifi.nsErrToIdx Wifi.deviceError))
            rw [← before, exchanged.1, UInt32.ofNat_add]
            grind
        · rw [exchange, if_neg exchanged]
          exact ⟨counted.others, counted.device⟩
      · cases stepped
  | connect joined timestamp time allocated =>
      rcases Option.ite_none_right_eq_some.mp stepped with ⟨queued, ended⟩
      cases ended
      simp only [connectCallback]
      split
      · exact ⟨counted.others, counted.device⟩
      · exact ⟨counted.others, counted.device⟩
  | elapse =>
      rcases Option.ite_none_right_eq_some.mp stepped with ⟨delayed, elapsed⟩
      cases elapsed
      exact ⟨counted.others, counted.device⟩
  | statusChange connectionStatus =>
      cases stepped
      exact ⟨counted.others, counted.device⟩

/-- Reporting only adds to the reports. -/
theorem reportsAt_le_step {recovery next : Recovery} {action : Action}
    (stepped : step recovery action = some next) (index : Fin 21) :
    recovery.reportsAt index ≤ next.reportsAt index := by
  cases action with
  | report error =>
      cases stepped
      rw [reportsAt_report]
      exact Nat.le_add_right _ _
  | exchange place spurious allocated =>
      simp only [step] at stepped
      split at stepped
      · cases stepped
        unfold exchange
        split
        · exact Nat.le_refl _
        · exact Nat.le_refl _
      · cases stepped
  | connect joined timestamp time allocated =>
      rcases Option.ite_none_right_eq_some.mp stepped with ⟨queued, ended⟩
      cases ended
      simp only [connectCallback]
      split
      · exact Nat.le_refl _
      · exact Nat.le_refl _
  | elapse =>
      rcases Option.ite_none_right_eq_some.mp stepped with ⟨delayed, elapsed⟩
      cases elapsed
      exact Nat.le_refl _
  | statusChange connectionStatus =>
      cases stepped
      exact Nat.le_refl _

/-- A device error is counted; above the threshold its thread holds the count. -/
theorem Exact.report {recovery : Recovery} (exact : recovery.Exact)
    (below : (recovery.report Wifi.deviceError).reportsAt (Wifi.nsErrToIdx Wifi.deviceError) <
      2 ^ 32) : (recovery.report Wifi.deviceError).Exact := by
  rw [reportsAt_report, if_pos rfl] at below
  have count := exact.exact
  have one : (recovery.deviceErrors + 1).toNat = recovery.deviceErrors.toNat + 1 := by
    rw [UInt32.toNat_add]
    exact Nat.mod_eq_of_lt (by change recovery.deviceErrors.toNat + 1 < 2 ^ 32; omega)
  have counter : (recovery.report Wifi.deviceError).deviceErrors = recovery.deviceErrors + 1 := by
    rw [deviceErrors_report, if_pos rfl]
  have bounded := exact.bounded
  by_cases above : Wifi.deviceErrorCountThreshold < recovery.deviceErrors + 1
  · have holding : (recovery.report Wifi.deviceError).exchanging =
        recovery.exchanging ++ [recovery.deviceErrors + 1] := if_pos ⟨rfl, above⟩
    have three : 3 < (recovery.deviceErrors + 1).toNat := UInt32.lt_iff_toNat_lt.mp above
    constructor
    · intro held present
      rw [holding] at present
      rcases List.mem_append.mp present with old | new
      · exact exact.held held old
      · rw [List.mem_singleton.mp new]
        exact three
    · rw [counter, reportsAt_report, if_pos rfl, one]
      change _ + 3 * recovery.succeeded = _
      omega
    · intro reported
      rw [counter, one]
      omega
    · rw [counter, one, holding, List.length_append]
      change _ ≤ 3 + (recovery.exchanging.length + 1) + recovery.failed
      omega
  · have holding : (recovery.report Wifi.deviceError).exchanging = recovery.exchanging :=
      if_neg fun possible => above possible.2
    have three : (recovery.deviceErrors + 1).toNat ≤ 3 := Nat.le_of_not_lt fun more =>
      above (UInt32.lt_iff_toNat_lt.mpr more)
    constructor
    · rw [holding]
      exact exact.held
    · rw [counter, reportsAt_report, if_pos rfl, one]
      change _ + 3 * recovery.succeeded = _
      omega
    · intro reported
      rw [counter, one]
      omega
    · rw [counter, holding]
      change _ ≤ 3 + recovery.exchanging.length + recovery.failed
      omega

/-- An exchange takes three device errors back or fails. -/
theorem Exact.exchange {recovery : Recovery} (exact : recovery.Exact) {index : Nat} {count : UInt32}
    (held : recovery.exchanging[index]? = some count) (spurious allocated : Bool) :
    (recovery.exchange index count spurious allocated).Exact := by
  have inside := (List.getElem?_eq_some_iff.mp held).1
  have shorter := List.length_eraseIdx_of_lt inside
  have bounded := exact.bounded
  by_cases exchanged : recovery.deviceErrors = count ∧ !spurious
  · have counter := deviceErrors_exchange recovery index spurious allocated exchanged
    have above := exact.held count (List.mem_of_getElem? held)
    have less : (count - 3).toNat = count.toNat - 3 := UInt32.toNat_sub_of_le _ _
      (UInt32.le_iff_toNat_le.mpr (Nat.le_of_lt above))
    have same : recovery.deviceErrors.toNat = count.toNat := by rw [exchanged.1]
    have total := exact.exact
    constructor
    · intro other present
      rw [Recovery.exchange, if_pos exchanged] at present
      exact exact.held other (List.mem_of_mem_eraseIdx present)
    · rw [counter, less, Recovery.exchange, if_pos exchanged]
      change _ + 3 * (recovery.succeeded + 1) =
        recovery.reportsAt (Wifi.nsErrToIdx Wifi.deviceError)
      omega
    · intro reported
      rw [counter, less]
      omega
    · rw [counter, less, Recovery.exchange, if_pos exchanged]
      change _ ≤ 3 + (recovery.exchanging.eraseIdx index).length + recovery.failed
      omega
  · rw [Recovery.exchange, if_neg exchanged]
    constructor
    · intro other present
      exact exact.held other (List.mem_of_mem_eraseIdx present)
    · exact exact.exact
    · exact exact.positive
    · change recovery.deviceErrors.toNat ≤
        3 + (recovery.exchanging.eraseIdx index).length + (recovery.failed + 1)
      omega

theorem exact_step {recovery next : Recovery} {action : Action}
    (exact : recovery.reportsAt (Wifi.nsErrToIdx Wifi.deviceError) < 2 ^ 32 → recovery.Exact)
    (stepped : step recovery action = some next)
    (below : next.reportsAt (Wifi.nsErrToIdx Wifi.deviceError) < 2 ^ 32) : next.Exact := by
  have before := exact (Nat.lt_of_le_of_lt (reportsAt_le_step stepped _) below)
  cases action with
  | report error =>
      cases stepped
      by_cases device : error = Wifi.deviceError
      · subst device
        exact before.report below
      · have different := fun same => device ((nsErrToIdx_eq_device_iff error).mp same)
        have counter : (recovery.report error).deviceErrors = recovery.deviceErrors := by
          rw [deviceErrors_report, if_neg device]
        have reports : (recovery.report error).reportsAt (Wifi.nsErrToIdx Wifi.deviceError) =
            recovery.reportsAt (Wifi.nsErrToIdx Wifi.deviceError) := by
          rw [reportsAt_report, if_neg different]
          rfl
        have holding : (recovery.report error).exchanging = recovery.exchanging :=
          if_neg fun possible => device possible.1
        constructor
        · rw [holding]
          exact before.held
        · rw [counter, reports]
          exact before.exact
        · rw [counter, reports]
          exact before.positive
        · rw [counter, holding]
          exact before.bounded
  | exchange index spurious allocated =>
      simp only [step] at stepped
      split at stepped
      · rename_i count held
        cases stepped
        exact before.exchange held spurious allocated
      · cases stepped
  | connect joined timestamp time allocated =>
      rcases Option.ite_none_right_eq_some.mp stepped with ⟨queued, ended⟩
      cases ended
      simp only [connectCallback]
      split
      · exact ⟨before.held, before.exact, before.positive, before.bounded⟩
      · exact ⟨before.held, before.exact, before.positive, before.bounded⟩
  | elapse =>
      rcases Option.ite_none_right_eq_some.mp stepped with ⟨delayed, elapsed⟩
      cases elapsed
      exact ⟨before.held, before.exact, before.positive, before.bounded⟩
  | statusChange connectionStatus =>
      cases stepped
      exact ⟨before.held, before.exact, before.positive, before.bounded⟩

/-! ## The clock -/

/-- Connecting again does not move the clock. -/
theorem ntpSecs_step {recovery next : Recovery} {action : Action}
    (synchronized : 0 < recovery.wifi.ntpSecs) (stepped : step recovery action = some next) :
    next.wifi.ntpSecs = recovery.wifi.ntpSecs := by
  cases action with
  | report error =>
      cases stepped
      rfl
  | exchange index spurious allocated =>
      simp only [step] at stepped
      split at stepped
      · cases stepped
        unfold exchange
        split
        · rfl
        · rfl
      · cases stepped
  | connect joined timestamp time allocated =>
      rcases Option.ite_none_right_eq_some.mp stepped with ⟨queued, ended⟩
      cases ended
      have kept : (recovery.wifi.connect joined timestamp time).1 = recovery.wifi := by
        unfold Wifi.connect
        split
        · rfl
        · rw [Wifi.syncTimestamp, if_pos synchronized]
      simp only [connectCallback, kept]
      split
      · rfl
      · rfl
  | elapse =>
      rcases Option.ite_none_right_eq_some.mp stepped with ⟨delayed, elapsed⟩
      cases elapsed
      rfl
  | statusChange connectionStatus =>
      cases stepped
      rfl

theorem ntpSecs_follow {recovery : Recovery} (synchronized : 0 < recovery.wifi.ntpSecs)
    {later : List Action} {final : Recovery} (continued : follow step recovery later = some final) :
    final.wifi.ntpSecs = recovery.wifi.ntpSecs := by
  have preserved : ∀ state action next, state.wifi.ntpSecs = recovery.wifi.ntpSecs →
      step state action = some next → next.wifi.ntpSecs = recovery.wifi.ntpSecs := by
    intro state action next same stepped
    rw [← same] at synchronized ⊢
    exact ntpSecs_step synchronized stepped
  exact @follow_preserves _ _ step (fun state => state.wifi.ntpSecs = recovery.wifi.ntpSecs)
    preserved recovery rfl later final continued

/-! ## Every run -/

/-- However the reporting threads and the event queue interleave, every
connection that was asked for is queued, delayed, ended or dropped, one for the
constructor and one for each successful exchange.  Every counter but that of the
device errors tells its reports, and it tells its reports less three for each
success.  Before it overflows it never falls back to zero, and above three there
is a thread about to exchange or an exchange that failed; where there is neither,
a connection was asked for by every third report after the first.  Once the clock
is synchronised, it stays as it is. -/
theorem reports_accounted {actions : List Action} {recovery : Recovery}
    (reached : follow step new actions = some recovery) :
    recovery.Conserved ∧ recovery.Counted ∧
      (recovery.reportsAt (Wifi.nsErrToIdx Wifi.deviceError) < 2 ^ 32 → recovery.Exact ∧
        (recovery.exchanging = [] → recovery.failed = 0 → recovery.succeeded =
          (recovery.reportsAt (Wifi.nsErrToIdx Wifi.deviceError) - 1) / 3)) ∧
      (0 < recovery.wifi.ntpSecs → ∀ later final, follow step recovery later = some final →
        final.wifi.ntpSecs = recovery.wifi.ntpSecs) := by
  have kept : recovery.Conserved ∧ recovery.Counted ∧
      (recovery.reportsAt (Wifi.nsErrToIdx Wifi.deviceError) < 2 ^ 32 → recovery.Exact) := by
    refine @follow_preserves _ _ step (fun recovery => recovery.Conserved ∧ recovery.Counted ∧
      (recovery.reportsAt (Wifi.nsErrToIdx Wifi.deviceError) < 2 ^ 32 → recovery.Exact))
      ?_ new ?_ actions recovery reached
    · rintro state action next ⟨conserved, counted, exact⟩ stepped
      exact ⟨conserved_step conserved stepped, counted_step counted stepped,
        exact_step exact stepped⟩
    · refine ⟨rfl, ⟨fun _ _ => rfl, rfl⟩, fun _ => ⟨?_, rfl, ?_, ?_⟩⟩
      · intro count present
        cases present
      · intro reported
        exact absurd rfl reported
      · exact Nat.zero_le _
  rcases kept with ⟨conserved, counted, exact⟩
  refine ⟨conserved, counted, ?_, fun synchronized later final => ntpSecs_follow synchronized⟩
  intro below
  have holds := exact below
  refine ⟨holds, ?_⟩
  intro settled unfailed
  have total := holds.exact
  have bounded := holds.bounded
  rw [settled, unfailed] at bounded
  have positive := holds.positive
  simp only [List.length_nil] at bounded
  omega

/-- Two threads find the count above the threshold, and the first exchange fails. -/
theorem reports_accounted_race :
    ∃ recovery,
      follow step new
        [.report Wifi.deviceError, .report Wifi.deviceError, .report (-3001),
          .report Wifi.deviceError, .report Wifi.deviceError, .report Wifi.deviceError,
          .exchange 0 false true, .exchange 0 false true,
          .connect 0 1600000000 1600000000 true] = some recovery ∧
      recovery.Exact ∧ recovery.succeeded = 1 ∧ recovery.failed = 1 ∧
      ∀ later final, follow step recovery later = some final →
        final.wifi.ntpSecs = 1600000000 := by
  have answer : ∃ recovery,
      follow step new
        [.report Wifi.deviceError, .report Wifi.deviceError, .report (-3001),
          .report Wifi.deviceError, .report Wifi.deviceError, .report Wifi.deviceError,
          .exchange 0 false true, .exchange 0 false true,
          .connect 0 1600000000 1600000000 true] = some recovery ∧
      recovery.reportsAt (Wifi.nsErrToIdx Wifi.deviceError) = 5 ∧ recovery.succeeded = 1 ∧
      recovery.failed = 1 ∧ recovery.wifi.ntpSecs = 1600000000 := ⟨_, rfl, rfl, rfl, rfl, rfl⟩
  rcases answer with ⟨recovery, reached, five, succeeded, failed, clock⟩
  rcases reports_accounted reached with ⟨-, -, exact, still⟩
  rw [clock] at still
  exact ⟨recovery, reached, (exact (by rw [five]; decide)).1, succeeded, failed,
    still (by decide)⟩

end Recovery

end Bug.Firmware
