import Bug.Audio.Loudness

/-!
# Several channels

A stream of several channels interleaves their samples, one frame after the
other.  The gate looks at single samples: where it opens depends on the channel
that gets loud first, and its release time, which is a number of frames, passes
in as many samples.
-/

namespace Bug

open Bug.Transition

namespace NoiseGate

open AudioSink (Call)

variable {S : Type}

/-! ## Transmissions -/

/-- Collect the positions of the recorded samples up to the end of each
transmission. -/
def collect : Reaction (List Nat) (Nat × Call S) (List Nat)
  | current, (index, .record _) => (current ++ [index], [])
  | current, (_, .endOfTransmission) => ([], [current])

/-- The positions of the samples of each transmission, the unfinished one last. -/
def transmissions (calls : List (Nat × Call S)) : List (List Nat) :=
  (run collect [] calls).2 ++ [(run collect [] calls).1]

/-- A transmission of whole frames. -/
def Aligned (channels : Nat) (transmission : List Nat) : Prop :=
  (∀ start ∈ transmission.head?, channels ∣ start) ∧ channels ∣ transmission.length

instance (channels : Nat) (transmission : List Nat) : Decidable (Aligned channels transmission) :=
  inferInstanceAs (Decidable (_ ∧ _))

/-- Among the first positions, windows begin and expire at the first channel
only. -/
def OnFrames (marked : Nat → Bool) (width channels count : Nat) : Prop :=
  ∀ index < count, (Begins marked width index → channels ∣ index) ∧
    (Expires marked width index → channels ∣ index)

theorem onFrames_succ_iff {marked : Nat → Bool} {width channels count : Nat} :
    OnFrames marked width channels (count + 1) ↔
      OnFrames marked width channels count ∧ (Begins marked width count → channels ∣ count) ∧
        (Expires marked width count → channels ∣ count) :=
  Nat.forall_lt_succ_right

/-- What has been collected of a stream up to a position. -/
inductive Collected (marked : Nat → Bool) (width channels count : Nat)
    (finished : List (List Nat)) (current : List Nat) : Prop
  | closed : (¬ ∃ behind ≤ width, age marked count = some behind) → current = [] →
      ((∀ transmission ∈ finished, Aligned channels transmission) ↔
        OnFrames marked (width + 1) channels count) →
      Collected marked width channels count finished current
  | opened {start : Nat} : (∃ behind ≤ width, age marked count = some behind) → start < count →
      current = List.range' start (count - start) →
      ((∀ transmission ∈ finished, Aligned channels transmission) ∧ channels ∣ start ↔
        OnFrames marked (width + 1) channels count) →
      Collected marked width channels count finished current

theorem collected_nil (marked : Nat → Bool) (width channels : Nat) :
    Collected marked width channels 0 [] [] := by
  apply Collected.closed
  · rintro ⟨behind, _, aged⟩
    cases aged
  · rfl
  · apply iff_of_true (List.forall_mem_nil _)
    intro index negative
    exact absurd negative index.not_lt_zero

/-- The calls of samples from a position on. -/
def callsFrom (marked : Nat → Bool) (releaseSampleCount : Nat) (samples : List S) (index : Nat) :
    List (Nat × Call S) :=
  (samples.zipIdx index).flatMap fun entry =>
    (callsAt marked releaseSampleCount entry.1 entry.2).map (entry.2, ·)

theorem callsFrom_cons (marked : Nat → Bool) (releaseSampleCount : Nat) (sample : S)
    (samples : List S) (index : Nat) :
    callsFrom marked releaseSampleCount (sample :: samples) index =
      (callsAt marked releaseSampleCount sample index).map (index, ·) ++
        callsFrom marked releaseSampleCount samples (index + 1) := by
  rw [callsFrom, List.zipIdx_cons, List.flatMap_cons]
  rfl

section Step

variable {marked : Nat → Bool} {width channels count : Nat}

theorem aligned_range'_iff {start : Nat} (before : start < count) :
    Aligned channels (List.range' start (count - start)) ↔
      channels ∣ start ∧ channels ∣ count := by
  have head : (List.range' start (count - start)).head? = some start := by
    rw [List.head?_range', if_neg (Nat.sub_ne_zero_of_lt before)]
  simp only [Aligned, head, List.length_range', Option.mem_some_iff, forall_eq']
  apply and_congr_right
  intro aligned
  exact (Nat.dvd_sub_iff_left before.le aligned)

variable {finished : List (List Nat)} {current : List Nat}

theorem not_marked_of_not_within (outside : ¬ Within marked width count) :
    ¬ marked count = true := by
  intro isMarked
  exact outside ((within_iff_marked_or _ _ _).mpr (Or.inl isMarked))

/-- A recorded sample begins a transmission or goes on with it. -/
theorem Collected.record (collected : Collected marked width channels count finished current)
    (within : Within marked width count) :
    Collected marked width channels (count + 1) finished (current ++ [count]) := by
  have open_ := (within_iff _ _ _).mp within
  have kept := not_expires_of_within within
  cases collected with
  | closed shut empty aligned =>
      have isMarked : marked count = true := by
        rcases (within_iff_marked_or _ _ _).mp within with here | ⟨behind, close, aged⟩
        · exact here
        · exact absurd ⟨behind, close.le, aged⟩ shut
      have begins := (begins_iff _ _ _).mpr ⟨isMarked, shut⟩
      refine .opened open_ (Nat.lt_succ_self count) ?_ ?_
      · rw [empty, Nat.add_sub_cancel_left]
        rfl
      · rw [onFrames_succ_iff, aligned]
        simp [begins, kept]
  | @opened start wasOpen before range aligned =>
      have goesOn : ¬ Begins marked (width + 1) count :=
        fun begins => ((begins_iff _ _ _).mp begins).2 wasOpen
      refine .opened open_ (Nat.lt_succ_of_lt before) ?_ ?_
      · rw [range, Nat.succ_sub before.le, List.range'_concat]
        congr 2
        omega
      · rw [onFrames_succ_iff, aligned]
        simp [goesOn, kept]

/-- The end of a transmission. -/
theorem Collected.finish (collected : Collected marked width channels count finished current)
    (expires : Expires marked (width + 1) count) :
    Collected marked width channels (count + 1) (finished ++ [current]) [] := by
  have outside : ¬ Within marked width count := fun within => not_expires_of_within within expires
  have isOpen := (expires_iff_of_not_within outside).mp expires
  have quiet : ¬ Begins marked (width + 1) count :=
    fun begins => not_marked_of_not_within outside begins.1
  cases collected with
  | closed shut empty aligned => exact absurd isOpen shut
  | @opened start wasOpen before range aligned =>
      refine .closed (mt (within_iff _ _ _).mpr outside) rfl ?_
      rw [onFrames_succ_iff, ← aligned, List.forall_mem_append, List.forall_mem_singleton, range,
        aligned_range'_iff before]
      simp [quiet, expires, and_assoc]

/-- A sample between two transmissions. -/
theorem Collected.skip (collected : Collected marked width channels count finished current)
    (outside : ¬ Within marked width count) (kept : ¬ Expires marked (width + 1) count) :
    Collected marked width channels (count + 1) finished current := by
  have quiet : ¬ Begins marked (width + 1) count :=
    fun begins => not_marked_of_not_within outside begins.1
  cases collected with
  | closed shut empty aligned =>
      refine .closed (mt (within_iff _ _ _).mpr outside) empty ?_
      rw [onFrames_succ_iff, aligned]
      simp [quiet, kept]
  | opened wasOpen before range aligned =>
      exact absurd ((expires_iff_of_not_within outside).mpr wasOpen) kept

/-- The calls of one position. -/
theorem Collected.callsAt {release : Nat}
    (collected : Collected marked (release + 1) channels count finished current) (sample : S) :
    Collected marked (release + 1) channels (count + 1)
      (finished ++ (run collect current ((callsAt marked release sample count).map (count, ·))).2)
      (run collect current ((callsAt marked release sample count).map (count, ·))).1 := by
  simp only [NoiseGate.callsAt]
  by_cases within : Within marked (release + 1) count
  · rw [if_pos within, if_neg (not_expires_of_within within)]
    simp only [List.append_nil, List.map_cons, List.map_nil, run_singleton, collect]
    exact collected.record within
  · rw [if_neg within]
    by_cases expires : Expires marked (release + 2) count
    · rw [if_pos expires]
      exact collected.finish expires
    · rw [if_neg expires]
      simp only [List.append_nil, List.map_nil, run_nil]
      exact collected.skip within expires

theorem Collected.callsFrom {release : Nat} (samples : List S)
    (collected : Collected marked (release + 1) channels count finished current) :
    Collected marked (release + 1) channels (count + samples.length)
      (finished ++ (run collect current (callsFrom marked release samples count)).2)
      (run collect current (callsFrom marked release samples count)).1 := by
  induction samples generalizing count finished current with
  | nil =>
      rw [NoiseGate.callsFrom, List.zipIdx_nil, List.flatMap_nil, run_nil, List.append_nil]
      exact collected
  | cons sample samples ih =>
      have rest := ih (collected.callsAt sample)
      rw [callsFrom_cons, run_append, List.length_cons, ← List.append_assoc]
      rw [Nat.add_right_comm] at rest
      exact rest

/-- With a stream of whole frames the unfinished transmission ends on a frame. -/
theorem Collected.aligned_iff (collected : Collected marked width channels count finished current)
    (whole : channels ∣ count) :
    (∀ transmission ∈ finished ++ [current], Aligned channels transmission) ↔
      OnFrames marked (width + 1) channels count := by
  rw [List.forall_mem_append, List.forall_mem_singleton]
  cases collected with
  | closed shut empty aligned =>
      rw [← aligned, empty]
      exact and_iff_left ⟨nofun, Nat.dvd_zero _⟩
  | opened wasOpen before range aligned =>
      rw [← aligned, range, aligned_range'_iff before, and_iff_left whole]

end Step

/-! ## Whole streams -/

section Stream

variable (belowThreshold : S → S → Bool)

/-- The calls that a stream makes on the sink, each with the position of its
sample. -/
def positionedCalls (openThreshold : S) (releaseSampleCount : Nat) (slices : List (List S)) :
    List (Nat × Call S) :=
  (run (positioned (processSample belowThreshold)) (new openThreshold releaseSampleCount, 0)
    slices.flatten).2

theorem positionedCalls_snd (openThreshold : S) (releaseSampleCount : Nat)
    (slices : List (List S)) :
    (positionedCalls belowThreshold openThreshold releaseSampleCount slices).map Prod.snd =
      (run (process belowThreshold) (new openThreshold releaseSampleCount) slices).2 := by
  rw [positionedCalls, run_positioned_snd, process, run_run]

theorem positionedCalls_eq (openThreshold : S) (releaseSampleCount : Nat)
    (slices : List (List S)) :
    positionedCalls belowThreshold openThreshold releaseSampleCount slices =
      callsFrom (loudAt belowThreshold openThreshold slices.flatten) releaseSampleCount
        slices.flatten 0 := by
  apply run_positioned_eq
  · rfl
  · intro offset sample found
    rw [Nat.zero_add, loudAt, found]
    rfl

/-- Every transmission of a stream of whole frames is made of whole frames exactly
when every loud sample after a release time of quiet ones is one of the first
channel, and so is every sample at which the release time has passed. -/
theorem transmissions_aligned_iff (openThreshold : S) (releaseSampleCount channels : Nat)
    (slices : List (List S)) (whole : channels ∣ slices.flatten.length) :
    let calls := positionedCalls belowThreshold openThreshold releaseSampleCount slices
    let loud := loudAt belowThreshold openThreshold slices.flatten
    calls.map Prod.snd =
        (run (process belowThreshold) (new openThreshold releaseSampleCount) slices).2 ∧
      ((∀ transmission ∈ transmissions calls, Aligned channels transmission) ↔
        ∀ index < slices.flatten.length,
          (Begins loud (releaseSampleCount + 2) index → channels ∣ index) ∧
            (Expires loud (releaseSampleCount + 2) index → channels ∣ index)) := by
  constructor
  · exact positionedCalls_snd belowThreshold openThreshold releaseSampleCount slices
  · have start := collected_nil (loudAt belowThreshold openThreshold slices.flatten)
      (releaseSampleCount + 1) channels
    have collected := start.callsFrom slices.flatten
    rw [Nat.zero_add] at collected
    rw [positionedCalls_eq]
    exact collected.aligned_iff whole

end Stream

/-- A gate for signed samples, in a build without overflow checks. -/
def isBelow (sample threshold : Int16) : Bool :=
  belowThreshold false sample threshold = some true

/-- A stereo stream that gets loud on its first channel. -/
theorem transmissions_aligned_left :
    2 ∣ [[200, 0, 0, 0]].flatten.length ∧
      ∀ transmission ∈ transmissions (positionedCalls isBelow 100 0 [[200, 0, 0, 0]]),
        Aligned 2 transmission := by
  have whole : 2 ∣ [[200, 0, 0, 0]].flatten.length := by decide
  constructor
  · exact whole
  · exact (transmissions_aligned_iff isBelow 100 0 2 [[200, 0, 0, 0]] whole).2.mpr (by decide)

/-- One that gets loud on its second channel swaps the two. -/
theorem not_transmissions_aligned_right :
    2 ∣ [[0, 200, 0, 0, 0, 0]].flatten.length ∧
      ¬ ∀ transmission ∈ transmissions (positionedCalls isBelow 100 0 [[0, 200, 0, 0, 0, 0]]),
        Aligned 2 transmission := by
  decide

end NoiseGate

/-! ## The release time -/

/-- `release_sample_count` of the client: the release time in frames. -/
def AudioClient.releaseSampleCount (sampleRate : Nat) (releaseTime : ℚ) : Nat :=
  (round (sampleRate * releaseTime)).toNat

namespace NoiseGate

open AudioSink (Call)

variable {S : Type}

/-- As many samples, up to the one at a position, are below the threshold. -/
def QuietBehind (belowThreshold : S → S → Bool) (openThreshold : S) (samples : List S)
    (count index : Nat) : Prop :=
  ∀ offset < count, offset ≤ index ∧
    ∃ sample, samples[index - offset]? = some sample ∧ belowThreshold sample openThreshold = true

/-- The positions at which a stream ends a transmission. -/
theorem mem_callsFrom_iff {marked : Nat → Bool} {release : Nat} {samples : List S}
    {index start : Nat} :
    (index, Call.endOfTransmission) ∈ callsFrom marked release samples start ↔
      (start ≤ index ∧ index < start + samples.length) ∧ Expires marked (release + 2) index := by
  induction samples generalizing start with
  | nil =>
      simp only [callsFrom, List.zipIdx_nil, List.flatMap_nil, List.not_mem_nil, List.length_nil,
        false_iff]
      omega
  | cons sample samples ih =>
      have here : (index, Call.endOfTransmission) ∈
          (callsAt marked release sample start).map (start, ·) ↔
            index = start ∧ Expires marked (release + 2) index := by
        rw [callsAt]
        constructor
        · intro member
          rcases List.mem_map.mp member with ⟨call, isCall, equal⟩
          cases equal
          split at isCall <;> split at isCall <;> simp_all
        · rintro ⟨rfl, expires⟩
          simp [expires]
      rw [callsFrom_cons, List.mem_append, here, ih, List.length_cons]
      constructor
      · rintro (⟨rfl, expires⟩ | ⟨inside, expires⟩)
        · exact ⟨by omega, expires⟩
        · exact ⟨by omega, expires⟩
      · rintro ⟨inside, expires⟩
        rcases Nat.eq_or_lt_of_le inside.1 with first | later
        · exact Or.inl ⟨first.symm, expires⟩
        · exact Or.inr ⟨by omega, expires⟩

section Release

variable (belowThreshold : S → S → Bool)

theorem loudAt_eq {openThreshold : S} {samples : List S} {index : Nat} {sample : S}
    (found : samples[index]? = some sample) :
    loudAt belowThreshold openThreshold samples index = !belowThreshold sample openThreshold := by
  rw [loudAt, found]
  rfl

/-- Where a window expires, exactly its width of samples is quiet. -/
theorem quietBehind_iff_of_expires {openThreshold : S} {samples : List S} {width count index : Nat}
    (inside : index < samples.length)
    (expires : Expires (loudAt belowThreshold openThreshold samples) width index) :
    QuietBehind belowThreshold openThreshold samples count index ↔ count ≤ width := by
  rcases expires with ⟨mark, before, isLoud, quiet, distance⟩
  constructor
  · intro allQuiet
    by_contra more
    rcases allQuiet width (Nat.lt_of_not_le more) with ⟨-, sample, found, below⟩
    have isMark : index - width = mark := by omega
    rw [isMark] at found
    rw [loudAt_eq belowThreshold found, below] at isLoud
    cases isLoud
  · intro close offset behind
    have here : index - offset < samples.length := by omega
    refine ⟨by omega, samples[index - offset], List.getElem?_eq_getElem here, ?_⟩
    have silent := quiet (index - offset) (Nat.sub_le _ _) (by omega)
    rw [loudAt_eq belowThreshold (List.getElem?_eq_getElem here)] at silent
    exact Bool.not_eq_eq_eq_not.mp silent

/-- A transmission ends only after the release time, in frames of any number of
channels, exactly when so many samples are no more than the gate's release count
and two, or when no transmission ends at all. -/
theorem released_after_frames_iff (openThreshold : S) (sampleRate : Nat) (releaseTime : ℚ)
    (release channels : Nat) (product : sampleRate * releaseTime = release)
    (slices : List (List S)) :
    (positionedCalls belowThreshold openThreshold
        (AudioClient.releaseSampleCount sampleRate releaseTime) slices).map Prod.snd =
      (run (process belowThreshold)
        (new openThreshold (AudioClient.releaseSampleCount sampleRate releaseTime)) slices).2 ∧
      ((∀ index, (index, .endOfTransmission) ∈ positionedCalls belowThreshold openThreshold
            (AudioClient.releaseSampleCount sampleRate releaseTime) slices →
          QuietBehind belowThreshold openThreshold slices.flatten (release * channels) index) ↔
        release * channels ≤ release + 2 ∨
          ∀ index < slices.flatten.length,
            ¬ Expires (loudAt belowThreshold openThreshold slices.flatten) (release + 2)
              index) := by
  have count : AudioClient.releaseSampleCount sampleRate releaseTime = release := by
    rw [AudioClient.releaseSampleCount, product, round_natCast, Int.toNat_natCast]
  rw [count]
  constructor
  · exact positionedCalls_snd belowThreshold openThreshold release slices
  · simp only [positionedCalls_eq, mem_callsFrom_iff, Nat.zero_le, true_and, Nat.zero_add]
    constructor
    · intro released
      by_cases few : release * channels ≤ release + 2
      · exact Or.inl few
      · apply Or.inr
        intro index inside expires
        apply few
        exact (quietBehind_iff_of_expires belowThreshold inside expires).mp
          (released index ⟨inside, expires⟩)
    · rintro (few | never) index ⟨inside, expires⟩
      · exact (quietBehind_iff_of_expires belowThreshold inside expires).mpr few
      · exact absurd expires (never index inside)

end Release

/-- One second at three frames a second, on one channel. -/
theorem released_after_frames_mono :
    (3 : Nat) * (1 : ℚ) = 3 ∧ ∀ index,
      (index, .endOfTransmission) ∈ positionedCalls isBelow 100
          (AudioClient.releaseSampleCount 3 1) [[200, 0, 0, 0, 0, 0]] →
        QuietBehind isBelow 100 [[200, 0, 0, 0, 0, 0]].flatten (3 * 1) index := by
  have product : (3 : Nat) * (1 : ℚ) = (3 : Nat) := by norm_num
  constructor
  · exact product
  · exact (released_after_frames_iff isBelow 100 3 1 3 1 product [[200, 0, 0, 0, 0, 0]]).2.mpr
      (Or.inl (by decide))

/-- On two channels the gate closes a frame too early. -/
theorem not_released_after_frames_stereo :
    ¬ ∀ index,
      (index, .endOfTransmission) ∈ positionedCalls isBelow 100
          (AudioClient.releaseSampleCount 3 1) [[200, 0, 0, 0, 0, 0]] →
        QuietBehind isBelow 100 [[200, 0, 0, 0, 0, 0]].flatten (3 * 2) index := by
  have count : AudioClient.releaseSampleCount 3 1 = 3 := by
    rw [AudioClient.releaseSampleCount]
    norm_num
    rfl
  have ended : (5, .endOfTransmission) ∈ positionedCalls isBelow 100 3 [[200, 0, 0, 0, 0, 0]] := by
    rw [positionedCalls_eq, mem_callsFrom_iff]
    decide
  rw [count]
  intro released
  rcases (released 5 ended 5 (by decide)).2 with ⟨sample, found, below⟩
  cases found
  exact absurd below (by decide)

end NoiseGate

end Bug
