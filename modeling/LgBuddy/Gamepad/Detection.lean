import LgBuddy.Gamepad.Activity

/-!
# LgBuddy — what the gamepad detector reports

The law of an axis, over all sequences of events of all devices.

* `observeAll_own` — the reports for an axis are those of its machine, and nothing overflows;
* `axisStep_cases` — the four things a step can do;
* `noise_is_no_activity`, `reports_are_spaced`, `movement_is_reported` — no report for noise, none
  within the cooldown, and one for every large and quick movement;
* `gamepad_axis_law` — all of it for the registry.
-/

namespace LgBuddy

variable {policy : ActivityPolicy}

/-! ## The registry -/

/-- **Run.** The reports for an axis are what its machine answers to its own samples. -/
theorem ActivityRegistry.observeAll_own (events : List (RawGamepadEvent × Instant)) :
    ∀ registry : ActivityRegistry, ∃ final reports,
      registry.observeAll events = some (final, reports) ∧ reports.length = events.length
        ∧ ∀ deviceId code, reportsOf deviceId code events reports
            = (Mealy.transitions (axisStep registry.policy) (registry.axisState deviceId code)
                (samplesOf deviceId code events)).map fun t => (t.input, t.output) := by
  induction events with
  | nil => exact fun registry => ⟨registry, [], rfl, rfl, fun _ _ => rfl⟩
  | cons event events ih =>
    intro registry
    obtain ⟨next, report, hobserve, hpolicy, -⟩ :=
      registry.observe_axis event.1 event.2 ⟨""⟩ 0
    obtain ⟨final, reports, hrest, hlength, hown⟩ := ih next
    refine ⟨final, report :: reports, ?_, ?_, ?_⟩
    · simp [observeAll, hobserve, hrest]
    · rw [List.length_cons, List.length_cons, hlength]
    · intro deviceId code
      obtain ⟨next', report', hobserve', -, hother, hsample⟩ :=
        registry.observe_axis event.1 event.2 deviceId code
      rw [hobserve] at hobserve'
      obtain ⟨rfl, rfl⟩ := Prod.mk.inj (Option.some.inj hobserve')
      have htail := hown deviceId code
      rw [hpolicy] at htail
      rw [samplesOf_cons, reportsOf_cons]
      cases hof : sampleOf deviceId code event with
      | none =>
        rw [hother hof] at htail
        exact htail
      | some sample =>
        have hstep := hsample sample hof
        simp only [Option.map_some, Option.toList_some, List.singleton_append,
          Mealy.transitions_cons, List.map_cons, hstep]
        rw [htail]

/-! ## One step -/

/-- What a step does: a reported movement, a movement within the cooldown, a new baseline after a
quiet time, or nothing but the last value. -/
theorem axisStep_cases (policy : ActivityPolicy) (previous : AxisActivityState)
    (sample : AxisSample) :
    let moved := { previous with
      baseline := sample.value, lastValue := sample.value, baselineUpdatedAt := sample.now }
    let far := threshold policy sample.range ≤ distance sample.value previous.baseline
    let step := axisStep policy (some previous) sample
    (far ∧ activityCooldownElapsed policy previous.lastActivityAt sample.now = true
        ∧ step = (some { moved with lastActivityAt := some sample.now }, true))
      ∨ (far ∧ activityCooldownElapsed policy previous.lastActivityAt sample.now = false
        ∧ step = (some moved, false))
      ∨ (¬ far ∧ policy.quietBaselineAfter ≤ elapsedSince sample.now previous.baselineUpdatedAt
        ∧ step = (some moved, false))
      ∨ (¬ far ∧ elapsedSince sample.now previous.baselineUpdatedAt < policy.quietBaselineAfter
        ∧ step = (some { previous with lastValue := sample.value }, false)) := by
  intro moved far step
  by_cases hfar : far
  · by_cases hcooldown : activityCooldownElapsed policy previous.lastActivityAt sample.now = true
    · left
      refine ⟨hfar, hcooldown, ?_⟩
      show (if far then _ else _) = _
      rw [if_pos hfar, if_pos hcooldown]
    · right; left
      refine ⟨hfar, Bool.eq_false_iff.2 hcooldown, ?_⟩
      show (if far then _ else _) = _
      rw [if_pos hfar, if_neg hcooldown]
  · by_cases hquiet :
        policy.quietBaselineAfter ≤ elapsedSince sample.now previous.baselineUpdatedAt
    · right; right; left
      refine ⟨hfar, hquiet, ?_⟩
      show (if far then _ else _) = _
      rw [if_neg hfar, if_pos hquiet]
    · right; right; right
      refine ⟨hfar, Nat.lt_of_not_le hquiet, ?_⟩
      show (if far then _ else _) = _
      rw [if_neg hfar, if_neg hquiet]

/-! ## Noise -/

/-- The baseline is a value that was seen, so it stays in the window of all values. -/
theorem noise_is_no_activity {low high : Int} (samples : List AxisSample)
    (hwindow : ∀ sample ∈ samples, low ≤ sample.value.toInt ∧ sample.value.toInt ≤ high
      ∧ high - low < threshold policy sample.range) :
    (∀ state ∈ axisAfter policy samples,
        low ≤ state.baseline.toInt ∧ state.baseline.toInt ≤ high)
      ∧ ∀ report ∈ detect policy samples, report.2 = false := by
  induction samples using List.reverseRecOn with
  | nil => exact ⟨nofun, nofun⟩
  | append_singleton samples sample ih =>
    obtain ⟨hbaseline, hreports⟩ := ih fun s hs => hwindow s (List.mem_append_left _ hs)
    obtain ⟨hlow, hhigh, hthreshold⟩ := hwindow sample (by simp)
    have hstep : (∀ state ∈ (axisStep policy (axisAfter policy samples) sample).1,
          low ≤ state.baseline.toInt ∧ state.baseline.toInt ≤ high)
        ∧ (axisStep policy (axisAfter policy samples) sample).2 = false := by
      cases hafter : axisAfter policy samples with
      | none =>
        refine ⟨fun state h => ?_, rfl⟩
        cases h
        exact ⟨hlow, hhigh⟩
      | some previous =>
        obtain ⟨hprevlow, hprevhigh⟩ := hbaseline previous (by rw [hafter]; rfl)
        -- within the window no sample is as far from the baseline as the threshold
        have hnear : ¬ threshold policy sample.range
            ≤ distance sample.value previous.baseline := by
          unfold distance
          omega
        obtain ⟨hfar, -⟩ | ⟨hfar, -⟩ | ⟨-, -, hstep⟩ | ⟨-, -, hstep⟩ :=
          axisStep_cases policy previous sample
        · exact absurd hfar hnear
        · exact absurd hfar hnear
        · rw [hstep]
          refine ⟨fun state h => ?_, rfl⟩
          cases h
          exact ⟨hlow, hhigh⟩
        · rw [hstep]
          refine ⟨fun state h => ?_, rfl⟩
          cases h
          exact ⟨hprevlow, hprevhigh⟩
    rw [axisAfter_concat, detect_concat]
    refine ⟨hstep.1, fun report hmem => ?_⟩
    rcases List.mem_append.1 hmem with hmem | hmem
    · exact hreports report hmem
    · rw [List.mem_singleton.1 hmem]
      exact hstep.2

/-! ## The cooldown -/

section Clock
variable {cooldown quiet : Duration} {first earlier last now : Instant}

theorem elapsed_since_earlier (hsince : cooldown ≤ elapsedSince now last)
    (hbefore : cooldown = 0 ∨ earlier ≤ last) : cooldown ≤ now - earlier := by
  unfold elapsedSince Instant Duration at *
  omega

theorem not_later_of_elapsed (hsince : cooldown ≤ now - earlier) :
    cooldown = 0 ∨ earlier ≤ now := by
  unfold Instant Duration at *
  omega

theorem within_cooldown (hwaiting : ¬ cooldown ≤ elapsedSince now last) (hstart : first ≤ now) :
    first < last + cooldown := by
  unfold elapsedSince Instant Duration at *
  omega

/-- A baseline that was set since is not old enough for a quiet time. -/
theorem not_quiet_yet (hquiet : quiet ≤ elapsedSince now earlier) (hset : first ≤ earlier)
    (hstart : first ≤ now) (hsoon : now < first + quiet) : False := by
  unfold elapsedSince Instant Duration at *
  omega

end Clock

/-- What the state knows of the reports: the instant of the latest one. -/
def Recalls (policy : ActivityPolicy) (samples : List AxisSample) : Prop :=
  ∀ state ∈ axisAfter policy samples, ∀ last ∈ state.lastActivityAt,
    ∃ report ∈ detect policy samples, report.2 = true ∧ report.1.now = last

theorem recalls (samples : List AxisSample) : Recalls policy samples := by
  induction samples using List.reverseRecOn with
  | nil => nofun
  | append_singleton samples sample ih =>
    intro state hstate last hlast
    rw [axisAfter_concat] at hstate
    rw [detect_concat]
    have hearlier : (∃ report ∈ detect policy samples, report.2 = true ∧ report.1.now = last) →
        ∃ report ∈ detect policy samples
            ++ [(sample, (axisStep policy (axisAfter policy samples) sample).2)],
          report.2 = true ∧ report.1.now = last :=
      fun ⟨report, hmem, hreport⟩ => ⟨report, List.mem_append_left _ hmem, hreport⟩
    cases hafter : axisAfter policy samples with
    | none =>
      rw [hafter] at hstate
      cases hstate
      cases hlast
    | some previous =>
      have hprevious := ih previous (by rw [hafter]; rfl)
      rw [hafter] at hstate hearlier
      obtain ⟨-, -, hstep⟩ | ⟨-, -, hstep⟩ | ⟨-, -, hstep⟩ | ⟨-, -, hstep⟩ :=
        axisStep_cases policy previous sample
      · rw [hstep] at hstate ⊢
        cases hstate
        cases hlast
        exact ⟨(sample, true), by simp, rfl, rfl⟩
      all_goals
        rw [hstep] at hstate
        cases hstate
        exact hearlier (hprevious last hlast)

/-- **Spacing.** Two reports are the cooldown apart, whatever the clock of the samples does. -/
theorem reports_are_spaced (samples : List AxisSample) :
    (∀ report ∈ detect policy samples, report.2 = true →
        ∃ state ∈ axisAfter policy samples, ∃ last ∈ state.lastActivityAt,
          policy.activityCooldown = 0 ∨ report.1.now ≤ last)
      ∧ (detect policy samples).Pairwise fun earlier later => earlier.2 = true →
          later.2 = true → policy.activityCooldown ≤ later.1.now - earlier.1.now := by
  induction samples using List.reverseRecOn with
  | nil => exact ⟨nofun, List.Pairwise.nil⟩
  | append_singleton samples sample ih =>
    obtain ⟨hlatest, hspaced⟩ := ih
    rw [axisAfter_concat, detect_concat]
    cases hafter : axisAfter policy samples with
    -- the first sample of an axis is no report, and none came before it
    | none =>
      have hnothing : ∀ report ∈ detect policy samples, report.2 ≠ true := by
        intro report hmem hreport
        obtain ⟨state, hstate, -⟩ := hlatest report hmem hreport
        rw [hafter] at hstate
        cases hstate
      constructor
      · intro report hmem hreport
        rcases List.mem_append.1 hmem with hmem | hmem
        · exact absurd hreport (hnothing report hmem)
        · rw [List.mem_singleton.1 hmem] at hreport
          cases hreport
      · refine List.pairwise_append.2 ⟨hspaced, List.pairwise_singleton .., ?_⟩
        intro earlier hmem _ _ hreport
        exact absurd hreport (hnothing earlier hmem)
    | some previous =>
      have hknown : ∀ report ∈ detect policy samples, report.2 = true →
          ∃ last ∈ previous.lastActivityAt,
            policy.activityCooldown = 0 ∨ report.1.now ≤ last := by
        intro report hmem hreport
        obtain ⟨state, hstate, hlast⟩ := hlatest report hmem hreport
        rw [hafter] at hstate
        cases hstate
        exact hlast
      obtain ⟨-, hcooldown, hstep⟩ | ⟨-, -, hstep⟩ | ⟨-, -, hstep⟩ | ⟨-, -, hstep⟩ :=
        axisStep_cases policy previous sample
      · -- a report: the cooldown since the latest one has passed, and so since all of them
        have helapsed : ∀ report ∈ detect policy samples, report.2 = true →
            policy.activityCooldown ≤ sample.now - report.1.now := by
          intro report hmem hreport
          obtain ⟨last, hlast, hbefore⟩ := hknown report hmem hreport
          have hsince : policy.activityCooldown ≤ elapsedSince sample.now last := by
            have hall : previous.lastActivityAt = some last := hlast
            rw [hall] at hcooldown
            exact of_decide_eq_true hcooldown
          exact elapsed_since_earlier hsince hbefore
        rw [hstep]
        constructor
        · intro report hmem hreport
          refine ⟨_, rfl, sample.now, rfl, ?_⟩
          rcases List.mem_append.1 hmem with hmem | hmem
          · exact not_later_of_elapsed (helapsed report hmem hreport)
          · rw [List.mem_singleton.1 hmem]
            exact .inr (le_refl _)
        · refine List.pairwise_append.2 ⟨hspaced, List.pairwise_singleton .., ?_⟩
          intro earlier hmem later hlater hreport _
          rw [List.mem_singleton.1 hlater]
          exact helapsed earlier hmem hreport
      -- no report: the latest one stays the latest
      all_goals
        rw [hstep]
        constructor
        · intro report hmem hreport
          rcases List.mem_append.1 hmem with hmem | hmem
          · obtain ⟨last, hlast, hbefore⟩ := hknown report hmem hreport
            exact ⟨_, rfl, last, hlast, hbefore⟩
          · rw [List.mem_singleton.1 hmem] at hreport
            cases hreport
        · refine List.pairwise_append.2 ⟨hspaced, List.pairwise_singleton .., ?_⟩
          intro earlier _ later hlater _ hreport
          rw [List.mem_singleton.1 hlater] at hreport
          cases hreport

/-! ## Movement -/

section
variable {range : AxisRange} {first : AxisSample}

/-- A report that answers a movement from `first` on. -/
def Answers (policy : ActivityPolicy) (first : AxisSample) (limit : Instant)
    (samples : List AxisSample) : Prop :=
  ∃ report ∈ detect policy samples, report.2 = true
    ∧ first.now < report.1.now + policy.activityCooldown ∧ report.1.now ≤ limit

/-- The baseline is still near the first value: within one threshold, or within two when it has
moved since. -/
def Anchored (policy : ActivityPolicy) (range : AxisRange) (first : AxisSample)
    (state : AxisActivityState) : Prop :=
  distance state.baseline first.value < threshold policy range
    ∨ (distance state.baseline first.value < 2 * threshold policy range
      ∧ first.now ≤ state.baselineUpdatedAt)

theorem Answers.concat {limit : Instant} {samples : List AxisSample} (sample : AxisSample)
    (h : Answers policy first limit samples) : Answers policy first limit (samples ++ [sample]) := by
  obtain ⟨report, hmem, hreport⟩ := h
  rw [Answers, detect_concat]
  exact ⟨report, List.mem_append_left _ hmem, hreport⟩

/-- A value that is a threshold away from the baseline has been answered: by its own report, or by
the one whose cooldown still runs. -/
theorem answers_of_far (hcooldown : 0 < policy.activityCooldown) {samples : List AxisSample}
    {sample : AxisSample} {previous : AxisActivityState}
    (hafter : axisAfter policy samples = some previous)
    (hfar : threshold policy sample.range ≤ distance sample.value previous.baseline)
    (hstart : first.now ≤ sample.now) (hpast : ∀ s ∈ samples, s.now ≤ sample.now) :
    Answers policy first sample.now (samples ++ [sample]) := by
  have hmember : ∀ report ∈ detect policy samples, report.1 ∈ samples := by
    intro report hmem
    have hmap := List.mem_map_of_mem (f := (·.1)) hmem
    rwa [detect_samples] at hmap
  obtain ⟨-, -, hstep⟩ | ⟨-, hwaiting, hstep⟩ | ⟨hnear, -⟩ | ⟨hnear, -⟩ :=
    axisStep_cases policy previous sample
  · have hlater : first.now < sample.now + policy.activityCooldown :=
      Nat.lt_of_le_of_lt hstart (Nat.lt_add_of_pos_right hcooldown)
    refine ⟨(sample, true), ?_, rfl, hlater, le_refl _⟩
    rw [detect_concat, hafter, hstep]
    simp
  · cases hlast : previous.lastActivityAt with
    | none =>
      rw [hlast] at hwaiting
      cases hwaiting
    | some last =>
      obtain ⟨report, hmem, hreport, hnow⟩ := recalls samples previous hafter last hlast
      rw [hlast] at hwaiting
      have hsince : ¬ policy.activityCooldown ≤ elapsedSince sample.now last :=
        of_decide_eq_false hwaiting
      have hbefore : report.1.now ≤ sample.now := hpast _ (hmember report hmem)
      refine ⟨report, ?_, hreport, ?_, hbefore⟩
      · rw [detect_concat]
        exact List.mem_append_left _ hmem
      · rw [hnow]
        exact within_cooldown hsince hstart
  · exact absurd hfar hnear
  · exact absurd hfar hnear

/-- **Step.** Within the quiet time, a sample is answered or leaves the baseline near. -/
theorem anchored_step (hcooldown : 0 < policy.activityCooldown) {samples : List AxisSample}
    {sample : AxisSample} {previous : AxisActivityState} (hrange : sample.range = range)
    (hafter : axisAfter policy samples = some previous)
    (hanchored : Anchored policy range first previous) (hstart : first.now ≤ sample.now)
    (hsoon : sample.now < first.now + policy.quietBaselineAfter)
    (hpast : ∀ s ∈ samples, s.now ≤ sample.now) :
    Answers policy first sample.now (samples ++ [sample])
      ∨ ∃ next, axisAfter policy (samples ++ [sample]) = some next
        ∧ Anchored policy range first next := by
  rw [axisAfter_concat, hafter]
  obtain ⟨hfar, -⟩ | ⟨hfar, -⟩ | ⟨hnear, hquiet, hstep⟩ | ⟨-, -, hstep⟩ :=
    axisStep_cases policy previous sample
  · exact .inl (answers_of_far hcooldown hafter hfar hstart hpast)
  · exact .inl (answers_of_far hcooldown hafter hfar hstart hpast)
  · -- a quiet time of the whole length lies behind: the baseline is older than the movement
    rw [hstep]
    refine .inr ⟨_, rfl, .inr ⟨?_, hstart⟩⟩
    rw [hrange] at hnear
    rcases hanchored with hold | ⟨-, hnew⟩
    · show distance sample.value first.value < _
      unfold distance at hnear hold ⊢
      omega
    · exact (not_quiet_yet hquiet hnew hstart hsoon).elim
  · rw [hstep]
    exact .inr ⟨_, rfl, hanchored⟩

/-- A sample leaves the baseline within a threshold of its value. -/
theorem anchored_first (samples : List AxisSample) (hrange : first.range = range) :
    ∃ next, axisAfter policy (samples ++ [first]) = some next
      ∧ Anchored policy range first next := by
  have hself : distance first.value first.value < threshold policy range := by
    have hpos := threshold_pos policy range
    unfold distance
    omega
  rw [axisAfter_concat]
  cases hafter : axisAfter policy samples with
  | none => exact ⟨_, rfl, .inl hself⟩
  | some previous =>
    obtain ⟨-, -, hstep⟩ | ⟨-, -, hstep⟩ | ⟨-, -, hstep⟩ | ⟨hnear, -, hstep⟩ :=
      axisStep_cases policy previous first
    · rw [hstep]
      exact ⟨_, rfl, .inl hself⟩
    · rw [hstep]
      exact ⟨_, rfl, .inl hself⟩
    · rw [hstep]
      exact ⟨_, rfl, .inl hself⟩
    · rw [hstep]
      refine ⟨_, rfl, .inl ?_⟩
      rw [hrange] at hnear
      unfold distance at hnear ⊢
      dsimp only
      omega

/-- **Movement.** A movement by three thresholds within the quiet time is answered. -/
theorem movement_is_reported (hcooldown : 0 < policy.activityCooldown)
    (before between : List AxisSample) (last : AxisSample)
    (hrange : ∀ sample ∈ before ++ first :: between ++ [last], sample.range = range)
    (htime : (before ++ first :: between ++ [last]).Pairwise fun s t => s.now ≤ t.now)
    (hmoved : 3 * threshold policy range ≤ distance last.value first.value)
    (hsoon : last.now < first.now + policy.quietBaselineAfter) :
    Answers policy first last.now (before ++ first :: between ++ [last]) := by
  obtain ⟨hordered, -, hbound⟩ := List.pairwise_append.1 htime
  have hpast : ∀ s ∈ before ++ first :: between, s.now ≤ last.now :=
    fun s hs => hbound s hs last (by simp)
  -- up to the last sample there is a report, or the baseline is near the first value
  have hrun : Answers policy first last.now (before ++ first :: between)
      ∨ ∃ state, axisAfter policy (before ++ first :: between) = some state
        ∧ Anchored policy range first state := by
    clear htime hmoved hbound
    induction between using List.reverseRecOn with
    | nil => exact .inr (anchored_first before (hrange first (by simp)))
    | append_singleton between sample ih =>
      have hsplit : before ++ first :: (between ++ [sample])
          = (before ++ first :: between) ++ [sample] := by simp
      rw [hsplit] at hordered hpast hrange ⊢
      obtain ⟨hordered', -, hlast⟩ := List.pairwise_append.1 hordered
      have hsample : sample.now ≤ last.now := hpast sample (by simp)
      have hearlier : ∀ s ∈ before ++ first :: between, s.now ≤ sample.now :=
        fun s hs => hlast s hs sample (by simp)
      have ih' := ih (fun s hs => hrange s (by simp at hs ⊢; tauto)) hordered'
        (fun s hs => hpast s (List.mem_append_left _ hs))
      rcases ih' with hanswered | ⟨state, hafter, hanchored⟩
      · exact .inl (hanswered.concat sample)
      · rcases anchored_step hcooldown (hrange sample (by simp)) hafter hanchored
          (hearlier first (by simp)) (Nat.lt_of_le_of_lt hsample hsoon) hearlier with hanswered | hnext
        · obtain ⟨report, hmem, hreport, hstart, hend⟩ := hanswered
          exact .inl ⟨report, hmem, hreport, hstart, le_trans hend hsample⟩
        · exact .inr hnext
  rcases hrun with hanswered | ⟨state, hafter, hanchored⟩
  · exact hanswered.concat last
  · have hfar : threshold policy last.range ≤ distance last.value state.baseline := by
      rw [hrange last (by simp)]
      have hpos := threshold_pos policy range
      unfold Anchored at hanchored
      unfold distance at hanchored hmoved ⊢
      omega
    exact answers_of_far hcooldown hafter hfar (hpast first (by simp)) hpast

end

/-! ## The law of the registry -/

/-- **The axis detector.** The registry answers every sequence of events, whatever the values and
the ranges; and for each axis of each device, whatever is interleaved with its samples:

* its reports are those of a registry that sees the samples of this axis alone;
* no report while all values lie in a window narrower than the movement threshold;
* for a constant range and a clock that does not go back, two values three thresholds apart within
  the quiet time come with a report after the cooldown before the first and not after the second;
* two reports are at least the cooldown apart. -/
theorem gamepad_axis_law (policy : ActivityPolicy)
    (events : List (RawGamepadEvent × Instant)) :
    ∃ final reports, (ActivityRegistry.new policy).observeAll events = some (final, reports)
      ∧ reports.length = events.length
      ∧ (∀ range, movementThreshold policy range = some (threshold policy range))
      ∧ ∀ deviceId code,
        let own := reportsOf deviceId code events reports
        own.map (·.1) = samplesOf deviceId code events
        ∧ (∀ events' final' reports',
            (ActivityRegistry.new policy).observeAll events' = some (final', reports') →
            samplesOf deviceId code events' = samplesOf deviceId code events →
              reportsOf deviceId code events' reports' = own)
        ∧ (∀ low high : Int, (∀ report ∈ own, low ≤ report.1.value.toInt
              ∧ report.1.value.toInt ≤ high ∧ high - low < threshold policy report.1.range) →
            ∀ report ∈ own, report.2 = false)
        ∧ (0 < policy.activityCooldown → ∀ range before first between last after,
            own.map (·.1) = before ++ first :: between ++ last :: after →
            (∀ report ∈ own, report.1.range = range) →
            (own.Pairwise fun r r' => r.1.now ≤ r'.1.now) →
            3 * threshold policy range ≤ distance last.value first.value →
            last.now < first.now + policy.quietBaselineAfter →
              ∃ report ∈ own, report.2 = true
                ∧ first.now < report.1.now + policy.activityCooldown
                ∧ report.1.now ≤ last.now)
        ∧ own.Pairwise fun earlier later => earlier.2 = true → later.2 = true →
            policy.activityCooldown ≤ later.1.now - earlier.1.now := by
  obtain ⟨final, reports, hrun, hlength, hown⟩ :=
    ActivityRegistry.observeAll_own events (ActivityRegistry.new policy)
  refine ⟨final, reports, hrun, hlength, movementThreshold_eq policy, fun deviceId code => ?_⟩
  -- the registry answers each axis as a detector of its own samples would
  have hdetect : reportsOf deviceId code events reports
      = detect policy (samplesOf deviceId code events) := hown deviceId code
  intro own
  have hsamples : own.map (·.1) = samplesOf deviceId code events := by
    show (reportsOf deviceId code events reports).map _ = _
    rw [hdetect, detect_samples]
  have hmem : ∀ sample ∈ samplesOf deviceId code events, ∃ report ∈ own, report.1 = sample := by
    intro sample hsample
    rw [← hsamples] at hsample
    exact List.mem_map.1 hsample
  refine ⟨hsamples, ?_, ?_, ?_, ?_⟩
  · intro events' final' reports' hrun' hsame
    obtain ⟨final'', reports'', hrun'', -, hown'⟩ :=
      ActivityRegistry.observeAll_own events' (ActivityRegistry.new policy)
    rw [hrun'] at hrun''
    cases hrun''
    show _ = reportsOf deviceId code events reports
    rw [hown deviceId code, hown' deviceId code, hsame]
  -- noise within the threshold
  · intro low high hwindow
    show ∀ report ∈ reportsOf deviceId code events reports, report.2 = false
    rw [hdetect]
    have hquiet := noise_is_no_activity (samplesOf deviceId code events)
      (fun sample hsample => by
        obtain ⟨report, hreport, rfl⟩ := hmem sample hsample
        exact hwindow report hreport)
    exact hquiet.2
  -- a movement of three thresholds: cut the samples where it ends
  · intro hcooldown range before first between last after hsplit hrange htime hmoved hsoon
    rw [hsamples] at hsplit
    have hopening : samplesOf deviceId code events = (before ++ first :: between ++ [last]) ++ after := by
      rw [hsplit]
      simp
    have htimes : (samplesOf deviceId code events).Pairwise fun s t => s.now ≤ t.now := by
      rw [← hsamples]
      exact List.pairwise_map.2 htime
    rw [hopening] at htimes
    have hranges : ∀ sample ∈ before ++ first :: between ++ [last], sample.range = range := by
      intro sample hsample
      obtain ⟨report, hreport, rfl⟩ := hmem sample (by
        rw [hopening]
        exact List.mem_append_left _ hsample)
      exact hrange report hreport
    obtain ⟨report, hreport, hanswer⟩ := movement_is_reported hcooldown before between last hranges
      (List.pairwise_append.1 htimes).1 hmoved hsoon
    refine ⟨report, ?_, hanswer⟩
    show report ∈ reportsOf deviceId code events reports
    rw [hdetect, hopening, detect_append]
    exact List.mem_append_left _ hreport
  -- the spacing of the reports
  · show (reportsOf deviceId code events reports).Pairwise _
    rw [hdetect]
    exact (reports_are_spaced _).2

/-- A stick pushed from one end of its range to the other within a second. -/
def stickEvents : List (RawGamepadEvent × Instant) :=
  [(⟨⟨"pad"⟩, .axis 0 0 ⟨0, 100, 0, 0⟩⟩, 0),
    (⟨⟨"pad"⟩, .axis 0 100 ⟨0, 100, 0, 0⟩⟩, Duration.fromSecs 1)]

/-- The policy that the program runs with has a cooldown, and reports this movement. -/
theorem stick_movement_is_reported :
    ∃ final reports,
      (ActivityRegistry.new .default).observeAll stickEvents = some (final, reports)
        ∧ ∃ report ∈ reportsOf ⟨"pad"⟩ 0 stickEvents reports, report.2 = true := by
  obtain ⟨final, reports, hrun, -, -, hlaw⟩ := gamepad_axis_law .default stickEvents
  obtain ⟨hsamples, -, -, hmovement, -⟩ := hlaw ⟨"pad"⟩ 0
  have hcooldown : 0 < ActivityPolicy.default.activityCooldown := by decide
  have hown : samplesOf ⟨"pad"⟩ 0 stickEvents
      = [⟨0, ⟨0, 100, 0, 0⟩, 0⟩, ⟨100, ⟨0, 100, 0, 0⟩, Duration.fromSecs 1⟩] := by decide
  rw [hown] at hsamples
  have hranges : ∀ report ∈ reportsOf ⟨"pad"⟩ 0 stickEvents reports,
      report.1.range = ⟨0, 100, 0, 0⟩ := by
    intro report hmem
    have hsample := List.mem_map_of_mem (f := (·.1)) hmem
    rw [hsamples] at hsample
    revert hsample
    generalize report.1 = sample
    simp only [List.mem_cons, List.not_mem_nil, or_false]
    rintro (rfl | rfl) <;> rfl
  have htimes : (reportsOf ⟨"pad"⟩ 0 stickEvents reports).Pairwise
      fun r r' => r.1.now ≤ r'.1.now := by
    have hordered : ((reportsOf ⟨"pad"⟩ 0 stickEvents reports).map (·.1)).Pairwise
        fun s t => s.now ≤ t.now := by
      rw [hsamples]
      decide
    rw [List.pairwise_map] at hordered
    exact hordered
  obtain ⟨report, hmem, hreport, -⟩ := hmovement hcooldown ⟨0, 100, 0, 0⟩ [] _ [] _ [] hsamples
    hranges htimes (by decide) (by decide)
  exact ⟨final, reports, hrun, report, hmem, hreport⟩

end LgBuddy
