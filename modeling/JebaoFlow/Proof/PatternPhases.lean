import JebaoFlow.Proof.ExactPatterns

/-!
# Phases and periods

In exact numbers the phase of a member is a delay, so two members half a cycle apart take
turns; a pattern that only looks at the place in the cycle repeats with every period; and the
tide changes sides with every period, so it repeats with every second one.
-/

namespace JebaoFlow

open PyFloat Waves

variable {units : UnitSource} {group group' : GroupConfig} {runtime : GroupRuntime}
  {limits : PowerLimits} {member member' : GroupMember} {kind : PatternKind} {t : ℚ}

/-! ## Moving along the cycles -/

theorem cycles_shift (hperiod : (effectivePeriod group runtime).value ≠ 0) (t shift : ℚ) :
    cycles (t + shift * (effectivePeriod group runtime).value) group runtime
      = cycles t group runtime + shift := by
  unfold cycles
  rw [add_sub_right_comm, add_div, mul_div_cancel_right₀ _ hperiod]

/-- The patterns that only look at the place in the cycle. -/
def periodicPatterns : List PatternKind := [.sync, .antiPhase, .gyre, .nutrientTransport]

theorem firstHalf_shift (cycles phase : ℚ) (k : ℤ) :
    FirstHalf (cycles + k - phase) ↔ FirstHalf (cycles - phase) := by
  rw [add_sub_right_comm]
  exact firstHalf_add_intCast ..

/-- **A whole number of cycles later their levels are the same.** -/
theorem level_periodic (hkind : kind ∈ periodicPatterns) (power ceiling cycles : ℚ) (k : ℤ) :
    level units kind group limits power ceiling (cycles + k) member
      = level units kind group limits power ceiling cycles member := by
  unfold level
  dsimp only
  cases kind with
  | sync => exact if_congr (firstHalf_add_intCast ..) rfl rfl
  | antiPhase => exact if_congr (firstHalf_shift ..) rfl rfl
  | gyre => exact if_congr (firstHalf_shift ..) rfl rfl
  | nutrientTransport =>
      dsimp only
      rw [Int.fract_add_intCast]
      exact if_congr (firstHalf_add_intCast ..) rfl rfl
  | constant | lagoon | reefCrest | tidalSwell | sine | randomReef | tide | native =>
      exact absurd hkind (by decide)

/-- The two square waves with a phase of their own for each member. -/
def phasedPatterns : List PatternKind := [.antiPhase, .gyre]

/-- The high level of a square wave. -/
def highLevel (kind : PatternKind) (limits : PowerLimits) (ceiling : ℚ) : ℚ :=
  if kind = .gyre then ceiling else limits.maxPower.val

theorem level_phased (hkind : kind ∈ phasedPatterns) (power ceiling cycles : ℚ) :
    level units kind group limits power ceiling cycles member
      = if FirstHalf (cycles - member.phase.value / 360) then highLevel kind limits ceiling
        else limits.minPower.val := by
  cases kind with
  | antiPhase => rfl
  | gyre => rfl
  | constant | sync | nutrientTransport | lagoon | reefCrest | tidalSwell | sine | randomReef | tide
  | native => exact absurd hkind (by decide)

/-- **The next tide is that of the other side.** -/
theorem level_tide (hsides : tidalSide member ≠ tidalSide member') (power ceiling cycles : ℚ) :
    level units .tidalSwell group limits power ceiling (cycles + 1) member
      = level units .tidalSwell group' limits power ceiling cycles member' := by
  have hsame : tidalSide member = (⌊cycles⌋ + 1) % 2 ↔ tidalSide member' = ⌊cycles⌋ % 2 := by
    unfold tidalSide at hsides ⊢
    split_ifs at hsides ⊢ <;> omega
  unfold level
  dsimp only
  rw [Int.fract_add_one, Int.floor_add_one]
  congr 2
  exact if_congr hsame rfl rfl

theorem level_tides (power ceiling cycles : ℚ) :
    level units .tidalSwell group limits power ceiling (cycles + 2) member
      = level units .tidalSwell group limits power ceiling cycles member := by
  have hfract : Int.fract (cycles + 2) = Int.fract cycles := Int.fract_add_ofNat ..
  have hfloor : ⌊cycles + 2⌋ = ⌊cycles⌋ + 2 := Int.floor_add_ofNat ..
  unfold level
  dsimp only
  rw [hfract, hfloor, Int.add_emod_right]

/-! ## Powers -/

/-- The power a pattern gives to a member at an instant. -/
def powerAt (pattern : PyFloat → GroupConfig → GroupRuntime → Except PyError (Dict String DeviceTarget))
    (t : ℚ) (group : GroupConfig) (runtime : GroupRuntime) (member : GroupMember) : Option ℕ :=
  match pattern (fin t) group runtime with
  | .ok targets => (targets.get? member.device).map (fun target => target.power.val)
  | .error _ => none

/-- The power of a member at a level; off when it or its group is. -/
def outputAt (group : GroupConfig) (runtime : GroupRuntime) (limits : PowerLimits)
    (member : GroupMember) (level : ℚ) : ℕ :=
  if (isGroupEnabled group runtime && member.enabled) = true then
    (memberPower limits member level).toNat
  else 0

theorem powerAt_eq (h : Exact group runtime) (hvalid : runtime.validate = .ok runtime)
    (hlimits : effectiveLimits group runtime = .ok limits)
    {pattern : PyFloat → GroupConfig → GroupRuntime → Except PyError (Dict String DeviceTarget)}
    (hpattern : createPattern units kind = .ok pattern) (hm : member ∈ group.members) (t : ℚ) :
    powerAt pattern t group runtime member = some (outputAt group runtime limits member
      (memberLevel units kind group runtime limits t member)) := by
  obtain ⟨targets, htargets⟩ := calculate_returns h hvalid hlimits hpattern t
  obtain ⟨target, hget, _, hpower⟩ := calculate_member h hvalid hlimits hpattern htargets hm
  unfold powerAt outputAt
  rw [htargets]
  dsimp only
  rw [hget, Option.map_some, Option.some.injEq]
  split
  · rename_i hon
    rw [if_pos hon] at hpower
    rw [← hpower, Int.toNat_natCast]
  · rename_i hoff
    rw [if_neg hoff] at hpower
    exact_mod_cast hpower

/-- Groups that settle what their members share in the same way. -/
structure SameSettings (group group' : GroupConfig) : Prop where
  «default» : group'.default = group.default
  enabled : group'.enabled = group.enabled

/-- Members that turn a level into the same output. -/
structure SameDrive (member member' : GroupMember) : Prop where
  gain : member'.gain.value = member.gain.value
  enabled : member'.enabled = member.enabled

theorem SameSettings.limits_eq (hsettings : SameSettings group group')
    (hlimits : effectiveLimits group runtime = .ok limits) :
    effectiveLimits group' runtime = .ok limits := by
  unfold effectiveLimits at hlimits ⊢
  rw [hsettings.default]
  exact hlimits

theorem SameSettings.period (hsettings : SameSettings group group') (runtime : GroupRuntime) :
    effectivePeriod group' runtime = effectivePeriod group runtime := by
  unfold effectivePeriod
  rw [hsettings.default]

theorem SameSettings.cycles (hsettings : SameSettings group group') (t : ℚ) (runtime : GroupRuntime) :
    cycles t group' runtime = cycles t group runtime := by
  unfold JebaoFlow.cycles
  rw [hsettings.period]

theorem SameSettings.power (hsettings : SameSettings group group') (runtime : GroupRuntime) :
    effectivePower group' runtime = effectivePower group runtime := by
  unfold effectivePower
  rw [hsettings.default]

theorem SameSettings.ceiling (hsettings : SameSettings group group') (runtime : GroupRuntime)
    (limits : PowerLimits) : ceilingPower group' runtime limits = ceilingPower group runtime limits := by
  unfold ceilingPower
  rw [hsettings.power]

theorem outputAt_congr (hsettings : SameSettings group group') (hsame : SameDrive member member')
    (level : ℚ) :
    outputAt group' runtime limits member' level = outputAt group runtime limits member level := by
  unfold outputAt memberPower isGroupEnabled
  rw [hsettings.enabled, hsame.enabled, hsame.gain]

/-! ## The two square waves -/

section Phased

variable (h : Exact group runtime) (hvalid : runtime.validate = .ok runtime)
  (hlimits : effectiveLimits group runtime = .ok limits) (hkind : kind ∈ phasedPatterns)
  {pattern : PyFloat → GroupConfig → GroupRuntime → Except PyError (Dict String DeviceTarget)}
  (hpattern : createPattern units kind = .ok pattern)

include h hvalid hlimits hkind hpattern

/-- **A phase is a delay.** -/
theorem phase_delays (h' : Exact group' runtime) (hsettings : SameSettings group group')
    (hm : member ∈ group.members) (hm' : member' ∈ group'.members)
    (hsame : SameDrive member member') (hzero : member'.phase.value = 0) (t : ℚ) :
    powerAt pattern t group runtime member
      = powerAt pattern (t - member.phase.value * (effectivePeriod group runtime).value / 360) group'
        runtime member' := by
  have hperiod := (h.period_pos hvalid).ne'
  have hearlier : t - member.phase.value * (effectivePeriod group runtime).value / 360
      = t + -(member.phase.value / 360) * (effectivePeriod group runtime).value := by ring
  have hlevel : memberLevel units kind group' runtime limits
        (t - member.phase.value * (effectivePeriod group runtime).value / 360) member'
      = memberLevel units kind group runtime limits t member := by
    unfold memberLevel
    rw [level_phased hkind, level_phased hkind, hsettings.cycles, hsettings.ceiling, hzero, zero_div,
      sub_zero, hearlier, cycles_shift hperiod, ← sub_eq_add_neg]
  rw [powerAt_eq h hvalid hlimits hpattern hm,
    powerAt_eq h' hvalid (hsettings.limits_eq hlimits) hpattern hm', hlevel,
    outputAt_congr hsettings hsame]

/-- A member's power is that of the high level exactly when the code finds it in its first half. -/
theorem powerAt_phased (hm : member ∈ group.members) (t : ℚ) :
    powerAt pattern t group runtime member = some (outputAt group runtime limits member
      (if (cycleFraction (fin t) runtime (effectivePeriod group runtime) member.phase).lt (fin 0.5)
        then highLevel kind limits (ceilingPower group runtime limits) else limits.minPower.val)) := by
  rw [powerAt_eq h hvalid hlimits hpattern hm, phaseFraction_eq h hvalid member, lt_half]
  unfold memberLevel
  rw [level_phased hkind]
  congr 2
  exact if_congr decide_eq_true_iff.symm rfl rfl

end Phased

/-- **Half a cycle apart, exactly one of two members is in its first half.** -/
theorem opposite_phases (h : Exact group runtime) (hvalid : runtime.validate = .ok runtime)
    (hopposite : |member.phase.value - member'.phase.value| = 180) (t : ℚ) :
    (cycleFraction (fin t) runtime (effectivePeriod group runtime) member.phase).lt (fin 0.5)
      = !(cycleFraction (fin t) runtime (effectivePeriod group runtime) member'.phase).lt (fin 0.5) := by
  have hhalf : FirstHalf (cycles t group runtime - member.phase.value / 360)
      ↔ ¬ FirstHalf (cycles t group runtime - member'.phase.value / 360) := by
    rcases (abs_eq (by norm_num)).mp hopposite with hdiff | hdiff
    · -- this one is half a cycle behind the other
      have hbehind : cycles t group runtime - member'.phase.value / 360
          = cycles t group runtime - member.phase.value / 360 + 1 / 2 := by linarith
      rw [hbehind, firstHalf_add_half, not_not]
    · have hahead : cycles t group runtime - member.phase.value / 360
          = cycles t group runtime - member'.phase.value / 360 + 1 / 2 := by linarith
      rw [hahead, firstHalf_add_half]
  rw [phaseFraction_eq h hvalid member, phaseFraction_eq h hvalid member', lt_half, lt_half, ← decide_not]
  exact decide_eq_decide.mpr hhalf

/-! ## Periods -/

/-- What repeats in the levels repeats in the targets. -/
theorem calculate_shift (h : Exact group runtime) (hvalid : runtime.validate = .ok runtime)
    (hlimits : effectiveLimits group runtime = .ok limits)
    {pattern : PyFloat → GroupConfig → GroupRuntime → Except PyError (Dict String DeviceTarget)}
    (hpattern : createPattern units kind = .ok pattern) {shift : ℚ}
    (hlevel : ∀ (power ceiling cycles : ℚ) (m : GroupMember),
      level units kind group limits power ceiling (cycles + shift) m
        = level units kind group limits power ceiling cycles m) (t : ℚ) :
    pattern (fin (t + shift * (effectivePeriod group runtime).value)) group runtime
      = pattern (fin t) group runtime := by
  rw [calculate_levels h hvalid hlimits hpattern, calculate_levels h hvalid hlimits hpattern]
  refine memberTargets_congr _ _ (fun m _ => congrArg fin ?_)
  unfold memberLevel
  rw [cycles_shift (h.period_pos hvalid).ne', hlevel]

/-- **A member of one side gets with the next tide what one of the other side gets now.** -/
theorem tide_reverses (h : Exact group runtime) (h' : Exact group' runtime)
    (hvalid : runtime.validate = .ok runtime) (hlimits : effectiveLimits group runtime = .ok limits)
    (hsettings : SameSettings group group') (hm : member ∈ group.members)
    (hm' : member' ∈ group'.members) (hsame : SameDrive member member')
    (hsides : member.phase.lt (fin 180) ≠ member'.phase.lt (fin 180)) (t : ℚ) :
    powerAt (TidalSwellPattern.calculate units) (t + (effectivePeriod group runtime).value) group
        runtime member
      = powerAt (TidalSwellPattern.calculate units) t group' runtime member' := by
  have hpattern : createPattern units .tidalSwell = .ok (TidalSwellPattern.calculate units) := rfl
  have hdiffer : tidalSide member ≠ tidalSide member' := by
    rw [member.phase_eq, member'.phase_eq, fin_lt, fin_lt] at hsides
    intro heq
    unfold tidalSide at heq
    refine hsides (decide_eq_decide.mpr ?_)
    by_cases hfirst : member.phase.value < 180
    · by_cases hsecond : member'.phase.value < 180
      · exact iff_of_true hfirst hsecond
      · rw [if_pos hfirst, if_neg hsecond] at heq
        exact absurd heq (by decide)
    · by_cases hsecond : member'.phase.value < 180
      · rw [if_neg hfirst, if_pos hsecond] at heq
        exact absurd heq (by decide)
      · exact iff_of_false hfirst hsecond
  have hlevel : memberLevel units .tidalSwell group runtime limits
        (t + (effectivePeriod group runtime).value) member
      = memberLevel units .tidalSwell group' runtime limits t member' := by
    have hnext := cycles_shift (h.period_pos hvalid).ne' t 1
    rw [one_mul] at hnext
    unfold memberLevel
    rw [hnext, hsettings.cycles, hsettings.ceiling, hsettings.power]
    exact level_tide hdiffer ..
  rw [powerAt_eq h hvalid hlimits hpattern hm,
    powerAt_eq h' hvalid (hsettings.limits_eq hlimits) hpattern hm', hlevel,
    outputAt_congr hsettings hsame]

/--
**Phase is a delay, and the patterns are periodic.**

The members that are compared may be of one group or of two with the same settings.
-/
theorem phase_and_period (h : Exact group runtime) (h' : Exact group' runtime)
    (hvalid : runtime.validate = .ok runtime) (hlimits : effectiveLimits group runtime = .ok limits)
    (hsettings : SameSettings group group') (t : ℚ) :
    (∀ kind ∈ phasedPatterns, ∀ pattern, createPattern units kind = .ok pattern →
      (∀ m ∈ group.members, ∀ m' ∈ group'.members, SameDrive m m' → m'.phase.value = 0 →
        powerAt pattern t group runtime m
          = powerAt pattern (t - m.phase.value * (effectivePeriod group runtime).value / 360) group'
            runtime m')
      ∧ ∀ m ∈ group.members, ∀ m' ∈ group.members, m'.gain.value = m.gain.value →
        |m.phase.value - m'.phase.value| = 180 →
        (cycleFraction (fin t) runtime (effectivePeriod group runtime) m.phase).lt (fin 0.5)
            = !(cycleFraction (fin t) runtime (effectivePeriod group runtime) m'.phase).lt (fin 0.5)
          ∧ ∀ x ∈ [m, m'], powerAt pattern t group runtime x
            = some (outputAt group runtime limits x
              (if (cycleFraction (fin t) runtime (effectivePeriod group runtime) x.phase).lt (fin 0.5)
                then highLevel kind limits (ceilingPower group runtime limits)
                else limits.minPower.val)))
    ∧ (∀ kind ∈ periodicPatterns, ∀ pattern, createPattern units kind = .ok pattern → ∀ k : ℤ,
      pattern (fin (t + k * (effectivePeriod group runtime).value)) group runtime
        = pattern (fin t) group runtime)
    ∧ (∀ m ∈ group.members, ∀ m' ∈ group'.members, SameDrive m m' →
      m.phase.lt (fin 180) ≠ m'.phase.lt (fin 180) →
        powerAt (TidalSwellPattern.calculate units) (t + (effectivePeriod group runtime).value) group
            runtime m
          = powerAt (TidalSwellPattern.calculate units) t group' runtime m')
    ∧ TidalSwellPattern.calculate units (fin (t + 2 * (effectivePeriod group runtime).value)) group
        runtime = TidalSwellPattern.calculate units (fin t) group runtime := by
  refine ⟨fun kind hkind pattern hpattern => ⟨fun m hm m' hm' hsame hzero => ?_,
    fun m hm m' hm' _ hopposite => ⟨opposite_phases h hvalid hopposite t, fun x hx => ?_⟩⟩,
    fun kind hkind pattern hpattern k => ?_, fun m hm m' hm' hsame hsides => ?_, ?_⟩
  · exact phase_delays h hvalid hlimits hkind hpattern h' hsettings hm hm' hsame hzero t
  · refine powerAt_phased h hvalid hlimits hkind hpattern ?_ t
    rcases List.mem_pair.mp hx with rfl | rfl
    · exact hm
    · exact hm'
  · exact calculate_shift h hvalid hlimits hpattern
      (fun power ceiling cycles m => level_periodic hkind power ceiling cycles k) t
  · exact tide_reverses h h' hvalid hlimits hsettings hm hm' hsame hsides t
  · exact calculate_shift h hvalid hlimits rfl
      (fun power ceiling cycles m => level_tides power ceiling cycles) t

theorem phase_and_period_opposedPumps :
    powerAt AntiPhasePattern.calculate 3 (opposedPumps .antiPhase) {} latePump
        = powerAt AntiPhasePattern.calculate (3 - 180 * 8 / 360) (opposedPumps .antiPhase) {}
            (.plain "right")
      ∧ ((cycleFraction (fin 3) {} (fin 8) (fin 180)).lt (fin 0.5)
        = !(cycleFraction (fin 3) {} (fin 8) (fin 0)).lt (fin 0.5))
      ∧ AntiPhasePattern.calculate (fin (3 + (2 : ℤ) * 8)) (opposedPumps .antiPhase) {}
        = AntiPhasePattern.calculate (fin 3) (opposedPumps .antiPhase) {}
      ∧ powerAt (TidalSwellPattern.calculate steadyUnits) (3 + 8) (opposedPumps .antiPhase) {} latePump
        = powerAt (TidalSwellPattern.calculate steadyUnits) 3 (opposedPumps .antiPhase) {}
            (.plain "right")
      ∧ TidalSwellPattern.calculate steadyUnits (fin (3 + 2 * 8)) (opposedPumps .antiPhase) {}
        = TidalSwellPattern.calculate steadyUnits (fin 3) (opposedPumps .antiPhase) {} := by
  have hleft : latePump ∈ (opposedPumps .antiPhase).members := List.mem_cons_self
  have hright : GroupMember.plain "right" ∈ (opposedPumps .antiPhase).members :=
    List.mem_cons_of_mem _ List.mem_cons_self
  have hsame : SameDrive latePump (.plain "right") := ⟨rfl, rfl⟩
  obtain ⟨hphased, hperiodic, htide, htides⟩ :=
    @phase_and_period steadyUnits (opposedPumps .antiPhase) (opposedPumps .antiPhase) {} _
      (opposedPumps_exact .antiPhase) (opposedPumps_exact .antiPhase) rfl
      (rfl : effectiveLimits (opposedPumps .antiPhase) {} = .ok ⟨_, _, by decide⟩) ⟨rfl, rfl⟩ 3
  obtain ⟨hdelay, hopposite⟩ := hphased .antiPhase (by decide) _ rfl
  refine ⟨hdelay _ hleft _ hright hsame rfl, ?_, hperiodic .antiPhase (by decide) _ rfl 2,
    htide _ hleft _ hright hsame (by decide +kernel), htides⟩
  exact (hopposite _ hleft _ hright rfl (by norm_num [latePump, value, GroupMember.plain])).1

end JebaoFlow
