import JebaoFlow.Lib.Run
import JebaoFlow.Proof.LanCache

/-!
# Suppressed duplicates

A write whose values are all cached returns without a control frame. That is
sound as long as the cache agrees with the newest frames: every cached value is
the one the last frame naming the datapoint carried. Only one thing breaks the
agreement, a frame that goes out and is not verified, because the cache is
written after verification while the pump may act on the frame anyway.
-/

namespace JebaoFlow

variable {dev : LanJebaoDevice} {s s' : LanState}

/--
Whatever is asked next: if it returns without a frame, then the newest frame that
carried a requested datapoint carried the requested value.
-/
def SuppressionSound (dev : LanJebaoDevice) (s : LanState) : Prop :=
  ∀ (call : WriteCall) (io : WriteIo) (changes : Dict String Value) (s' : LanState),
    call.changes dev = .ok changes → call.run dev io s = (.ok (), s') → s'.frames = s.frames →
    ∀ name value, changes.get? name = some value →
      ∃ carried, s'.lastCarried name = some carried ∧ carried.eq value = true

/-- Every cached value is the one the newest frame carried. -/
def CacheCarried (s : LanState) : Prop :=
  ∀ name value, s.lastSentValues.get? name = some value →
    ∃ carried, s.lastCarried name = some carried ∧ carried.eq value = true

/-- A frame goes out, is not verified, and carries another value than the cached one. -/
def Strands (dev : LanJebaoDevice) (s : LanState) : LanOp → Prop
  | .write call io => ∃ changes, call.changes dev = .ok changes ∧ Transmits dev changes io s
      ∧ ¬ LastConfirms dev changes (dev.readPayloads changes io)
      ∧ ∃ name cached value, s.lastSentValues.get? name = some cached
          ∧ changes.get? name = some value ∧ value.eq cached = false
  | .connect _ _ | .disconnect _ | .getState _ => False

theorem suppressionSound_iff (hinv : CacheInv dev s) : SuppressionSound dev s ↔ CacheCarried s := by
  constructor
  · intro h name value hget
    -- asking for the cached value alone is suppressed
    obtain ⟨call, hcall, hrun⟩ := hinv.ask hget ⟨0, .ok (), 0, .ok (), 0, fun _ => .ok []⟩
    exact h call _ _ s hcall hrun rfl name value (get?_single.mpr ⟨rfl, rfl⟩)
  · intro h call io changes s' hchanges hrun hframes name value hget
    rw [run_eq, hchanges] at hrun
    obtain ⟨r, s₁, hrun₁, hout⟩ := applyChanges_outcome dev changes io s
    have hsame : dev.applyChanges changes io s = (.ok (), s') := hrun
    rw [hrun₁] at hsame
    cases hsame
    cases hout with
    | suppressed _ hcached =>
        obtain ⟨cached, hcget, heq⟩ := shows_iff.mp hcached name value hget
        obtain ⟨carried, hcarried, hceq⟩ := h name cached hcget
        exact ⟨carried, hcarried, Value.eq_trans hceq heq⟩
    | verified _ _ hgrown =>
        rw [hgrown] at hframes
        exact absurd hframes (List.cons_ne_self _ _)

/-- Frames and cache as they were. -/
theorem CacheCarried.congr (h : CacheCarried s) (hframes : s'.frames = s.frames)
    (hcache : s'.lastSentValues = s.lastSentValues) : CacheCarried s' := by
  intro name value hget
  rw [hcache] at hget
  unfold LanState.lastCarried
  rw [hframes]
  exact h name value hget

theorem CacheCarried.empty (hcache : s.lastSentValues = Dict.empty) : CacheCarried s := by
  intro name value hget
  rw [hcache] at hget
  cases hget

/-- A verified frame keeps cache and frames in step. -/
theorem CacheCarried.verified {changes : Dict String Value} (h : CacheCarried s)
    (hframes : s'.frames = changes :: s.frames)
    (hcache : s'.lastSentValues = Dict.setAll Prod.fst Prod.snd changes.entries s.lastSentValues) :
    CacheCarried s' := by
  intro name value hget
  rw [hcache, get?_update] at hget
  rw [lastCarried_frame hframes]
  cases hnew : changes.get? name with
  | some requested =>
      rw [hnew, Option.some_or] at hget
      cases hget
      exact ⟨value, rfl, value.eq_refl⟩
  | none =>
      rw [hnew, Option.none_or] at hget
      exact h name value hget

/-- An unverified frame does so exactly when it repeats every cached value it carries. -/
theorem CacheCarried.unverified_iff {changes : Dict String Value} (h : CacheCarried s)
    (hframes : s'.frames = changes :: s.frames) (hcache : s'.lastSentValues = s.lastSentValues) :
    CacheCarried s' ↔ ¬ ∃ name cached value, s.lastSentValues.get? name = some cached
      ∧ changes.get? name = some value ∧ value.eq cached = false := by
  constructor
  · rintro h' ⟨name, cached, value, hcached, hnew, hne⟩
    obtain ⟨carried, hcarried, heq⟩ := h' name cached (hcache ▸ hcached)
    rw [lastCarried_frame hframes, hnew, Option.some_or] at hcarried
    cases hcarried
    exact Bool.noConfusion (heq.symm.trans hne)
  · intro hnone name cached hcached
    rw [hcache] at hcached
    rw [lastCarried_frame hframes]
    cases hnew : changes.get? name with
    | some value =>
        refine ⟨value, rfl, ?_⟩
        by_contra hne
        rw [Bool.not_eq_true] at hne
        exact hnone ⟨name, cached, value, hcached, hnew, hne⟩
    | none => exact h name cached hcached

theorem LanOutcome.cacheCarried_iff {op : LanOp} (h : CacheCarried s)
    (hout : LanOutcome dev s op s') : CacheCarried s' ↔ ¬ Strands dev s op := by
  cases hout with
  | connected hframes _ hcache =>
      refine iff_of_true ?_ (fun hc => hc)
      rcases hcache with hcache | hcache
      · exact h.congr hframes hcache
      · exact CacheCarried.empty hcache
  | disconnected hframes _ hcache =>
      refine iff_of_true ?_ (fun hc => hc)
      rcases hcache with hcache | hcache
      · exact h.congr hframes hcache
      · exact CacheCarried.empty hcache
  | unread => exact iff_of_true h (fun hc => hc)
  | read hframes hcache => exact iff_of_true (h.congr hframes hcache) (fun hc => hc)
  | unasked hasked =>
      refine iff_of_true h ?_
      rintro ⟨changes, hchanges, _⟩
      rw [hasked] at hchanges
      cases hchanges
  | @wrote call io changes r _ hasked hout =>
      have hstrands : Strands dev s (.write call io) ↔ Transmits dev changes io s
          ∧ ¬ LastConfirms dev changes (dev.readPayloads changes io)
          ∧ ∃ name cached value, s.lastSentValues.get? name = some cached
              ∧ changes.get? name = some value ∧ value.eq cached = false :=
        asked_iff hasked
      rw [hstrands]
      cases hout with
      | refused hnot => exact iff_of_true h (fun hc => hnot hc.1)
      | suppressed _ hcached =>
          refine iff_of_true h (fun hc => ?_)
          exact Bool.noConfusion (hcached.symm.trans hc.1.unsuppressed)
      | unverified hsent hlast hframes hcache =>
          rw [h.unverified_iff hframes hcache]
          exact not_congr ⟨fun hc => ⟨hsent, hlast, hc⟩, fun hc => hc.2.2⟩
      | verified _ hlast hframes hcache =>
          exact iff_of_true (h.verified hframes hcache) (fun hc => hc.2.1 hlast)

/--
**Suppression is sound along a run exactly when the run strands no frame.**

From a fresh adapter, whatever its session and its pump answer, every suppressed
write in every state of the run repeats the newest frame, if and only if every
frame of the run that goes unverified repeats the cached values it carries.
-/
theorem suppression_sound_iff (dev : LanJebaoDevice) (ops : List LanOp) :
    Run.Always (lanStep dev) (SuppressionSound dev) {} ops
      ↔ Run.Each (lanStep dev) (fun s op => ¬ Strands dev s op) {} ops := by
  have hinit : CacheInv dev {} := cacheInv_empty rfl
  refine Run.always_iff_each (fun s op _ h => cacheInv_step s op h) ?_
    (Run.each_of_all (fun _ _ => trivial) _ _) hinit
    ((suppressionSound_iff hinit).mpr (CacheCarried.empty rfl))
  intro s op _ hinv hsound
  rw [suppressionSound_iff (cacheInv_step s op hinv)]
  exact (lanStep_outcome dev s op).cacheCarried_iff ((suppressionSound_iff hinv).mp hsound)

/-! ## A pump -/

/-- A wavemaker whose hardware writes are enabled. -/
def proPump : LanJebaoDevice where
  deviceId := "right"
  schema := localWavemakerPro
  powerLimits := ⟨30, 75, by decide⟩
  allowHardwareWrites := true
  known := by simp [knownSchemas]
  step_range := LanJebaoDevice.step_default
  interval_ge := LanJebaoDevice.interval_default
  attempts_pos := LanJebaoDevice.attempts_default

/-- Its status while it runs at a given power. -/
def proStatus (power : UInt8) : Bytes := 1 :: 2 :: power :: 32 :: Bytes.zeros 448

/-- Everything answers, and every status read shows the given power. -/
def answering (power : UInt8) : WriteIo where
  checkedAt := 5
  waited := .ok ()
  startedAt := 5
  sent := .ok ()
  finishedAt := 5
  read _ := .ok (proStatus power)

/-- A verified 50, then a 60 that goes out while the reads keep showing 50. -/
def unheardSixty : List LanOp :=
  [.write (.setPower 50) (answering 50), .write (.setPower 60) (answering 50)]

/--
**A write is suppressed although another value was sent last.** After the 60 that
was not verified, the next request for 50 returns without a frame, while the
newest frame says 60.
-/
theorem suppression_unsound_proPump :
    ((WriteCall.setPower 50).run proPump (answering 50)
        (Run.exec (lanStep proPump) {} unheardSixty)).1 = .ok ()
      ∧ ((WriteCall.setPower 50).run proPump (answering 50)
          (Run.exec (lanStep proPump) {} unheardSixty)).2.frames
        = (Run.exec (lanStep proPump) {} unheardSixty).frames
      ∧ (Run.exec (lanStep proPump) {} unheardSixty).lastCarried "Flow" = some (.int 60)
      ∧ ¬ Run.Always (lanStep proPump) (SuppressionSound proPump) {} unheardSixty := by
  have hinv : CacheInv proPump (Run.exec (lanStep proPump) {} unheardSixty) :=
    Run.invariant_exec (fun s op => cacheInv_step s op) (cacheInv_empty rfl)
  have hcached : (Run.exec (lanStep proPump) {} unheardSixty).lastSentValues.get? "Flow"
      = some (.int 50) := by decide +kernel
  have hsent : (Run.exec (lanStep proPump) {} unheardSixty).lastCarried "Flow"
      = some (.int 60) := by decide +kernel
  refine ⟨by decide +kernel, by decide +kernel, hsent, fun halways => ?_⟩
  obtain ⟨carried, hcarried, heq⟩ :=
    (suppressionSound_iff hinv).mp halways.last "Flow" (.int 50) hcached
  rw [hsent] at hcarried
  cases hcarried
  exact absurd heq (by decide)

end JebaoFlow
