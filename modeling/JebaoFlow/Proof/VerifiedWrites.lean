import JebaoFlow.Proof.Suppression

/-!
# Verified writes

A write returns normally when a status payload shows its values, or when all of
them are cached. The first is a verification; the second is one only as long as
the newest payload still shows what the cache says. The pump is free to change on
its own, and a read that sees it change leaves the cache as it is.
-/

namespace JebaoFlow

variable {dev : LanJebaoDevice} {s s' : LanState}

/-- Whatever is asked next: if it returns, the newest payload read shows the request. -/
def WritesVerified (dev : LanJebaoDevice) (s : LanState) : Prop :=
  ∀ (call : WriteCall) (io : WriteIo) (changes : Dict String Value) (s' : LanState),
    call.changes dev = .ok changes → call.run dev io s = (.ok (), s') →
    ∃ raw, s'.lastStatus = some raw ∧ dev.Confirms raw changes

/-- Every cached value is shown by the newest payload read. -/
def CacheShown (dev : LanJebaoDevice) (s : LanState) : Prop :=
  ∀ name value, s.lastSentValues.get? name = some value →
    ∃ raw, s.lastStatus = some raw ∧ dev.Confirms raw (single name value)

/--
A read sees the pump drift: the last payload the call reads does not show some
cached value, other than those the call has just verified anew.
-/
def SeesDrift (dev : LanJebaoDevice) (s : LanState) : LanOp → Prop
  | .getState (.ok raw) => ∃ name cached, s.lastSentValues.get? name = some cached
      ∧ ¬ dev.Confirms raw (single name cached)
  | .write call io => ∃ changes, call.changes dev = .ok changes ∧ Transmits dev changes io s
      ∧ ∃ raw, (dev.readPayloads changes io).getLast? = some raw
      ∧ ∃ name cached, s.lastSentValues.get? name = some cached
          ∧ (dev.Confirms raw changes → changes.get? name = none)
          ∧ ¬ dev.Confirms raw (single name cached)
  | .connect _ _ | .disconnect _ | .getState (.error _) => False

/-! ## Payloads and entries -/

theorem LanJebaoDevice.Confirms.entry {raw : Bytes} {changes : Dict String Value} {name : String}
    {value : Value} (h : dev.Confirms raw changes) (hget : changes.get? name = some value) :
    dev.Confirms raw (single name value) := by
  obtain ⟨values, hdec, hshow⟩ := h
  exact ⟨values, hdec, shows_single.mpr (shows_iff.mp hshow name value hget)⟩

theorem LanJebaoDevice.Confirms.congr {raw : Bytes} {name : String} {value value' : Value}
    (h : dev.Confirms raw (single name value)) (heq : value.eq value' = true) :
    dev.Confirms raw (single name value') := by
  obtain ⟨values, hdec, hshow⟩ := h
  obtain ⟨shown, hget, hshown⟩ := shows_single.mp hshow
  exact ⟨values, hdec, shows_single.mpr ⟨shown, hget, Value.eq_trans hshown heq⟩⟩

/-- A payload that shows each entry of a request shows the request. -/
theorem confirms_of_entries {raw : Bytes} {changes : Dict String Value} {name : String}
    {value : Value} (hsome : changes.get? name = some value)
    (h : ∀ name value, changes.get? name = some value → dev.Confirms raw (single name value)) :
    dev.Confirms raw changes := by
  obtain ⟨values, hdec, _⟩ := h name value hsome
  refine ⟨values, hdec, shows_iff.mpr (fun name' value' hget => ?_)⟩
  obtain ⟨values', hdec', hshow⟩ := h name' value' hget
  rw [hdec] at hdec'
  cases hdec'
  exact shows_single.mp hshow

/-- A frame that can be built carries something. -/
theorem buildControlPayload_entry {schema : ProductSchema} {changes : Dict String Value}
    {payload : Bytes} (h : buildControlPayload schema changes = .ok payload) :
    ∃ name value, changes.get? name = some value := by
  unfold buildControlPayload at h
  split at h
  · cases h
  split at h
  · cases h
  rename_i hne
  obtain ⟨e, he⟩ := List.exists_mem_of_ne_nil _ hne
  exact ⟨e.1, e.2, Dict.get?_eq_some_iff.mpr he⟩

/-! ## The cache and the newest payload -/

theorem writesVerified_iff (hinv : CacheInv dev s) : WritesVerified dev s ↔ CacheShown dev s := by
  constructor
  · intro h name value hget
    -- asking for the cached value alone is suppressed
    obtain ⟨call, hcall, hrun⟩ := hinv.ask hget ⟨0, .ok (), 0, .ok (), 0, fun _ => .ok []⟩
    exact h call _ _ s hcall hrun
  · intro h call io changes s' hchanges hrun
    rw [run_eq, hchanges] at hrun
    obtain ⟨r, s₁, hrun₁, hout⟩ := applyChanges_outcome dev changes io s
    have hsame : dev.applyChanges changes io s = (.ok (), s') := hrun
    rw [hrun₁] at hsame
    cases hsame
    cases hout with
    | suppressed hbuild hcached =>
        obtain ⟨payload, hbuild⟩ := hbuild
        obtain ⟨name, value, hget⟩ := buildControlPayload_entry hbuild
        obtain ⟨cached, hcget, _⟩ := shows_iff.mp hcached name value hget
        obtain ⟨raw, hraw, _⟩ := h name cached hcget
        refine ⟨raw, hraw, confirms_of_entries hget (fun name' value' hget' => ?_)⟩
        obtain ⟨cached', hcget', heq⟩ := shows_iff.mp hcached name' value' hget'
        obtain ⟨raw', hraw', hconf⟩ := h name' cached' hcget'
        rw [hraw] at hraw'
        cases hraw'
        exact hconf.congr heq
    | verified _ hlast _ _ hstatus =>
        obtain ⟨raw, hraw, hconf⟩ := hlast
        rw [hraw, Option.some_or] at hstatus
        exact ⟨raw, hstatus, hconf⟩

theorem CacheShown.congr (h : CacheShown dev s) (hstatus : s'.lastStatus = s.lastStatus)
    (hcache : s'.lastSentValues = s.lastSentValues) : CacheShown dev s' := by
  intro name value hget
  rw [hcache] at hget
  rw [hstatus]
  exact h name value hget

theorem CacheShown.empty (hcache : s.lastSentValues = Dict.empty) : CacheShown dev s := by
  intro name value hget
  rw [hcache] at hget
  cases hget

/-- With the cache kept, the newest payload has to show all of it. -/
theorem cacheShown_kept_iff {raw : Bytes} (hstatus : s'.lastStatus = some raw)
    (hcache : s'.lastSentValues = s.lastSentValues) : CacheShown dev s'
      ↔ ¬ ∃ name cached, s.lastSentValues.get? name = some cached
          ∧ ¬ dev.Confirms raw (single name cached) := by
  unfold CacheShown
  rw [hstatus, hcache]
  constructor
  · rintro h ⟨name, cached, hget, hnot⟩
    obtain ⟨raw', heq, hconf⟩ := h name cached hget
    cases heq
    exact hnot hconf
  · intro hnone name cached hget
    refine ⟨raw, rfl, ?_⟩
    by_contra hnot
    exact hnone ⟨name, cached, hget, hnot⟩

/-- After a verification it has to show what the request left in the cache. -/
theorem cacheShown_verified_iff {raw : Bytes} {changes : Dict String Value}
    (hstatus : s'.lastStatus = some raw) (hconf : dev.Confirms raw changes)
    (hcache : s'.lastSentValues = Dict.setAll Prod.fst Prod.snd changes.entries s.lastSentValues) :
    CacheShown dev s' ↔ ¬ ∃ name cached, s.lastSentValues.get? name = some cached
      ∧ changes.get? name = none ∧ ¬ dev.Confirms raw (single name cached) := by
  unfold CacheShown
  rw [hstatus, hcache]
  constructor
  · rintro h ⟨name, cached, hget, hnew, hnot⟩
    obtain ⟨raw', heq, hshown⟩ := h name cached (by rw [get?_update, hnew, Option.none_or, hget])
    cases heq
    exact hnot hshown
  · intro hnone name value hget
    refine ⟨raw, rfl, ?_⟩
    rw [get?_update] at hget
    cases hnew : changes.get? name with
    | some requested =>
        rw [hnew, Option.some_or] at hget
        cases hget
        exact hconf.entry hnew
    | none =>
        rw [hnew, Option.none_or] at hget
        by_contra hnot
        exact hnone ⟨name, value, hget, hnew, hnot⟩

theorem LanOutcome.cacheShown_iff {op : LanOp} (h : CacheShown dev s)
    (hout : LanOutcome dev s op s') : CacheShown dev s' ↔ ¬ SeesDrift dev s op := by
  cases hout with
  | connected _ hstatus hcache =>
      refine iff_of_true ?_ (fun hc => hc)
      rcases hcache with hcache | hcache
      · exact h.congr hstatus hcache
      · exact CacheShown.empty hcache
  | disconnected _ hstatus hcache =>
      refine iff_of_true ?_ (fun hc => hc)
      rcases hcache with hcache | hcache
      · exact h.congr hstatus hcache
      · exact CacheShown.empty hcache
  | unread => exact iff_of_true h (fun hc => hc)
  | read _ hcache hstatus => exact cacheShown_kept_iff hstatus hcache
  | unasked hasked =>
      refine iff_of_true h ?_
      rintro ⟨changes, hchanges, _⟩
      rw [hasked] at hchanges
      cases hchanges
  | @wrote call io changes r _ hasked hout =>
      have hdrift : SeesDrift dev s (.write call io) ↔ Transmits dev changes io s
          ∧ ∃ raw, (dev.readPayloads changes io).getLast? = some raw
          ∧ ∃ name cached, s.lastSentValues.get? name = some cached
              ∧ (dev.Confirms raw changes → changes.get? name = none)
              ∧ ¬ dev.Confirms raw (single name cached) :=
        asked_iff hasked
      rw [hdrift]
      cases hout with
      | refused hnot => exact iff_of_true h (fun hc => hnot hc.1)
      | suppressed _ hcached =>
          refine iff_of_true h (fun hc => ?_)
          exact Bool.noConfusion (hcached.symm.trans hc.1.unsuppressed)
      | unverified hsent hlast _ hcache hstatus =>
          cases hpayload : (dev.readPayloads changes io).getLast? with
          | none =>
              rw [hpayload, Option.none_or] at hstatus
              exact iff_of_true (h.congr hstatus hcache) (fun ⟨_, _, hc, _⟩ => nomatch hc)
          | some raw =>
              rw [hpayload, Option.some_or] at hstatus
              rw [cacheShown_kept_iff hstatus hcache]
              -- an unverified write keeps the cache, which the last payload has to show
              have hnot : ¬ dev.Confirms raw changes := fun hc => hlast ⟨raw, hpayload, hc⟩
              refine not_congr ⟨?_, ?_⟩
              · rintro ⟨name, cached, hget, hout⟩
                exact ⟨hsent, raw, rfl, name, cached, hget, fun hc => absurd hc hnot, hout⟩
              · rintro ⟨_, _, heq, name, cached, hget, _, hout⟩
                cases heq
                exact ⟨name, cached, hget, hout⟩
      | verified hsent hlast _ hcache hstatus =>
          obtain ⟨raw, hpayload, hconf⟩ := hlast
          rw [hpayload, Option.some_or] at hstatus
          rw [cacheShown_verified_iff hstatus hconf hcache, hpayload]
          refine not_congr ⟨?_, ?_⟩
          · rintro ⟨name, cached, hget, hnew, hout⟩
            exact ⟨hsent, raw, rfl, name, cached, hget, fun _ => hnew, hout⟩
          · rintro ⟨_, _, heq, name, cached, hget, hnew, hout⟩
            cases heq
            exact ⟨name, cached, hget, hnew hconf, hout⟩

/--
**Every returned write is verified exactly when no read sees the pump drift.**

From a fresh adapter, whatever its session and its pump answer, every write that
returns in a state of the run is shown by the newest payload read, if and only if
no call of the run ends its reads with a payload that contradicts a cached value.
-/
theorem writes_verified_iff (dev : LanJebaoDevice) (ops : List LanOp) :
    Run.Always (lanStep dev) (WritesVerified dev) {} ops
      ↔ Run.Each (lanStep dev) (fun s op => ¬ SeesDrift dev s op) {} ops := by
  have hinit : CacheInv dev {} := cacheInv_empty rfl
  refine Run.always_iff_each (fun s op _ h => cacheInv_step s op h) ?_
    (Run.each_of_all (fun _ _ => trivial) _ _) hinit
    ((writesVerified_iff hinit).mpr (CacheShown.empty rfl))
  intro s op _ hinv hverified
  rw [writesVerified_iff (cacheInv_step s op hinv)]
  exact (lanStep_outcome dev s op).cacheShown_iff ((writesVerified_iff hinv).mp hverified)

/-- A verified 50, then a poll that reads 30: the pump changed on its own. -/
def driftedThirty : List LanOp :=
  [.write (.setPower 50) (answering 50), .getState (.ok (proStatus 30))]

/--
**A write returns although the pump was just seen doing something else.** After the
poll, the next request for 50 returns, and the newest payload still says 30.
-/
theorem write_unverified_proPump :
    ((WriteCall.setPower 50).run proPump (answering 50)
        (Run.exec (lanStep proPump) {} driftedThirty)).1 = .ok ()
      ∧ ((WriteCall.setPower 50).run proPump (answering 50)
          (Run.exec (lanStep proPump) {} driftedThirty)).2.lastStatus = some (proStatus 30)
      ∧ ¬ proPump.Confirms (proStatus 30) (single "Flow" (.int 50))
      ∧ ¬ Run.Always (lanStep proPump) (WritesVerified proPump) {} driftedThirty := by
  have hinv : CacheInv proPump (Run.exec (lanStep proPump) {} driftedThirty) :=
    Run.invariant_exec (fun s op => cacheInv_step s op) (cacheInv_empty rfl)
  have hcached : (Run.exec (lanStep proPump) {} driftedThirty).lastSentValues.get? "Flow"
      = some (.int 50) := by decide +kernel
  have hread : (Run.exec (lanStep proPump) {} driftedThirty).lastStatus = some (proStatus 30) := by
    decide +kernel
  have hnot : ¬ proPump.Confirms (proStatus 30) (single "Flow" (.int 50)) := by
    have hshown : (localWavemakerPro.decodeStatus (proStatus 30)).toOption.map
        (fun values => shows values (single "Flow" (.int 50))) = some false := by decide +kernel
    rintro ⟨values, hdec, hshow⟩
    have hvalues : localWavemakerPro.decodeStatus (proStatus 30) = .ok values := hdec
    rw [hvalues] at hshown
    exact Bool.noConfusion (hshow.symm.trans (Option.some.inj hshown))
  refine ⟨by decide +kernel, by decide +kernel, hnot, fun halways => ?_⟩
  obtain ⟨raw, hraw, hconf⟩ :=
    (writesVerified_iff hinv).mp halways.last "Flow" (.int 50) hcached
  rw [hread] at hraw
  cases hraw
  exact hnot hconf

end JebaoFlow
