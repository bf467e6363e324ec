import JebaoFlow.Proof.Workers

/-!
# What a round leaves behind

A round asks the discovery who is there and then handles the devices one by one. When
the discovery failed it is over and nothing has changed. When it succeeded, each device
it has handled stays `Reconciled` while the others are handled, so at the end exactly the
devices that were bound have a worker.

Workers may end by themselves at any time before the discovery answers; one that ends
later, while the round runs, is replaced in the next.
-/

namespace JebaoFlow

variable {cfg : AppConfig} {s s' : ObserverState} {i : ℕ} {worker worker' : Worker}

/-- Who is at work, and where, in the order they were created. -/
def ObserverState.live (s : ObserverState) : List (String × ResolvedDevice) :=
  (s.workers.filter (fun worker => !worker.phase.isDone)).map
    (fun worker => (worker.deviceId, worker.endpoint))

/-- How many sessions with the device are open. -/
def ObserverState.openSessions (s : ObserverState) (deviceId : String) : ℕ :=
  ((s.workers.filter (fun worker => worker.deviceId = deviceId)).map Worker.sessions).sum

/-- A worker ends in this step that nobody asked to end. -/
def EndsItself (cfg : AppConfig) (s : ObserverState) (action : ObserverAction) : Prop :=
  ∃ i worker, LiveAt s i worker ∧ worker.cancelled = false
    ∧ (observerStep cfg s action).isDone i = true

instance (cfg : AppConfig) (s : ObserverState) (action : ObserverAction) :
    Decidable (EndsItself cfg s action) :=
  decidable_of_iff (∃ i ∈ List.range s.workers.length,
      (s.workers[i]?.any fun worker => !worker.phase.isDone && !worker.cancelled) = true
        ∧ (observerStep cfg s action).isDone i = true) <| by
    constructor
    · rintro ⟨i, -, hany, hdone⟩
      obtain ⟨worker, hget, hworker⟩ := (Option.any_eq_true ..).mp hany
      rw [Bool.and_eq_true, Bool.not_eq_true', Bool.not_eq_true'] at hworker
      exact ⟨i, worker, ⟨hget, hworker.1⟩, hworker.2, hdone⟩
    · rintro ⟨i, worker, ⟨hget, hundone⟩, hcancelled, hdone⟩
      have hlt : i < s.workers.length := (List.getElem?_eq_some_iff.mp hget).1
      exact ⟨i, List.mem_range.mpr hlt, by simp [hget, hundone, hcancelled], hdone⟩

/-- What happens while the discovery is under way. -/
def ObserverAction.Background : ObserverAction → Prop
  | .worker _ _ | .written _ | .unwritten _ => True
  | _ => False

/-- What a discovery found; it is asked only when some device needs it. -/
def AppConfig.found (cfg : AppConfig) (outcome : DiscoveryOutcome) : Option (List DiscoveredDevice) :=
  if cfg.requiresDiscovery then
    match outcome with
    | .answers discovered => some discovered
    | _ => none
  else some []

/-! ## Never two for one device -/

theorem mem_live {deviceId : String} {endpoint : ResolvedDevice} : (deviceId, endpoint) ∈ s.live
    ↔ ∃ i worker, LiveAt s i worker ∧ worker.deviceId = deviceId ∧ worker.endpoint = endpoint := by
  unfold ObserverState.live
  rw [List.mem_map]
  constructor
  · rintro ⟨worker, hmem, heq⟩
    obtain ⟨hworker, hundone⟩ := List.mem_filter.mp hmem
    obtain ⟨i, hget⟩ := List.mem_iff_getElem?.mp hworker
    cases heq
    exact ⟨i, worker, ⟨hget, by simpa using hundone⟩, rfl, rfl⟩
  · rintro ⟨i, worker, ⟨hget, hundone⟩, rfl, rfl⟩
    exact ⟨worker, List.mem_filter.mpr ⟨List.mem_of_getElem? hget, by simp [hundone]⟩, rfl⟩

/-- Two workers that are at work are at work for two devices. -/
theorem workers_apart (hinv : WorkersInv cfg s) : s.workers.Pairwise (fun a b =>
    a.phase.isDone = false → b.phase.isDone = false → a.deviceId ≠ b.deviceId) := by
  rw [List.pairwise_iff_getElem]
  intro i j hi hj hij ha hb hid
  have hsame : i = j := hinv.unique ⟨List.getElem?_eq_getElem hi, ha⟩
    ⟨List.getElem?_eq_getElem hj, hb⟩ hid
  omega

theorem live_nodup (hinv : WorkersInv cfg s) : (s.live.map Prod.fst).Nodup := by
  unfold ObserverState.live
  rw [List.map_map, List.Nodup, List.pairwise_map, List.pairwise_filter]
  refine (workers_apart hinv).imp fun {a b} hapart ha hb => ?_
  exact hapart (by simpa using ha) (by simpa using hb)

theorem sum_le_one : ∀ {counts : List ℕ}, (∀ n ∈ counts, n ≤ 1) →
    counts.Pairwise (fun a b => a = 0 ∨ b = 0) → counts.sum ≤ 1
  | [], _, _ => Nat.zero_le 1
  | n :: counts, hone, hpairwise => by
      obtain ⟨hhead, htail⟩ := List.pairwise_cons.mp hpairwise
      rw [List.sum_cons]
      rcases Nat.eq_zero_or_pos n with hzero | hpos
      · have := sum_le_one (fun m hm => hone m (List.mem_cons_of_mem _ hm)) htail
        omega
      · have hrest : counts.sum = 0 :=
          List.sum_eq_zero fun m hm => (hhead m hm).resolve_left (by omega)
        have := hone n (List.mem_cons_self ..)
        omega

theorem openSessions_le (hinv : WorkersInv cfg s) (deviceId : String) :
    s.openSessions deviceId ≤ 1 := by
  have hsound {worker : Worker} (h : worker ∈ s.workers) : worker.Sound := by
    obtain ⟨i, hget⟩ := List.mem_iff_getElem?.mp h
    exact hinv.sound hget
  apply sum_le_one
  · intro n hn
    obtain ⟨worker, hworker, rfl⟩ := List.mem_map.mp hn
    exact (hsound (List.mem_of_mem_filter hworker)).one
  · rw [List.pairwise_map, List.pairwise_filter]
    refine (workers_apart hinv).imp_of_mem fun {a b} ha hb hapart hida hidb => ?_
    -- a worker with an open session is not done
    by_contra hopen
    rw [not_or] at hopen
    refine hapart ?_ ?_ ?_
    · exact (hsound ha).live hopen.1
    · exact (hsound hb).live hopen.2
    · simp only [decide_eq_true_eq] at hida hidb
      exact hida.trans hidb.symm

/-! ## While the discovery is under way -/

theorem observerStep_worker (hat : s.workers[i]? = some worker) (action : WorkerAction) :
    observerStep cfg s (.worker i action) = workerStep s i worker action := by
  unfold observerStep
  dsimp only
  rw [hat]

/-- What happens in the background leaves the table and the reconciler alone. -/
theorem background_step {action : ObserverAction} (h : action.Background) :
    (observerStep cfg s action).table = s.table
      ∧ (observerStep cfg s action).reconciler = s.reconciler := by
  cases action with
  | worker i action =>
      unfold observerStep
      dsimp only
      split
      · rename_i hat
        obtain ⟨worker', hstepped, -⟩ := workerStep_stepped hat action
        exact ⟨hstepped.table, hstepped.reconciler⟩
      · exact ⟨rfl, rfl⟩
  | written write =>
      unfold observerStep
      dsimp only
      split <;> exact ⟨rfl, rfl⟩
  | unwritten write => exact ⟨rfl, rfl⟩
  | _ => cases h

/-- What a round changes of a worker: it may also only be asked to end, or end. -/
def Worker.task (worker : Worker) : String × ResolvedDevice × Bool × Bool :=
  (worker.deviceId, worker.endpoint, worker.cancelled, worker.phase.isDone)

/-- As long as no worker ends by itself, a discovery changes none. -/
theorem background_task {action : ObserverAction} (h : action.Background)
    (hunasked : ∀ j worker, LiveAt s j worker → worker.cancelled = false)
    (hitself : ¬ EndsItself cfg s action) :
    (observerStep cfg s action).workers.map Worker.task = s.workers.map Worker.task := by
  cases action with
  | worker i action =>
      cases hat : s.workers[i]? with
      | none =>
          unfold observerStep
          dsimp only
          rw [hat]
      | some worker =>
          obtain ⟨worker', hstepped, hevolves⟩ := workerStep_stepped hat action
          have hdone : worker'.phase.isDone = worker.phase.isDone := by
            cases hundone : worker.phase.isDone with
            | true =>
                -- who is done stays done
                by_contra hne
                have hlive := hevolves.live (Bool.eq_false_iff.mpr hne)
                rw [hundone] at hlive
                cases hlive
            | false =>
                -- nobody was asked to end, so it would have ended by itself
                by_contra hne
                refine hitself ⟨i, worker, ⟨hat, hundone⟩, hunasked i worker ⟨hat, hundone⟩,
                  isDone_iff.mpr ?_⟩
                rintro other ⟨hget, hother⟩
                rw [observerStep_worker hat, hstepped.getElem? hat, if_pos rfl] at hget
                obtain rfl : worker' = other := Option.some.inj hget
                exact hne hother
          have htask : worker'.task = worker.task := by
            unfold Worker.task
            rw [hevolves.deviceId, hevolves.endpoint, hevolves.cancelled, hdone]
          rw [observerStep_worker hat]
          refine List.ext_getElem? fun j => ?_
          rw [List.getElem?_map, List.getElem?_map, hstepped.getElem? hat]
          split
          · rename_i hij
            rw [← hij, hat, Option.map_some, Option.map_some, htask]
          · rfl
  | written write =>
      unfold observerStep
      dsimp only
      split <;> rfl
  | unwritten write => rfl
  | _ => cases h

theorem background_exec {during : List ObserverAction} (hinv : WorkersInv cfg s)
    (hends : ∀ j, ¬ s.reconciler.Ends j) (hduring : ∀ action ∈ during, action.Background)
    (hitself : Run.Each (observerStep cfg) (fun s action => ¬ EndsItself cfg s action) s during) :
    (Run.exec (observerStep cfg) s during).reconciler = s.reconciler
      ∧ (Run.exec (observerStep cfg) s during).table = s.table
      ∧ (Run.exec (observerStep cfg) s during).workers.map Worker.task
        = s.workers.map Worker.task := by
  induction during generalizing s with
  | nil => exact ⟨rfl, rfl, rfl⟩
  | cons action during ih =>
      have haction := hduring action (List.mem_cons_self ..)
      obtain ⟨htable, hreconciler⟩ := @background_step cfg s action haction
      have htask := background_task haction (hinv.unasked hends) hitself.1
      obtain ⟨hreconciler', htable', htask'⟩ := ih (workersInv_step hinv action)
        (hreconciler ▸ hends) (fun other h => hduring other (List.mem_cons_of_mem _ h)) hitself.2
      exact ⟨hreconciler'.trans hreconciler, htable'.trans htable, htask'.trans htask⟩

/-! ## While the devices are handled -/

/-- The device has what the round resolved: a worker there that goes on, or none. -/
def Reconciled (resolved : Dict String ResolvedDevice) (base : ℕ) (s : ObserverState)
    (config : DeviceConfig) : Prop :=
  match resolved.get? config.id with
  | some endpoint => ∃ i worker, s.table.get? config.id = some (endpoint, i) ∧ LiveAt s i worker
      ∧ worker.cancelled = false
  | none => s.table.get? config.id = none ∧ ∃ event ∈ s.events.drop base,
      event.deviceId = config.id ∧ event.status = .unmapped

/-- The devices that were handled are reconciled. -/
def HandledBefore (cfg : AppConfig) (resolved : Dict String ResolvedDevice) (base : ℕ)
    (s : ObserverState) (configs : List DeviceConfig) : Prop :=
  ∃ handled, cfg.observed = handled ++ configs ∧ ∀ config ∈ handled, Reconciled resolved base s config

/-- A round is under way that resolved these devices, or it is over. -/
structure InRound (cfg : AppConfig) (resolved : Dict String ResolvedDevice) (base : ℕ)
    (s : ObserverState) : Prop where
  events : base ≤ s.events.length
  handled : match s.reconciler with
    | .idle => HandledBefore cfg resolved base s []
    | .discovering => False
    | .binding resolved' configs => resolved' = resolved ∧ HandledBefore cfg resolved base s configs
    | .gathering resolved' config _ configs =>
        resolved' = resolved ∧ HandledBefore cfg resolved base s (config :: configs)
    | .stopping | .stopped => True

theorem mem_drop_of_prefix {α : Type} {base : ℕ} {list list' : List α} (h : list <+: list') {a : α}
    (ha : a ∈ list.drop base) : a ∈ list'.drop base := by
  obtain ⟨rest, rfl⟩ := h
  rw [List.drop_append]
  exact List.mem_append_left _ ha

/-- What other devices need done leaves this one reconciled. -/
theorem Reconciled.frame {resolved : Dict String ResolvedDevice} {base : ℕ} {config : DeviceConfig}
    (h : Reconciled resolved base s config)
    (htable : s'.table.get? config.id = s.table.get? config.id)
    (hworkers : ∀ endpoint i worker, s.table.get? config.id = some (endpoint, i) →
      LiveAt s i worker → worker.cancelled = false →
        ∃ worker', LiveAt s' i worker' ∧ worker'.cancelled = false)
    (hevents : s.events <+: s'.events) : Reconciled resolved base s' config := by
  unfold Reconciled at h ⊢
  rw [htable]
  split at h
  · obtain ⟨i, worker, hentry, hlive, hcancelled⟩ := h
    obtain ⟨worker', hlive', hcancelled'⟩ := hworkers _ i worker hentry hlive hcancelled
    exact ⟨i, worker', hentry, hlive', hcancelled'⟩
  · obtain ⟨hnone, event, hevent, hid, hstatus⟩ := h
    exact ⟨hnone, event, mem_drop_of_prefix hevents hevent, hid, hstatus⟩

theorem HandledBefore.mono {resolved : Dict String ResolvedDevice} {base : ℕ}
    {configs : List DeviceConfig} (h : HandledBefore cfg resolved base s configs)
    (hframe : ∀ config, config.id ∉ configs.map DeviceConfig.id → Reconciled resolved base s config →
      Reconciled resolved base s' config) : HandledBefore cfg resolved base s' configs := by
  obtain ⟨handled, hobserved, hreconciled⟩ := h
  refine ⟨handled, hobserved, fun config hconfig => hframe config ?_ (hreconciled config hconfig)⟩
  have hnodup : ((handled ++ configs).map DeviceConfig.id).Nodup := by
    rw [← hobserved]
    exact cfg.device_ids_unique.sublist (List.filter_sublist.map DeviceConfig.id)
  rw [List.map_append] at hnodup
  intro hmem
  exact List.disjoint_of_nodup_append hnodup (List.mem_map_of_mem hconfig) hmem

/-- The next device is reconciled too. -/
theorem HandledBefore.snoc {resolved : Dict String ResolvedDevice} {base : ℕ} {config : DeviceConfig}
    {configs : List DeviceConfig} (h : HandledBefore cfg resolved base s (config :: configs))
    (hreconciled : Reconciled resolved base s config) : HandledBefore cfg resolved base s configs := by
  obtain ⟨handled, hobserved, hall⟩ := h
  refine ⟨handled ++ [config], by rw [hobserved, List.append_assoc]; rfl, fun other hother => ?_⟩
  rcases List.mem_append.mp hother with hmem | hmem
  · exact hall other hmem
  · exact List.mem_singleton.mp hmem ▸ hreconciled

section Round

variable {resolved : Dict String ResolvedDevice} {base : ℕ} {config other : DeviceConfig}
  {configs : List DeviceConfig} {endpoint : ResolvedDevice}

theorem Reconciled.same (h : Reconciled resolved base s config) (hworkers : s'.workers = s.workers)
    (htable : s'.table = s.table) (hevents : s.events <+: s'.events) :
    Reconciled resolved base s' config := by
  refine h.frame (by rw [htable]) (fun _ i worker _ hlive hcancelled => ?_) hevents
  exact ⟨worker, ⟨hworkers ▸ hlive.1, hlive.2⟩, hcancelled⟩

theorem Reconciled.spawn (h : Reconciled resolved base s other) (hne : config.id ≠ other.id) :
    Reconciled resolved base (s.spawn config endpoint) other := by
  refine h.frame (Dict.get?_set_ne _ _ hne) (fun _ i worker _ hlive hcancelled => ?_)
    List.prefix_rfl
  exact ⟨worker, ⟨spawn_getElem?.mpr (Or.inl hlive.1), hlive.2⟩, hcancelled⟩

theorem spawn_reconciled (s : ObserverState) (hresolved : resolved.get? config.id = some endpoint) :
    Reconciled resolved base (s.spawn config endpoint) config := by
  unfold Reconciled
  rw [hresolved]
  exact ⟨_, _, Dict.get?_set_self .., ⟨spawn_getElem?.mpr (Or.inr ⟨rfl, rfl⟩), rfl⟩, rfl⟩

theorem Reconciled.unmap (h : Reconciled resolved base s other) (hne : config.id ≠ other.id)
    (occurredAt : Datetime) : Reconciled resolved base
      ({ s with table := s.table.erase config.id }.unmap config occurredAt) other := by
  refine h.frame ?_ (fun _ i worker _ hlive hcancelled => ⟨worker, hlive, hcancelled⟩)
    (List.prefix_append ..)
  show (s.table.erase config.id).get? other.id = _
  rw [Dict.get?_erase, if_neg hne]

theorem unmap_reconciled (hresolved : resolved.get? config.id = none)
    (hnone : s.table.get? config.id = none) (hbase : base ≤ s.events.length)
    (occurredAt : Datetime) : Reconciled resolved base (s.unmap config occurredAt) config := by
  unfold Reconciled
  rw [hresolved]
  have hevents : (s.unmap config occurredAt).events.drop base
      = s.events.drop base ++ [{ deviceId := config.id, status := .unmapped, occurredAt
                                 error := some "stable_identity_not_resolved" }] :=
    List.drop_append_of_le_length hbase
  rw [hevents]
  exact ⟨hnone, _, List.mem_append_right _ (List.mem_singleton_self _), rfl, rfl⟩

/-- The worker of another device is not the one that was asked to end. -/
theorem Reconciled.cancel (h : Reconciled resolved base s other) (hinv : WorkersInv cfg s)
    (hentry : s.table.get? config.id = some (endpoint, i)) (hne : config.id ≠ other.id)
    (reconciler : Reconciler) :
    Reconciled resolved base { s.cancel i with reconciler } other := by
  refine h.frame rfl (fun current j worker hother hlive hcancelled => ?_) List.prefix_rfl
  have hij : j ≠ i := by
    -- a task in two places of the table would be of two devices
    rintro rfl
    obtain ⟨worker, hget, hid, -⟩ := hinv.entry hentry
    obtain ⟨worker', hget', hid', -⟩ := hinv.entry hother
    obtain rfl : worker = worker' := Option.some.inj (hget.symm.trans hget')
    exact hne (hid.symm.trans hid')
  refine ⟨worker, ⟨?_, hlive.2⟩, hcancelled⟩
  show (s.cancel i).workers[j]? = _
  rw [(asked_cancel s i).workers, hlive.1, decide_eq_false hij]
  simp only [Option.map_some, Worker.ask, Bool.or_false]

theorem Reconciled.step {action : WorkerAction} (h : Reconciled resolved base s config)
    (hat : s.workers[i]? = some worker)
    (hitself : ¬ EndsItself cfg s (.worker i action)) :
    Reconciled resolved base (workerStep s i worker action) config := by
  obtain ⟨worker', hstepped, hevolves⟩ := workerStep_stepped hat action
  refine h.frame (by rw [hstepped.table]) (fun _ j other _ hlive hcancelled => ?_) hstepped.events
  by_cases hij : i = j
  · -- its own worker took the step, and goes on unless it ends by itself
    subst hij
    obtain rfl : worker = other := Option.some.inj (hat.symm.trans hlive.1)
    by_contra hended
    refine hitself ⟨i, worker, hlive, hcancelled, isDone_iff.mpr fun other hother => hended ?_⟩
    rw [observerStep_worker hat] at hother
    have hget : (workerStep s i worker action).workers[i]? = some worker' := by
      rw [hstepped.getElem? hat, if_pos rfl]
    obtain rfl : worker' = other := Option.some.inj (hget.symm.trans hother.1)
    exact ⟨worker', hother, hevolves.cancelled.trans hcancelled⟩
  · refine ⟨other, ⟨?_, hlive.2⟩, hcancelled⟩
    rw [hstepped.getElem? hat, if_neg hij]
    exact hlive.1

/-- A device is handled, or its worker was asked to end. -/
theorem bindOne_inRound (hinv : WorkersInv cfg s) (hbase : base ≤ s.events.length)
    (hreconciler : s.reconciler = .binding resolved (config :: configs))
    (h : HandledBefore cfg resolved base s (config :: configs)) (occurredAt : Datetime) :
    InRound cfg resolved base (s.bindOne resolved config configs occurredAt) := by
  have hne {other : DeviceConfig} (hnotMem : other.id ∉ (config :: configs).map DeviceConfig.id) :
      config.id ≠ other.id := fun heq => hnotMem (heq ▸ List.mem_cons_self ..)
  have hgathering {current : ResolvedDevice} {j : ℕ}
      (hentry : s.table.get? config.id = some (current, j)) : InRound cfg resolved base
        { s.cancel j with reconciler := .gathering resolved config j configs } :=
    ⟨hbase, rfl, h.mono fun _ hnotMem hreconciled => hreconciled.cancel hinv hentry (hne hnotMem) _⟩
  let next : ObserverState := { s with reconciler := .binding resolved configs }
  have hnext {other : DeviceConfig} (hreconciled : Reconciled resolved base s other) :
      Reconciled resolved base next other := hreconciled.same rfl rfl List.prefix_rfl
  unfold ObserverState.bindOne
  dsimp only
  split
  · rename_i hresolved hnone
    refine ⟨hbase.trans (List.prefix_append ..).length_le, rfl, ?_⟩
    have hrest : HandledBefore cfg resolved base (next.unmap config occurredAt) (config :: configs) :=
      h.mono fun _ _ hreconciled => hreconciled.same rfl rfl (List.prefix_append ..)
    exact hrest.snoc (unmap_reconciled (s := next) hresolved hnone hbase occurredAt)
  · rename_i hentry
    exact hgathering hentry
  · rename_i hresolved hnone
    refine ⟨hbase, rfl, ?_⟩
    exact (h.mono fun _ hnotMem hreconciled => (hnext hreconciled).spawn (hne hnotMem)).snoc
      (spawn_reconciled next hresolved)
  · rename_i endpoint current j hresolved hentry
    split
    · rename_i hkept
      obtain ⟨rfl, hundone⟩ := hkept
      refine ⟨hbase, rfl, (h.mono fun _ _ hreconciled => hnext hreconciled).snoc ?_⟩
      -- its worker is at work, and nobody asked it to end
      obtain ⟨worker, hget, -, -⟩ := hinv.entry hentry
      have hlive : LiveAt s j worker := by
        refine ⟨hget, ?_⟩
        unfold ObserverState.isDone at hundone
        rw [hget] at hundone
        exact hundone
      have hends : ∀ j, ¬ s.reconciler.Ends j := by
        intro j h
        rw [hreconciler] at h
        exact h
      unfold Reconciled
      rw [hresolved]
      exact ⟨j, worker, hentry, hlive, hinv.unasked hends j worker hlive⟩
    · exact hgathering hentry

theorem bindGathered_inRound (hbase : base ≤ s.events.length)
    (h : HandledBefore cfg resolved base s (config :: configs)) (occurredAt : Datetime) :
    InRound cfg resolved base (s.bindGathered resolved config configs occurredAt) := by
  have hne {other : DeviceConfig} (hnotMem : other.id ∉ (config :: configs).map DeviceConfig.id) :
      config.id ≠ other.id := fun heq => hnotMem (heq ▸ List.mem_cons_self ..)
  let next : ObserverState := { s with reconciler := .binding resolved configs }
  have hnext {other : DeviceConfig} (hreconciled : Reconciled resolved base s other) :
      Reconciled resolved base next other := hreconciled.same rfl rfl List.prefix_rfl
  unfold ObserverState.bindGathered
  dsimp only
  split
  · rename_i hresolved
    refine ⟨hbase.trans (List.prefix_append ..).length_le, rfl, ?_⟩
    have hnone : (next.table.erase config.id).get? config.id = none := by
      rw [Dict.get?_erase, if_pos rfl]
    exact (h.mono fun _ hnotMem hreconciled => (hnext hreconciled).unmap (hne hnotMem) occurredAt).snoc
      (unmap_reconciled (s := { next with table := next.table.erase config.id }) hresolved hnone hbase
        occurredAt)
  · rename_i hresolved
    refine ⟨hbase, rfl, ?_⟩
    exact (h.mono fun _ hnotMem hreconciled => (hnext hreconciled).spawn (hne hnotMem)).snoc
      (spawn_reconciled next hresolved)

/-- Nothing that happens in a round undoes a device it has handled. -/
theorem inRound_step {action : ObserverAction} (hinv : WorkersInv cfg s)
    (h : InRound cfg resolved base s) (hround : action ≠ .beginRound)
    (hitself : ¬ EndsItself cfg s action) :
    InRound cfg resolved base (observerStep cfg s action) := by
  have hkeep {s' : ObserverState} (hreconciler : s'.reconciler = s.reconciler)
      (hevents : s.events <+: s'.events)
      (hreconciled : ∀ config, Reconciled resolved base s config → Reconciled resolved base s' config) :
      InRound cfg resolved base s' := by
    refine ⟨h.events.trans hevents.length_le, ?_⟩
    have hhandled := h.handled
    have hall {configs : List DeviceConfig} (hc : HandledBefore cfg resolved base s configs) :
        HandledBefore cfg resolved base s' configs := hc.mono fun config _ => hreconciled config
    rw [hreconciler]
    cases hat : s.reconciler with
    | idle => rw [hat] at hhandled; exact hall hhandled
    | discovering => rw [hat] at hhandled; exact hhandled
    | binding => rw [hat] at hhandled; exact ⟨hhandled.1, hall hhandled.2⟩
    | gathering => rw [hat] at hhandled; exact ⟨hhandled.1, hall hhandled.2⟩
    | stopping => trivial
    | stopped => trivial
  have hhandled := h.handled
  unfold observerStep
  split
  case h_1 => exact absurd rfl hround
  case h_2 hreconciler =>
      rw [hreconciler] at hhandled
      exact hhandled.elim
  case h_3 hreconciler =>
      rw [hreconciler] at hhandled
      exact ⟨h.events, hhandled.2.mono fun _ _ hreconciled => hreconciled.same rfl rfl List.prefix_rfl⟩
  case h_4 hreconciler =>
      rw [hreconciler] at hhandled
      obtain ⟨rfl, hhandled⟩ := hhandled
      exact bindOne_inRound hinv h.events hreconciler hhandled _
  case h_5 hreconciler =>
      rw [hreconciler] at hhandled
      obtain ⟨rfl, hhandled⟩ := hhandled
      split
      · exact bindGathered_inRound h.events hhandled _
      · exact h
  case h_6 | h_7 => exact h
  case h_8 =>
      obtain ⟨asked, hasked⟩ := asked_stop s
      exact ⟨by rw [hasked.events]; exact h.events, trivial⟩
  case h_9 =>
      split
      · exact ⟨h.events, trivial⟩
      · exact h
  case h_10 =>
      split
      · rename_i hat
        obtain ⟨worker', hstepped, -⟩ := workerStep_stepped hat _
        exact hkeep hstepped.reconciler hstepped.events
          fun config hreconciled => hreconciled.step hat hitself
      · exact h
  case h_11 =>
      split
      · exact hkeep rfl List.prefix_rfl fun _ hreconciled => hreconciled.same rfl rfl List.prefix_rfl
      · exact h
  case h_12 =>
      exact hkeep rfl List.prefix_rfl fun _ hreconciled => hreconciled.same rfl rfl List.prefix_rfl
  case h_13 => exact h

theorem inRound_exec {after : List ObserverAction} (hinv : WorkersInv cfg s)
    (h : InRound cfg resolved base s) (hround : .beginRound ∉ after)
    (hitself : Run.Each (observerStep cfg) (fun s action => ¬ EndsItself cfg s action) s after) :
    InRound cfg resolved base (Run.exec (observerStep cfg) s after) := by
  induction after generalizing s with
  | nil => exact h
  | cons action after ih =>
      rw [List.mem_cons, not_or] at hround
      exact ih (workersInv_step hinv action)
        (inRound_step hinv h (fun heq => hround.1 heq.symm) hitself.1) hround.2 hitself.2

end Round

/-- Once every device is reconciled, who is at work is who was bound. -/
theorem live_iff_of_reconciled {resolved : Dict String ResolvedDevice} {base : ℕ}
    (hinv : WorkersInv cfg s) (hreconciled : ∀ config ∈ cfg.observed, Reconciled resolved base s config)
    (hknown : ∀ {deviceId endpoint}, resolved.get? deviceId = some endpoint →
      deviceId ∈ cfg.observed.map DeviceConfig.id) (deviceId : String) (endpoint : ResolvedDevice) :
    (deviceId, endpoint) ∈ s.live ↔ resolved.get? deviceId = some endpoint := by
  rw [mem_live]
  constructor
  · rintro ⟨i, worker, hlive, rfl, rfl⟩
    -- its place in the table shows that the device is one of those the round handled
    have hentry := hinv.live hlive
    obtain ⟨config, hconfig, hid⟩ := List.mem_map.mp (hinv.keys hentry)
    have hdone := hreconciled config hconfig
    unfold Reconciled at hdone
    rw [hid] at hdone
    split at hdone
    · rename_i hresolved
      obtain ⟨j, other, hentry', -⟩ := hdone
      rw [hentry] at hentry'
      injection hentry' with hentry'
      injection hentry' with hendpoint
      rw [hresolved, hendpoint]
    · rw [hentry] at hdone
      cases hdone.1
  · intro hresolved
    obtain ⟨config, hconfig, rfl⟩ := List.mem_map.mp (hknown hresolved)
    have hdone := hreconciled config hconfig
    unfold Reconciled at hdone
    rw [hresolved] at hdone
    obtain ⟨i, worker, hentry, hlive, -⟩ := hdone
    obtain ⟨other, hget, hid, hendpoint⟩ := hinv.entry hentry
    obtain rfl : worker = other := Option.some.inj (hlive.1.symm.trans hget)
    exact ⟨i, worker, hlive, hid, hendpoint⟩

theorem live_eq_of_task (h : s'.workers.map Worker.task = s.workers.map Worker.task) :
    s'.live = s.live := by
  have hlive (s : ObserverState) : s.live
      = ((s.workers.map Worker.task).filter (fun task => !task.2.2.2)).map
          (fun task => (task.1, task.2.1)) := by
    rw [List.filter_map, List.map_map]
    rfl
  rw [hlive s', hlive s, h]

/-- A round whose discovery failed is over and changed nothing. -/
theorem failed_round (hinv : WorkersInv cfg s) (hidle : s.reconciler = .idle)
    (hrequires : cfg.requiresDiscovery = true) {during : List ObserverAction} (error : String)
    (hduring : ∀ action ∈ during, action.Background)
    (hitself : Run.Each (observerStep cfg) (fun s action => ¬ EndsItself cfg s action)
      (observerStep cfg s .beginRound) during) {ended : ObserverState}
    (hended : ended = Run.exec (observerStep cfg) s
      (.beginRound :: during ++ [.discovered (.failed error)])) :
    ended.reconciler = .idle ∧ ended.table = s.table
      ∧ ended.workers.map Worker.task = s.workers.map Worker.task := by
  have hbegun : (observerStep cfg s .beginRound).workers = s.workers
      ∧ (observerStep cfg s .beginRound).table = s.table
      ∧ ((observerStep cfg s .beginRound).reconciler = .idle
        ∨ (observerStep cfg s .beginRound).reconciler = .discovering) := by
    unfold observerStep
    rw [hidle]
    dsimp only
    split
    · exact ⟨rfl, rfl, Or.inr rfl⟩
    · exact ⟨rfl, rfl, Or.inl hidle⟩
  obtain ⟨hworkers, htable, hreconciler⟩ := hbegun
  have hends : ∀ j, ¬ (observerStep cfg s .beginRound).reconciler.Ends j := by
    intro j
    rcases hreconciler with h | h <;> rw [h] <;> exact id
  obtain ⟨hreconciler', htable', htask⟩ :=
    background_exec (workersInv_step hinv .beginRound) hends hduring hitself
  rw [hworkers] at htask
  rw [List.cons_append, Run.exec_cons, Run.exec_append, Run.exec_cons, Run.exec_nil] at hended
  subst hended
  generalize hdone : Run.exec (observerStep cfg) (observerStep cfg s .beginRound) during = t
    at hreconciler' htable' htask ⊢
  unfold observerStep
  rcases hreconciler with h | h
  · rw [h] at hreconciler'
    rw [hreconciler']
    exact ⟨hreconciler', htable'.trans htable, htask⟩
  · rw [h] at hreconciler'
    rw [hreconciler']
    dsimp only
    rw [if_pos hrequires]
    exact ⟨rfl, htable'.trans htable, htask⟩

/-- A round whose discovery succeeded leaves every device reconciled. -/
theorem succeeded_round (hinv : WorkersInv cfg s) (hdiscovering : s.reconciler = .discovering)
    {outcome : DiscoveryOutcome} {discovered : List DiscoveredDevice}
    (hfound : cfg.found outcome = some discovered) {after : List ObserverAction}
    (hround : .beginRound ∉ after)
    (hitself : Run.Each (observerStep cfg) (fun s action => ¬ EndsItself cfg s action)
      (observerStep cfg s (.discovered outcome)) after) {ended : ObserverState}
    (hended : ended = Run.exec (observerStep cfg) s (.discovered outcome :: after))
    (hidle : ended.reconciler = .idle) : ∀ config ∈ cfg.observed,
      Reconciled (resolveDeviceBindings cfg.observed discovered) s.events.length ended config := by
  have hbinding : observerStep cfg s (.discovered outcome) = { s with
      reconciler := .binding (resolveDeviceBindings cfg.observed discovered) cfg.observed } := by
    unfold AppConfig.found at hfound
    unfold observerStep
    rw [hdiscovering]
    dsimp only
    split at hfound
    · split at hfound
      · injection hfound with hfound
        rw [if_pos ‹_›, hfound]
      · cases hfound
    · injection hfound with hfound
      rw [if_neg ‹_›, hfound]
  have hbegun : InRound cfg (resolveDeviceBindings cfg.observed discovered) s.events.length
      (observerStep cfg s (.discovered outcome)) := by
    rw [hbinding]
    exact ⟨Nat.le_refl _, rfl, [], rfl, fun _ h => by cases h⟩
  have hdone := (inRound_exec (workersInv_step hinv _) hbegun hround hitself).handled
  rw [Run.exec_cons] at hended
  rw [← hended, hidle] at hdone
  obtain ⟨handled, hobserved, hreconciled⟩ := hdone
  rw [List.append_nil] at hobserved
  intro config hconfig
  rw [hobserved] at hconfig
  exact hreconciled config hconfig

/--
**The workers at work are those the last successful round bound.**

In every state there is at most one worker at work for a device, and at most one open
session with it. A round whose discovery failed changes neither the table nor a worker.
A round whose discovery succeeded ends, if no worker ends by itself in it, with exactly
the bound devices at work, each where it was bound; every other device has no place in
the table and was reported as unmapped.
-/
theorem workers_reconciled (cfg : AppConfig) (history : List ObserverAction) {s : ObserverState}
    (hs : s = Run.exec (observerStep cfg) {} history) :
    ((s.live.map Prod.fst).Nodup ∧ ∀ deviceId, s.openSessions deviceId ≤ 1)
      ∧ (s.reconciler = .idle → cfg.requiresDiscovery = true →
        ∀ (during : List ObserverAction) (error : String),
          (∀ action ∈ during, action.Background) →
          Run.Each (observerStep cfg) (fun s action => ¬ EndsItself cfg s action)
            (observerStep cfg s .beginRound) during →
          ∀ ended, ended = Run.exec (observerStep cfg) s
              (.beginRound :: during ++ [.discovered (.failed error)]) →
            ended.reconciler = .idle ∧ ended.table = s.table ∧ ended.live = s.live
              ∧ ended.workers.map Worker.task = s.workers.map Worker.task)
      ∧ (s.reconciler = .discovering → ∀ outcome discovered, cfg.found outcome = some discovered →
        ∀ after, .beginRound ∉ after →
          Run.Each (observerStep cfg) (fun s action => ¬ EndsItself cfg s action)
            (observerStep cfg s (.discovered outcome)) after →
          ∀ ended, ended = Run.exec (observerStep cfg) s (.discovered outcome :: after) →
          ended.reconciler = .idle →
            (∀ deviceId endpoint, (deviceId, endpoint) ∈ ended.live
              ↔ (resolveDeviceBindings cfg.observed discovered).get? deviceId = some endpoint)
            ∧ ∀ config ∈ cfg.observed,
              (resolveDeviceBindings cfg.observed discovered).get? config.id = none →
                ended.table.get? config.id = none
                ∧ ∃ event ∈ ended.events.drop s.events.length,
                  event.deviceId = config.id ∧ event.status = .unmapped) := by
  have hinv : WorkersInv cfg s := hs ▸ workersInv_exec workersInv_init
  refine ⟨⟨live_nodup hinv, openSessions_le hinv⟩, ?_, ?_⟩
  · intro hidle hrequires during error hduring hitself ended hended
    obtain ⟨hreconciler, htable, htask⟩ :=
      failed_round hinv hidle hrequires error hduring hitself hended
    exact ⟨hreconciler, htable, live_eq_of_task htask, htask⟩
  · intro hdiscovering outcome discovered hfound after hround hitself ended hended hidle
    have hreconciled := succeeded_round hinv hdiscovering hfound hround hitself hended hidle
    have hended' : WorkersInv cfg ended := by
      rw [hended, Run.exec_cons]
      exact workersInv_exec (workersInv_step hinv _)
    have hnodup : (cfg.observed.map DeviceConfig.id).Nodup :=
      cfg.device_ids_unique.sublist (List.filter_sublist.map DeviceConfig.id)
    have hknown {deviceId : String} {endpoint : ResolvedDevice}
        (h : (resolveDeviceBindings cfg.observed discovered).get? deviceId = some endpoint) :
        deviceId ∈ cfg.observed.map DeviceConfig.id := by
      obtain ⟨config, hconfig, rfl, -⟩ := (resolve_get?_iff hnodup).mp h
      exact List.mem_map_of_mem (bound_sublist.subset hconfig)
    refine ⟨live_iff_of_reconciled hended' hreconciled hknown, fun config hconfig hnone => ?_⟩
    have hunbound := hreconciled config hconfig
    unfold Reconciled at hunbound
    rw [hnone] at hunbound
    exact hunbound

/-- The left wavemaker, at an address. -/
def leftWavemakerAt (address : String) : DiscoveredDevice where
  address
  deviceId := "vendor-left"
  productKey := some "1d8c63eaccac4205b92c84d77d5a08fb"

/-- The left wavemaker is found and its worker connects; then the next round begins. -/
def leftWavemakerFound : List ObserverAction :=
  [.beginRound, .discovered (.answers [leftWavemakerAt "192.0.2.11"]), .bindNext 1, .bindNext 1,
    .bindNext 1, .worker 0 (.begin (.ok ()) 2), .beginRound]

/-- Its worker is asked to end, disconnects, and is replaced; the right wavemaker is unmapped. -/
def leftWavemakerMoves : List ObserverAction :=
  [.bindNext 3, .worker 0 .interrupted, .worker 0 .disconnected, .gathered 4, .bindNext 4,
    .bindNext 4]

theorem workers_reconciled_leftWavemaker : ∃ ended,
    ended = Run.exec (observerStep pairedTank) {}
      (leftWavemakerFound ++ .discovered (.answers [leftWavemakerAt "192.0.2.12"]) :: leftWavemakerMoves)
    ∧ ("left", ⟨"left", "192.0.2.12", "1d8c63eaccac4205b92c84d77d5a08fb"⟩) ∈ ended.live
    ∧ ∃ event ∈ ended.events, event.deviceId = "right" ∧ event.status = .unmapped := by
  have h := (workers_reconciled pairedTank leftWavemakerFound rfl).2.2 rfl
    (.answers [leftWavemakerAt "192.0.2.12"]) [leftWavemakerAt "192.0.2.12"] (by decide +kernel)
    leftWavemakerMoves (by simp [leftWavemakerMoves])
    ⟨by decide +kernel, by decide +kernel, by decide +kernel, by decide +kernel, by decide +kernel,
      by decide +kernel, trivial⟩ _ rfl rfl
  have hobserved : rightWavemaker ∈ pairedTank.observed := List.mem_cons_of_mem _ (List.mem_cons_self ..)
  obtain ⟨-, event, hevent, hright⟩ := h.2 rightWavemaker hobserved (by decide +kernel)
  exact ⟨_, (Run.exec_append ..).symm, (h.1 ..).mpr (by decide +kernel), event,
    List.mem_of_mem_drop hevent, hright⟩

end JebaoFlow
