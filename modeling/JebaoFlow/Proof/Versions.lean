import JebaoFlow.Lib.Ascents
import JebaoFlow.Proof.Genuine

/-!
# What is published goes up

Records only go up: their revisions never fall, and a device record keeps its content while
its revision stands. The tasks publish records they read at the time, so what they publish of
one record goes up too; only a greeting carries copies, and while it carries copies of a
record it reads nothing of it.
-/

namespace JebaoFlow

open Ascents

variable {cfg : AppConfig} {units : UnitSource} {topics : MqttTopics}
  {validator : CommandValidator}

/-! ## Records go up -/

/-- The revision has not fallen, and where it has not moved neither has the content. -/
def DeviceRises (a b : DeviceStatePayload) : Prop :=
  a.revision ≤ b.revision ∧ (a.revision = b.revision → SameDevice a b)

def GroupRises (a b : GroupStatePayload) : Prop := a.revision ≤ b.revision

theorem DeviceRises.refl (a : DeviceStatePayload) : DeviceRises a a :=
  ⟨le_refl _, fun _ => SameDevice.refl a⟩

theorem DeviceRises.trans {a b c : DeviceStatePayload} (hab : DeviceRises a b)
    (hbc : DeviceRises b c) : DeviceRises a c := by
  obtain ⟨hle, hsame⟩ := hab
  obtain ⟨hle', hsame'⟩ := hbc
  exact ⟨hle.trans hle', fun heq => (hsame (by omega)).trans (hsame' (by omega))⟩

theorem device_rises {s : ServiceState} (units : UnitSource) (op : ServiceOp) (h : Sound cfg s)
    {did : String} {a : DeviceStatePayload} (ha : s.deviceStates.get? did = some a) :
    ∃ b, (serviceStep cfg units s op).deviceStates.get? did = some b ∧ DeviceRises a b := by
  cases op with
  | apply groupId command clk =>
      exact (evolves_command h.inv (changed_step units h.inv _)
        (fun _ _ hc => ServiceOp.noConfusion hc)).device did a ha
  | applyDevice deviceId command clk =>
      exact (evolves_command h.inv (changed_step units h.inv _)
        (fun _ _ hc => ServiceOp.noConfusion hc)).device did a ha
  | observe event clk =>
      have hout := recordObserverEvent_outcome units clk event h.inv
      rw [serviceStep]
      generalize recordObserverEvent cfg units clk event s = out at hout ⊢
      obtain ⟨r, s'⟩ := out
      cases hout with
      | unknown => exact ⟨a, ha, DeviceRises.refl a⟩
      | stale => exact ⟨a, ha, DeviceRises.refl a⟩
      | merged _ _ hcur _ hmerged => exact hmerged.device_evolves h.poll hcur ha

theorem group_rises {s : ServiceState} (units : UnitSource) (op : ServiceOp) (h : Sound cfg s)
    {gid : String} {a : GroupStatePayload} (ha : s.states.get? gid = some a) :
    ∃ b, (serviceStep cfg units s op).states.get? gid = some b ∧ GroupRises a b := by
  have hcommand : (∀ event clk, op ≠ .observe event clk) →
      ∃ b, (serviceStep cfg units s op).states.get? gid = some b ∧ GroupRises a b := by
    intro hop
    obtain ⟨b, hb, hle, _⟩ := (evolves_command h.inv (changed_step units h.inv _) hop).group gid a ha
    exact ⟨b, hb, hle⟩
  cases op with
  | apply => exact hcommand (fun _ _ hc => ServiceOp.noConfusion hc)
  | applyDevice => exact hcommand (fun _ _ hc => ServiceOp.noConfusion hc)
  | observe event clk =>
      have hout := recordObserverEvent_outcome units clk event h.inv
      rw [serviceStep]
      generalize recordObserverEvent cfg units clk event s = out at hout ⊢
      obtain ⟨r, s'⟩ := out
      cases hout with
      | unknown => exact ⟨a, ha, le_refl _⟩
      | stale => exact ⟨a, ha, le_refl _⟩
      | @merged _ current _ _ _ _ _ hmerged =>
          cases hrefresh : refreshes current event with
          | false => exact ⟨a, hmerged.unrefreshed hrefresh ▸ ha, le_refl _⟩
          | true =>
              have href := hmerged.refreshed hrefresh
              by_cases hgid : gid ∈ current.groupIds
              · obtain ⟨after, hafter, _, _, _, rfl⟩ := href.rewritten gid hgid a ha
                refine ⟨_, hafter, ?_⟩
                unfold GroupRises
                cases (mergeEvent current event).2 with
                | true => exact Nat.le_succ a.revision
                | false => exact le_refl a.revision
              · exact ⟨a, (href.frame gid hgid).trans ha, le_refl _⟩

/-! ## Ledgers -/

/-- A job that carries a copy. -/
def Job.IsCaptured : Job → Prop
  | .capturedGroup _ | .capturedDevice _ => True
  | _ => False

/-- What is kept, carried and published of one record. -/
structure Ledger (ν : Type) where
  below : ν → ν → Prop
  current : ServiceState → Option ν
  carried : Job → Option ν
  sent : Transmission → Option ν
  /-- The job that takes the copies. -/
  snapshots : Job

/-- What a job is for a ledger. -/
inductive Ledger.Works {ν : Type} (L : Ledger ν) (s : ServiceState) (job : Job)
    (sent carried : List ν) : Prop where
  | silent (hjob : L.carried job = none) (hsent : sent = []) (hcarried : carried = [])
  | carriedOut {v : ν} (hjob : L.carried job = some v) (hsent : sent = [v])
      (hcarried : carried = [])
  | readOut {v : ν} (hjob : L.carried job = none) (hcurrent : L.current s = some v)
      (hreads : job.Current ∧ ¬ job.IsElsewhere) (hsent : sent = [v]) (hcarried : carried = [])
  | captured (hjob : job = L.snapshots) (hsent : sent = [])
      (hcarried : ∀ v ∈ carried, L.current s = some v)

structure Ledger.Lawful {ν : Type} (cfg : AppConfig) (topics : MqttTopics) (L : Ledger ν) : Prop where
  refl : ∀ a, L.below a a
  trans : ∀ a b c, L.below a b → L.below b c → L.below a c
  rises : ∀ units s op, Sound cfg s → ∀ a, L.current s = some a →
    ∃ b, L.current (serviceStep cfg units s op) = some b ∧ L.below a b
  collect : ∀ s, L.current (waitForUpdates s).2 = L.current s
  carries : ∀ job v, L.carried job = some v → job.IsCaptured
  snapshots : ¬ L.snapshots.Current ∧ ¬ L.snapshots.IsCaptured ∧ L.carried L.snapshots = none
  system : L.sent (offlineNote topics) = none
  works : ∀ s job transmission next, Sound cfg s → job.Honest →
    job.run topics s = .ok (transmission, next) →
      L.Works s job (transmission.toList.filterMap L.sent) (next.filterMap L.carried)

section Ledger

variable {ν : Type} {L : Ledger ν} {a a' : MqttAdapter}

/-- What is published goes up, and the jobs keep it so. -/
structure Ledger.Climbs (L : Ledger ν) (a : MqttAdapter) : Prop where
  present : ∃ v, L.current a.service = some v
    ∧ Ascent L.below (a.published.filterMap L.sent) (a.link.jobs.filterMap L.carried) v
  online : ∀ stopping, a.link.phase = .online stopping → ∀ j ∈ a.link.jobs, j.Current
  /-- A greeting reads nothing at the time, and carries nothing behind the job that takes copies. -/
  greeting : a.link.phase = .greeting → (∀ j ∈ a.link.jobs, j.Current → j.IsElsewhere)
    ∧ a.link.jobs.Pairwise (fun i j => i = L.snapshots → L.carried j = none)

theorem Job.Current.not_captured {job : Job} (h : job.Current) : ¬ job.IsCaptured := by
  cases job <;> first | exact fun hc => hc | exact absurd h id

theorem Ledger.Lawful.carried_current (hL : L.Lawful cfg topics) {job : Job} (h : job.Current) :
    L.carried job = none := by
  cases hcarried : L.carried job with
  | none => rfl
  | some v => exact absurd (hL.carries job v hcarried) h.not_captured

theorem Ledger.Lawful.carried_nil (hL : L.Lawful cfg topics) {jobs : List Job}
    (h : ∀ j ∈ jobs, j.Current) : jobs.filterMap L.carried = [] :=
  List.filterMap_eq_nil_iff.mpr fun j hj => hL.carried_current (h j hj)

/-- What a job of a greeting leaves to do are copies. -/
theorem greeting_next {s : ServiceState} {job : Job} {transmission : Option Transmission}
    {next : List Job} (hrun : job.run topics s = .ok (transmission, next))
    (hjob : job.Current → job.IsElsewhere) : ∀ j ∈ next, j.IsCaptured := by
  have hnone : ∀ j ∈ ([] : List Job), j.IsCaptured := fun j hj => absurd hj List.not_mem_nil
  cases Job.runs hrun with
  | elsewhere => exact hnone
  | groupSnapshots =>
      intro j hj
      obtain ⟨_, _, rfl⟩ := List.mem_map.mp hj
      trivial
  | deviceSnapshots =>
      intro j hj
      obtain ⟨_, _, rfl⟩ := List.mem_map.mp hj
      trivial
  | capturedGroup => exact hnone
  | capturedDevice => exact hnone
  | groupState => exact hnone
  | deviceState => exact hnone
  | groupAndMembers => exact absurd (hjob trivial) id
  | deviceAndGroups => exact absurd (hjob trivial) id

theorem Receipt.current {s s' : ServiceState} {activity : Activity}
    (h : Receipt cfg units s activity s') : ∀ j ∈ activity.jobs.getD [], j.Current := by
  intro j hj
  rcases h.mem_jobs hj with ⟨_, rfl⟩ | ⟨_, _, rfl⟩ | ⟨_, rfl⟩ | ⟨_, rfl⟩ <;> trivial

theorem updateJobs_current {update : StateUpdate} :
    ∀ j ∈ MqttAdapter.updateJobs update, j.Current := by
  intro j hj
  rcases mem_updateJobs hj with ⟨_, rfl⟩ | ⟨_, rfl⟩ <;> trivial

/-- The service does something, and the jobs stay or are added to. -/
theorem Ledger.Lawful.rise_receipt (hL : L.Lawful cfg topics) {s s' : ServiceState}
    {activity : Activity} (hsound : Sound cfg s) (h : Receipt cfg units s activity s') {v : ν}
    (hv : L.current s = some v) : ∃ w, L.current s' = some w ∧ L.below v w := by
  cases h with
  | ignored => exact ⟨v, hv, hL.refl v⟩
  | complaint => exact ⟨v, hv, hL.refl v⟩
  | failed => exact ⟨v, hv, hL.refl v⟩
  | raised op hs => exact hs ▸ hL.rises units s op hsound v hv
  | @group groupId command clk _ _ happly =>
      have hs : serviceStep cfg units s (.apply groupId command clk) = s' :=
        congrArg Prod.snd happly
      exact hs ▸ hL.rises units s _ hsound v hv
  | @device deviceId command clk _ _ happly =>
      have hs : serviceStep cfg units s (.applyDevice deviceId command clk) = s' :=
        congrArg Prod.snd happly
      exact hs ▸ hL.rises units s _ hsound v hv

/-- A job is done, between jobs that stay. -/
theorem Ledger.Climbs.worked (hL : L.Lawful cfg topics) (hhonest : Honest cfg topics a) {link : Link}
    {job : Job} {transmission : Option Transmission} {before next after : List Job}
    (hrun : job.run topics a.service = .ok (transmission, next))
    (hold : a.link.jobs = before ++ job :: after) (hnew : link.jobs = before ++ (next ++ after))
    (hphase : link.phase = a.link.phase) (hbefore : a.link.phase = .greeting → before = [])
    (h : L.Climbs a) :
    L.Climbs { a with link, published := a.published ++ transmission.toList } := by
  obtain ⟨⟨v, hv, hascent⟩, hcurrent, hgreeting⟩ := h
  rw [hold] at hascent hcurrent hgreeting
  have hworks := hL.works a.service job transmission next hhonest.sound
    (hhonest.jobs job (by simp [hold])) hrun
  cases hat : a.link.phase with
  | away => simp [Link.jobs_away hat] at hold
  | online stopping =>
      have hjobs := hcurrent stopping hat
      have hjob : job.Current := hjobs job (by simp)
      have hnone := hL.carried_nil hjobs
      rw [hnone] at hascent
      have hnew' : ∀ j ∈ link.jobs, j.Current := by
        intro j hj
        rw [hnew] at hj
        rcases List.mem_append.mp hj with hj | hj
        · exact hjobs j (List.mem_append_left _ hj)
        · rcases List.mem_append.mp hj with hj | hj
          · exact (Job.runs hrun).current hjob j hj
          · exact hjobs j (List.mem_append_right _ (List.mem_cons_of_mem _ hj))
      refine ⟨⟨v, hv, ?_⟩, fun _ _ => hnew',
        fun hgreet => LinkPhase.noConfusion (hat.symm.trans (hphase.symm.trans hgreet))⟩
      show Ascent L.below ((a.published ++ transmission.toList).filterMap L.sent)
        (link.jobs.filterMap L.carried) v
      rw [hL.carried_nil hnew', List.filterMap_append]
      cases hworks with
      | silent _ hsent _ =>
          rw [hsent, List.append_nil]
          exact hascent
      | carriedOut hcarried => exact absurd (hL.carries job _ hcarried) hjob.not_captured
      | readOut _ hread _ hsent _ =>
          rw [hsent, ← Option.some.inj (hv.symm.trans hread)]
          exact hascent.publishCurrent hL.refl
      | captured hsnapshots => exact absurd (hsnapshots ▸ hjob) hL.snapshots.1
  | greeting =>
      obtain ⟨helsewhere, hordered⟩ := hgreeting hat
      obtain rfl := hbefore hat
      rw [List.nil_append] at hascent helsewhere hordered hnew
      have hnext : ∀ j ∈ next, j.IsCaptured :=
        greeting_next hrun (helsewhere job (List.mem_cons_self ..))
      obtain ⟨hfirst, hrest⟩ := List.pairwise_cons.mp hordered
      refine ⟨⟨v, hv, ?_⟩, fun _ hon => LinkPhase.noConfusion (hat.symm.trans (hphase.symm.trans hon)),
        fun _ => ⟨fun j hj hcur => ?_, ?_⟩⟩
      · show Ascent L.below ((a.published ++ transmission.toList).filterMap L.sent)
          (link.jobs.filterMap L.carried) v
        rw [hnew, List.filterMap_append, List.filterMap_append]
        cases hworks with
        | silent hjob hsent hcarried =>
            rw [List.filterMap_cons_none hjob] at hascent
            rw [hsent, hcarried, List.append_nil]
            exact hascent
        | carriedOut hjob hsent hcarried =>
            rw [List.filterMap_cons_some hjob] at hascent
            rw [hsent, hcarried]
            exact hascent.publishCarried
        | readOut _ _ hreads =>
            exact absurd (helsewhere job (List.mem_cons_self ..) hreads.1) hreads.2
        | captured hjob hsent hcarried =>
            have hafter : after.filterMap L.carried = [] :=
              List.filterMap_eq_nil_iff.mpr fun j hj => hfirst j hj hjob
            rw [hjob, List.filterMap_cons_none hL.snapshots.2.2, hafter] at hascent
            rw [hsent, hafter, List.append_nil, List.append_nil]
            refine hascent.capture hL.refl fun w hw => ?_
            exact Option.some.inj ((hcarried w hw).symm.trans hv)
      · rcases List.mem_append.mp (hnew ▸ hj) with hj | hj
        · exact absurd (hnext j hj) hcur.not_captured
        · exact helsewhere j (List.mem_cons_of_mem _ hj) hcur
      · show link.jobs.Pairwise _
        rw [hnew]
        refine List.pairwise_append.mpr ⟨?_, hrest, fun i hi _ _ hsnap => ?_⟩
        · refine List.pairwise_of_forall_mem_list fun i hi j _ hsnap => ?_
          exact absurd (hsnap ▸ hnext i hi) hL.snapshots.2.1
        · exact absurd (hsnap ▸ hnext i hi) hL.snapshots.2.1

/-- A link without jobs carries nothing. -/
theorem Ledger.Climbs.drop {link : Link} (hlink : link.jobs = []) (h : L.Climbs a) :
    L.Climbs { a with link } := by
  obtain ⟨⟨v, hv, hascent⟩, _, _⟩ := h
  have hnone : ∀ {p : Job → Prop}, ∀ j ∈ link.jobs, p j :=
    fun j hj => absurd (hlink ▸ hj) List.not_mem_nil
  refine ⟨⟨v, hv, ?_⟩, fun _ _ => hnone, fun _ => ⟨hnone, ?_⟩⟩
  · show Ascent L.below _ (link.jobs.filterMap L.carried) v
    rw [hlink]
    exact hascent.giveUp (List.nil_sublist _)
  · show link.jobs.Pairwise _
    rw [hlink]
    exact List.Pairwise.nil

/-- That the daemon is offline is no record. -/
theorem Ledger.Climbs.announce (hL : L.Lawful cfg topics) {link : Link}
    (hjobs : link.jobs = a.link.jobs)
    (honline : ∀ stopping, link.phase = .online stopping → ∃ b, a.link.phase = .online b)
    (hgreeting : link.phase = .greeting → a.link.phase = .greeting) (h : L.Climbs a) :
    L.Climbs { a with link, published := a.published ++ [offlineNote topics] } := by
  obtain ⟨⟨v, hv, hascent⟩, hcurrent, hgreets⟩ := h
  rw [← hjobs] at hascent hcurrent hgreets
  refine ⟨⟨v, hv, ?_⟩, fun b hb => ?_, fun hgreet => hgreets (hgreeting hgreet)⟩
  · show Ascent L.below ((a.published ++ [offlineNote topics]).filterMap L.sent)
      (link.jobs.filterMap L.carried) v
    have hsilent : L.sent (offlineNote topics) = none := hL.system
    rw [List.filterMap_append, List.filterMap_cons_none hsilent, List.filterMap_nil,
      List.append_nil]
    exact hascent
  · obtain ⟨b', hb'⟩ := honline b hb
    exact hcurrent b' hb'

/-- **Every move of the adapter keeps what is published going up.** -/
theorem Ledger.Climbs.move (hL : L.Lawful cfg topics) (hhonest : Honest cfg topics a)
    (hmove : Moves cfg units topics a a') (h : L.Climbs a) : L.Climbs a' := by
  cases hmove with
  | @stays link hsub hphase _ =>
      obtain ⟨⟨v, hv, hascent⟩, hcurrent, hgreeting⟩ := h
      refine ⟨⟨v, hv, hascent.giveUp (hsub.filterMap L.carried)⟩, fun b hb j hj => ?_,
        fun hgreet => ?_⟩
      · exact hcurrent b (hphase.symm.trans hb) j (hsub.subset hj)
      · obtain ⟨helsewhere, hordered⟩ := hgreeting (hphase.symm.trans hgreet)
        exact ⟨fun j hj => helsewhere j (hsub.subset hj), hordered.sublist hsub⟩
  | left haway => exact h.drop (Link.jobs_away haway)
  | greeted _ _ _ hlink => exact h.drop hlink
  | observed event clk =>
      obtain ⟨⟨v, hv, hascent⟩, hcurrent, hgreeting⟩ := h
      obtain ⟨w, hw, hbelow⟩ := hL.rises units a.service (.observe event clk) hhonest.sound v hv
      exact ⟨⟨w, hw, hascent.rise hL.trans hbelow⟩, hcurrent, hgreeting⟩
  | connected hlink =>
      obtain ⟨⟨v, hv, hascent⟩, _, _⟩ := h
      rw [hlink] at hascent
      have hcarried : ∀ j ∈ MqttAdapter.greetingJobs, L.carried j = none := by
        intro j hj
        cases hc : L.carried j with
        | none => rfl
        | some w =>
            have := hL.carries j w hc
            simp only [MqttAdapter.greetingJobs, List.mem_cons, List.not_mem_nil, or_false] at hj
            rcases hj with rfl | rfl | rfl | rfl <;> cases this
      refine ⟨⟨v, hv, ?_⟩, fun _ hon => LinkPhase.noConfusion hon, fun _ => ⟨?_, ?_⟩⟩
      · show Ascent L.below _ (MqttAdapter.greetingJobs.filterMap L.carried) v
        rw [List.filterMap_eq_nil_iff.mpr hcarried]
        exact hascent
      · simp [Link.jobs, MqttAdapter.greetingJobs, Job.Current, Job.IsElsewhere]
      · exact List.pairwise_of_forall_mem_list fun i _ j hj _ => hcarried j hj
  | @received stopping s link activity hreceipt _ hold hphase hjobs =>
      obtain ⟨⟨v, hv, hascent⟩, hcurrent, _⟩ := h
      obtain ⟨w, hw, hbelow⟩ := hL.rise_receipt hhonest.sound hreceipt hv
      have hall : ∀ j ∈ link.jobs, j.Current := by
        intro j hj
        rw [hjobs] at hj
        rcases List.mem_append.mp hj with hj | hj
        · exact hreceipt.current j hj
        · exact hcurrent stopping hold j hj
      refine ⟨⟨w, hw, ?_⟩, fun _ _ => hall, fun hgreet => LinkPhase.noConfusion (hphase.symm.trans hgreet)⟩
      show Ascent L.below _ (link.jobs.filterMap L.carried) w
      rw [hL.carried_nil hall, ← hL.carried_nil (hcurrent stopping hold)]
      exact hascent.rise hL.trans hbelow
  | @woke stopping link hold hphase hjobs =>
      obtain ⟨⟨v, hv, hascent⟩, hcurrent, _⟩ := h
      have hall : ∀ j ∈ link.jobs, j.Current := by
        intro j hj
        rw [hjobs] at hj
        rcases List.mem_append.mp hj with hj | hj
        · exact hcurrent stopping hold j hj
        · exact updateJobs_current j hj
      refine ⟨⟨v, (hL.collect _).trans hv, ?_⟩, fun _ _ => hall,
        fun hgreet => LinkPhase.noConfusion (hphase.symm.trans hgreet)⟩
      show Ascent L.below _ (link.jobs.filterMap L.carried) v
      rw [hL.carried_nil hall, ← hL.carried_nil (hcurrent stopping hold)]
      exact hascent
  | worked hrun hold hnew hphase hbefore => exact h.worked hL hhonest hrun hold hnew hphase hbefore
  | announced hjobs hold hphase =>
      exact h.announce hL hjobs (fun _ _ => ⟨false, hold⟩)
        (fun hgreet => LinkPhase.noConfusion (hphase.symm.trans hgreet))

end Ledger

/-! ## Devices and groups -/

def Job.device? : Job → Option DeviceStatePayload
  | .capturedDevice state => some state
  | _ => none

def Job.group? : Job → Option GroupStatePayload
  | .capturedGroup state => some state
  | _ => none

def PublicationBody.device? : PublicationBody → Option DeviceStatePayload
  | .deviceState state => some state
  | _ => none

def PublicationBody.group? : PublicationBody → Option GroupStatePayload
  | .groupState state => some state
  | _ => none

def Payload.body? : Payload → Option PublicationBody
  | .message body => some body
  | _ => none

def deviceLedger (did : String) : Ledger DeviceStatePayload where
  below := DeviceRises
  current s := s.deviceStates.get? did
  carried job := job.device?.filter (fun state => state.deviceId = did)
  sent t := (t.payload.body?.bind PublicationBody.device?).filter (fun state => state.deviceId = did)
  snapshots := .deviceSnapshots

def groupLedger (gid : String) : Ledger GroupStatePayload where
  below := GroupRises
  current s := s.states.get? gid
  carried job := job.group?.filter (fun state => state.groupId = gid)
  sent t := (t.payload.body?.bind PublicationBody.group?).filter (fun state => state.groupId = gid)
  snapshots := .groupSnapshots

section Works

variable {ν : Type} {L : Ledger ν} {s : ServiceState} {job : Job} {next : List Job}

/-- A job that reads the record and publishes it, before jobs that carry nothing. -/
theorem Ledger.works_read {t : Transmission} {v : ν} (hjob : L.carried job = none)
    (hreads : job.Current ∧ ¬ job.IsElsewhere) (hsent : L.sent t = none ∨ L.sent t = some v)
    (hcurrent : L.sent t = some v → L.current s = some v) (hnext : next.filterMap L.carried = []) :
    L.Works s job ((some t).toList.filterMap L.sent) (next.filterMap L.carried) := by
  rw [Option.toList_some]
  rcases hsent with hnone | hsome
  · exact .silent hjob (List.filterMap_cons_none hnone) hnext
  · exact .readOut hjob (hcurrent hsome) hreads (List.filterMap_cons_some hsome) hnext

/-- A job that publishes the copy it carries, if it is one of the record. -/
theorem Ledger.works_carried {t : Transmission} {v : ν} (hsame : L.sent t = L.carried job)
    (hjob : L.carried job = none ∨ L.carried job = some v) :
    L.Works s job ((some t).toList.filterMap L.sent) ([].filterMap L.carried) := by
  rw [Option.toList_some]
  rcases hjob with hnone | hsome
  · exact .silent hnone (List.filterMap_cons_none (hsame.trans hnone)) rfl
  · exact .carriedOut hsome (List.filterMap_cons_some (hsame.trans hsome)) rfl

/-- A job that publishes nothing of the record. -/
theorem Ledger.works_silent {t : Transmission} (hjob : L.carried job = none)
    (hsent : L.sent t = none) (hnext : next.filterMap L.carried = []) :
    L.Works s job ((some t).toList.filterMap L.sent) (next.filterMap L.carried) :=
  .silent hjob (List.filterMap_cons_none hsent) hnext

theorem carried_map_nil {α : Type} {make : α → Job} (h : ∀ x, L.carried (make x) = none)
    (xs : List α) : (xs.map make).filterMap L.carried = [] := by
  refine List.filterMap_eq_nil_iff.mpr fun j hj => ?_
  obtain ⟨x, _, rfl⟩ := List.mem_map.mp hj
  exact h x

end Works

theorem filter_cases {α : Type} (p : α → Bool) (a : α) :
    (some a).filter p = none ∨ (some a).filter p = some a := by
  rw [Option.filter_some]
  split
  · exact Or.inr rfl
  · exact Or.inl rfl

theorem named_of_filter {α : Type} {name : α → String} {id : String} {a b : α}
    (h : (some a).filter (fun a => decide (name a = id)) = some b) : a = b ∧ name b = id := by
  obtain ⟨hsame, hname⟩ := Option.filter_eq_some_iff.mp h
  cases hsame
  exact ⟨rfl, of_decide_eq_true hname⟩

theorem filter_named {α : Type} {name : α → String} {id : String} {a : α} (h : name a = id) :
    (some a).filter (fun a => decide (name a = id)) = some a := by
  rw [Option.filter_some]
  exact if_pos (decide_eq_true h)

/-- What goes out on other topics is no record. -/
theorem Genuine.no_record {t : Transmission} (h : Genuine topics t) (helsewhere : t.Elsewhere topics) :
    t.payload.body?.bind PublicationBody.device? = none
      ∧ t.payload.body?.bind PublicationBody.group? = none := by
  cases h with
  | availability => exact ⟨rfl, rfl⟩
  | systemConfig => exact ⟨rfl, rfl⟩
  | @complaint body hbody =>
      cases body with
      | invalidCommand | invalidDeviceCommand => exact ⟨rfl, rfl⟩
      | groupResult | deviceResult | groupState | deviceState => cases hbody
  | groupResult => exact ⟨rfl, rfl⟩
  | deviceResult => exact ⟨rfl, rfl⟩
  | groupState htopic => exact absurd rfl (helsewhere _ _ (Or.inr htopic))
  | deviceState htopic => exact absurd rfl (helsewhere _ _ (Or.inl htopic))

section Jobs

variable {s : ServiceState} {job : Job} {transmission : Option Transmission} {next : List Job}

theorem deviceLedger_works {did : String} (hsound : Sound cfg s) (hhonest : job.Honest)
    (hrun : job.run topics s = .ok (transmission, next)) :
    (deviceLedger did).Works s job (transmission.toList.filterMap (deviceLedger did).sent)
      (next.filterMap (deviceLedger did).carried) := by
  -- a record under an identifier names it
  have hcurrent : ∀ {id : String} {state : DeviceStatePayload},
      s.deviceStates.get? id = some state →
      (some state).filter (fun state : DeviceStatePayload => decide (state.deviceId = did)) = some state →
      s.deviceStates.get? did = some state := by
    intro id state hget hfilter
    obtain ⟨d, hd, hinv⟩ := hsound.inv.device id state hget
    rw [← (named_of_filter hfilter).2, hinv.deviceId, hd]
    exact hget
  have hpicked := fun state : DeviceStatePayload =>
    filter_cases (fun state : DeviceStatePayload => decide (state.deviceId = did)) state
  have hgenuine := (hhonest.run hsound hrun).1
  cases Job.runs hrun with
  | elsewhere hjob helsewhere =>
      have hnone := ((hgenuine _ (List.mem_singleton_self _)).no_record helsewhere).1
      refine Ledger.works_silent ?_ (congrArg (Option.filter _) hnone) rfl
      cases job <;> first | rfl | cases hjob
  | groupSnapshots => exact .silent rfl rfl (carried_map_nil (fun _ => rfl) _)
  | deviceSnapshots =>
      refine .captured rfl rfl fun v hv => ?_
      obtain ⟨j, hj, hv⟩ := List.mem_filterMap.mp hv
      obtain ⟨state, hstate, rfl⟩ := List.mem_map.mp hj
      obtain ⟨rfl, hid⟩ := named_of_filter hv
      rw [← hid]
      exact deviceSnapshots_current hsound.inv hstate
  | capturedGroup => exact Ledger.works_silent rfl rfl rfl
  | capturedDevice => exact Ledger.works_carried rfl (hpicked _)
  | groupState => exact Ledger.works_silent rfl rfl rfl
  | @deviceState _ state _ hstate _ =>
      exact Ledger.works_read rfl ⟨trivial, fun h => h⟩ (hpicked state)
        (hcurrent hstate) rfl
  | groupAndMembers => exact Ledger.works_silent rfl rfl (carried_map_nil (fun _ => rfl) _)
  | @deviceAndGroups _ state _ hstate _ =>
      exact Ledger.works_read rfl ⟨trivial, fun h => h⟩ (hpicked state)
        (hcurrent hstate) (carried_map_nil (fun _ => rfl) _)

theorem groupLedger_works {gid : String} (hsound : Sound cfg s) (hhonest : job.Honest)
    (hrun : job.run topics s = .ok (transmission, next)) :
    (groupLedger gid).Works s job (transmission.toList.filterMap (groupLedger gid).sent)
      (next.filterMap (groupLedger gid).carried) := by
  have hcurrent : ∀ {id : String} {state : GroupStatePayload}, s.states.get? id = some state →
      (some state).filter (fun state : GroupStatePayload => decide (state.groupId = gid)) = some state →
      s.states.get? gid = some state := by
    intro id state hget hfilter
    obtain ⟨g, hg, hinv⟩ := hsound.inv.group id state hget
    rw [← (named_of_filter hfilter).2, hinv.groupId, hg]
    exact hget
  have hpicked := fun state : GroupStatePayload =>
    filter_cases (fun state : GroupStatePayload => decide (state.groupId = gid)) state
  have hgenuine := (hhonest.run hsound hrun).1
  cases Job.runs hrun with
  | elsewhere hjob helsewhere =>
      have hnone := ((hgenuine _ (List.mem_singleton_self _)).no_record helsewhere).2
      refine Ledger.works_silent ?_ (congrArg (Option.filter _) hnone) rfl
      cases job <;> first | rfl | cases hjob
  | groupSnapshots =>
      refine .captured rfl rfl fun v hv => ?_
      obtain ⟨j, hj, hv⟩ := List.mem_filterMap.mp hv
      obtain ⟨state, hstate, rfl⟩ := List.mem_map.mp hj
      obtain ⟨rfl, hid⟩ := named_of_filter hv
      rw [← hid]
      exact snapshots_current hsound.inv hstate
  | deviceSnapshots => exact .silent rfl rfl (carried_map_nil (fun _ => rfl) _)
  | capturedGroup => exact Ledger.works_carried rfl (hpicked _)
  | capturedDevice => exact Ledger.works_silent rfl rfl rfl
  | @groupState _ state _ hstate _ =>
      exact Ledger.works_read rfl ⟨trivial, fun h => h⟩ (hpicked state)
        (hcurrent hstate) rfl
  | deviceState => exact Ledger.works_silent rfl rfl rfl
  | @groupAndMembers _ state _ hstate _ =>
      exact Ledger.works_read rfl ⟨trivial, fun h => h⟩ (hpicked state)
        (hcurrent hstate) (carried_map_nil (fun _ => rfl) _)
  | deviceAndGroups => exact Ledger.works_silent rfl rfl (carried_map_nil (fun _ => rfl) _)

end Jobs

theorem deviceLedger_lawful (cfg : AppConfig) (topics : MqttTopics) (did : String) :
    (deviceLedger did).Lawful cfg topics where
  refl := DeviceRises.refl
  trans _ _ _ := DeviceRises.trans
  rises units s op h _ ha := device_rises units op h ha
  collect _ := rfl
  carries job v h := by
    cases job with
    | capturedDevice => trivial
    | _ => cases h
  snapshots := ⟨fun h => h, fun h => h, rfl⟩
  system := rfl
  works _ _ _ _ := deviceLedger_works

theorem groupLedger_lawful (cfg : AppConfig) (topics : MqttTopics) (gid : String) :
    (groupLedger gid).Lawful cfg topics where
  refl _ := le_refl _
  trans _ _ _ := Nat.le_trans
  rises units s op h _ ha := group_rises units op h ha
  collect _ := rfl
  carries job v h := by
    cases job with
    | capturedGroup => trivial
    | _ => cases h
  snapshots := ⟨fun h => h, fun h => h, rfl⟩
  system := rfl
  works _ _ _ _ := groupLedger_works

/-- A daemon that has only started has published nothing. -/
theorem Ledger.climbs_start {ν : Type} {L : Ledger ν} {s : ServiceState} {v : ν}
    (hv : L.current s = some v) : L.Climbs { service := s } where
  present := ⟨v, hv, List.pairwise_singleton _ v⟩
  online _ _ _ hj := absurd hj List.not_mem_nil
  greeting _ := ⟨fun _ hj => absurd hj List.not_mem_nil, List.Pairwise.nil⟩

end JebaoFlow
