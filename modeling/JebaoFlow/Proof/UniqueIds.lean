import JebaoFlow.Proof.Offers
import Mathlib.Data.List.Nodup

/-!
# Identifiers of entities

The host knows an entity by the identifier its platform gives it: entry, owner and control,
joined by underscores. Identifiers of groups and devices may have underscores themselves, and
so may controls, so the join is not injective; the host would drop the second of two entities.
-/

namespace JebaoFlow

open HomeAssistant

variable {site : Site} {platform : Platform}

/-! ## Joined names -/

/-- Two controls of a platform of which one ends in the other, and what is left of it. -/
def overlaps : List (String × String × String) :=
  [("availability", "device_availability", "_device"), ("status", "device_status", "_device"),
    ("enabled", "device_enabled", "_device"), ("power", "device_power", "_device"),
    ("power", "min_power", "_min"), ("power", "max_power", "_max")]

/-- The controls a platform has for devices of all kinds. -/
def deviceNames : Platform → List String
  | .binarySensor => ["device_availability", "actual_running", "device_problem"]
  | .button => ["resume_group"]
  | .number => ["device_power"]
  | .select => []
  | .sensor => ["device_status", "actual_power", "actual_mode", "schedule"]
  | .switch => ["device_enabled"]

/-- The controls of groups and of devices. -/
def allControls (platform : Platform) : List String :=
  platform.groupControls .control ++ deviceNames platform

theorem groupControls_subset {mode : RuntimeMode} {c : String}
    (h : c ∈ platform.groupControls mode) : c ∈ platform.groupControls .control := by
  cases mode with
  | control => exact h
  | observer =>
      cases platform with
      | binarySensor | sensor => exact h
      | button | number | select | switch => cases h

theorem deviceControls_subset {cfg : AppConfig} {device : DeviceConfig} {c : String}
    (h : c ∈ platform.deviceControls cfg device) : c ∈ deviceNames platform := by
  cases platform with
  | binarySensor => exact h
  | select => cases h
  | button | number | switch =>
      unfold Platform.deviceControls at h
      dsimp only at h
      split at h
      · exact h
      · cases h
  | sensor =>
      unfold Platform.deviceControls at h
      dsimp only at h
      split at h
      · exact List.Sublist.subset (by decide) h
      · exact h

theorem overlaps_exhaustive : ∀ platform, ∀ c ∈ allControls platform, ∀ c' ∈ allControls platform,
    ('_' :: c.toList) <:+ ('_' :: c'.toList) → c = c'
      ∨ (c, c', String.ofList (('_' :: c'.toList).take (c'.toList.length - c.toList.length)))
        ∈ overlaps
  | .binarySensor | .button | .number | .select | .sensor | .switch => by decide +kernel

/-- One control ends in the other only where that is listed. -/
theorem overlap_of_eq {c c' : String} (hc : c ∈ allControls platform)
    (hc' : c' ∈ allControls platform) {rest : List Char}
    (h : '_' :: c'.toList = rest ++ '_' :: c.toList) :
    c = c' ∧ rest = [] ∨ (c, c', String.ofList rest) ∈ overlaps := by
  have hlength : c'.toList.length - c.toList.length = rest.length := by
    have := congrArg List.length h
    simp only [List.length_cons, List.length_append] at this
    omega
  have hrest : ('_' :: c'.toList).take (c'.toList.length - c.toList.length) = rest := by
    rw [h, hlength, List.take_left]
  rcases overlaps_exhaustive platform c hc c' hc' ⟨rest, h.symm⟩ with rfl | hlisted
  · left
    rw [Nat.sub_self] at hrest
    exact ⟨rfl, hrest.symm⟩
  · rw [hrest] at hlisted
    exact Or.inr hlisted

/-- An owner and a control, and another owner and another control, joined to the same name. -/
def Overlap (id control id' control' : String) : Prop :=
  ∃ rest, (control, control', rest) ∈ overlaps ∧ id = id' ++ rest

theorem ofString_append (a b : String) :
    PyStr.ofString (a ++ b) = PyStr.ofString a ++ PyStr.ofString b := by
  unfold PyStr.ofString
  rw [String.toList_append, List.map_append]

/-- **When two owners and controls are joined to the same identifier.** -/
theorem uniqueIdOf_eq_iff {entryId : PyStr} {id id' c c' : String} (hc : c ∈ allControls platform)
    (hc' : c' ∈ allControls platform) :
    uniqueIdOf entryId (PyStr.ofString id) c = uniqueIdOf entryId (PyStr.ofString id') c'
      ↔ id = id' ∧ c = c' ∨ Overlap id c id' c' ∨ Overlap id' c' id c := by
  have hjoin : ∀ x control, uniqueIdOf entryId (PyStr.ofString x) control
      = (entryId ++ PyStr.ofString "_") ++ PyStr.ofString (x ++ "_" ++ control) := by
    intro x control
    unfold uniqueIdOf
    rw [ofString_append, ofString_append]
    simp only [List.append_assoc]
  have hchars : ∀ x control : String, (x ++ "_" ++ control).toList
      = x.toList ++ '_' :: control.toList := by
    intro x control
    rw [String.toList_append, String.toList_append, List.append_assoc]
    rfl
  rw [hjoin, hjoin, List.append_cancel_left_eq, ofString_injective.eq_iff, ← String.toList_inj,
    hchars, hchars]
  constructor
  · intro heq
    rcases List.append_eq_append_iff.mp heq with ⟨rest, hid, hcontrol⟩ | ⟨rest, hid, hcontrol⟩
    · rcases overlap_of_eq hc' hc hcontrol with ⟨rfl, rfl⟩ | hlisted
      · rw [List.append_nil] at hid
        exact Or.inl ⟨String.toList_inj.mp hid.symm, rfl⟩
      · refine Or.inr (Or.inr ⟨String.ofList rest, hlisted, String.toList_inj.mp ?_⟩)
        rw [String.toList_append, String.toList_ofList, hid]
    · rcases overlap_of_eq hc hc' hcontrol with ⟨rfl, rfl⟩ | hlisted
      · rw [List.append_nil] at hid
        exact Or.inl ⟨String.toList_inj.mp hid, rfl⟩
      · refine Or.inr (Or.inl ⟨String.ofList rest, hlisted, String.toList_inj.mp ?_⟩)
        rw [String.toList_append, String.toList_ofList, hid]
  · have hlisted : ∀ {x y a b : String}, Overlap x a y b →
        x.toList ++ '_' :: a.toList = y.toList ++ '_' :: b.toList := by
      rintro x y a b ⟨rest, hmem, rfl⟩
      have hcontrol : '_' :: b.toList = rest.toList ++ '_' :: a.toList := by
        simp only [overlaps, List.mem_cons, List.not_mem_nil, or_false, Prod.mk.injEq] at hmem
        rcases hmem with ⟨rfl, rfl, rfl⟩ | ⟨rfl, rfl, rfl⟩ | ⟨rfl, rfl, rfl⟩ | ⟨rfl, rfl, rfl⟩
          | ⟨rfl, rfl, rfl⟩ | ⟨rfl, rfl, rfl⟩ <;> rfl
      rw [String.toList_append, List.append_assoc, hcontrol]
    rintro (⟨rfl, rfl⟩ | hover | hover)
    · rfl
    · exact hlisted hover
    · exact (hlisted hover).symm

/-! ## The entities of a site -/

/-- Which overlaps there are between the controls of one platform. -/
theorem overlaps_sorted : ∀ platform, ∀ o ∈ overlaps,
    (o.1 ∈ Platform.groupControls .control platform →
      o.2.1 ∈ Platform.groupControls .control platform →
        platform = .number ∧ (o.2.2 = "_min" ∨ o.2.2 = "_max"))
    ∧ (o.1 ∈ Platform.groupControls .control platform → o.2.1 ∈ deviceNames platform →
        o.2.2 = "_device")
    ∧ (o.1 ∈ deviceNames platform → o.2.1 ∉ allControls platform)
  | .binarySensor | .button | .number | .select | .sensor | .switch => by decide +kernel

theorem controls_disjoint : ∀ platform, ∀ c ∈ Platform.groupControls .control platform,
    c ∉ deviceNames platform
  | .binarySensor | .button | .number | .select | .sensor | .switch => by decide

theorem mem_entities_groups {e : Entity} : e ∈ site.entities (.groups platform)
    ↔ ∃ g ∈ site.cfg.groups, ∃ c ∈ platform.groupControls site.cfg.runtime.mode,
      site.groupEntity g c = e := by
  unfold Site.entities Site.offers
  simp only [List.mem_flatMap, List.mem_map, exists_exists_and_eq_and]

theorem mem_entities_devices {e : Entity} : e ∈ site.entities (.devices platform)
    ↔ ∃ d ∈ site.cfg.devices, ∃ c ∈ platform.deviceControls site.cfg d,
      site.deviceEntity d c = e := by
  unfold Site.entities Site.offers
  simp only [List.mem_flatMap, List.mem_map, exists_exists_and_eq_and]

theorem groupEntity_inj {g g' : GroupConfig} {c c' : String}
    (h : site.groupEntity g c = site.groupEntity g' c') : g.id = g'.id ∧ c = c' := by
  unfold Site.groupEntity at h
  obtain ⟨_, hid, _, hcontrol⟩ := GroupEntity.mk.inj (Entity.group.inj h)
  exact ⟨ofString_injective hid, hcontrol⟩

theorem deviceEntity_inj {d d' : DeviceConfig} {c c' : String}
    (h : site.deviceEntity d c = site.deviceEntity d' c') : d.id = d'.id ∧ c = c' := by
  unfold Site.deviceEntity at h
  obtain ⟨_, hid, _, _, _, hcontrol, _⟩ := DeviceEntity.mk.inj (Entity.device.inj h)
  exact ⟨ofString_injective hid, hcontrol⟩

/-- Things made of the parts of different owners are different. -/
theorem nodup_made {α : Type} {id : α → String} {parts : α → List String}
    {make : α → String → Entity} {owners : List α} (hids : (owners.map id).Nodup)
    (hparts : ∀ a ∈ owners, (parts a).Nodup)
    (hinj : ∀ a a' c c', make a c = make a' c' → id a = id a' ∧ c = c') :
    (owners.flatMap (fun a => (parts a).map (make a))).Nodup := by
  rw [List.nodup_flatMap]
  refine ⟨fun a ha => List.Nodup.map (fun c c' h => (hinj a a c c' h).2) (hparts a ha), ?_⟩
  refine (List.pairwise_map.mp hids).imp fun {a a'} hne => ?_
  intro e he he'
  obtain ⟨c, _, rfl⟩ := List.mem_map.mp he
  obtain ⟨c', _, heq⟩ := List.mem_map.mp he'
  exact hne (hinj a' a c' c heq).1.symm

theorem entities_nodup :
    (site.entities (.groups platform) ++ site.entities (.devices platform)).Nodup := by
  have hgroups : (site.entities (.groups platform)).Nodup := by
    unfold Site.entities Site.offers
    rw [List.flatMap_map]
    refine nodup_made site.cfg.group_ids_unique (fun _ _ => ?_) (fun _ _ _ _ => groupEntity_inj)
    cases platform <;> cases site.cfg.runtime.mode <;> decide
  have hdevices : (site.entities (.devices platform)).Nodup := by
    unfold Site.entities Site.offers
    rw [List.flatMap_map]
    refine nodup_made site.cfg.device_ids_unique (fun _ _ => ?_) (fun _ _ _ _ => deviceEntity_inj)
    unfold Platform.deviceControls
    cases platform <;> dsimp only <;> first | decide | (split <;> decide)
  refine List.nodup_append.mpr ⟨hgroups, hdevices, fun e he e' he' heq => ?_⟩
  obtain ⟨_, _, _, _, rfl⟩ := mem_entities_groups.mp he
  obtain ⟨_, _, _, _, rfl⟩ := mem_entities_devices.mp he'
  cases heq

/-- The devices of which a platform has an entity that a group can clash with. -/
def Contested (cfg : AppConfig) (device : DeviceConfig) : Platform → Prop
  | .binarySensor | .sensor => True
  | .number | .switch => Settable cfg device
  | .button | .select => False

theorem contested_of_controls {cfg : AppConfig} {device : DeviceConfig} {mode : RuntimeMode}
    {c c' rest : String} (hc : c ∈ platform.groupControls mode)
    (hc' : c' ∈ platform.deviceControls cfg device) (hover : (c, c', rest) ∈ overlaps) :
    Contested cfg device platform := by
  have hset : ∀ {control : String},
      c' ∈ (if Settable cfg device then [control] else []) → Settable cfg device := by
    intro control hmem
    by_contra hnot
    rw [if_neg hnot] at hmem
    cases hmem
  cases platform with
  | binarySensor | sensor => trivial
  | number | switch => exact hset hc'
  | select => cases hc'
  | button =>
      have hnone : ∀ o ∈ overlaps, o.1 ∉ Platform.groupControls .control .button := by
        decide +kernel
      exact absurd (groupControls_subset hc) (hnone _ hover)

/-- A control of a platform and one it is the end of. -/
theorem exists_overlap {d : DeviceConfig} (hd : Contested site.cfg d platform) :
    ∃ c ∈ platform.groupControls site.cfg.runtime.mode, ∃ c' ∈ platform.deviceControls site.cfg d,
      (c, c', "_device") ∈ overlaps := by
  cases platform with
  | binarySensor => exact ⟨_, List.mem_cons_self .., _, List.mem_cons_self .., by decide +kernel⟩
  | sensor =>
      refine ⟨_, List.mem_cons_self .., "device_status", ?_, by decide +kernel⟩
      unfold Platform.deviceControls
      dsimp only
      split <;> exact List.mem_cons_self ..
  | number =>
      have hset : Settable site.cfg d := hd
      refine ⟨"power", ?_, "device_power", ?_, by decide +kernel⟩
      · rw [hset.1]
        decide
      · unfold Platform.deviceControls
        dsimp only
        rw [if_pos hset]
        exact List.mem_cons_self ..
  | switch =>
      have hset : Settable site.cfg d := hd
      refine ⟨"enabled", ?_, "device_enabled", ?_, by decide +kernel⟩
      · rw [hset.1]
        decide
      · unfold Platform.deviceControls
        dsimp only
        rw [if_pos hset]
        exact List.mem_cons_self ..
  | button | select => cases hd

/--
**When the host takes every entity.**

The identifiers of all entities of a platform are different exactly if no group is named after a
device with `_device` behind it, where both have an entity that shows the same, and no two groups
are named alike but for `_min` or `_max` behind one, which matters for the numbers alone.
-/
theorem unique_ids_iff (site : Site) (platform : Platform) :
    ((site.entities (.groups platform) ++ site.entities (.devices platform)).map
        Entity.uniqueId).Nodup
      ↔ (platform = .number → site.cfg.runtime.mode = .control →
          ∀ g ∈ site.cfg.groups, ∀ g' ∈ site.cfg.groups,
            g.id ≠ g'.id ++ "_min" ∧ g.id ≠ g'.id ++ "_max")
        ∧ ∀ g ∈ site.cfg.groups, ∀ d ∈ site.cfg.devices, Contested site.cfg d platform →
          g.id ≠ d.id ++ "_device" := by
  have hgroup : ∀ {c}, c ∈ platform.groupControls site.cfg.runtime.mode → c ∈ allControls platform :=
    fun hc => List.mem_append_left _ (groupControls_subset hc)
  have hdevice : ∀ {d c}, c ∈ platform.deviceControls site.cfg d → c ∈ allControls platform :=
    fun hc => List.mem_append_right _ (deviceControls_subset hc)
  rw [List.nodup_map_iff_inj_on entities_nodup]
  constructor
  · intro hinj
    -- an overlap gives two entities one identifier
    refine ⟨fun hplatform hmode g hg g' hg' => ?_, fun g hg d hd hcontested hid => ?_⟩
    · subst hplatform
      have hpower : "power" ∈ Platform.groupControls site.cfg.runtime.mode .number := by
        rw [hmode]
        decide
      have hother : ∀ c' rest, c' ∈ Platform.groupControls site.cfg.runtime.mode .number →
          ("power", c', rest) ∈ overlaps → c' ≠ "power" → g.id ≠ g'.id ++ rest := by
        intro c' rest hc' hover hne hid
        have hsame := hinj _ (List.mem_append_left _ (mem_entities_groups.mpr ⟨g, hg, _, hpower, rfl⟩))
          _ (List.mem_append_left _ (mem_entities_groups.mpr ⟨g', hg', _, hc', rfl⟩))
          ((uniqueIdOf_eq_iff (hgroup hpower) (hgroup hc')).mpr (Or.inr (Or.inl ⟨rest, hover, hid⟩)))
        exact hne (groupEntity_inj hsame).2.symm
      rw [hmode] at hother
      exact ⟨hother "min_power" "_min" (by decide) (by decide +kernel) (by decide),
        hother "max_power" "_max" (by decide) (by decide +kernel) (by decide)⟩
    · obtain ⟨c, hc, c', hc', hover⟩ := exists_overlap hcontested
      have hsame := hinj _ (List.mem_append_left _ (mem_entities_groups.mpr ⟨g, hg, c, hc, rfl⟩))
        _ (List.mem_append_right _ (mem_entities_devices.mpr ⟨d, hd, c', hc', rfl⟩))
        ((uniqueIdOf_eq_iff (hgroup hc) (hdevice hc')).mpr (Or.inr (Or.inl ⟨_, hover, hid⟩)))
      cases hsame
  · rintro ⟨hnumbers, hcontest⟩
    -- two groups can only overlap as numbers, a group and a device only in one way
    have hgroups : ∀ g ∈ site.cfg.groups, ∀ g' ∈ site.cfg.groups, ∀ c c',
        c ∈ platform.groupControls site.cfg.runtime.mode →
        c' ∈ platform.groupControls site.cfg.runtime.mode → ¬ Overlap g.id c g'.id c' := by
      rintro g hg g' hg' c c' hc hc' ⟨rest, hover, hid⟩
      obtain ⟨rfl, hrest⟩ := (overlaps_sorted platform _ hover).1 (groupControls_subset hc)
        (groupControls_subset hc')
      have hmode : site.cfg.runtime.mode = .control := by
        cases hobserver : site.cfg.runtime.mode with
        | control => rfl
        | observer =>
            rw [hobserver] at hc
            cases hc
      obtain ⟨hmin, hmax⟩ := hnumbers rfl hmode g hg g' hg'
      rcases hrest with rfl | rfl
      · exact hmin hid
      · exact hmax hid
    have hmixed : ∀ g ∈ site.cfg.groups, ∀ d ∈ site.cfg.devices, ∀ c c',
        c ∈ platform.groupControls site.cfg.runtime.mode → c' ∈ platform.deviceControls site.cfg d →
        uniqueIdOf site.entryId (PyStr.ofString g.id) c
          ≠ uniqueIdOf site.entryId (PyStr.ofString d.id) c' := by
      intro g hg d hd c c' hc hc' hsame
      rcases (uniqueIdOf_eq_iff (hgroup hc) (hdevice hc')).mp hsame with
        ⟨_, rfl⟩ | ⟨rest, hover, hid⟩ | ⟨rest, hover, _⟩
      · exact controls_disjoint platform c (groupControls_subset hc) (deviceControls_subset hc')
      · have hrest := (overlaps_sorted platform _ hover).2.1 (groupControls_subset hc)
          (deviceControls_subset hc')
        dsimp only at hrest
        subst hrest
        exact hcontest g hg d hd (contested_of_controls hc hc' hover) hid
      · exact (overlaps_sorted platform _ hover).2.2 (deviceControls_subset hc') (hgroup hc)
    intro e he e' he' hsame
    rcases List.mem_append.mp he with hleft | hleft <;>
      rcases List.mem_append.mp he' with hright | hright
    · obtain ⟨g, hg, c, hc, rfl⟩ := mem_entities_groups.mp hleft
      obtain ⟨g', hg', c', hc', rfl⟩ := mem_entities_groups.mp hright
      rcases (uniqueIdOf_eq_iff (hgroup hc) (hgroup hc')).mp hsame with ⟨hid, rfl⟩ | hover | hover
      · rw [AppConfig.group_eq hg hg' hid]
      · exact absurd hover (hgroups g hg g' hg' c c' hc hc')
      · exact absurd hover (hgroups g' hg' g hg c' c hc' hc)
    · obtain ⟨g, hg, c, hc, rfl⟩ := mem_entities_groups.mp hleft
      obtain ⟨d, hd, c', hc', rfl⟩ := mem_entities_devices.mp hright
      exact absurd hsame (hmixed g hg d hd c c' hc hc')
    · obtain ⟨d, hd, c', hc', rfl⟩ := mem_entities_devices.mp hleft
      obtain ⟨g, hg, c, hc, rfl⟩ := mem_entities_groups.mp hright
      exact absurd hsame.symm (hmixed g hg d hd c c' hc hc')
    · obtain ⟨d, hd, c, hc, rfl⟩ := mem_entities_devices.mp hleft
      obtain ⟨d', hd', c', hc', rfl⟩ := mem_entities_devices.mp hright
      rcases (uniqueIdOf_eq_iff (hdevice hc) (hdevice hc')).mp hsame with
        ⟨hid, rfl⟩ | ⟨_, hover, _⟩ | ⟨_, hover, _⟩
      · rw [AppConfig.device_eq hd hd' hid]
      · exact absurd (hdevice hc') ((overlaps_sorted platform _ hover).2.2 (deviceControls_subset hc))
      · exact absurd (hdevice hc) ((overlaps_sorted platform _ hover).2.2 (deviceControls_subset hc'))

end JebaoFlow
