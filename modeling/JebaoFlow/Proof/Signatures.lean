import JebaoFlow.Devices.Reports

/-!
# Comparing signatures

The observer compares tuples with sorted items, the service dictionaries without regard
to order. Keys are distinct, so the two agree.
-/

namespace JebaoFlow

theorem eqItems_ok : ∀ {as bs : List (String × Scalar)}, eqItems as bs = true →
    as.length = bs.length ∧ ∀ e ∈ as, ∃ f ∈ bs, f.1 = e.1 ∧ e.2.eq f.2 = true
  | [], [], _ => ⟨rfl, fun e he => absurd he (List.not_mem_nil)⟩
  | [], _ :: _, h => by cases h
  | _ :: _, [], h => by cases h
  | a :: as, b :: bs, h => by
      rw [eqItems, Bool.and_eq_true, Bool.and_eq_true, beq_iff_eq] at h
      obtain ⟨⟨hkey, hvalue⟩, hrest⟩ := h
      obtain ⟨hlen, hall⟩ := eqItems_ok hrest
      refine ⟨congrArg (· + 1) hlen, fun e he => ?_⟩
      rcases List.mem_cons.mp he with rfl | he
      · exact ⟨b, List.mem_cons_self .., hkey.symm, hvalue⟩
      · obtain ⟨f, hf, hef⟩ := hall e he
        exact ⟨f, List.mem_cons_of_mem _ hf, hef⟩

theorem eqItems_of_keys : ∀ {as bs : List (String × Scalar)}, as.map Prod.fst = bs.map Prod.fst →
    (∀ e ∈ as, ∀ f ∈ bs, e.1 = f.1 → e.2.eq f.2 = true) → eqItems as bs = true
  | [], [], _, _ => rfl
  | [], _ :: _, h, _ => by cases h
  | _ :: _, [], h, _ => by cases h
  | a :: as, b :: bs, h, hall => by
      obtain ⟨hkey, hkeys⟩ := List.cons.inj h
      rw [eqItems, Bool.and_eq_true, Bool.and_eq_true, beq_iff_eq]
      refine ⟨⟨hkey, hall a (List.mem_cons_self ..) b (List.mem_cons_self ..) hkey⟩, ?_⟩
      exact eqItems_of_keys hkeys
        (fun e he f hf => hall e (List.mem_cons_of_mem _ he) f (List.mem_cons_of_mem _ hf))

theorem mem_sortedItems {d : Dict String Scalar} {e : String × Scalar} :
    e ∈ sortedItems d ↔ d.get? e.1 = some e.2 :=
  List.mem_mergeSort.trans Dict.get?_eq_some_iff.symm

theorem sortedItems_keys (d : Dict String Scalar) :
    ((sortedItems d).map Prod.fst).Perm d.keys ∧ ((sortedItems d).map Prod.fst).Pairwise (· ≤ ·) := by
  refine ⟨(List.mergeSort_perm ..).map Prod.fst, ?_⟩
  have hsorted := @List.pairwise_mergeSort _ (fun a b : String × Scalar => decide (a.1 ≤ b.1))
    (fun a b c hab hbc => decide_eq_true (le_trans (of_decide_eq_true hab) (of_decide_eq_true hbc)))
    (fun a b => by
      rcases le_total a.1 b.1 with h | h
      · simp [h]
      · simp [h]) d.entries
  exact List.pairwise_map.mpr (hsorted.imp of_decide_eq_true)

/-- **Sorted items are equal exactly when the dictionaries are.** -/
theorem eqItems_sorted (a b : Dict String Scalar) :
    eqItems (sortedItems a) (sortedItems b) = Scalar.eqDict a b := by
  rw [Bool.eq_iff_iff]
  unfold Scalar.eqDict
  rw [Bool.and_eq_true, beq_iff_eq, List.all_eq_true]
  constructor
  · intro h
    obtain ⟨hlen, hall⟩ := eqItems_ok h
    refine ⟨?_, fun e he => ?_⟩
    · unfold sortedItems at hlen
      rwa [List.length_mergeSort, List.length_mergeSort] at hlen
    · obtain ⟨f, hf, hkey, hvalue⟩ := hall e (List.mem_mergeSort.mpr he)
      have hget := mem_sortedItems.mp hf
      rw [hkey] at hget
      rw [hget]
      exact hvalue
  · rintro ⟨hlen, hall⟩
    have hvalue : ∀ e ∈ a.entries, ∃ v, b.get? e.1 = some v ∧ e.2.eq v = true := by
      intro e he
      have hmatch := hall e he
      cases hget : b.get? e.1 with
      | none => rw [hget] at hmatch; cases hmatch
      | some v =>
          rw [hget] at hmatch
          exact ⟨v, rfl, hmatch⟩
    -- the keys are the same, so they are sorted to the same list
    have hsubset : a.keys ⊆ b.keys := by
      intro k hk
      obtain ⟨e, he, rfl⟩ := List.mem_map.mp hk
      obtain ⟨v, hv, _⟩ := hvalue e he
      exact Dict.mem_keys_iff.mpr (by rw [hv]; rfl)
    have hperm : a.keys.Perm b.keys := (a.nodup.subperm hsubset).perm_of_length_le
      (by simp only [Dict.keys, List.length_map]; omega)
    obtain ⟨hka, hsa⟩ := sortedItems_keys a
    obtain ⟨hkb, hsb⟩ := sortedItems_keys b
    refine eqItems_of_keys ?_ (fun e he f hf hkey => ?_)
    · exact List.Perm.eq_of_pairwise (fun x y _ _ hxy hyx => le_antisymm hxy hyx) hsa hsb
        ((hka.trans hperm).trans hkb.symm)
    · obtain ⟨v, hv, heq⟩ := hvalue e (List.mem_mergeSort.mp he)
      have hget := mem_sortedItems.mp hf
      rw [← hkey, hv] at hget
      exact Option.some.inj hget ▸ heq

/-- **The comparison of two signatures.** -/
theorem signature_eq (a b : DeviceState) : a.signature.eq b.signature = a.sameSignature b := by
  have hattributes := eqItems_sorted a.observedAttributes b.observedAttributes
  unfold DeviceState.sameSignature
  rw [← hattributes]
  rfl

end JebaoFlow
