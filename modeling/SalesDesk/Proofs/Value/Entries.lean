import SalesDesk.Value.Basic
import Mathlib.Data.List.Nodup

/-! Entries with a new one put among them: in the place of the one of its name, or at the end. -/
namespace SalesDesk.Entries

variable {β : Type} {entries : Entries β} {name key : String} {x y : β}

theorem any_name : entries.any (·.1 == name) = true ↔ name ∈ entries.map Prod.fst := by
  simp only [List.any_eq_true, beq_iff_eq, List.mem_map]

theorem put_of_mem (h : name ∈ entries.map Prod.fst) :
    entries.put name x = entries.map fun e => if e.1 == name then (name, x) else e := by
  rw [put, if_pos (any_name.mpr h)]

theorem put_of_not_mem (h : name ∉ entries.map Prod.fst) :
    entries.put name x = entries ++ [(name, x)] := by
  rw [put, if_neg (mt any_name.mp h)]

theorem mem_put : (key, y) ∈ entries.put name x ↔
    key = name ∧ y = x ∨ key ≠ name ∧ (key, y) ∈ entries := by
  by_cases h : name ∈ entries.map Prod.fst
  · rw [put_of_mem h, List.mem_map]
    constructor
    · rintro ⟨e, he, heq⟩
      by_cases hname : e.1 = name
      · rw [if_pos (beq_iff_eq.mpr hname)] at heq
        cases heq
        exact .inl ⟨rfl, rfl⟩
      · rw [if_neg (mt beq_iff_eq.mp hname)] at heq
        subst heq
        exact .inr ⟨hname, he⟩
    · rintro (⟨rfl, rfl⟩ | ⟨hother, he⟩)
      · obtain ⟨old, hold, hname⟩ := List.mem_map.mp h
        exact ⟨old, hold, if_pos (beq_iff_eq.mpr hname)⟩
      · exact ⟨(key, y), he, if_neg (mt beq_iff_eq.mp hother)⟩
  · rw [put_of_not_mem h, List.mem_append, List.mem_singleton, Prod.mk.injEq, or_comm]
    refine or_congr_right ⟨fun he => ⟨?_, he⟩, And.right⟩
    rintro rfl
    exact h (List.mem_map_of_mem he)

theorem forall_put {P : β → Prop} (h : ∀ e ∈ entries, P e.2) (hx : P x) :
    ∀ e ∈ entries.put name x, P e.2 := by
  intro e he
  rcases mem_put.mp he with ⟨-, hnew⟩ | ⟨-, hold⟩
  · rwa [hnew]
  · exact h e hold

theorem names_put : (entries.put name x).map Prod.fst =
    if name ∈ entries.map Prod.fst then entries.map Prod.fst
    else entries.map Prod.fst ++ [name] := by
  by_cases h : name ∈ entries.map Prod.fst
  · rw [put_of_mem h, if_pos h, List.map_map]
    apply List.map_congr_left
    intro e _
    by_cases hname : e.1 = name <;> simp [hname]
  · rw [put_of_not_mem h, if_neg h, List.map_append]
    rfl

theorem nodup_names_put (h : (entries.map Prod.fst).Nodup) :
    ((entries.put name x).map Prod.fst).Nodup := by
  rw [names_put]
  by_cases hname : name ∈ entries.map Prod.fst
  · rwa [if_pos hname]
  · rw [if_neg hname, ← List.concat_eq_append]
    exact h.concat hname

/-! What is found under a name. -/

theorem lookup_cons_eq_ite (e : String × β) (entries : Entries β) (key : String) :
    List.lookup key (e :: entries) = if key = e.1 then some e.2 else entries.lookup key := by
  rw [List.lookup_cons]
  by_cases h : key = e.1
  · rw [if_pos h, beq_iff_eq.mpr h]
  · rw [if_neg h, beq_false_of_ne h]

theorem lookup_eq_none_of_not_mem (h : name ∉ entries.map Prod.fst) :
    entries.lookup name = none := by
  rw [List.lookup_eq_none_iff]
  exact fun e he => bne_iff_ne.mpr fun hname => h (hname ▸ List.mem_map_of_mem he)

theorem lookup_put_self : (entries.put name x).lookup name = some x := by
  by_cases h : name ∈ entries.map Prod.fst
  · rw [put_of_mem h]
    induction entries with
    | nil => cases h
    | cons e rest ih =>
      rw [List.map_cons]
      by_cases hname : e.1 = name
      · rw [if_pos (beq_iff_eq.mpr hname), List.lookup_cons_self]
      · rw [if_neg (mt beq_iff_eq.mp hname), lookup_cons_eq_ite, if_neg (Ne.symm hname)]
        exact ih ((List.mem_cons.mp h).resolve_left (Ne.symm hname))
  · rw [put_of_not_mem h, List.lookup_append, lookup_eq_none_of_not_mem h, List.lookup_cons_self,
      Option.none_or]

theorem lookup_put_of_ne (h : key ≠ name) :
    (entries.put name x).lookup key = entries.lookup key := by
  by_cases hmem : name ∈ entries.map Prod.fst
  · rw [put_of_mem hmem]
    clear hmem
    induction entries with
    | nil => rfl
    | cons e rest ih =>
      rw [List.map_cons, lookup_cons_eq_ite, lookup_cons_eq_ite, ih]
      by_cases hname : e.1 = name
      · rw [if_pos (beq_iff_eq.mpr hname), if_neg h, if_neg (hname ▸ h)]
      · rw [if_neg (mt beq_iff_eq.mp hname)]
  · rw [put_of_not_mem hmem, List.lookup_append, lookup_cons_eq_ite, if_neg h, List.lookup_nil,
      Option.or_none]

end SalesDesk.Entries
