import SalesDesk.Ledger.Filter
import SalesDesk.Proofs.Value.Entries
import SalesDesk.Proofs.Value.Written
import Mathlib.Data.List.Induction

/-!
The labels that a stack of filters is told by. Each field has one label, that of the filter added
last on it, be it at work or switched off; so the labels tell the filters at work exactly where
these are the ones that are labelled like the last ones on their fields.
-/
namespace SalesDesk.Filter

section
variable {α : Type} {stack : List (Filter α)} {f : Filter α} {field text : String}

/-- The filter on a field that was added last. -/
def lastOn? (stack : List (Filter α)) (field : String) : Option (Filter α) :=
  stack.reverse.find? (·.field == field)

theorem labels_concat (stack : List (Filter α)) (f : Filter α) :
    labels (stack ++ [f]) = (labels stack).put f.field f.shown := by
  rw [labels, List.foldl_append]
  rfl

theorem lastOn?_concat (stack : List (Filter α)) (f : Filter α) (field : String) :
    lastOn? (stack ++ [f]) field = if f.field = field then some f else lastOn? stack field := by
  rw [lastOn?, List.reverse_concat]
  by_cases h : f.field = field
  · rw [if_pos h, List.find?_cons_of_pos (by simpa using h)]
  · rw [if_neg h, List.find?_cons_of_neg (by simpa using h), lastOn?]

/-- Each field is labelled like the last filter on it. -/
theorem mem_labels :
    (field, text) ∈ labels stack ↔ (lastOn? stack field).map shown = some text := by
  induction stack using List.reverseRecOn with
  | nil => simp [labels, lastOn?]
  | append_singleton stack f ih =>
    rw [labels_concat, Entries.mem_put, ih, lastOn?_concat]
    by_cases h : f.field = field
    · simp [h, eq_comm]
    · simp [h, Ne.symm h]

theorem nodup_labels (stack : List (Filter α)) : ((labels stack).map Prod.fst).Nodup := by
  induction stack using List.reverseRecOn with
  | nil => exact List.nodup_nil
  | append_singleton stack f ih =>
    rw [labels_concat]
    exact Entries.nodup_names_put ih

theorem lastOn?_of_nodup (h : (stack.map (·.field)).Nodup) (hf : f ∈ stack) :
    lastOn? stack f.field = some f := by
  induction stack using List.reverseRecOn with
  | nil => cases hf
  | append_singleton stack g ih =>
    rw [List.map_append, List.nodup_append] at h
    obtain ⟨hstack, -, hapart⟩ := h
    rw [lastOn?_concat]
    rcases List.mem_append.mp hf with hf | hf
    · have hne : f.field ≠ g.field :=
        hapart _ (List.mem_map.mpr ⟨f, hf, rfl⟩) _ (by simp)
      rw [if_neg (Ne.symm hne), ih hstack hf]
    · obtain rfl := List.mem_singleton.mp hf
      exact if_pos rfl

theorem mem_inOrder : f ∈ inOrder stack ↔ f ∈ stack ∧ f.enabled = true := by
  rw [inOrder, List.mem_filter, List.mem_append, List.mem_filter, List.mem_filter]
  cases f.isPeriod <;> simp

end

/-- A stack is described by its labels, unless an integer in them is too long to be written. -/
theorem describe_eq (stack : List Added) (today : Date) :
    describe stack =
      if stack.any (·.subject.source.holdsLongInteger) then .error (.tooManyDigits none)
      else .ok (labels (stack.map (Added.filter today))) := by
  induction stack using List.reverseRecOn with
  | nil => rfl
  | append_singleton stack a ih =>
    have hlast : describe (stack ++ [a]) = (do
        let found ← describe stack
        return found.put a.subject.field (a.mode.shown (← a.subject.label))) := by
      rw [describe, List.foldlM_append]
      simp [describe]
    rw [hlast, ih, List.any_append, List.map_append, List.map_singleton, labels_concat]
    cases hstack : stack.any (·.subject.source.holdsLongInteger) with
    | true => rfl
    | false =>
      cases ha : a.subject.source.holdsLongInteger with
      | true =>
        rw [Subject.label, Value.written_of_long ha]
        simp [ha]
      | false =>
        rw [Subject.label, Value.written_of_short ha]
        simp [ha]
        rfl

/-- A filter is labelled exactly if it is one of those at work. -/
def Echoed (today : Date) (stack : List Added) : Prop :=
  ∀ a ∈ stack,
    (a.subject.field, (a.filter today).shown) ∈ labels (stack.map (Added.filter today)) ↔
      a.filter today ∈ inOrder (stack.map (Added.filter today))

/-- A stack is described by its labels, unless an integer in them is too long to be written. Each
field has one label, that of the last filter on it. So the labels tell the filters at work exactly
if a filter is enabled where it is labelled like the last one on its field, and nowhere else; with
one filter a field, exactly if none is switched off. -/
theorem echoed_iff (stack : List Added) (today : Date) :
    (describe stack =
      if stack.any (·.subject.source.holdsLongInteger) then .error (.tooManyDigits none)
      else .ok (labels (stack.map (Added.filter today)))) ∧
    ((labels (stack.map (Added.filter today))).map Prod.fst).Nodup ∧
    (∀ field text, (field, text) ∈ labels (stack.map (Added.filter today)) ↔
      (lastOn? (stack.map (Added.filter today)) field).map shown = some text) ∧
    (Echoed today stack ↔ ∀ a ∈ stack, a.enabled = true ↔
      (lastOn? (stack.map (Added.filter today)) a.subject.field).map shown =
        some (a.filter today).shown) ∧
    ((stack.map (·.subject.field)).Nodup →
      (Echoed today stack ↔ ∀ a ∈ stack, a.enabled = true)) := by
  have hatWork : ∀ a ∈ stack, a.filter today ∈ inOrder (stack.map (Added.filter today)) ↔
      a.enabled = true := fun a ha => mem_inOrder.trans (and_iff_right (List.mem_map_of_mem ha))
  have hechoed : Echoed today stack ↔ ∀ a ∈ stack, a.enabled = true ↔
      (lastOn? (stack.map (Added.filter today)) a.subject.field).map shown =
        some (a.filter today).shown := by
    apply forall₂_congr
    intro a ha
    rw [mem_labels, hatWork a ha]
    exact iff_comm
  refine ⟨describe_eq stack today, nodup_labels _, fun _ _ => mem_labels, hechoed,
    fun hfields => ?_⟩
  rw [hechoed]
  apply forall₂_congr
  intro a ha
  have hnodup : ((stack.map (Added.filter today)).map (·.field)).Nodup := by
    rwa [List.map_map]
  have hlast := lastOn?_of_nodup hnodup (List.mem_map_of_mem (f := Added.filter today) ha)
  have hfield : (a.filter today).field = a.subject.field := rfl
  rw [← hfield, hlast]
  exact iff_true_right rfl

/-- A filter on a region, switched off. -/
def northOff : List Added := [⟨.value "region" (.text "North"), .keep, false⟩]

/-- Two filters on one field, both at work. -/
def acmeNotZen : List Added := [
  ⟨.value "customer" (.text "Acme"), .keep, true⟩, ⟨.value "customer" (.text "Zen"), .drop, true⟩]

/-- A filter that is switched off is labelled, and of two filters on a field the first one is not,
whatever the day. -/
theorem labels_not_echoed :
    (describe northOff = .ok [("region", "North")] ∧
      ∀ today, inOrder (northOff.map (Added.filter today)) = [] ∧ ¬Echoed today northOff) ∧
    describe acmeNotZen = .ok [("customer", "not Zen")] ∧
      ∀ today, inOrder (acmeNotZen.map (Added.filter today)) =
        acmeNotZen.map (Added.filter today) ∧ ¬Echoed today acmeNotZen := by
  refine ⟨⟨rfl, fun today => ⟨rfl, fun h => ?_⟩⟩, rfl, fun today => ⟨rfl, fun h => ?_⟩⟩
  · have hoff := (h _ List.mem_cons_self).mp List.mem_cons_self
    cases hoff
  · have hfirst := (h _ List.mem_cons_self).mpr List.mem_cons_self
    have hlabels : labels (acmeNotZen.map (Added.filter today)) = [("customer", "not Zen")] := rfl
    have habsent : ("customer", "Acme") ∉ [("customer", "not Zen")] := by decide
    exact habsent (hlabels ▸ hfirst)

end SalesDesk.Filter
