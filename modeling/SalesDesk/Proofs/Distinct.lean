import Mathlib.Data.List.Nodup
import Mathlib.Data.List.Perm.Basic

/-! The different ones among the elements of a list, however the list is ordered. -/
namespace SalesDesk

variable {β : Type}

section
variable [BEq β] {a b : β} {l l' : List β}

theorem length_eraseDups_le (l : List β) : l.eraseDups.length ≤ l.length := by
  induction hn : l.length using Nat.strongRecOn generalizing l with
  | _ n ih =>
    cases l with
    | nil => simp
    | cons b rest =>
      have hfilter := List.length_filter_le (fun c => !c == b) rest
      rw [List.length_cons] at hn
      rw [List.eraseDups_cons, List.length_cons]
      have hrest := ih _ (by omega) (rest.filter fun c => !c == b) rfl
      omega

theorem length_eraseDups_pos (h : l ≠ []) : 0 < l.eraseDups.length := by
  obtain ⟨a, rest, rfl⟩ := List.exists_cons_of_ne_nil h
  rw [List.eraseDups_cons, List.length_cons]
  exact Nat.succ_pos _

/-- Sameness on the elements of a list: each is the same as itself, and what is the same as one of
two that are the same is the same as the other. -/
structure TellsApart (l : List β) : Prop where
  self : ∀ a ∈ l, (a == a) = true
  symm : ∀ a b : β, (a == b) = true → (b == a) = true
  trans : ∀ a b c : β, (a == b) = true → (b == c) = true → (a == c) = true

theorem TellsApart.mono (h : TellsApart l) (hmem : ∀ a ∈ l', a ∈ l) : TellsApart l' :=
  ⟨fun a ha => h.self a (hmem a ha), h.symm, h.trans⟩

theorem TellsApart.filter (h : TellsApart l) (p : β → Bool) : TellsApart (l.filter p) :=
  h.mono fun _ ha => (List.mem_filter.mp ha).1

/-- All that are the same as an element go when one of them does. -/
theorem TellsApart.filter_congr (h : TellsApart l) (hab : (a == b) = true) (l' : List β) :
    l'.filter (!· == a) = l'.filter (!· == b) := by
  apply List.filter_congr
  intro c _
  congr 1
  exact Bool.eq_iff_iff.mpr ⟨fun hca => h.trans c a b hca hab,
    fun hcb => h.trans c b a hcb (h.symm a b hab)⟩

theorem TellsApart.length_eraseDups (h : TellsApart l) (ha : a ∈ l) :
    l.eraseDups.length = (l.filter (!· == a)).eraseDups.length + 1 := by
  induction hn : l.length using Nat.strongRecOn generalizing l with
  | _ n ih =>
    obtain ⟨b, rest, rfl⟩ := List.exists_cons_of_ne_nil (List.ne_nil_of_mem ha)
    rw [List.eraseDups_cons, List.length_cons]
    cases hba : b == a with
    | true => rw [List.filter_cons_of_neg (by simp [hba]), h.filter_congr hba]
    | false =>
      have hrest : a ∈ rest := by
        rcases List.mem_cons.mp ha with rfl | hrest
        · rw [h.self a ha] at hba
          cases hba
        · exact hrest
      have hab : (a == b) = false := by
        cases hab : a == b with
        | false => rfl
        | true => rw [h.symm a b hab] at hba; cases hba
      have hsub := (h.mono fun c hc => List.mem_cons_of_mem b hc).filter (!· == b)
      have hlength := List.length_filter_le (!· == b) rest
      rw [List.length_cons] at hn
      rw [ih _ (by omega) hsub (List.mem_filter.mpr ⟨hrest, by simp [hab]⟩) rfl,
        List.filter_cons_of_pos (by simp [hba]), List.eraseDups_cons, List.length_cons,
        List.filter_comm]

/-- Without all that are the same as some value there are no more different ones than before. -/
theorem TellsApart.length_eraseDups_filter_le (h : TellsApart l) (a : β) :
    (l.filter (!· == a)).eraseDups.length ≤ l.eraseDups.length := by
  by_cases hsame : ∃ b ∈ l, (b == a) = true
  · obtain ⟨b, hb, hba⟩ := hsame
    rw [← h.filter_congr hba, h.length_eraseDups hb]
    exact Nat.le_succ _
  · have hall : l.filter (!· == a) = l :=
      List.filter_eq_self.mpr fun b hb => by simpa using fun hba => hsame ⟨b, hb, hba⟩
    exact Nat.le_of_eq (congrArg (·.eraseDups.length) hall)

theorem TellsApart.length_eraseDups_append_le (h : TellsApart (l ++ l')) :
    (l ++ l').eraseDups.length ≤ l.eraseDups.length + l'.eraseDups.length := by
  induction hn : l.length using Nat.strongRecOn generalizing l l' with
  | _ n ih =>
    cases l with
    | nil => exact Nat.le_add_left _ _
    | cons a rest =>
      have hlength := List.length_filter_le (!· == a) rest
      rw [List.length_cons] at hn
      have hsub : TellsApart (rest.filter (!· == a) ++ l'.filter (!· == a)) := by
        rw [← List.filter_append]
        exact (h.mono fun b hb => List.mem_cons_of_mem a hb).filter _
      have hfirst := ih _ (by omega) hsub rfl
      have hsecond : TellsApart l' := h.mono fun b hb => List.mem_append_right _ hb
      have hfewer := hsecond.length_eraseDups_filter_le a
      rw [List.cons_append, List.eraseDups_cons, List.eraseDups_cons, List.length_cons,
        List.length_cons, List.filter_append]
      omega

/-- The order of elements does not change how many different ones there are. -/
theorem TellsApart.length_eraseDups_of_perm (h : TellsApart l) (hperm : l.Perm l') :
    l.eraseDups.length = l'.eraseDups.length := by
  induction hn : l.length using Nat.strongRecOn generalizing l l' with
  | _ n ih =>
    cases l with
    | nil => rw [hperm.nil_eq]
    | cons a rest =>
      have ha : a ∈ a :: rest := List.mem_cons_self
      have hlength := List.length_filter_le (!· == a) rest
      rw [List.length_cons] at hn
      have hsmall : ((a :: rest).filter (!· == a)).length < n := by
        rw [List.filter_cons_of_neg (by simp [h.self a ha])]
        omega
      rw [h.length_eraseDups ha,
        (h.mono fun b hb => hperm.mem_iff.mpr hb).length_eraseDups (hperm.mem_iff.mp ha),
        ih _ hsmall (h.filter _) (hperm.filter _) rfl]

end

section
variable [BEq β] [LawfulBEq β] {l l' : List β}

theorem nodup_eraseDups (l : List β) : l.eraseDups.Nodup := by
  induction hn : l.length using Nat.strongRecOn generalizing l with
  | _ n ih =>
    cases l with
    | nil => simp
    | cons a rest =>
      have hlength := List.length_filter_le (!· == a) rest
      rw [List.length_cons] at hn
      rw [List.eraseDups_cons, List.nodup_cons]
      exact ⟨by simp, ih _ (by omega) _ rfl⟩

theorem eraseDups_eq_self_iff : l.eraseDups = l ↔ l.Nodup := by
  constructor
  · intro h
    rw [← h]
    exact nodup_eraseDups l
  · intro h
    induction l with
    | nil => rfl
    | cons a rest ih =>
      obtain ⟨ha, hrest⟩ := List.nodup_cons.mp h
      have hothers : rest.filter (!· == a) = rest := by
        apply List.filter_eq_self.mpr
        intro b hb
        have hne : b ≠ a := fun hab => ha (hab ▸ hb)
        simp [hne]
      rw [List.eraseDups_cons, hothers, ih hrest]

theorem perm_eraseDups (h : l.Perm l') : l.eraseDups.Perm l'.eraseDups := by
  apply (List.perm_ext_iff_of_nodup (nodup_eraseDups l) (nodup_eraseDups l')).mpr
  intro a
  rw [List.mem_eraseDups, List.mem_eraseDups, h.mem_iff]

end

end SalesDesk
