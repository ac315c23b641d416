import SalesDesk.Proofs.Distinct
import SalesDesk.Proofs.Ledger.Filtering
import SalesDesk.Proofs.Value.Same

/-!
Two computations that give results which belong together, or fail alike, and what of a ledger does
not depend on the order of its records: the column of its ids, the different ids in it, and the
records of a period.
-/
namespace SalesDesk

/-- Both computations succeed, with results that belong together, or both fail. Of ids that cannot
be told apart a fault names the first one. -/
inductive Alike {β γ : Type} (R : β → γ → Prop) : Except Fault β → Except Fault γ → Prop
  | ok {b : β} {c : γ} (h : R b c) : Alike R (.ok b) (.ok c)
  | fault (e : Fault) : Alike R (.error e) (.error e)
  | uncountable (kind kind' : String) :
    Alike R (.error (.uncountable kind)) (.error (.uncountable kind'))

namespace Alike

variable {β γ δ ζ : Type} {R : β → γ → Prop} {S : δ → ζ → Prop}

theorem of_eq {x y : Except Fault β} (h : x = y) : Alike Eq x y := by
  subst h
  cases x with
  | error e => exact .fault e
  | ok b => exact .ok rfl

theorem bind {x : Except Fault β} {y : Except Fault γ} {f : β → Except Fault δ}
    {g : γ → Except Fault ζ} (h : Alike R x y) (hfg : ∀ b c, R b c → Alike S (f b) (g c)) :
    Alike S (x >>= f) (y >>= g) := by
  cases h with
  | ok hbc => exact hfg _ _ hbc
  | fault e => exact .fault e
  | uncountable kind kind' => exact .uncountable kind kind'

theorem map {x : Except Fault β} {y : Except Fault γ} {f : β → δ} {g : γ → ζ} (h : Alike R x y)
    (hfg : ∀ b c, R b c → S (f b) (g c)) :
    Alike S (x >>= fun b => pure (f b)) (y >>= fun c => pure (g c)) :=
  h.bind fun b c hbc => .ok (hfg b c hbc)

theorem imp {x : Except Fault β} {y : Except Fault γ} {R' : β → γ → Prop} (h : Alike R x y)
    (himp : ∀ b c, x = .ok b → y = .ok c → R b c → R' b c) : Alike R' x y := by
  cases h with
  | ok hbc => exact .ok (himp _ _ rfl rfl hbc)
  | fault e => exact .fault e
  | uncountable kind kind' => exact .uncountable kind kind'

theorem trans_perm {x y z : Except Fault (List β)} (h : Alike List.Perm x y)
    (h' : Alike List.Perm y z) : Alike List.Perm x z := by
  cases h with
  | ok hbc =>
    cases h' with
    | ok hcd => exact .ok (hbc.trans hcd)
  | fault e => exact h'
  | uncountable kind kind' =>
    cases h' with
    | fault => exact .uncountable _ _
    | uncountable => exact .uncountable _ _

theorem mapM {f g : β → Except Fault γ} (h : ∀ b, Alike Eq (f b) (g b)) (l : List β) :
    Alike Eq (l.mapM f) (l.mapM g) := by
  induction l with
  | nil => exact .ok rfl
  | cons b rest ih =>
    rw [List.mapM_cons, List.mapM_cons]
    apply (h b).bind
    rintro c _ rfl
    apply ih.map
    rintro cs _ rfl
    rfl

/-- The steps may be taken in any order if none fails but over ids that cannot be told apart. -/
theorem mapM_perm {f : β → Except Fault γ}
    (hf : ∀ b e, f b = .error e → ∃ kind, e = .uncountable kind) {l l' : List β}
    (h : l.Perm l') : Alike List.Perm (l.mapM f) (l'.mapM f) := by
  induction h with
  | nil => exact .ok .nil
  | cons b _ ih =>
    rw [List.mapM_cons, List.mapM_cons]
    apply (of_eq rfl).bind
    rintro c _ rfl
    exact ih.map fun _ _ hcs => hcs.cons c
  | swap b a rest =>
    simp only [List.mapM_cons]
    cases ha : f a with
    | error e =>
      obtain ⟨kind, rfl⟩ := hf a e ha
      cases hb : f b with
      | error e =>
        obtain ⟨kind', rfl⟩ := hf b e hb
        exact .uncountable _ _
      | ok d => exact .fault _
    | ok c =>
      cases hb : f b with
      | error e => exact .fault _
      | ok d =>
        cases rest.mapM f with
        | error e => exact .fault _
        | ok cs => exact .ok (.swap _ _ _)
  | trans _ _ ih ih' => exact ih.trans_perm ih'

end Alike

namespace IdColumn

variable {ids ids' : List Value}

theorem fitWords_perm {ns ns' : List Int} (h : ns.Perm ns') : fitWords ns = fitWords ns' := by
  simp only [fitWords, h.all_eq]

theorem ofIds_perm (h : ids.Perm ids') : ofIds ids = ofIds ids' := by
  simp only [ofIds, h.any_eq, h.all_eq, fitWords_perm (h.filterMap _), (h.filterMap _).isEmpty_eq]

theorem momentText_perm (h : ids.Perm ids') : momentText ids = momentText ids' := by
  simp only [momentText, (h.filterMap _).all_eq]

end IdColumn

theorem distinctIds_perm {ids ids' : List Value} (h : ids.Perm ids')
    (hids : ∀ id ∈ ids, id.isMissingId = false) :
    Alike (fun found found' => found.length = found'.length) (distinctIds ids)
      (distinctIds ids') := by
  unfold distinctIds
  cases hfind : ids.find? (!·.isCountable) with
  | some id =>
    cases hfind' : ids'.find? (!·.isCountable) with
    | some id' => exact .uncountable _ _
    | none =>
      rw [List.find?_eq_none] at hfind'
      have hmem := h.mem_iff.mp (List.mem_of_find?_eq_some hfind)
      exact absurd (List.find?_some hfind) (hfind' id hmem)
  | none =>
    have hcountable := List.find?_eq_none.mp hfind
    have hfind' : ids'.find? (!·.isCountable) = none :=
      List.find?_eq_none.mpr fun id hid => hcountable id (h.mem_iff.mpr hid)
    have htells : TellsApart ids :=
      ⟨fun id hid => Value.same_self (by simpa using hcountable id hid) (hids id hid),
        fun _ _ => Value.same_symm, fun _ _ _ => Value.same_trans⟩
    rw [hfind']
    exact .ok (htells.length_eraseDups_of_perm h)

section
variable {α : Type} [Figure α] {rows rows' : List (Record α)}

theorem inPeriod_eq (p : Period) (rows : List (Record α)) :
    Filter.inPeriod (some p) rows =
      if rows.isEmpty then .ok rows
      else (Filter.Condition.all (.period (some p))).select id true rows := by
  simp [Filter.inPeriod, Filter.applyTo, Filter.ofPeriod, Filter.Mode.keeps]

theorem inPeriod_perm (h : rows.Perm rows') (p : Period) :
    Alike List.Perm (Filter.inPeriod (some p) rows) (Filter.inPeriod (some p) rows') := by
  rw [inPeriod_eq, inPeriod_eq, h.isEmpty_eq]
  split
  · exact .ok h
  · unfold Filter.Condition.select
    dsimp only
    rw [IdColumn.ofIds_perm (h.map _)]
    apply (Alike.of_eq rfl).map
    rintro month _ rfl
    exact h.filter _

end

end SalesDesk
