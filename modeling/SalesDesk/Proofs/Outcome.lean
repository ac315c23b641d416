import SalesDesk.Fault
import Mathlib.Data.List.Forall2

/-! Outcomes of computations that may fail. -/
namespace SalesDesk

variable {ε β γ : Type}

@[simp] theorem ok_bind (x : β) (f : β → Except ε γ) : (Except.ok x >>= f) = f x := rfl

@[simp] theorem error_bind (e : ε) (f : β → Except ε γ) : (Except.error e >>= f) = .error e := rfl

@[simp] theorem pure_eq_ok (x : β) : (pure x : Except ε β) = .ok x := rfl

/-- What always ends in something does so after any other step. -/
theorem bind_ne_none {x : Except ε β} {f : β → Except ε (Option γ)} (h : ∀ b, f b ≠ .ok none) :
    (x >>= f) ≠ .ok none := by
  cases x with
  | error e => exact nofun
  | ok b => exact h b

theorem bind_eq_ok {x : Except ε β} {f : β → Except ε γ} {c : γ} :
    (x >>= f) = .ok c ↔ ∃ b, x = .ok b ∧ f b = .ok c := by
  cases x with
  | error e => simp
  | ok b => simp

theorem exists_of_toOption_any {x : Except ε β} {p : β → Bool} (h : x.toOption.any p = true) :
    ∃ b, x = .ok b ∧ p b = true := by
  cases x with
  | error e => cases h
  | ok b => exact ⟨b, rfl, h⟩

theorem eq_error_of_seen {e : ε} (p : ε → Bool) (hp : ∀ e', p e' = true → e' = e) {x : Except ε β}
    (h : (match x with | .error e' => p e' | .ok _ => false) = true) : x = .error e := by
  cases x with
  | error e' => rw [hp e' h]
  | ok b => cases h

theorem bind_eq_error {x : Except ε β} {f : β → Except ε γ} {e : ε} :
    (x >>= f) = .error e ↔ x = .error e ∨ ∃ b, x = .ok b ∧ f b = .error e := by
  cases x with
  | error e' => simp
  | ok b => simp

/-- A step for each element succeeds if all of them do, each with its own result. -/
theorem mapM_eq_ok_iff {f : β → Except ε γ} {l : List β} {cs : List γ} :
    l.mapM f = .ok cs ↔ List.Forall₂ (fun b c => f b = .ok c) l cs := by
  induction l generalizing cs with
  | nil => cases cs <;> simp
  | cons b rest ih =>
    rw [List.mapM_cons, bind_eq_ok]
    constructor
    · rintro ⟨c, hc, h⟩
      obtain ⟨ds, hds, h⟩ := bind_eq_ok.mp h
      cases h
      exact .cons hc (ih.mp hds)
    · rintro (_ | ⟨hc, hds⟩)
      exact ⟨_, hc, bind_eq_ok.mpr ⟨_, ih.mpr hds, rfl⟩⟩

theorem length_of_mapM {f : β → Except ε γ} {l : List β} {cs : List γ} (h : l.mapM f = .ok cs) :
    cs.length = l.length := (mapM_eq_ok_iff.mp h).length_eq.symm

/-- A step for each element fails as the first one does that fails. -/
theorem mapM_eq_error_iff {f : β → Except ε γ} {l : List β} {e : ε} :
    l.mapM f = .error e ↔ ∃ before b after, l = before ++ b :: after ∧
      (∀ a ∈ before, ∃ c, f a = .ok c) ∧ f b = .error e := by
  induction l with
  | nil => simp
  | cons b rest ih =>
    rw [List.mapM_cons, bind_eq_error]
    constructor
    · rintro (hb | ⟨c, hc, h⟩)
      · exact ⟨[], b, rest, rfl, nofun, hb⟩
      · rcases bind_eq_error.mp h with h | ⟨ds, -, h⟩
        · obtain ⟨before, b', after, rfl, hbefore, hb'⟩ := ih.mp h
          exact ⟨b :: before, b', after, rfl, List.forall_mem_cons.mpr ⟨⟨c, hc⟩, hbefore⟩, hb'⟩
        · cases h
    · rintro ⟨before, b', after, h, hbefore, hb'⟩
      cases before with
      | nil =>
        cases h
        exact .inl hb'
      | cons first before =>
        cases h
        obtain ⟨⟨c, hc⟩, hbefore⟩ := List.forall_mem_cons.mp hbefore
        exact .inr ⟨c, hc, bind_eq_error.mpr (.inl (ih.mpr ⟨before, b', after, rfl, hbefore, hb'⟩))⟩

/-- The computation succeeds, and its result is as said. -/
def Gives (x : Except ε β) (P : β → Prop) : Prop := ∃ b, x = .ok b ∧ P b

section
variable {P : β → Prop} {Q : γ → Prop}

theorem gives_ok {b : β} (h : P b) : Gives (.ok b : Except ε β) P := ⟨b, rfl, h⟩

theorem Gives.mono {R : β → Prop} {x : Except ε β} (h : Gives x P) (hPR : ∀ b, P b → R b) :
    Gives x R := by
  obtain ⟨b, hb, hP⟩ := h
  exact ⟨b, hb, hPR b hP⟩

theorem Gives.bind {x : Except ε β} {f : β → Except ε γ} (hx : Gives x P)
    (hf : ∀ b, P b → Gives (f b) Q) : Gives (x >>= f) Q := by
  obtain ⟨b, rfl, hb⟩ := hx
  exact hf b hb

theorem Gives.map {x : Except ε β} {f : β → γ} (hx : Gives x P) (hf : ∀ b, P b → Q (f b)) :
    Gives (x >>= fun b => pure (f b)) Q :=
  hx.bind fun b hb => gives_ok (hf b hb)

theorem gives_ite {c : Prop} [Decidable c] {x y : Except ε β} (hx : c → Gives x P)
    (hy : ¬c → Gives y P) : Gives (if c then x else y) P := by
  split
  · exact hx ‹_›
  · exact hy ‹_›

theorem gives_mapM {f : β → Except ε γ} {l : List β} (h : ∀ b ∈ l, Gives (f b) Q) :
    Gives (l.mapM f) fun cs => cs.length = l.length ∧ ∀ c ∈ cs, Q c := by
  induction l with
  | nil => exact gives_ok ⟨rfl, nofun⟩
  | cons b rest ih =>
    rw [List.mapM_cons]
    apply (h b List.mem_cons_self).bind
    intro c hc
    apply (ih fun d hd => h d (List.mem_cons_of_mem _ hd)).map
    intro cs hcs
    exact ⟨congrArg (· + 1) hcs.1, List.forall_mem_cons.mpr ⟨hc, hcs.2⟩⟩

/-- A step for each element, and for each element what is said of its result. -/
theorem gives_mapM_each {R : β → γ → Prop} {f : β → Except ε γ} {l : List β}
    (h : ∀ b ∈ l, Gives (f b) (R b)) :
    Gives (l.mapM f) fun cs => cs.length = l.length ∧ ∀ b ∈ l, ∃ c ∈ cs, R b c := by
  induction l with
  | nil => exact gives_ok ⟨rfl, nofun⟩
  | cons b rest ih =>
    obtain ⟨hb, hrest⟩ := List.forall_mem_cons.mp h
    rw [List.mapM_cons]
    apply hb.bind
    intro c hc
    apply (ih hrest).map
    rintro cs ⟨hlength, hcs⟩
    refine ⟨congrArg (· + 1) hlength, List.forall_mem_cons.mpr ⟨⟨c, List.mem_cons_self, hc⟩, ?_⟩⟩
    intro d hd
    obtain ⟨e, he, hde⟩ := hcs d hd
    exact ⟨e, List.mem_cons_of_mem _ he, hde⟩

/-- If the computation succeeds, its result is as said. -/
structure GivesOnly (x : Except ε β) (P : β → Prop) : Prop where
  of_ok : ∀ b, x = .ok b → P b

theorem givesOnly_ok {b : β} (h : P b) : GivesOnly (.ok b : Except ε β) P where
  of_ok c hc := by
    cases hc
    exact h

theorem GivesOnly.mono {R : β → Prop} {x : Except ε β} (h : GivesOnly x P)
    (hPR : ∀ b, P b → R b) : GivesOnly x R := ⟨fun b hb => hPR b (h.of_ok b hb)⟩

theorem givesOnly_error (e : ε) : GivesOnly (.error e) P := ⟨nofun⟩

theorem GivesOnly.bind {x : Except ε β} {f : β → Except ε γ} (hx : GivesOnly x P)
    (hf : ∀ b, P b → GivesOnly (f b) Q) : GivesOnly (x >>= f) Q where
  of_ok c hc := by
    obtain ⟨b, hb, hc⟩ := bind_eq_ok.mp hc
    exact (hf b (hx.of_ok b hb)).of_ok c hc

/-- Nothing need be known of a step if what follows is as said in any case. -/
theorem givesOnly_bind {x : Except ε β} {f : β → Except ε γ} (hf : ∀ b, GivesOnly (f b) Q) :
    GivesOnly (x >>= f) Q := by
  have hx : GivesOnly x fun _ => True := ⟨fun _ _ => trivial⟩
  exact hx.bind fun b _ => hf b

theorem givesOnly_ite {c : Prop} [Decidable c] {x y : Except ε β} (hx : c → GivesOnly x P)
    (hy : ¬c → GivesOnly y P) : GivesOnly (if c then x else y) P := by
  split
  · exact hx ‹_›
  · exact hy ‹_›

/-- Where each step can give one thing only, so can all of them. -/
theorem givesOnly_mapM {f : β → Except ε γ} {g : β → γ} {l : List β}
    (h : ∀ b ∈ l, GivesOnly (f b) (· = g b)) : GivesOnly (l.mapM f) (· = l.map g) := by
  induction l with
  | nil => exact givesOnly_ok rfl
  | cons b rest ih =>
    obtain ⟨hb, hrest⟩ := List.forall_mem_cons.mp h
    rw [List.mapM_cons]
    apply hb.bind
    rintro c rfl
    apply (ih hrest).bind
    rintro cs rfl
    exact givesOnly_ok rfl

end

end SalesDesk
