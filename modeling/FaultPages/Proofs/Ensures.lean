/-! # Ensures — what holds of every result of a computation

    A scan runs in the monad of its resolver.  `Ensures x p` says, for any
    monad, that all that follows `x` may take `p` of its result for granted.
    Without effects that is `p` of the result (`ensures_id`), and with a state
    it is `p` of the result from every state (`ensures_stateM`). -/

namespace FaultPages

variable {m : Type → Type} [Monad m] {α β : Type}

/-- Every result of a computation has a property: continuations that agree where
    the property holds agree after the computation. -/
def Ensures (x : m α) (p : α → Prop) : Prop :=
  ∀ (γ : Type) (f g : α → m γ), (∀ a, p a → f a = g a) → x >>= f = x >>= g

namespace Ensures

variable {x : m α} {p q : α → Prop}

theorem mono (h : Ensures x p) (hpq : ∀ a, p a → q a) : Ensures x q :=
  fun γ f g hfg => h γ f g fun a ha => hfg a (hpq a ha)

theorem of_forall (h : ∀ a, p a) : Ensures x p := by
  intro γ f g hfg
  rw [funext fun a => hfg a (h a)]

variable [LawfulMonad m]

theorem of_pure {a : α} (h : p a) : Ensures (pure a : m α) p := by
  intro γ f g hfg
  rw [pure_bind, pure_bind]
  exact hfg a h

theorem bind {f : α → m β} {r : β → Prop} (hx : Ensures x p) (hf : ∀ a, p a → Ensures (f a) r) :
    Ensures (x >>= f) r := by
  intro γ k l hkl
  rw [bind_assoc, bind_assoc]
  exact hx γ _ _ fun a ha => hf a ha γ k l hkl

theorem map {f : α → β} {r : β → Prop} (hx : Ensures x fun a => r (f a)) :
    Ensures (f <$> x) r := by
  rw [map_eq_pure_bind]
  exact hx.bind fun a ha => of_pure ha

/-- With a state, a property of every result holds of the results from each
    state. -/
theorem run {σ : Type} {y : StateT σ m α} (h : Ensures y p) (s : σ) :
    Ensures (y.run s) fun r => p r.1 := by
  intro γ f g hfg
  -- a continuation of the run is one of the computation that keeps the state
  have hkeep : ∀ k : α × σ → m γ,
      Prod.fst <$> (y >>= fun a s' => (fun c => (c, s')) <$> k (a, s')).run s
        = y.run s >>= k := by
    intro k
    show Prod.fst <$> (y.run s >>= fun r => (fun c => (c, r.2)) <$> k (r.1, r.2)) = _
    simp
  rw [← hkeep f, ← hkeep g]
  rw [h _ _ (fun a s' => (fun c => (c, s')) <$> g (a, s'))
    fun a ha => funext fun s' => by rw [hfg (a, s') ha]]

end Ensures

open Classical in
/-- Without effects, every result is the result. -/
theorem ensures_id {x : Id α} {p : α → Prop} : Ensures x p ↔ p (Id.run x) := by
  constructor
  · intro h
    have hb : decide (p (Id.run x)) = true :=
      h Bool (fun a => decide (p a)) (fun _ => true) fun a ha => decide_eq_true ha
    exact of_decide_eq_true hb
  · intro h γ f g hfg
    exact hfg (Id.run x) h

/-- With a state, every result is the result from any state. -/
theorem ensures_stateM {σ : Type} {x : StateM σ α} {p : α → Prop} :
    Ensures x p ↔ ∀ s, p (x.run s).1 := by
  constructor
  · intro h s
    exact (ensures_id (x := x.run s)).mp (h.run s)
  · intro h γ f g hfg
    funext s
    show (f (x.run s).1).run (x.run s).2 = (g (x.run s).1).run (x.run s).2
    rw [hfg _ (h s)]

end FaultPages
