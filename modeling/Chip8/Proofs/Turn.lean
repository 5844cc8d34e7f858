import Chip8.Turn

/-! # What calls keep and what they enter

    Two things can be said of a call without regard to how it ends: which parts of the state it
    leaves alone, and what kind of acts it enters in the journal. A third can be said of two calls:
    that from states which resemble each other they come to the same result, and to states which
    still do. All three are known of a chain of calls as soon as they are known of its links. -/

namespace Chip8.Action

variable {S T U α β γ : Type}

/-- The call leaves this part of the state alone, however it ends. -/
def Keeps (part : S → U) (x : Action S α) : Prop :=
  ∀ s, part (x s).state = part s

/-- Whatever the call enters in the journal is of this kind. -/
def Enters (kind : Act → Prop) (x : Action S α) : Prop :=
  ∀ s, ∀ act ∈ (x s).acts, kind act

variable {part : S → U} {kind : Act → Prop} {x : Action S α} {f : α → Action S β}

theorem Keeps.eq {s : S} {turn : Turn S α} (hx : Keeps part x) (h : x s = turn) :
    part turn.state = part s :=
  h ▸ hx s

theorem Enters.mem {s : S} {turn : Turn S α} (hx : Enters kind x) (h : x s = turn) :
    ∀ act ∈ turn.acts, kind act :=
  h ▸ hx s

/-! ### Chains -/

theorem Keeps.bind (hx : Keeps part x) (hf : ∀ a, Keeps part (f a)) : Keeps part (x >>= f) := by
  intro s
  change part (andThen x f s).state = part s
  cases h : (x s).result with
  | error fault => rw [andThen_error h]; exact hx s
  | ok a => rw [andThen_ok h]; exact (hf a _).trans (hx s)

theorem Enters.bind (hx : Enters kind x) (hf : ∀ a, Enters kind (f a)) :
    Enters kind (x >>= f) := by
  intro s
  change ∀ act ∈ (andThen x f s).acts, kind act
  cases h : (x s).result with
  | error fault => rw [andThen_error h]; exact hx s
  | ok a =>
    rw [andThen_ok h, List.forall_mem_append]
    exact ⟨hx s, hf a _⟩

theorem Enters.mono {kind' : Act → Prop} (hx : Enters kind x)
    (h : ∀ act, kind act → kind' act) : Enters kind' x :=
  fun s act hact => h act (hx s act hact)

/-- Of three calls in a row it makes no difference which two are taken together. -/
theorem bind_assoc (x : Action S α) (f : α → Action S β) (g : β → Action S γ) :
    x >>= f >>= g = x >>= fun a => f a >>= g := by
  funext s
  change andThen (andThen x f) g s = andThen x (fun a => andThen (f a) g) s
  cases h : (x s).result with
  | error fault => simp [andThen, h]
  | ok a =>
    cases h' : (f a (x s).state).result with
    | error fault => simp [andThen, h, h']
    | ok b => simp [andThen, h, h', List.append_assoc]

/-! ### Links -/

theorem keeps_pure (a : α) : Keeps part (pure a : Action S α) := fun _ => rfl

theorem keeps_state : Keeps part (state : Action S S) := fun _ => rfl

theorem keeps_record (act : Act) : Keeps part (record act) := fun _ => rfl

theorem enters_pure (a : α) : Enters kind (pure a : Action S α) := fun _ => nofun

theorem enters_state : Enters kind (state : Action S S) := fun _ => nofun

theorem enters_record {act : Act} (h : kind act) : Enters kind (record act : Action S Unit) := by
  intro s other hother
  rw [List.mem_singleton.mp hother]
  exact h

variable {get : S → T} {put : S → T → S} {y : Action T α}

/-- A call to one part of the state keeps all others. -/
theorem keeps_onPart (h : ∀ s t, part (put s t) = part s) : Keeps part (onPart get put y) :=
  fun s => h s _

theorem Enters.onPart (hy : Enters kind y) : Enters kind (onPart get put y) :=
  fun s => hy (get s)

/-! ### Two calls side by side -/

/-- From states that resemble each other the calls come to the same result, and the states after
    them resemble each other again. -/
def Agree (resembles : S → T → Prop) (x : Action S α) (y : Action T α) : Prop :=
  ∀ s t, resembles s t →
    (x s).result = (y t).result ∧ resembles (x s).state (y t).state

variable {resembles : S → T → Prop} {x : Action S α} {y : Action T α}

theorem Agree.bind {f : α → Action S β} {g : α → Action T β} (hxy : Agree resembles x y)
    (hfg : ∀ a, Agree resembles (f a) (g a)) : Agree resembles (x >>= f) (y >>= g) := by
  intro s t hst
  obtain ⟨hresult, hstates⟩ := hxy s t hst
  change (andThen x f s).result = (andThen y g t).result ∧
    resembles (andThen x f s).state (andThen y g t).state
  cases h : (x s).result with
  | error fault =>
    rw [andThen_error h, andThen_error (hresult ▸ h)]
    exact ⟨rfl, hstates⟩
  | ok a =>
    rw [andThen_ok h, andThen_ok (hresult ▸ h)]
    exact hfg a _ _ hstates

/-- Calls that depend on the state have to agree on states that resemble each other. -/
theorem agree_state_bind {f : S → Action S α} {g : T → Action T α}
    (hfg : ∀ s t, resembles s t → Agree resembles (f s) (g t)) :
    Agree resembles (state >>= f) (state >>= g) := by
  intro s t hst
  change (andThen state f s).result = (andThen state g t).result ∧
    resembles (andThen state f s).state (andThen state g t).state
  rw [andThen_ok (rfl : (state s).result = .ok s), andThen_ok (rfl : (state t).result = .ok t)]
  exact hfg s t hst s t hst

theorem agree_pure (a : α) : Agree resembles (pure a : Action S α) (pure a : Action T α) :=
  fun _ _ hst => ⟨rfl, hst⟩

theorem agree_record (act other : Act) :
    Agree resembles (record act : Action S Unit) (record other : Action T Unit) :=
  fun _ _ hst => ⟨rfl, hst⟩

end Chip8.Action
