import Chip8.Proofs.Machine.Footprint

/-! # Machines that cannot be told apart

    Two machines may differ and yet do alike for ever: what is done to both is refused on both with
    one fault, or leaves machines that differ in the same way again. Here a way to differ is a
    relation of machines. Most of what can be done to machines respects a relation for the simple
    reason that the relation is about other parts (`IsAbout.alike`), and only what is left has to be
    looked at. -/

namespace Chip8.Machine

/-- Both fail with one fault, or both succeed and leave related machines. -/
def Alike (R : Machine → Machine → Prop) (a b : Except Fault Machine) : Prop :=
  (∃ fault, a = .error fault ∧ b = .error fault) ∨
    ∃ m m', a = .ok m ∧ b = .ok m' ∧ R m m'

variable {R : Machine → Machine → Prop} {parts : List Part} {m m' : Machine}

/-! ### Relations about some parts -/

/-- The relation is about some parts only. -/
structure IsAbout (R : Machine → Machine → Prop) (parts : List Part) : Prop where
  /-- Related machines agree in all others. -/
  eq_graft : ∀ {m m'}, R m m' → m' = m.graft m' parts
  /-- Machines are related if they agree in all others and have these from related machines. -/
  grafted : ∀ {m m' after}, R m m' → after.graft m parts = after → R after (after.graft m' parts)

/-- What commutes with a graft of these parts does alike on related machines. -/
theorem IsAbout.alike (hR : IsAbout R parts) (h : R m m') {f : Machine → Except Fault Machine}
    (hcommutes : ∀ m other, f (m.graft other parts) = (f m).map (·.graft other parts)) :
    Alike R (f m) (f m') := by
  have hother : f m' = (f m).map (·.graft m' parts) := by
    rw [← hcommutes m m', ← hR.eq_graft h]
  cases hresult : f m with
  | error fault =>
    rw [hresult] at hother
    exact .inl ⟨fault, rfl, hother⟩
  | ok after =>
    rw [hresult] at hother
    have hstays := graft_of_commutes (hcommutes m m) hresult
    exact .inr ⟨after, _, rfl, hother, hR.grafted h hstays⟩

/-- The same for what never fails. -/
theorem IsAbout.related (hR : IsAbout R parts) (h : R m m') {f : Machine → Machine}
    (hcommutes : ∀ m other, f (m.graft other parts) = (f m).graft other parts) :
    R (f m) (f m') := by
  have hother : f m' = (f m).graft m' parts := by
    rw [← hcommutes m m', ← hR.eq_graft h]
  have hstays : (f m).graft m parts = f m := by
    rw [← hcommutes, graft_self]
  rw [hother]
  exact hR.grafted h hstays

/-! ### Relations that nothing breaks -/

/-- Whatever is done to related machines does alike on both. -/
structure Bisimulation (R : Machine → Machine → Prop) : Prop where
  refl : ∀ m, R m m
  running_iff : ∀ {m m'}, R m m' → (m'.mode = .running ↔ m.mode = .running)
  fetch_eq : ∀ {m m'}, R m m' → m'.fetch = m.fetch
  /-- The program counter moves past the word that was fetched. -/
  advance : ∀ {m m'}, R m m' → R { m with pc := m.pc + 2 } { m' with pc := m'.pc + 2 }
  execute : ∀ {m m'}, R m m' → ∀ byte op, Alike R (m.execute byte op) (m'.execute byte op)
  tick : ∀ {m m'}, R m m' → R m.tick m'.tick
  keyDown : ∀ {m m'}, R m m' → ∀ number, Alike R (m.keyDown number) (m'.keyDown number)
  keyUp : ∀ {m m'}, R m m' → ∀ number, Alike R (m.keyUp number) (m'.keyUp number)

/-- For a relation about parts that neither the fetch nor the timers nor the latches look at, only
    instructions and keys that go down have to be looked at. -/
theorem IsAbout.bisimulation (hR : IsAbout R parts)
    (hparts : ∀ part ∈ [Part.pc, .ram, .delay, .sound, .keys], part ∉ parts)
    (refl : ∀ m, R m m)
    (running_iff : ∀ {m m'}, R m m' → (m'.mode = .running ↔ m.mode = .running))
    (execute : ∀ {m m'}, R m m' → ∀ byte op, Alike R (m.execute byte op) (m'.execute byte op))
    (keyDown : ∀ {m m'}, R m m' → ∀ number, Alike R (m.keyDown number) (m'.keyDown number)) :
    Bisimulation R := by
  obtain ⟨hpc, hram, hdelay, hsound, hkeys, -⟩ := by
    simpa only [List.forall_mem_cons] using hparts
  refine ⟨refl, running_iff, ?_, ?_, execute, ?_, keyDown, ?_⟩
  · intro m m' h
    rw [hR.eq_graft h]
    exact fetch_graft hpc hram
  · intro m m' h
    apply hR.related h (f := fun m => { m with pc := m.pc + 2 })
    intro m other
    simp [graft, hpc]
  · intro m m' h
    exact hR.related h fun _ _ => tick_graft hdelay hsound
  · intro m m' h number
    exact hR.alike h (f := fun m => m.keyUp number) fun _ _ => keyUp_graft hkeys number

end Chip8.Machine
