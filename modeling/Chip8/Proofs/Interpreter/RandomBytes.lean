import Chip8.Proofs.Interpreter.Outcome

/-! # Random bytes are used once each and in order

    A source of random bytes is asked for a byte by one instruction only, and that instruction is
    never refused. So the source after a history is the source before it with one byte taken for
    each random number, whatever else was done: loads do not rewind it, and nothing is taken for a
    step that fails or a machine that waits. Over a cycle of bytes this fixes every random number:
    the `k`-th is made of the byte at position `k`, counted around the cycle. -/

namespace Chip8

/-! ## Section 1: Sources -/

namespace ByteSource

/-- Bytes are taken one after another. -/
theorem take_add {σ : Type} [ByteSource σ] (a b : Nat) (s : σ) :
    (take (a + b) s).2 = (take b (take a s).2).2 := by
  induction a generalizing s with
  | zero => rw [Nat.zero_add]; rfl
  | succ a ih =>
    rw [Nat.succ_add]
    exact ih (next s).2

end ByteSource

namespace Cycle

/-- Only from no bytes at all there is no cycle. -/
theorem ofBytes_of_ne_nil {bytes : List UInt8} (h : bytes ≠ []) :
    ofBytes bytes = .ok ⟨bytes, 0⟩ := by
  unfold ofBytes
  rw [if_neg (by simpa using h)]

/-- A cycle that is in range hands out the byte at its position. -/
theorem next_fst {c : Cycle} (h : c.position < c.bytes.length) :
    c.bytes[c.position]? = some (ByteSource.next c).1 := by
  have hbyte : (ByteSource.next c).1 = c.bytes.getD c.position 0 := rfl
  rw [hbyte, List.getD_eq_getElem?_getD, List.getElem?_eq_getElem h, Option.getD_some]

/-- After `count` bytes a cycle has gone `count` places on, and around where it came to the end. -/
theorem take_snd (count : Nat) {c : Cycle} (h : c.position < c.bytes.length) :
    (ByteSource.take count c).2 = ⟨c.bytes, (c.position + count) % c.bytes.length⟩ := by
  induction count generalizing c with
  | zero =>
    rw [Nat.add_zero, Nat.mod_eq_of_lt h]
    rfl
  | succ count ih =>
    -- the first byte leaves a cycle one place on, which is again in range
    let c' : Cycle := (ByteSource.next c).2
    have hnext : c' = ⟨c.bytes, (c.position + 1) % c.bytes.length⟩ := rfl
    have hposition : c'.position < c'.bytes.length := Nat.mod_lt _ (Nat.zero_lt_of_lt h)
    show (ByteSource.take count c').2 = _
    rw [ih hposition, hnext, Nat.mod_add_mod, Nat.add_assoc, Nat.add_comm 1]

end Cycle

/-! ## Section 2: What takes a byte -/

/-- Is a random number made? -/
def Opcode.isRandom : Opcode → Bool
  | .random .. => true
  | _ => false

namespace Interpreter

variable {σ : Type} [ByteSource σ] {i j : Interpreter σ} {operation : Operation}
  {result : Except Fault (Option Nat)}

/-- The number of random numbers that a history makes. -/
def randoms (history : List Operation) (i : Interpreter σ) : Nat :=
  (attempts history i).countP (·.isRandom)

/-- One byte for a random number, and none for any other instruction. -/
theorem sourceAfter_eq_take (source : σ) (op : Opcode) :
    sourceAfter source op = (ByteSource.take ([op].countP (·.isRandom)) source).2 := by
  cases op <;> rfl

omit [ByteSource σ] in
theorem source_atExecution (i : Interpreter σ) (operation : Operation) :
    (i.atExecution operation).source = i.source := by
  cases operation <;> rfl

/-- An operation takes a byte if it comes to a random number, and otherwise none. -/
theorem Outcome.source (ho : Outcome i operation result j) :
    j.source =
      (ByteSource.take ((attempted? i operation).toList.countP (·.isRandom)) i.source).2 := by
  cases ho with
  | loaded | notLoaded | ticked | keyWentDown | noKeyDown | keyWentUp | noKeyUp => rfl
  | parked hparked => simp [attempted?, hparked, ByteSource.take]
  | notFetched hmode hfetch => simp [attempted?, hmode, hfetch, ByteSource.take]
  | @executed _ op _ hop hexecute =>
    rw [hop]
    exact sourceAfter_eq_take i.source op
  | @refused _ op _ hop hexecute =>
    -- a refused instruction takes nothing, and is no random number, for these are never refused
    rw [hop, source_atExecution]
    cases op with
    | random x kk => cases hexecute
    | _ => rfl

/-- The same along a history. -/
theorem source_run (history : List Operation) (i : Interpreter σ) :
    (run history i).source = (ByteSource.take (randoms history i) i.source).2 := by
  induction history generalizing i with
  | nil => rfl
  | cons operation later ih =>
    rw [run_cons, ih, (perform_outcome i operation).source, ← ByteSource.take_add, randoms, randoms,
      attempts, List.countP_append]

/-- A random number is the next byte of the source, masked, and takes that byte. -/
theorem random_takes {x kk : UInt8} (hop : attempted? i operation = some (.random x kk)) :
    (perform operation i).result = .ok none ∧
      (perform operation i).state.machine.register x = (ByteSource.next i.source).1 &&& kk ∧
      (perform operation i).state.source = (ByteSource.next i.source).2 := by
  obtain ⟨hresult, hstate⟩ := (perform_outcome i operation).of_execute hop rfl
  rw [hstate]
  exact ⟨hresult, Machine.register_setRegister_self .., rfl⟩

/-- Whatever comes to no random number takes no byte. -/
theorem source_of_not_random (hop : ∀ x kk, attempted? i operation ≠ some (.random x kk)) :
    (perform operation i).state.source = i.source := by
  have hnone : (attempted? i operation).toList.countP (·.isRandom) = 0 := by
    rw [List.countP_eq_zero]
    intro op hmem
    rw [Option.mem_toList] at hmem
    cases op with
    | random x kk => exact absurd hmem (hop x kk)
    | _ => exact Bool.false_ne_true
  rw [(perform_outcome i operation).source, hnone]
  rfl

/-! ## Section 3: The main result -/

/-- From any bytes but none there is a cycle, and an interpreter built on it never leaves the range
    of the bytes. After any history with `k` random numbers the next one is made of the byte at
    position `k`, counted around the cycle, and goes into its register masked; it is never refused,
    and it moves the cycle on by one. Nothing else moves it: no load, no key, no other instruction,
    and nothing that is refused. -/
theorem random_bytes_in_order (bytes : List UInt8) (h : bytes ≠ []) :
    ∃ c, Cycle.ofBytes bytes = .ok c ∧ ∀ history,
      let i := run history (fresh c)
      let k := randoms history (fresh c)
      i.source.bytes = bytes ∧ i.source.position = k % bytes.length ∧
      i.source.position < bytes.length ∧
      (∀ operation x kk, attempted? i operation = some (.random x kk) →
        ∃ byte, bytes[k % bytes.length]? = some byte ∧
          (perform operation i).result = .ok none ∧
          (perform operation i).state.machine.register x = byte &&& kk ∧
          (perform operation i).state.source.position = (k + 1) % bytes.length) ∧
      ∀ operation, (∀ x kk, attempted? i operation ≠ some (.random x kk)) →
        (perform operation i).state.source = i.source := by
  refine ⟨⟨bytes, 0⟩, Cycle.ofBytes_of_ne_nil h, ?_⟩
  intro history i k
  have hpositive : 0 < bytes.length := List.length_pos_iff.mpr h
  -- the cycle starts at position 0, so its position is the number of bytes taken
  have hsource : i.source = ⟨bytes, k % bytes.length⟩ := by
    have htaken := Cycle.take_snd k (c := ⟨bytes, 0⟩) hpositive
    rw [Nat.zero_add] at htaken
    exact (source_run history _).trans htaken
  have hrange : k % bytes.length < bytes.length := Nat.mod_lt _ hpositive
  refine ⟨congrArg Cycle.bytes hsource, congrArg Cycle.position hsource, ?_, ?_, ?_⟩
  · rw [hsource]
    exact hrange
  · intro operation x kk hop
    obtain ⟨hresult, hregister, hnext⟩ := random_takes hop
    rw [hsource] at hregister hnext
    refine ⟨_, Cycle.next_fst (c := ⟨bytes, k % bytes.length⟩) hrange, hresult, hregister, ?_⟩
    rw [hnext]
    exact Nat.mod_add_mod k bytes.length 1
  · intro operation hop
    exact source_of_not_random hop

/-- Two bytes, and the third random number: it comes after a load, a refused return, a wait and a
    step that finds no instruction, and is made of the first byte again. -/
theorem third_random_number :
    let bytes : List UInt8 := [0xa5, 0x3c]
    let history : List Operation :=
      [.execute (.random 1 0xff), .load (.whole [0xc5, 0x0f]), .execute .ret, .execute (.waitKey 3),
        .step, .keyDown 7, .step, .step]
    bytes ≠ [] ∧ ∃ c, Cycle.ofBytes bytes = .ok c ∧
      randoms history (fresh c) = 2 ∧
      (run history (fresh c)).machine.register 5 = 0x0c ∧
      (run history (fresh c)).source.position = 0 ∧
      (perform (.execute (.random 0x16 0xf0)) (run history (fresh c))).state.machine.register 6 =
        0xa0 := by
  intro bytes history
  have hsome : bytes ≠ [] := by decide
  obtain ⟨c, hc, hall⟩ := random_bytes_in_order bytes hsome
  obtain ⟨-, hposition, -, hrandom, -⟩ := hall history
  obtain ⟨byte, hbyte, -, hregister, -⟩ := hrandom (.execute (.random 0x16 0xf0)) 0x16 0xf0 rfl
  cases hc
  have htwo : randoms history (fresh (⟨bytes, 0⟩ : Cycle)) = 2 := by decide +kernel
  have hround : randoms history (fresh (⟨bytes, 0⟩ : Cycle)) % bytes.length = 0 := by
    rw [htwo]
    decide
  rw [hround] at hposition hbyte
  have hfirst : some 0xa5 = some byte := hbyte
  cases hfirst
  exact ⟨hsome, _, rfl, htwo, by decide +kernel, hposition, hregister⟩

end Interpreter

end Chip8
