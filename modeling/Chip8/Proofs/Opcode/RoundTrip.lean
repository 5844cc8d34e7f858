import Chip8.Opcode.Decode
import Chip8.Proofs.Opcode.Word
import Chip8.Proofs.Ram.Access

/-! # Instructions and their words

    Decoding finds the one instruction whose word agrees with the given one in every nibble that
    the decoder looks at, and refuses a word that agrees with none (`ofWord?_eq_some_iff`). Since
    the word of an instruction agrees with itself, an assembled program is read back as it was
    written, instruction by instruction, from wherever it was loaded to. -/

namespace Chip8

namespace Opcode

/-! ## Section 1: Nibbles -/

/-- The four nibbles of a word, from the highest down. -/
inductive Nibble where
  | family | x | y | n
  deriving DecidableEq

/-- A nibble of a word. -/
def Nibble.get (word : UInt16) : Nibble → Nat
  | .family => word.toNat / 0x1000
  | .x => word.toNat / 0x100 % 0x10
  | .y => word.toNat / 0x10 % 0x10
  | .n => word.toNat % 0x10

/-- The nibbles of its word that an instruction does not depend on. -/
def ignored : Opcode → List Nibble
  | .skipEqReg .. | .skipNeReg .. => [.n]
  | .shiftRight _ | .shiftLeft _ => [.y]
  | _ => []

/-- Is the word that of the instruction, up to ignored nibbles? -/
def Matches (op : Opcode) (word : UInt16) : Prop :=
  ∀ nibble ∉ op.ignored, nibble.get word = nibble.get op.encode

/-- A word is determined by its nibbles. -/
theorem Nibble.eq_of_get {word other : UInt16}
    (h : ∀ nibble : Nibble, nibble.get word = nibble.get other) : word = other := by
  have hfamily := h .family
  have hx := h .x
  have hy := h .y
  have hn := h .n
  simp only [Nibble.get] at hfamily hx hy hn
  rw [← UInt16.toNat_inj]
  omega

theorem matches_encode (op : Opcode) : op.Matches op.encode :=
  fun _ _ => rfl

variable {op : Opcode} {word family nnn : UInt16} {x y n kk : UInt8}

theorem matches_of_eq (h : op.encode = word) : op.Matches word :=
  h ▸ matches_encode op

/-- Where nothing is ignored, only the instruction's own word matches. -/
theorem eq_encode_of_matches (hignored : op.ignored = []) (h : op.Matches word) :
    word = op.encode := by
  apply Nibble.eq_of_get
  intro nibble
  exact h nibble (by simp [hignored])

/-! ## Section 2: The fields of an encoded instruction

    The family of a word is a multiple of `0x1000`, and operands are as small as they ought to
    be. -/

theorem family_wordN (hfamily : 4096 ∣ family.toNat) (hnnn : nnn < 0x1000) :
    (wordN family nnn >>> 12).toNat = family.toNat / 4096 := by
  have hdigits : nnn.toNat < 4096 := UInt16.lt_iff_toNat_lt.mp hnnn
  rw [toNat_family, toNat_wordN hfamily hnnn]
  omega

theorem nnn_wordN (hfamily : 4096 ∣ family.toNat) (hnnn : nnn < 0x1000) :
    (Fields.ofWord (wordN family nnn)).nnn = nnn := by
  have hdigits : nnn.toNat < 4096 := UInt16.lt_iff_toNat_lt.mp hnnn
  rw [← UInt16.toNat_inj, Fields.toNat_nnn, toNat_wordN hfamily hnnn]
  omega

theorem family_wordXK (hfamily : 4096 ∣ family.toNat) (hx : x < 16) :
    (wordXK family x kk >>> 12).toNat = family.toNat / 4096 := by
  have hdigit : x.toNat < 16 := UInt8.lt_iff_toNat_lt.mp hx
  have hkk : kk.toNat < 256 := kk.toNat_lt
  rw [toNat_family, toNat_wordXK hfamily hx]
  omega

theorem x_wordXK (hfamily : 4096 ∣ family.toNat) (hx : x < 16) :
    (Fields.ofWord (wordXK family x kk)).x = x := by
  have hdigit : x.toNat < 16 := UInt8.lt_iff_toNat_lt.mp hx
  have hkk : kk.toNat < 256 := kk.toNat_lt
  rw [← UInt8.toNat_inj, Fields.toNat_x, toNat_wordXK hfamily hx]
  omega

theorem kk_wordXK (hfamily : 4096 ∣ family.toNat) (hx : x < 16) :
    (Fields.ofWord (wordXK family x kk)).kk = kk := by
  have hkk : kk.toNat < 256 := kk.toNat_lt
  rw [← UInt8.toNat_inj, Fields.toNat_kk, toNat_wordXK hfamily hx]
  omega

section

variable (hfamily : 4096 ∣ family.toNat) (hx : x < 16) (hy : y < 16) (hn : n < 16)

include hfamily hx hy hn

/-- The four nibbles of a word that is made of nibbles. -/
theorem digits_wordXYN :
    let number := (wordXYN family x y n).toNat
    number / 4096 = family.toNat / 4096 ∧ number / 256 % 16 = x.toNat ∧
      number / 16 % 16 = y.toNat ∧ number % 16 = n.toNat := by
  intro number
  have hnumber : number = family.toNat + 256 * x.toNat + 16 * y.toNat + n.toNat :=
    toNat_wordXYN hfamily hx hy hn
  have hdigitX : x.toNat < 16 := UInt8.lt_iff_toNat_lt.mp hx
  have hdigitY : y.toNat < 16 := UInt8.lt_iff_toNat_lt.mp hy
  have hdigitN : n.toNat < 16 := UInt8.lt_iff_toNat_lt.mp hn
  omega

theorem family_wordXYN : (wordXYN family x y n >>> 12).toNat = family.toNat / 4096 := by
  rw [toNat_family]
  exact (digits_wordXYN hfamily hx hy hn).1

theorem x_wordXYN : (Fields.ofWord (wordXYN family x y n)).x = x := by
  rw [← UInt8.toNat_inj, Fields.toNat_x]
  exact (digits_wordXYN hfamily hx hy hn).2.1

theorem y_wordXYN : (Fields.ofWord (wordXYN family x y n)).y = y := by
  rw [← UInt8.toNat_inj, Fields.toNat_y]
  exact (digits_wordXYN hfamily hx hy hn).2.2.1

theorem n_wordXYN : (Fields.ofWord (wordXYN family x y n)).n = n := by
  rw [← UInt8.toNat_inj, Fields.toNat_n]
  exact (digits_wordXYN hfamily hx hy hn).2.2.2

end

/-- The word of an instruction stands for it. -/
theorem ofWord?_encode (h : op.WellFormed) : ofWord? op.encode = some op := by
  cases op with
  | clearScreen | ret => rfl
  | jump nnn | call nnn | loadIndex nnn | jumpOffset nnn =>
    simp only [WellFormed] at h
    simp (disch := first | decide | assumption) only [encode, ofWord?, family_wordN, nnn_wordN]
    rfl
  | skipEqImm x kk | skipNeImm x kk | loadImm x kk | addImm x kk | random x kk
  | skipKeyPressed x | skipKeyNotPressed x
  | loadDelay x | waitKey x | setDelay x | setSound x | addIndex x | loadDigit x | storeBcd x
  | storeRegisters x | loadRegisters x =>
    simp only [WellFormed] at h
    simp (disch := first | decide | assumption) only [encode, ofWord?, ofKeypad?, ofTransfer?,
      family_wordXK, x_wordXK, kk_wordXK]
    rfl
  | shiftRight x | shiftLeft x =>
    simp only [WellFormed] at h
    simp (disch := first | decide | assumption) only [encode, ofWord?, ofArithmetic?,
      family_wordXYN, x_wordXYN, n_wordXYN]
    rfl
  | loadReg x y | or x y | and x y | xor x y | addReg x y | sub x y | subReverse x y
  | skipEqReg x y | skipNeReg x y =>
    obtain ⟨hx, hy⟩ := h
    simp (disch := first | decide | assumption) only [encode, ofWord?, ofArithmetic?,
      family_wordXYN, x_wordXYN, y_wordXYN, n_wordXYN]
    rfl
  | draw x y n =>
    obtain ⟨hx, hy, hn⟩ := h
    simp (disch := first | decide | assumption) only [encode, ofWord?, family_wordXYN, x_wordXYN,
      y_wordXYN, n_wordXYN]
    rfl

/-! ## Section 3: The word of decoded fields -/

section

variable (hfamily : 4096 ∣ family.toNat) (hword : (word >>> 12).toNat = family.toNat / 4096)

include hfamily hword

theorem wordN_fields : wordN family (Fields.ofWord word).nnn = word := by
  rw [toNat_family] at hword
  rw [← UInt16.toNat_inj, toNat_wordN hfamily (Fields.nnn_lt word), Fields.toNat_nnn]
  omega

theorem wordXK_fields (hkk : (Fields.ofWord word).kk.toNat = kk.toNat) :
    wordXK family (Fields.ofWord word).x kk = word := by
  rw [toNat_family] at hword
  rw [Fields.toNat_kk] at hkk
  rw [← UInt16.toNat_inj, toNat_wordXK hfamily (Fields.x_lt word), Fields.toNat_x]
  omega

theorem wordXYN_fields (hn : (Fields.ofWord word).n.toNat = n.toNat) :
    wordXYN family (Fields.ofWord word).x (Fields.ofWord word).y n = word := by
  have hdigit : n < 16 := UInt8.toNat_inj.mp hn ▸ Fields.n_lt word
  rw [toNat_family] at hword
  rw [Fields.toNat_n] at hn
  rw [← UInt16.toNat_inj,
    toNat_wordXYN hfamily (Fields.x_lt word) (Fields.y_lt word) hdigit, Fields.toNat_x,
    Fields.toNat_y]
  omega

end

/-! Two kinds of words have a nibble that is left open: the last one where two registers are
    compared, and the third one where a register is shifted. -/

section

variable (hfamily : 4096 ∣ family.toNat) (hx : x < 16)

include hfamily hx

theorem get_ne_n_iff (hy : y < 16) :
    (∀ nibble ∉ [Nibble.n], nibble.get word = nibble.get (wordXYN family x y 0)) ↔
      (word >>> 12).toNat = family.toNat / 4096 ∧ (Fields.ofWord word).x = x ∧
        (Fields.ofWord word).y = y := by
  obtain ⟨hdigitF, hdigitX, hdigitY, -⟩ :=
    digits_wordXYN hfamily hx hy (by decide : (0 : UInt8) < 16)
  rw [toNat_family, ← UInt8.toNat_inj, ← UInt8.toNat_inj, Fields.toNat_x, Fields.toNat_y]
  constructor
  · intro h
    exact ⟨(h .family (by decide)).trans hdigitF, (h .x (by decide)).trans hdigitX,
      (h .y (by decide)).trans hdigitY⟩
  · rintro ⟨hF, hX, hY⟩ nibble hopen
    cases nibble with
    | family => exact hF.trans hdigitF.symm
    | x => exact hX.trans hdigitX.symm
    | y => exact hY.trans hdigitY.symm
    | n => exact absurd (List.mem_singleton_self _) hopen

theorem get_ne_y_iff (hn : n < 16) :
    (∀ nibble ∉ [Nibble.y], nibble.get word = nibble.get (wordXYN family x 0 n)) ↔
      (word >>> 12).toNat = family.toNat / 4096 ∧ (Fields.ofWord word).x = x ∧
        (Fields.ofWord word).n = n := by
  obtain ⟨hdigitF, hdigitX, -, hdigitN⟩ :=
    digits_wordXYN hfamily hx (by decide : (0 : UInt8) < 16) hn
  rw [toNat_family, ← UInt8.toNat_inj, ← UInt8.toNat_inj, Fields.toNat_x, Fields.toNat_n]
  constructor
  · intro h
    exact ⟨(h .family (by decide)).trans hdigitF, (h .x (by decide)).trans hdigitX,
      (h .n (by decide)).trans hdigitN⟩
  · rintro ⟨hF, hX, hN⟩ nibble hopen
    cases nibble with
    | family => exact hF.trans hdigitF.symm
    | x => exact hX.trans hdigitX.symm
    | y => exact absurd (List.mem_singleton_self _) hopen
    | n => exact hN.trans hdigitN.symm

end

/-! ## Section 4: What decoding finds -/

/-- Family 8. -/
theorem matches_of_arithmetic (hfamily : (word >>> 12).toNat = 8)
    (h : ofArithmetic? (Fields.ofWord word) = some op) : op.WellFormed ∧ op.Matches word := by
  have hx := Fields.x_lt word
  have hy := Fields.y_lt word
  unfold ofArithmetic? at h
  split at h <;> cases h
  -- the two shifts do not give their word back: its third nibble is ignored
  case h_7 hn | h_9 hn =>
    exact ⟨hx, (get_ne_y_iff (by decide) hx (by decide)).mpr ⟨hfamily, rfl, UInt8.toNat_inj.mp hn⟩⟩
  all_goals
    exact ⟨⟨hx, hy⟩, matches_of_eq (wordXYN_fields (by decide) hfamily (by assumption))⟩

/-- Family E. -/
theorem matches_of_keypad (hfamily : (word >>> 12).toNat = 14)
    (h : ofKeypad? (Fields.ofWord word) = some op) : op.WellFormed ∧ op.Matches word := by
  have hx := Fields.x_lt word
  unfold ofKeypad? at h
  split at h <;> cases h
  all_goals exact ⟨hx, matches_of_eq (wordXK_fields (by decide) hfamily (by assumption))⟩

/-- Family F. -/
theorem matches_of_transfer (hfamily : (word >>> 12).toNat = 15)
    (h : ofTransfer? (Fields.ofWord word) = some op) : op.WellFormed ∧ op.Matches word := by
  have hx := Fields.x_lt word
  unfold ofTransfer? at h
  split at h <;> cases h
  all_goals exact ⟨hx, matches_of_eq (wordXK_fields (by decide) hfamily (by assumption))⟩

/-- What a word stands for is well formed, and the word matches it. -/
theorem matches_of_ofWord? (h : ofWord? word = some op) : op.WellFormed ∧ op.Matches word := by
  have hx := Fields.x_lt word
  have hy := Fields.y_lt word
  have hn := Fields.n_lt word
  have hnnn := Fields.nnn_lt word
  simp only [ofWord?] at h
  split at h
  case h_1 =>
    split at h
    · next hword =>
      cases h
      exact ⟨trivial, matches_of_eq hword.symm⟩
    · split at h <;> cases h
      next hword => exact ⟨trivial, matches_of_eq hword.symm⟩
  case h_9 hfamily => exact matches_of_arithmetic hfamily h
  case h_15 hfamily => exact matches_of_keypad hfamily h
  case h_16 =>
    -- no other family is left
    have hfamily : (word >>> 12).toNat = 15 := by
      have hword := word.toNat_lt
      have hnibble := toNat_family word
      grind
    exact matches_of_transfer hfamily h
  all_goals cases h
  case h_6 hfamily | h_10 hfamily =>
    exact ⟨⟨hx, hy⟩, (get_ne_n_iff (by decide) hx hy).mpr ⟨hfamily, rfl, rfl⟩⟩
  case h_14 hfamily =>
    exact ⟨⟨hx, hy, hn⟩, matches_of_eq (wordXYN_fields (by decide) hfamily rfl)⟩
  case h_2 hfamily | h_3 hfamily | h_11 hfamily | h_12 hfamily =>
    exact ⟨hnnn, matches_of_eq (wordN_fields (by decide) hfamily)⟩
  all_goals exact ⟨hx, matches_of_eq (wordXK_fields (by decide) (by assumption) rfl)⟩

/-- A word that matches a well-formed instruction stands for it. -/
theorem ofWord?_of_matches (hop : op.WellFormed) (h : op.Matches word) :
    ofWord? word = some op := by
  cases op with
  | skipEqReg x y =>
    obtain ⟨hfamily, hx, hy⟩ := (get_ne_n_iff (by decide) hop.1 hop.2).mp h
    simp only [ofWord?, hfamily, hx, hy]
    rfl
  | skipNeReg x y =>
    obtain ⟨hfamily, hx, hy⟩ := (get_ne_n_iff (by decide) hop.1 hop.2).mp h
    simp only [ofWord?, hfamily, hx, hy]
    rfl
  | shiftRight x =>
    obtain ⟨hfamily, hx, hn⟩ := (get_ne_y_iff (by decide) hop (by decide)).mp h
    simp only [ofWord?, ofArithmetic?, hfamily, hx, hn]
    rfl
  | shiftLeft x =>
    obtain ⟨hfamily, hx, hn⟩ := (get_ne_y_iff (by decide) hop (by decide)).mp h
    simp only [ofWord?, ofArithmetic?, hfamily, hx, hn]
    rfl
  | _ =>
    -- nothing is ignored, so it is the word of the instruction itself
    rw [eq_encode_of_matches rfl h]
    exact ofWord?_encode hop

/-- Decoding finds the one instruction that a word matches, if it matches one. -/
theorem ofWord?_eq_some_iff : ofWord? word = some op ↔ op.WellFormed ∧ op.Matches word :=
  ⟨matches_of_ofWord?, fun h => ofWord?_of_matches h.1 h.2⟩

theorem decode_ok_iff : decode word = .ok op ↔ op.WellFormed ∧ op.Matches word := by
  rw [← ofWord?_eq_some_iff, decode]
  cases ofWord? word <;> simp

theorem decode_unsupported_iff (fault : Fault) :
    decode word = .error fault ↔
      fault = .unsupported word ∧ ∀ op : Opcode, op.WellFormed → ¬ op.Matches word := by
  have hnone : ofWord? word = none ↔ ∀ op : Opcode, op.WellFormed → ¬ op.Matches word := by
    simp only [Option.eq_none_iff_forall_ne_some, ne_eq, ofWord?_eq_some_iff, not_and]
  rw [← hnone, decode]
  cases ofWord? word <;> simp [eq_comm]

/-! ## Section 5: Assembled programs -/

/-- The two bytes of a word make it up again. -/
theorem wordOf_bytes (word : UInt16) :
    Ram.wordOf (word >>> 8).toUInt8 word.toUInt8 = word := by
  have hword := word.toNat_lt
  have hhigh : (word >>> 8).toUInt8.toNat = word.toNat / 256 := by
    rw [UInt16.toNat_toUInt8, UInt16.toNat_shiftRight, Nat.shiftRight_eq_div_pow]
    exact Nat.mod_eq_of_lt (by simp; omega)
  have hshift : ((word >>> 8).toUInt8.toUInt16 <<< 8).toNat = 256 * (word.toNat / 256) := by
    rw [← hhigh]
    exact toNat_shiftLeft_byte _ 8 (by decide)
  have hlow : word.toUInt8.toUInt16.toNat = word.toNat % 256 := by
    rw [UInt8.toNat_toUInt16, UInt16.toNat_toUInt8]
  rw [← UInt16.toNat_inj, Ram.wordOf, toNat_or_of_lt 8 (by omega) (by omega), hshift, hlow]
  omega

theorem assemble_cons (op : Opcode) (ops : List Opcode) :
    assemble (op :: ops) = bytesOfWord op.encode ++ assemble ops := rfl

@[simp] theorem length_bytesOfWord (word : UInt16) : (bytesOfWord word).length = 2 := rfl

@[simp] theorem length_assemble (ops : List Opcode) : (assemble ops).length = 2 * ops.length := by
  induction ops with
  | nil => rfl
  | cons op ops ih =>
    rw [assemble_cons, List.length_append, length_bytesOfWord, ih, List.length_cons]
    omega

/-- The bytes of an instruction stand at twice its place. -/
theorem getElem?_assemble {ops : List Opcode} {k b : Nat} (hk : k < ops.length) (hb : b < 2) :
    (assemble ops)[2 * k + b]? = (bytesOfWord ops[k].encode)[b]? := by
  induction ops generalizing k with
  | nil => cases hk
  | cons op ops ih =>
    rw [assemble_cons]
    cases k with
    | zero =>
      have hhead : 2 * 0 + b < (bytesOfWord op.encode).length := by
        rw [length_bytesOfWord]
        omega
      rw [List.getElem?_append_left hhead, Nat.mul_zero, Nat.zero_add]
      rfl
    | succ k =>
      have hlater : k < ops.length := by simpa using hk
      have hplace : 2 * (k + 1) + b - (bytesOfWord op.encode).length = 2 * k + b := by
        rw [length_bytesOfWord]
        omega
      rw [List.getElem?_append_right (by rw [length_bytesOfWord]; omega), hplace, ih hlater]
      rfl

/-- In memory that holds an assembled program, the word of each instruction is read at twice its
    place. -/
theorem word_assembled (ram : Ram) {start k : Nat} {ops : List Opcode} {addr : UInt16}
    (hfits : start + 2 * ops.length ≤ 4096) (hk : k < ops.length)
    (haddr : addr.toNat = start + 2 * k) :
    (ram.written start (assemble ops)).word addr = .ok ops[k].encode := by
  have hcell : ∀ b (hb : b < 2), (ram.written start (assemble ops)).cell (addr.toNat + b) =
      (bytesOfWord ops[k].encode)[b] := by
    intro b hb
    have hplace : addr.toNat + b - start = 2 * k + b := by omega
    rw [Ram.cell_written _ _ _ (by omega), if_pos (by omega), hplace, getElem?_assemble hk hb,
      List.getElem?_eq_getElem hb]
    rfl
  have hhigh := hcell 0 (by decide)
  have hlow := hcell 1 (by decide)
  rw [Ram.word_eq, if_neg (by omega)]
  rw [Nat.add_zero] at hhigh
  rw [hhigh, hlow]
  exact congrArg Except.ok (wordOf_bytes ops[k].encode)

/-! ## Section 6: The main result -/

/-- A list of well-formed instructions that fits memory is assembled, loaded, fetched and decoded
    without loss: the load takes two bytes for each, and at its place each is found again. The other
    way round, what a word is decoded to is well formed, and its own word is the given one up to
    the nibbles that it ignores; and a word is refused, under its own name, exactly if it matches
    no instruction in this way. -/
theorem assembled_program_reads_back (ram : Ram) (hram : ram.programAddr = 0x200)
    (ops : List Opcode) (hlength : ops.length ≤ 1792) (hops : ∀ op ∈ ops, op.WellFormed) :
    (∃ loaded, ram.load (.whole (assemble ops)) = .ok (2 * ops.length, loaded) ∧
      ∀ (k : Nat) (hk : k < ops.length),
        loaded.word (UInt16.ofNat (0x200 + 2 * k)) = .ok ops[k].encode ∧
        decode ops[k].encode = .ok ops[k]) ∧
    (∀ word op, decode word = .ok op → op.WellFormed ∧ op.Matches word) ∧
    ∀ word fault, decode word = .error fault ↔
      fault = .unsupported word ∧ ∀ op : Opcode, op.WellFormed → ¬ op.Matches word := by
  refine ⟨?_, fun word op => decode_ok_iff.mp, fun word fault => decode_unsupported_iff fault⟩
  have hstart : ram.programAddr.toNat = 0x200 := by rw [hram]; rfl
  have hfits : ram.programAddr.toNat ≤ 4096 := by omega
  have hload := Ram.load_whole (o := .trapped) hfits (assemble ops)
  rw [length_assemble, hstart, if_neg (by omega)] at hload
  refine ⟨_, hload, fun k hk => ⟨?_, ?_⟩⟩
  · have haddr : (UInt16.ofNat (0x200 + 2 * k)).toNat = 0x200 + 2 * k := by
      rw [UInt16.toNat_ofNat']
      exact Nat.mod_eq_of_lt (by omega)
    exact word_assembled ram (by omega) hk haddr
  · exact decode_ok_iff.mpr ⟨hops _ (List.getElem_mem hk), matches_encode _⟩

/-- The longest program there is room for, each of its instructions with the largest operands that
    a drawing can have: the last one is read from the last two cells. -/
theorem longest_program_reads_back :
    let ops := List.replicate 1792 (Opcode.draw 15 15 15)
    ops.length ≤ 1792 ∧ (∀ op ∈ ops, op.WellFormed) ∧
    ∃ loaded, Ram.fresh.load (.whole (assemble ops)) = .ok (3584, loaded) ∧
      loaded.word 0xffe = .ok 0xdfff ∧ decode 0xdfff = .ok (.draw 15 15 15) := by
  intro ops
  have hlength : ops.length = 1792 := List.length_replicate
  have hops : ∀ op ∈ ops, op.WellFormed := by
    intro op hop
    rw [List.eq_of_mem_replicate hop]
    exact ⟨by decide, by decide, by decide⟩
  obtain ⟨⟨loaded, hload, hread⟩, -, -⟩ :=
    assembled_program_reads_back Ram.fresh rfl ops (Nat.le_of_eq hlength) hops
  have hk : 1791 < ops.length := by omega
  obtain ⟨hword, hdecode⟩ := hread 1791 hk
  have hlast : ops[1791] = .draw 15 15 15 := List.getElem_replicate _
  rw [hlast] at hword hdecode
  rw [hlength] at hload
  exact ⟨Nat.le_of_eq hlength, hops, loaded, hload, hword, hdecode⟩

end Opcode

end Chip8
