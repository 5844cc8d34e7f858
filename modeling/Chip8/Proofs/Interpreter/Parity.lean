import Chip8.Proofs.Interpreter.Outcome
import Chip8.Proofs.Picture.Sprite

/-! # The picture is the parity of what was drawn

    Drawing flips pixels, so how often a pixel was covered since the screen was last dark says
    whether it is lit. `Mark` is what an operation can do to the picture, and every operation does
    to it exactly what its mark says (`Outcome.picture`): a refused drawing has no mark, and neither
    has anything that does not draw. The rest is counting, one stamp at a time. -/

namespace Chip8

/-! ## Section 1: Stamps and marks -/

/-- A sprite that was drawn: its rows as memory held them, and where its top left pixel went. -/
structure Stamp where
  sprite : List UInt8
  x : UInt8
  y : UInt8
  deriving DecidableEq

namespace Stamp

/-- Does the stamp flip the pixel in column `c` and row `r`? -/
def covers (s : Stamp) (c r : Nat) : Bool :=
  Sprite.covers s.sprite s.x.toNat s.y.toNat c r

/-- The stamp alone on a dark screen. -/
def picture (s : Stamp) : Picture :=
  Picture.ofSprite s.sprite s.x s.y.toNat

end Stamp

/-- What an operation does to the picture. -/
inductive Mark where
  /-- Every pixel goes dark. -/
  | wipe
  /-- The pixels that a stamp covers are flipped. -/
  | stamp (s : Stamp)
  deriving DecidableEq

/-- The stamps since the last wipe, given those before the mark. -/
def Mark.keep (stamps : List Stamp) : Mark → List Stamp
  | .wipe => []
  | .stamp s => stamps ++ [s]

/-- The stamps of a list of marks that no wipe comes after. -/
def Mark.live (marks : List Mark) : List Stamp :=
  marks.foldl Mark.keep []

namespace Picture

/-- The picture after a mark. -/
def marked (p : Picture) : Mark → Picture
  | .wipe => .blank
  | .stamp s => p.xor s.picture

/-- A pixel is lit exactly if an odd number of the stamps cover it. -/
def Shows (p : Picture) (stamps : List Stamp) : Prop :=
  ∀ c < 64, ∀ r < 32, p.lit c r = true ↔ stamps.countP (·.covers c r) % 2 = 1

theorem shows_blank : blank.Shows [] := by
  intro c hc r hr
  simp

/-- One more stamp changes the parity exactly where it covers. -/
theorem Shows.marked {p : Picture} {stamps : List Stamp} (h : p.Shows stamps) (mark : Mark) :
    (p.marked mark).Shows (mark.keep stamps) := by
  cases mark with
  | wipe => exact shows_blank
  | stamp s =>
    intro c hc r hr
    have hbefore := h c hc r hr
    have hstamp : s.picture.lit c r = s.covers c r := lit_ofSprite s.sprite s.x s.y.toNat hc hr
    simp only [Picture.marked, Mark.keep, lit_xor, hstamp, List.countP_append,
      List.countP_singleton]
    -- the count goes up by one exactly where the pixel is flipped
    cases hcovers : s.covers c r with
    | false => simpa [hcovers] using hbefore
    | true =>
      have hflip : (p.lit c r ^^ true) = true ↔ ¬ p.lit c r = true := by simp
      rw [hflip, hbefore]
      simp only [if_true]
      omega

theorem Shows.marks {p : Picture} {stamps : List Stamp} (h : p.Shows stamps) (marks : List Mark) :
    (marks.foldl Picture.marked p).Shows (marks.foldl Mark.keep stamps) := by
  -- the picture and the list of stamps are built up side by side
  induction marks generalizing p stamps with
  | nil => exact h
  | cons mark later ih => exact ih (h.marked mark)

/-- The order of the stamps makes no difference. -/
theorem Shows.eq_of_perm {p q : Picture} {stamps stamps' : List Stamp} (hp : p.Shows stamps)
    (hq : q.Shows stamps') (hperm : stamps.Perm stamps') : p = q := by
  apply eq_of_lit
  intro c hc r hr
  rw [Bool.eq_iff_iff, hp c hc r hr, hq c hc r hr, hperm.countP_eq]

end Picture

/-! ## Section 2: One operation -/

/-- The stamp of a drawing: the sprite is in memory from the index on, its place in registers. -/
def Machine.stampOf (m : Machine) (x y n : UInt8) : Stamp :=
  ⟨m.sprite n, m.register x, m.register y⟩

/-- A drawing covers `n` rows of eight columns, where the bits of its bytes are set, the highest bit
    on the left. -/
theorem Machine.covers_stampOf (m : Machine) (x y n : UInt8) (c r : Nat) :
    (m.stampOf x y n).covers c r = true ↔
      ((m.register y).toNat ≤ r ∧ r < (m.register y).toNat + n.toNat) ∧
      ((m.register x).toNat ≤ c ∧ c < (m.register x).toNat + 8) ∧
      (m.ram.cell (m.index.toNat + (r - (m.register y).toNat))).toNat.testBit
        (7 - (c - (m.register x).toNat)) = true := by
  have hcovers : (m.stampOf x y n).covers c r =
      Sprite.covers (m.sprite n) (m.register x).toNat (m.register y).toNat c r := rfl
  rw [hcovers, Sprite.covers_iff, Machine.sprite, Ram.getElem?_bytes]
  constructor
  · rintro ⟨htop, hcolumns, row, hrow, hbit⟩
    split at hrow
    · cases hrow
      exact ⟨⟨htop, by omega⟩, hcolumns, hbit⟩
    · cases hrow
  · rintro ⟨⟨htop, hbottom⟩, hcolumns, hbit⟩
    exact ⟨htop, hcolumns, _, if_pos (by omega), hbit⟩

/-- The mark that an instruction makes when it is not refused. -/
def Opcode.mark? (m : Machine) : Opcode → Option Mark
  | .clearScreen => some .wipe
  | .draw x y n => some (.stamp (m.stampOf x y n))
  | _ => none

theorem Machine.execute_picture {m after : Machine} {byte : UInt8} {op : Opcode}
    (h : m.execute byte op = .ok after) :
    after.picture = (op.mark? m).toList.foldl Picture.marked m.picture := by
  cases op with
  | clearScreen =>
    cases h
    rfl
  | draw x y n =>
    obtain ⟨-, -, rfl⟩ := (Machine.execute_draw_ok_iff m after byte x y n).mp h
    rfl
  | _ =>
    -- the picture is not in the footprint
    have hgraft := Machine.graft_of_execute .picture h (by simp [Opcode.footprint])
    exact (congrArg Machine.picture hgraft).symm

namespace Interpreter

variable {σ : Type}

/-- The mark of an operation, by what it answers: a fault marks nothing. -/
def mark? (i : Interpreter σ) (operation : Operation) : Except Fault (Option Nat) → Option Mark
  | .error _ => none
  | .ok _ =>
    match operation with
    | .load _ => some .wipe
    | _ => (attempted? i operation).bind (Opcode.mark? i.machine)

/-- What an instruction draws does not depend on the program counter. -/
theorem mark?_executed {i : Interpreter σ} {operation : Operation} {op : Opcode} {size : Option Nat}
    (hop : attempted? i operation = some op) :
    mark? i operation (.ok size) = op.mark? (i.atExecution operation).machine := by
  cases operation with
  | step =>
    -- a step has moved the program counter, which no mark reads
    simp only [mark?, hop, Option.bind_some]
    cases op <;> rfl
  | execute other =>
    cases hop
    rfl
  | load | tick | keyDown | keyUp => cases hop

variable [ByteSource σ]

/-- Every operation does to the picture what its mark says. -/
theorem Outcome.picture {i j : Interpreter σ} {operation : Operation}
    {result : Except Fault (Option Nat)} (ho : Outcome i operation result j) :
    j.machine.picture =
      (mark? i operation result).toList.foldl Picture.marked i.machine.picture := by
  cases ho with
  | loaded | notLoaded | notFetched | ticked | noKeyDown | noKeyUp => rfl
  | parked hparked => simp [mark?, attempted?, hparked]
  | executed hop hexecute =>
    rw [mark?_executed hop, Machine.execute_picture hexecute]
    have hpicture : (i.atExecution operation).machine.picture = i.machine.picture := by
      cases operation <;> rfl
    rw [hpicture]
  | refused hop hexecute => cases operation <;> rfl
  | keyWentDown hdown =>
    have hgraft := Machine.graft_of_keyDown [.picture] hdown (by decide) (by decide) (by decide)
    exact (congrArg Machine.picture hgraft).symm
  | keyWentUp hup =>
    have hgraft := Machine.graft_of_keyUp [.picture] hup (by decide)
    exact (congrArg Machine.picture hgraft).symm

/-! ## Section 3: Histories -/

/-- The marks of a history, in order. -/
def marks : List Operation → Interpreter σ → List Mark
  | [], _ => []
  | operation :: later, i =>
    let turn := perform operation i
    (mark? i operation turn.result).toList ++ marks later turn.state

/-- The picture after a history is the picture before it with all marks made. -/
theorem picture_run (history : List Operation) (i : Interpreter σ) :
    (run history i).machine.picture = (marks history i).foldl Picture.marked i.machine.picture := by
  induction history generalizing i with
  | nil => rfl
  | cons operation later ih =>
    rw [run_cons, ih, (perform_outcome i operation).picture, marks, List.foldl_append]

theorem shows_run (source : σ) (history : List Operation) :
    (run history (fresh source)).machine.picture.Shows
      (Mark.live (marks history (fresh source))) := by
  rw [picture_run]
  exact Picture.shows_blank.marks _

/-- After any history a pixel is lit exactly if an odd number of the drawings since the last wipe
    covered it, a wipe being a load or a clearing of the screen that was not refused; a drawing
    covers what the set bits of its bytes cover. What has no mark, and above all what is refused,
    leaves the picture alone. Two histories whose stamps are the same but for their order lead to
    the same picture. -/
theorem picture_is_parity_of_stamps (source : σ) (history : List Operation) :
    let i := run history (fresh source)
    let stamps := Mark.live (marks history (fresh source))
    (∀ c < 64, ∀ r < 32,
      i.machine.picture.lit c r = true ↔ stamps.countP (·.covers c r) % 2 = 1) ∧
    (∀ (m : Machine) (x y n : UInt8) (c r : Nat),
      (m.stampOf x y n).covers c r = true ↔
        ((m.register y).toNat ≤ r ∧ r < (m.register y).toNat + n.toNat) ∧
        ((m.register x).toNat ≤ c ∧ c < (m.register x).toNat + 8) ∧
        (m.ram.cell (m.index.toNat + (r - (m.register y).toNat))).toNat.testBit
          (7 - (c - (m.register x).toNat)) = true) ∧
    (∀ operation, mark? i operation (perform operation i).result = none →
      (perform operation i).state.machine.picture = i.machine.picture) ∧
    (∀ operation fault, (perform operation i).result = .error fault →
      (perform operation i).state.machine.picture = i.machine.picture) ∧
    ∀ (source' : σ) (history' : List Operation),
      (Mark.live (marks history' (fresh source'))).Perm stamps →
        (run history' (fresh source')).machine.picture = i.machine.picture := by
  intro i stamps
  have hnone : ∀ operation, mark? i operation (perform operation i).result = none →
      (perform operation i).state.machine.picture = i.machine.picture := by
    intro operation hmark
    rw [(perform_outcome i operation).picture, hmark]
    rfl
  refine ⟨shows_run source history, Machine.covers_stampOf, hnone, ?_, ?_⟩
  · intro operation fault hfault
    apply hnone operation
    rw [hfault]
    rfl
  · intro source' history' hperm
    exact (shows_run source' history').eq_of_perm (shows_run source history) hperm

end Interpreter

end Chip8
