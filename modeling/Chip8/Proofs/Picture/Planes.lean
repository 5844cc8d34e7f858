import Chip8.Picture.Planes
import Chip8.Proofs.Picture.Sprite
import Mathlib.Data.List.Count
import Mathlib.Data.List.Nodup

/-! # Both planes of a canvas

    The points of a canvas are numbered in reading order, and a number gives its column as a
    remainder and its row as a quotient. So each point has one number, and a larger number stands
    further down or, in the same row, further to the right. The planes sort the points by whether
    they are lit: every point is in one of the two, once, and both keep the order. -/

namespace Chip8

/-- A pixel is lit if it is on the screen and its bit is set. -/
theorem Picture.lit_iff {p : Picture} {x y : Nat} :
    p.lit x y = true ↔
      x < 64 ∧ ∃ hy : y < 32, p.rows[y].toNat.testBit (63 - x) = true := by
  unfold lit
  split
  case isTrue hplace => simp [hplace]
  case isFalse hplace =>
    constructor
    · nofun
    · rintro ⟨hx, hy, -⟩
      exact absurd ⟨hx, hy⟩ hplace

namespace Resolution

variable {r : Resolution} {p : Picture}

/-! ### The points of a canvas -/

theorem mem_points {x y : Nat} : (x, y) ∈ r.points ↔ x < r.width ∧ y < r.height := by
  simp only [points, List.mem_map, List.mem_range, Prod.mk.injEq]
  constructor
  · rintro ⟨i, hi, rfl, rfl⟩
    have hwidth : 0 < r.width := Nat.pos_of_mul_pos_right (Nat.zero_lt_of_lt hi)
    exact ⟨Nat.mod_lt i hwidth, Nat.div_lt_of_lt_mul hi⟩
  · rintro ⟨hx, hy⟩
    have hwidth : 0 < r.width := Nat.zero_lt_of_lt hx
    refine ⟨y * r.width + x, ?_, ?_, ?_⟩
    · calc y * r.width + x
        _ < y * r.width + r.width := Nat.add_lt_add_left hx _
        _ = (y + 1) * r.width := (Nat.succ_mul y r.width).symm
        _ ≤ r.height * r.width := Nat.mul_le_mul_right _ hy
        _ = r.area := Nat.mul_comm ..
    · rw [Nat.mul_add_mod', Nat.mod_eq_of_lt hx]
    · rw [Nat.mul_comm, Nat.mul_add_div hwidth, Nat.div_eq_of_lt hx, Nat.add_zero]

@[simp] theorem length_points (r : Resolution) : r.points.length = r.width * r.height := by
  rw [points, List.length_map, List.length_range, area]

/-- The first of two points is read before the second. -/
def Precedes (a b : Nat × Nat) : Prop := a.2 < b.2 ∨ a.2 = b.2 ∧ a.1 < b.1

/-- Of two numbers the smaller has the higher row, or the column further to the left. -/
theorem precedes_of_lt {i j : Nat} (width : Nat) (h : i < j) :
    Precedes (i % width, i / width) (j % width, j / width) := by
  have hrows : i / width ≤ j / width := Nat.div_le_div_right (Nat.le_of_lt h)
  rcases Nat.lt_or_eq_of_le hrows with hrow | hrow
  · exact .inl hrow
  · have hi := Nat.div_add_mod i width
    have hj := Nat.div_add_mod j width
    rw [hrow] at hi
    exact .inr ⟨hrow, by dsimp only; omega⟩

theorem pairwise_points (r : Resolution) : r.points.Pairwise Precedes :=
  List.pairwise_map.mpr (List.pairwise_lt_range.imp (precedes_of_lt r.width))

/-! ### The points of a plane -/

/-- Where a point stands on the canvas. -/
def place (point : Nat × Nat) : Int × Int := (point.1, -point.2)

theorem place_injective : Function.Injective place := by
  rintro ⟨x, y⟩ ⟨x', y'⟩ h
  obtain ⟨hx, hy⟩ := Prod.mk.inj h
  exact Prod.ext (Int.ofNat.inj hx) (Int.ofNat.inj (Int.neg_inj.mp hy))

theorem plane_eq (r : Resolution) (p : Picture) (lit : Bool) :
    r.plane p lit = (r.points.filter fun point => p.lit point.1 point.2 == lit).map place :=
  rfl

/-- A plane has a point at most once, and has it if it is lit as the plane is. -/
theorem count_plane {x y : Nat} (hx : x < r.width) (hy : y < r.height) (lit : Bool) :
    (r.plane p lit).count (place (x, y)) = if p.lit x y = lit then 1 else 0 := by
  have hnodup : r.points.Nodup := (pairwise_points r).imp fun h heq => by
    subst heq
    simp [Precedes] at h
  rw [plane_eq, List.count_map_of_injective _ _ place_injective]
  split
  case isTrue hlit =>
    have hmem := mem_points.mpr ⟨hx, hy⟩
    rw [List.count_filter (by simpa using hlit)]
    exact List.count_eq_one_of_mem hnodup hmem
  case isFalse hlit =>
    rw [List.count_eq_zero, List.mem_filter]
    rintro ⟨-, hsame⟩
    exact hlit (eq_of_beq hsame)

/-- The points of a plane are points of the canvas. -/
theorem exists_of_mem_plane {lit : Bool} {point : Int × Int} (h : point ∈ r.plane p lit) :
    ∃ x < r.width, ∃ y < r.height, p.lit x y = lit ∧ point = place (x, y) := by
  rw [plane_eq, List.mem_map] at h
  obtain ⟨⟨x, y⟩, hfiltered, rfl⟩ := h
  obtain ⟨hmem, hlit⟩ := List.mem_filter.mp hfiltered
  obtain ⟨hx, hy⟩ := mem_points.mp hmem
  exact ⟨x, hx, y, hy, eq_of_beq hlit, rfl⟩

/-- A plane lists its points in reading order, that is row by row from the top down. -/
theorem pairwise_plane (r : Resolution) (p : Picture) (lit : Bool) :
    (r.plane p lit).Pairwise fun a b => b.2 < a.2 ∨ a.2 = b.2 ∧ a.1 < b.1 := by
  rw [plane_eq, List.pairwise_map]
  refine ((pairwise_points r).filter _).imp ?_
  rintro ⟨x, y⟩ ⟨x', y'⟩ (hrow | ⟨hrow, hcolumn⟩)
  · exact .inl (Int.neg_lt_neg (Int.ofNat_lt.mpr hrow))
  · exact .inr ⟨congrArg (fun y : Nat => -(y : Int)) hrow, Int.ofNat_lt.mpr hcolumn⟩

theorem length_planes (r : Resolution) (p : Picture) :
    (r.plane p true).length + (r.plane p false).length = r.width * r.height := by
  have hsplit := List.length_eq_length_filter_add (l := r.points) fun point =>
    p.lit point.1 point.2 == true
  rw [length_points] at hsplit
  rw [plane_eq, plane_eq, List.length_map, List.length_map, hsplit]
  congr 3
  funext point
  cases p.lit point.1 point.2 <;> rfl

theorem place_mem_plane_iff {x y : Nat} (hx : x < r.width) (hy : y < r.height) (lit : Bool) :
    place (x, y) ∈ r.plane p lit ↔ p.lit x y = lit := by
  rw [← List.count_pos_iff, count_plane hx hy]
  split
  case isTrue hlit => simp [hlit]
  case isFalse hlit => simp [hlit]

/-- A picture is known by its lit plane, if the canvas has the size of the screen. -/
theorem eq_of_plane_eq {q : Picture} (h : screen.plane p true = screen.plane q true) : p = q := by
  apply Picture.eq_of_lit
  intro x hx y hy
  rw [Bool.eq_iff_iff, ← place_mem_plane_iff (r := screen) hx hy, h, place_mem_plane_iff hx hy]

/-! ### The main result -/

/-- Any picture on a canvas of any size. A point of the canvas is in one of the two planes, and
    once: in the lit plane if it is on the screen and its bit is set, with the leftmost column in
    the highest bit, and in the dark plane if not. The planes have no other points. Both list them
    in reading order, and together they have as many as the canvas. On a canvas of the size of the
    screen, pictures with the same lit plane are the same. -/
theorem planes_partition_the_canvas (r : Resolution) (p : Picture) :
    (∀ x < r.width, ∀ y < r.height,
      let point : Int × Int := (x, -y)
      let isSet := x < 64 ∧ ∃ hy : y < 32, p.rows[y].toNat.testBit (63 - x) = true
      (isSet → (r.plane p true).count point = 1 ∧ (r.plane p false).count point = 0) ∧
      (¬ isSet → (r.plane p true).count point = 0 ∧ (r.plane p false).count point = 1)) ∧
    (∀ lit, ∀ point ∈ r.plane p lit,
      ∃ x < r.width, ∃ y < r.height, point = ((x : Int), -(y : Int))) ∧
    (∀ lit, (r.plane p lit).Pairwise fun a b => b.2 < a.2 ∨ a.2 = b.2 ∧ a.1 < b.1) ∧
    (r.plane p true).length + (r.plane p false).length = r.width * r.height ∧
    ∀ q, screen.plane p true = screen.plane q true → p = q := by
  refine ⟨fun x hx y hy => ?_, fun lit point hpoint => ?_, pairwise_plane r p, length_planes r p,
    fun q => eq_of_plane_eq⟩
  · intro point isSet
    have hbright : (r.plane p true).count point = if p.lit x y = true then 1 else 0 :=
      count_plane hx hy true
    have hdark : (r.plane p false).count point = if p.lit x y = false then 1 else 0 :=
      count_plane hx hy false
    have hlit : p.lit x y = true ↔ isSet := Picture.lit_iff
    constructor
    · intro hset
      rw [hbright, hdark, hlit.mpr hset]
      exact ⟨rfl, rfl⟩
    · intro hclear
      rw [hbright, hdark, Bool.eq_false_iff.mpr (mt hlit.mp hclear)]
      exact ⟨rfl, rfl⟩
  · obtain ⟨x, hx, y, hy, -, hplace⟩ := exists_of_mem_plane hpoint
    exact ⟨x, hx, y, hy, hplace⟩

/-- On a canvas wider than the screen and not as high the outermost pixels of two rows are lit, and
    the point to the right of the second is dark. On a canvas of the size of the screen the lit
    plane is not that of a blank picture. -/
theorem corners_on_a_wide_canvas :
    let p := Picture.ofRows [(0, 0x8000000000000000), (2, 1)]
    let r : Resolution := ⟨70, 3⟩
    (r.plane p true).count (0, 0) = 1 ∧ (r.plane p false).count (63, -2) = 0 ∧
    (r.plane p true).count (64, -2) = 0 ∧ (r.plane p false).count (64, -2) = 1 ∧
    (r.plane p true).length + (r.plane p false).length = 210 ∧
    screen.plane p true ≠ screen.plane .blank true := by
  intro p r
  obtain ⟨hcount, -, -, hlength, hknown⟩ := planes_partition_the_canvas r p
  obtain ⟨hcorner, -⟩ := hcount 0 (by decide) 0 (by decide)
  obtain ⟨hend, -⟩ := hcount 63 (by decide) 2 (by decide)
  obtain ⟨-, hpast⟩ := hcount 64 (by decide) 2 (by decide)
  obtain ⟨hdark, hpoint⟩ := hpast fun hset => absurd hset.1 (by decide)
  exact ⟨(hcorner ⟨by decide, by decide, by decide⟩).1, (hend ⟨by decide, by decide, by decide⟩).2,
    hdark, hpoint, hlength, fun hblank => absurd (hknown _ hblank) (by decide)⟩

end Resolution

end Chip8
