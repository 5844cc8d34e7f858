import Chip8.Options.StandIn
import Chip8.Proofs.Options.Standard
import Chip8.Proofs.Text.Numeral
import Mathlib.Data.List.Nodup
import Mathlib.Data.List.TakeWhile

/-! # The parser that reads word by word is a standard one

    On its way through a command line with nothing wrong the reading knows, piece after piece, what
    has been said and nothing else (`Knows`). On its way through any command line it takes in no
    value that was not declared (`Draft.Sound`). For both the declarations themselves have to be in
    order: names that can be told apart and spelled, and defaults that pass their own check. -/

namespace Chip8.Command

open Options (ascii dash looksLikeOption)

/-! ## Section 1: Declarations -/

/-- A name that can be spelled on a command line: its characters are of ASCII, and none is an equals
    sign. -/
def Spelled (name : String) : Prop :=
  name ≠ "" ∧ ∀ c ∈ name.toList, c.toNat < 0x80 ∧ c.toNat ≠ equals.toNat

instance (name : String) : Decidable (Spelled name) :=
  decidable_of_iff (name ≠ "" ∧ name.toList.all fun c => c.toNat < 0x80 ∧ c.toNat ≠ equals.toNat)
    (by simp [Spelled])

/-- Is this kind in order? Numbers have no more than 64 bits. -/
def Kind.WellFormed : Kind → Prop
  | .path => True
  | .choice names => ∀ name ∈ names, Spelled name
  | .number _ most => most < 1 <<< 64

instance : (kind : Kind) → Decidable kind.WellFormed
  | .path => .isTrue trivial
  | .choice names => List.decidableBAll Spelled names
  | .number _ most => Nat.decLt most (1 <<< 64)

/-- Are these declarations in order? -/
structure WellFormed (c : Command) : Prop where
  /-- No name stands for two options, those for help and for the version included. -/
  names : (c.parameters.map Parameter.name ++ c.flags ++ ["help", "version"]).Nodup
  spelled : ∀ name ∈ c.parameters.map Parameter.name ++ c.flags, Spelled name
  kinds : ∀ p ∈ c.parameters, p.kind.WellFormed
  defaults : ∀ p ∈ c.parameters, p.kind.Admits p.default
  word : c.word.WellFormed

theorem bind_eq_ok {ε α β : Type} {x : Except ε α} {f : α → Except ε β} {b : β} :
    (x >>= f) = .ok b ↔ ∃ a, x = .ok a ∧ f a = .ok b := by
  cases x <;> simp [bind, Except.bind]

@[simp] theorem ok_bind {ε α β : Type} (a : α) (f : α → Except ε β) : (.ok a >>= f) = f a := rfl

theorem find?_of_unique {α : Type} {l : List α} {a : α} {pred : α → Bool} (ha : a ∈ l)
    (hpred : pred a = true) (hunique : ∀ b ∈ l, pred b = true → b = a) : l.find? pred = some a := by
  obtain ⟨b, hb⟩ := Option.isSome_iff_exists.mp (List.find?_isSome.mpr ⟨a, ha, hpred⟩)
  rw [hb, hunique b (List.mem_of_find?_eq_some hb) (List.find?_some hb)]

/-! ### Names -/

section

variable {name name' : String} (h : Spelled name)
include h

theorem Spelled.ascii_inj (h' : Spelled name') : ascii name = ascii name' ↔ name = name' := by
  refine ⟨fun heq => ?_, congrArg ascii⟩
  -- the characters can be read back from the bytes
  have hchars : Text.Utf8.chars? (ascii name) = some name.toList :=
    Text.chars?_of_ascii fun c hc => (h.2 c hc).1
  have hchars' : Text.Utf8.chars? (ascii name') = some name'.toList :=
    Text.chars?_of_ascii fun c hc => (h'.2 c hc).1
  rw [heq, hchars'] at hchars
  exact (String.toList_inj.mp (Option.some.inj hchars)).symm

theorem Spelled.ne_equals {b : UInt8} (hb : b ∈ ascii name) : b ≠ equals := by
  obtain ⟨c, hc, rfl⟩ := List.mem_map.mp hb
  obtain ⟨hsmall, hne⟩ := h.2 c hc
  intro heq
  have hcode : c.toNat % 256 = equals.toNat := by rw [← UInt8.toNat_ofNat', heq]
  omega

theorem Spelled.ascii_ne_nil : ascii name ≠ [] := by
  simpa [ascii] using h.1

end

theorem ascii_append (s t : String) : ascii (s ++ t) = ascii s ++ ascii t := by
  simp [ascii]

theorem ascii_dashes (name : String) : ascii ("--" ++ name) = dash :: dash :: ascii name := by
  rw [ascii_append]
  rfl

/-- An option in a word of its own. -/
theorem ofBytes_detached {name : String} (h : Spelled name) :
    Word.ofBytes (ascii ("--" ++ name)) = .long (ascii name) none := by
  have hplain : ∀ b ∈ ascii name, decide (b ≠ equals) = true := fun b hb => by
    simpa using h.ne_equals hb
  -- no equals sign ends the name early
  have htake : (ascii name).takeWhile (· ≠ equals) = ascii name :=
    List.takeWhile_eq_self_iff.mpr hplain
  have hdrop : (ascii name).dropWhile (· ≠ equals) = [] := List.dropWhile_eq_nil_iff.mpr hplain
  rw [ascii_dashes, Word.ofBytes, if_neg (by simp), if_neg (by simp), if_neg h.ascii_ne_nil,
    afterEquals, htake, hdrop]

/-- The value of an option in the same word is what follows the equals sign. -/
theorem ofBytes_attached {name : String} (h : Spelled name) (text : List UInt8) :
    Word.ofBytes (ascii ("--" ++ name ++ "=") ++ text) = .long (ascii name) (some text) := by
  have hplain : ∀ b ∈ ascii name, decide (b ≠ equals) = true := fun b hb => by
    simpa using h.ne_equals hb
  have hbytes : ascii ("--" ++ name ++ "=") ++ text =
      dash :: dash :: (ascii name ++ equals :: text) := by
    rw [ascii_append, ascii_dashes]
    simp [ascii, equals]
  rw [hbytes, Word.ofBytes, if_neg (by simp), if_neg (by simp), if_neg (by simp), afterEquals,
    List.takeWhile_append_of_pos hplain, List.dropWhile_append_of_pos hplain]
  simp

/-- What does not look like an option is an ordinary word. -/
theorem ofBytes_of_plain {bytes : List UInt8} (h : looksLikeOption bytes = false) :
    Word.ofBytes bytes = .plain bytes := by
  match bytes with
  | [] | [_] => rfl
  | b :: c :: rest =>
    have hb : b ≠ dash := by simpa [looksLikeOption] using h
    rw [Word.ofBytes, if_pos hb]

/-! ### Looking them up -/

section

variable {c : Command} (hc : c.WellFormed)
include hc

theorem WellFormed.spelled_parameter {p : Parameter} (hp : p ∈ c.parameters) : Spelled p.name :=
  hc.spelled p.name (List.mem_append_left _ (List.mem_map_of_mem hp))

theorem WellFormed.spelled_flag {flag : String} (hflag : flag ∈ c.flags) : Spelled flag :=
  hc.spelled flag (List.mem_append_right _ hflag)

/-- Two declarations with one name are one. -/
theorem WellFormed.parameter_inj {p q : Parameter} (hp : p ∈ c.parameters) (hq : q ∈ c.parameters)
    (h : p.name = q.name) : p = q :=
  List.inj_on_of_nodup_map hc.names.of_append_left.of_append_left hp hq h

theorem WellFormed.flag_ne {flag : String} (hflag : flag ∈ c.flags) {p : Parameter}
    (hp : p ∈ c.parameters) : p.name ≠ flag := by
  rintro rfl
  exact List.disjoint_of_nodup_append hc.names.of_append_left (List.mem_map_of_mem hp) hflag

theorem parameter?_name {p : Parameter} (hp : p ∈ c.parameters) :
    c.parameter? (ascii p.name) = some p := by
  have hspelled := hc.spelled_parameter hp
  refine find?_of_unique hp (by simp) fun q hq heq => ?_
  have hname := ((hc.spelled_parameter hq).ascii_inj hspelled).mp (by simpa using heq)
  exact hc.parameter_inj hq hp hname

theorem default_name {p : Parameter} (hp : p ∈ c.parameters) :
    c.parameters.find? (·.name = p.name) = some p :=
  find?_of_unique hp (by simp) fun q hq heq => hc.parameter_inj hq hp (by simpa using heq)

theorem parameter?_flag {flag : String} (hflag : flag ∈ c.flags) :
    c.parameter? (ascii flag) = none := by
  have hspelled := hc.spelled_flag hflag
  rw [parameter?, List.find?_eq_none]
  intro p hp heq
  have hname := ((hc.spelled_parameter hp).ascii_inj hspelled).mp (by simpa using heq)
  exact hc.flag_ne hflag hp hname

theorem switch?_flag {flag : String} (hflag : flag ∈ c.flags) :
    c.switch? (ascii flag) = some (.flag flag) := by
  have hspelled := hc.spelled_flag hflag
  have hdisjoint := List.disjoint_of_nodup_append hc.names
  have hne : ∀ builtIn ∈ ["help", "version"], Spelled builtIn → ascii flag ≠ ascii builtIn := by
    intro builtIn hbuiltIn hspelled' heq
    have hname := (hspelled.ascii_inj hspelled').mp heq
    exact hdisjoint (List.mem_append_right _ hflag) (hname ▸ hbuiltIn)
  have hfind : (c.flags.find? fun other => ascii other = ascii flag) = some flag := by
    refine find?_of_unique hflag (by simp) fun other hother heq => ?_
    exact ((hc.spelled_flag hother).ascii_inj hspelled).mp (by simpa using heq)
  rw [switch?, if_neg (hne "help" (by simp) (by decide)),
    if_neg (hne "version" (by simp) (by decide)), hfind]
  rfl

end

/-! ### Reading values -/

theorem read_of_reads {kind : Kind} (hkind : kind.WellFormed) {text : List UInt8} {v : Value}
    (h : kind.Reads text v) : kind.read text = .ok v := by
  cases h with
  | path hne => exact if_neg hne
  | @choice names name hname =>
    have hfind : (names.find? fun other => ascii other = ascii name) = some name := by
      refine find?_of_unique hname (by simp) fun other hother heq => ?_
      exact ((hkind other hother).ascii_inj (hkind name hname)).mp (by simpa using heq)
    rw [Kind.read, hfind]
  | @number least most n hleast hmost =>
    have hchars : Text.Utf8.chars? (ascii (toString n)) = some (toString n).toList := by
      refine Text.chars?_of_ascii fun c hc => ?_
      have hcode := Text.toNat_of_isDigit (Text.isDigit_of_mem_toString hc)
      omega
    have hsize : n < 1 <<< 64 := Nat.lt_of_le_of_lt hmost hkind
    rw [Kind.read, hchars]
    simp only [Text.unsigned?_toString hsize, hleast, hmost, and_self, if_true]

/-- A text says one value only. -/
theorem reads_unique {kind : Kind} (hkind : kind.WellFormed) {text : List UInt8} {v v' : Value}
    (h : kind.Reads text v) (h' : kind.Reads text v') : v = v' := by
  have hread := read_of_reads hkind h
  rw [read_of_reads hkind h'] at hread
  exact (Except.ok.inj hread).symm

/-- Nothing is read that is not of its kind. -/
theorem admits_of_read {kind : Kind} {text : List UInt8} {v : Value} (h : kind.read text = .ok v) :
    kind.Admits v := by
  cases kind with
  | path =>
    simp only [Kind.read] at h
    split at h
    case isTrue => cases h
    case isFalse hne =>
      cases h
      exact hne
  | choice names =>
    simp only [Kind.read] at h
    split at h
    case h_1 name hname =>
      cases h
      exact List.mem_of_find?_eq_some hname
    case h_2 => cases h
  | number least most =>
    simp only [Kind.read] at h
    split at h
    case h_1 => cases h
    case h_2 =>
      split at h
      case h_1 n _ =>
        split at h
        case isTrue hrange =>
          cases h
          exact hrange
        case isFalse => cases h
      case h_2 => cases h

/-! ## Section 2: What has been said -/

/-- The draft of someone who has been told these pieces and nothing else. -/
structure Draft.Told (c : Command) (pieces : List Piece) (d : Draft) : Prop where
  given : ∀ p ∈ c.parameters, ∀ text attached v, .parameter p.name text attached ∈ pieces →
    p.kind.Reads text v → d.value p.name = some v
  untold : ∀ name, (∀ text attached, .parameter name text attached ∉ pieces) → d.value name = none
  flag : ∀ name, d.flag name = true ↔ .flag name ∈ pieces
  word : ∀ text v, .word text ∈ pieces → c.word.Reads text v → d.word = some v
  hasWord : d.word.isSome = true ↔ .word ∈ pieces.map Piece.topic

namespace Draft.Told

variable {c : Command} {pieces : List Piece} {d : Draft}

theorem start : Draft.Told c [] {} := by
  constructor <;> simp

/-- What will not have been told is not told yet. -/
theorem untold_append (h : d.Told c pieces) {piece : Piece} {name : String}
    (huntold : ∀ text attached, .parameter name text attached ∉ pieces ++ [piece]) :
    d.value name = none :=
  h.untold name fun text attached hmem => huntold text attached (List.mem_append_left _ hmem)

/-- An option is taken in as it is written. -/
theorem give (hc : c.WellFormed) (h : d.Told c pieces) {p : Parameter} (hp : p ∈ c.parameters)
    {text : List UInt8} {v : Value} (hreads : p.kind.Reads text v)
    (hnew : .parameter p.name ∉ pieces.map Piece.topic) (attached : Bool) :
    ∃ d', d.give p (some text) = .ok d' ∧
      d'.Told c (pieces ++ [.parameter p.name text attached]) := by
  have hfresh : ∀ text attached, .parameter p.name text attached ∉ pieces :=
    fun _ _ hmem => hnew (List.mem_map_of_mem (f := Piece.topic) hmem)
  have hread := read_of_reads (hc.kinds p hp) hreads
  refine ⟨{ d with value := fun name => if name = p.name then some v else d.value name }, ?_, ?_⟩
  · simp only [Draft.give, h.untold _ hfresh, hread]
    rfl
  · refine ⟨fun q hq text' attached' v' hmem hreads' => ?_, fun name huntold => ?_, ?_, ?_, ?_⟩
    · rw [List.mem_append, List.mem_singleton] at hmem
      by_cases hname : q.name = p.name
      · obtain rfl := hc.parameter_inj hq hp hname
        rcases hmem with hmem | heq
        · exact absurd hmem (hfresh _ _)
        · cases heq
          rw [reads_unique (hc.kinds q hq) hreads' hreads]
          exact if_pos rfl
      · rcases hmem with hmem | heq
        · simpa [hname] using h.given q hq text' attached' v' hmem hreads'
        · exact absurd (Piece.parameter.inj heq).1 hname
    · have hname : name ≠ p.name := by
        rintro rfl
        simpa using huntold text attached
      simp only [if_neg hname]
      exact h.untold_append huntold
    · simpa using h.flag
    · simpa using h.word
    · simpa [Piece.topic] using h.hasWord

theorem giveWord (hc : c.WellFormed) (h : d.Told c pieces) {text : List UInt8} {v : Value}
    (hreads : c.word.Reads text v) (hnew : .word ∉ pieces.map Piece.topic) :
    ∃ d', d.giveWord c text = .ok d' ∧ d'.Told c (pieces ++ [.word text]) := by
  have hread := read_of_reads hc.word hreads
  refine ⟨{ d with word := some v }, by simp only [Draft.giveWord, hread]; rfl, ?_⟩
  refine ⟨by simpa using h.given, fun _ => h.untold_append, by simpa using h.flag, ?_, ?_⟩
  · intro text' v' hmem hreads'
    rw [List.mem_append, List.mem_singleton] at hmem
    rcases hmem with hmem | heq
    · exact absurd (List.mem_map_of_mem (f := Piece.topic) hmem) hnew
    · cases heq
      exact congrArg some (reads_unique hc.word hreads hreads')
  · simp [Piece.topic]

theorem switchOn (h : d.Told c pieces) {flag : String}
    (hnew : .flag flag ∉ pieces.map Piece.topic) :
    ∃ d', d.switchOn (.flag flag) = .ok d' ∧ d'.Told c (pieces ++ [.flag flag]) := by
  have hoff : ¬ d.flag flag = true := fun hon =>
    hnew (List.mem_map_of_mem (f := Piece.topic) ((h.flag flag).mp hon))
  refine ⟨{ d with flag := fun name => if name = flag then true else d.flag name },
    by simp only [Draft.switchOn, if_neg hoff], ?_⟩
  refine ⟨by simpa using h.given, fun _ => h.untold_append, fun name => ?_, by simpa using h.word,
    by simpa [Piece.topic] using h.hasWord⟩
  by_cases hname : name = flag
  · simp [hname]
  · simpa [hname] using h.flag name

end Draft.Told

/-- A parser has found these pieces and nothing else. -/
structure Matches.Reports (c : Command) (pieces : List Piece) (m : Matches) : Prop where
  given : ∀ p ∈ c.parameters, ∀ text attached v, .parameter p.name text attached ∈ pieces →
    p.kind.Reads text v → m.value p.name = some v
  default : ∀ p ∈ c.parameters, (∀ text attached, .parameter p.name text attached ∉ pieces) →
    m.value p.name = some p.default
  flag : ∀ name, m.flag name = true ↔ .flag name ∈ pieces
  word : ∀ text v, .word text ∈ pieces → c.word.Reads text v → m.word = v

theorem Draft.Told.finish {c : Command} (hc : c.WellFormed) {pieces : List Piece} {d : Draft}
    (h : d.Told c pieces) {text : List UInt8} {v : Value} (hword : .word text ∈ pieces)
    (hreads : c.word.Reads text v) : ∃ m, d.finish c = .ok m ∧ m.Reports c pieces := by
  have hfound := h.word text v hword hreads
  refine ⟨_, by rw [Draft.finish, hfound], fun p hp text attached v hmem hreads => ?_,
    fun p hp huntold => ?_, h.flag, fun text' v' hmem hreads' => ?_⟩
  · simp only [h.given p hp text attached v hmem hreads, Option.some_or]
  · simp only [h.untold p.name huntold, default_name hc hp, Option.map_some, Option.none_or]
  · have hfound' := h.word text' v' hmem hreads'
    rw [hfound] at hfound'
    exact Option.some.inj hfound'

/-! ## Section 3: Reading -/

section

variable {c : Command} {d : Draft} {trailing : Bool}

theorem settle_parameter {p : Parameter} {text : Option (List UInt8)} :
    ({ draft := d, waiting := .parameter p text, trailing } : Reading).settle c =
      do return { draft := ← d.give p text, trailing } := rfl

theorem settle_word {text : List UInt8} :
    ({ draft := d, waiting := .word text, trailing } : Reading).settle c =
      do return { draft := ← d.giveWord c text, trailing } := rfl

/-- What waits is judged in the same way after two dashes. -/
theorem settle_escape {r r' : Reading} (h : r.settle c = .ok r') :
    ({ r with trailing := true } : Reading).settle c = .ok { r' with trailing := true } := by
  obtain ⟨d, waiting, trailing⟩ := r
  cases waiting with
  | nothing =>
    cases h
    rfl
  | parameter p text =>
    rw [settle_parameter] at h ⊢
    obtain ⟨d', hd', hr'⟩ := bind_eq_ok.1 h
    cases hr'
    rw [hd']
    rfl
  | word text =>
    rw [settle_word] at h ⊢
    obtain ⟨d', hd', hr'⟩ := bind_eq_ok.1 h
    cases hr'
    rw [hd']
    rfl

end

/-- A reading that has been told these pieces and nothing else, what waits included. -/
structure Knows (c : Command) (pieces : List Piece) (trailing : Bool) (r : Reading) : Prop where
  settle : ∃ d : Draft, r.settle c = .ok { draft := d, trailing } ∧ d.Told c pieces
  hasWord : r.hasWord = true ↔ .word ∈ pieces.map Piece.topic
  /-- No option waits for its value. -/
  ready : ∀ p, r.waiting ≠ .parameter p none
  trailing : r.trailing = trailing

namespace Knows

variable {c : Command} {pieces : List Piece} {trailing : Bool} {r : Reading}

/-- A draft alone: nothing waits. -/
theorem judged {d : Draft} (h : d.Told c pieces) :
    Knows c pieces trailing { draft := d, trailing } where
  settle := ⟨d, rfl, h⟩
  hasWord := h.hasWord
  ready := by simp
  trailing := rfl

/-- In front of the first word. -/
theorem start : Knows c [] false {} := judged .start

/-- After two dashes nothing else is known. -/
theorem escape (h : Knows c pieces false r) :
    ∃ r', r.next c [dash, dash] = .ok r' ∧ Knows c pieces true r' := by
  obtain ⟨d, hsettle, htold⟩ := h.settle
  refine ⟨{ r with trailing := true }, ?_, ⟨d, settle_escape hsettle, htold⟩, h.hasWord, h.ready,
    rfl⟩
  rw [Reading.next, h.trailing]
  rfl

variable (hc : c.WellFormed)
include hc

/-- At the end of the line the rest has its default. -/
theorem finish (h : Knows c pieces trailing r) {text : List UInt8} {v : Value}
    (hword : .word text ∈ pieces) (hreads : c.word.Reads text v) :
    ∃ m, r.finish c = .ok m ∧ m.Reports c pieces := by
  obtain ⟨d, hsettle, htold⟩ := h.settle
  rw [Reading.finish, hsettle, ok_bind]
  exact htold.finish hc hword hreads

/-- The word is taken, and waits. -/
theorem word (h : Knows c pieces trailing r) {text : List UInt8} {v : Value}
    (hreads : c.word.Reads text v) (hnew : .word ∉ pieces.map Piece.topic) :
    ∃ r', r.word c text = .ok r' ∧ Knows c (pieces ++ [.word text]) trailing r' := by
  obtain ⟨d, hsettle, htold⟩ := h.settle
  obtain ⟨d', hgive, htold'⟩ := htold.giveWord hc hreads hnew
  have hnone : ¬ r.hasWord = true := fun hsome => hnew (h.hasWord.mp hsome)
  refine ⟨{ draft := d, trailing, waiting := .word text }, ?_, ⟨d', ?_, htold'⟩, ?_, ?_, rfl⟩
  · rw [Reading.word, if_neg hnone, hsettle]
    rfl
  · rw [settle_word, hgive, ok_bind]
    rfl
  · simp [Reading.hasWord, Piece.topic]
  · simp

/-- An option is taken with its value. -/
theorem parameter (h : Knows c pieces false r) {p : Parameter} (hp : p ∈ c.parameters)
    {text : List UInt8} {v : Value} (hreads : p.kind.Reads text v)
    (hnew : .parameter p.name ∉ pieces.map Piece.topic) (attached : Bool)
    (hplain : attached = false → looksLikeOption text = false) :
    ∃ r', (Piece.parameter p.name text attached).words.foldlM (Reading.next c) r = .ok r' ∧
      Knows c (pieces ++ [.parameter p.name text attached]) false r' := by
  obtain ⟨d, hsettle, htold⟩ := h.settle
  obtain ⟨d', hgive, htold'⟩ := htold.give hc hp hreads hnew attached
  have hspelled := hc.spelled_parameter hp
  have hname := parameter?_name hc hp
  cases attached with
  | true =>
    refine ⟨{ draft := d' }, ?_, judged htold'⟩
    have hlong : r.next c (ascii ("--" ++ p.name ++ "=") ++ text) = .ok { draft := d' } := by
      simp only [Reading.next, h.trailing, ofBytes_attached hspelled, Reading.long, hname, hsettle,
        ok_bind, hgive, Bool.false_eq_true, if_false]
      rfl
    rw [Piece.words, List.foldlM_cons, hlong]
    rfl
  | false =>
    refine ⟨{ draft := d, waiting := .parameter p (some text) }, ?_, ⟨d', ?_, htold'⟩, ?_, ?_, rfl⟩
    · have hlong : r.next c (ascii ("--" ++ p.name)) =
          .ok { draft := d, waiting := .parameter p none } := by
        simp only [Reading.next, h.trailing, ofBytes_detached hspelled, Reading.long, hname,
          hsettle, ok_bind, Bool.false_eq_true, if_false]
        rfl
      rw [Piece.words, List.foldlM_cons, hlong]
      simp only [ok_bind, List.foldlM_cons, List.foldlM_nil, Reading.next,
        ofBytes_of_plain (hplain rfl)]
      rfl
    · rw [settle_parameter, hgive, ok_bind]
      rfl
    · exact htold.hasWord.trans (by simp [Piece.topic])
    · simp

/-- A piece is taken whatever came before it, unless something was said about its topic. -/
theorem piece (h : Knows c pieces false r) {piece : Piece} (hstands : piece.Stands c)
    (hnew : piece.topic ∉ pieces.map Piece.topic) :
    ∃ r', piece.words.foldlM (Reading.next c) r = .ok r' ∧
      Knows c (pieces ++ [piece]) false r' := by
  cases hstands with
  | parameter hp hreads hplain => exact h.parameter hc hp hreads hnew _ hplain
  | @flag name hflag =>
    obtain ⟨d, hsettle, htold⟩ := h.settle
    obtain ⟨d', hswitch, htold'⟩ := htold.switchOn hnew
    refine ⟨{ draft := d' }, ?_, judged htold'⟩
    have hnext : r.next c (ascii ("--" ++ name)) = .ok { draft := d' } := by
      simp only [Reading.next, h.trailing, ofBytes_detached (hc.spelled_flag hflag), Reading.long,
        parameter?_flag hc hflag, switch?_flag hc hflag, Reading.switch, hsettle, ok_bind, hswitch,
        Bool.false_eq_true, if_false]
      rfl
    rw [Piece.words, List.foldlM_cons, hnext]
    rfl
  | @word text v hreads hplain =>
    obtain ⟨r', hr', hknows⟩ := h.word hc hreads hnew
    refine ⟨r', ?_, hknows⟩
    -- no option waits for its value, so the word is not taken for one
    have hword : r.next c text = r.word c text := by
      simp only [Reading.next, h.trailing, ofBytes_of_plain hplain, Bool.false_eq_true, if_false]
      split
      case h_1 p hwaiting => exact absurd hwaiting (h.ready p)
      case h_2 => rfl
    rw [Piece.words, List.foldlM_cons, hword, hr']
    rfl

/-- So are pieces that are about different topics, in any order. -/
theorem all {later : List Piece} (h : Knows c pieces false r)
    (hstand : ∀ piece ∈ later, piece.Stands c) (hnew : ((pieces ++ later).map Piece.topic).Nodup) :
    ∃ r', (later.flatMap Piece.words).foldlM (Reading.next c) r = .ok r' ∧
      Knows c (pieces ++ later) false r' := by
  -- what a piece makes known is what the others find known
  induction later generalizing pieces r with
  | nil => exact ⟨r, rfl, by rwa [List.append_nil]⟩
  | cons piece later ih =>
    rw [List.forall_mem_cons] at hstand
    rw [List.append_cons] at hnew ⊢
    have hfresh : piece.topic ∉ pieces.map Piece.topic := by
      rw [List.map_append, List.map_append] at hnew
      have hdisjoint := List.disjoint_of_nodup_append hnew.of_append_left
      exact fun hmem => hdisjoint hmem (by simp)
    obtain ⟨r₁, hr₁, h₁⟩ := h.piece hc hstand.1 hfresh
    obtain ⟨r₂, hr₂, h₂⟩ := ih h₁ hstand.2 hnew
    refine ⟨r₂, ?_, h₂⟩
    rw [List.flatMap_cons, List.foldlM_append, hr₁]
    exact hr₂

end Knows

/-- Of a command line with nothing wrong every piece is found. -/
theorem standIn_reports {c : Command} (hc : c.WellFormed) {l : Line} (hl : l.Conforms c) :
    ∃ m, standIn c l.words = .ok m ∧ m.Reports c l.said := by
  obtain ⟨pieces, last⟩ := l
  obtain ⟨hpieces, hlast, honce, text, hword⟩ := hl
  have hstart : Knows c [] false {} := .start
  have hnodup : (([] ++ pieces).map Piece.topic).Nodup := by
    rw [Line.said, List.map_append] at honce
    exact honce.of_append_left
  obtain ⟨r, hr, hknows⟩ := hstart.all hc hpieces hnodup
  rw [List.nil_append] at hknows
  cases last with
  | none =>
    rw [Line.said, Option.map_none, Option.toList_none, List.append_nil] at hword ⊢
    obtain ⟨v, hreads⟩ : ∃ v, c.word.Reads text v := by
      cases hpieces _ hword with
      | word hreads _ => exact ⟨_, hreads⟩
    rw [standIn, Line.words, List.append_nil, hr]
    exact hknows.finish hc hword hreads
  | some last =>
    obtain ⟨v, hreads⟩ := hlast last rfl
    have hnew : .word ∉ pieces.map Piece.topic := by
      rw [Line.said, List.map_append] at honce
      exact fun hmem => List.disjoint_of_nodup_append honce hmem (by simp [Piece.topic])
    -- after two dashes the word may look like anything
    obtain ⟨r₁, hr₁, hescaped⟩ := hknows.escape
    obtain ⟨r₂, hr₂, htold⟩ := hescaped.word hc hreads hnew
    have hnext : r₁.next c last = .ok r₂ := by
      rw [Reading.next, hescaped.trailing, if_pos rfl, hr₂]
    have hwords : (Line.words ⟨pieces, some last⟩).foldlM (Reading.next c) {} = .ok r₂ := by
      rw [Line.words, List.foldlM_append, hr, ok_bind, List.foldlM_cons, hr₁, ok_bind,
        List.foldlM_cons, hnext, ok_bind, List.foldlM_nil]
      rfl
    rw [standIn, hwords, ok_bind]
    exact htold.finish hc (List.mem_append_right _ List.mem_cons_self) hreads

/-! ## Section 4: What has been checked -/

/-- A draft has no value that was not declared. -/
structure Draft.Sound (c : Command) (d : Draft) : Prop where
  value : ∀ p ∈ c.parameters, ∀ v, d.value p.name = some v → p.kind.Admits v
  word : ∀ v, d.word = some v → c.word.Admits v

namespace Draft.Sound

variable {c : Command} {d d' : Draft} (h : d.Sound c)
include h

theorem give (hc : c.WellFormed) {p : Parameter} (hp : p ∈ c.parameters)
    {text : Option (List UInt8)} (hgive : d.give p text = .ok d') : d'.Sound c := by
  cases text with
  | none => cases hgive
  | some text =>
    simp only [Draft.give] at hgive
    split at hgive
    case isTrue => cases hgive
    case isFalse =>
      obtain ⟨v, hread, heq⟩ := bind_eq_ok.1 hgive
      cases heq
      refine { h with value := fun q hq v' hv' => ?_ }
      by_cases hname : q.name = p.name
      · obtain rfl := hc.parameter_inj hq hp hname
        simp only [if_pos, Option.some.injEq] at hv'
        exact hv' ▸ admits_of_read hread
      · simp only [if_neg hname] at hv'
        exact h.value q hq v' hv'

theorem giveWord {text : List UInt8} (hgive : d.giveWord c text = .ok d') : d'.Sound c := by
  obtain ⟨v, hread, heq⟩ := bind_eq_ok.1 hgive
  cases heq
  exact { h with word := fun v' hv' => Option.some.inj hv' ▸ admits_of_read hread }

theorem switchOn {s : Switch} (hswitch : d.switchOn s = .ok d') : d'.Sound c := by
  cases s with
  | help | version => cases hswitch
  | flag name =>
    simp only [Draft.switchOn] at hswitch
    split at hswitch
    case isTrue => cases hswitch
    case isFalse =>
      cases hswitch
      exact { h with }

/-- What was not given has its default, which is one of the declared values. -/
theorem finish (hc : c.WellFormed) {m : Matches} (hfinish : d.finish c = .ok m) :
    (∀ p ∈ c.parameters, ∃ v, m.value p.name = some v ∧ p.kind.Admits v) ∧
      c.word.Admits m.word := by
  unfold Draft.finish at hfinish
  split at hfinish
  case h_1 => cases hfinish
  case h_2 word hword =>
    cases hfinish
    refine ⟨fun p hp => ?_, h.word word hword⟩
    cases hvalue : d.value p.name with
    | some v => exact ⟨v, by simp only [hvalue, Option.some_or], h.value p hp v hvalue⟩
    | none =>
      refine ⟨p.default, ?_, hc.defaults p hp⟩
      simp only [hvalue, default_name hc hp, Option.map_some, Option.none_or]

end Draft.Sound

/-- A reading has none either, and what waits belongs to an option that was declared. -/
structure Reading.Sound (c : Command) (r : Reading) : Prop where
  draft : r.draft.Sound c
  waiting : ∀ p text, r.waiting = .parameter p text → p ∈ c.parameters

namespace Reading.Sound

variable {c : Command} {r r' : Reading} (hc : c.WellFormed) (h : r.Sound c)
include hc h

theorem settle (hsettle : r.settle c = .ok r') : r'.Sound c := by
  obtain ⟨d, waiting, trailing⟩ := r
  cases waiting with
  | nothing =>
    cases hsettle
    exact h
  | parameter p text =>
    obtain ⟨d', hd', hr'⟩ := bind_eq_ok.1 hsettle
    cases hr'
    exact ⟨h.draft.give hc (h.waiting p text rfl) hd', nofun⟩
  | word text =>
    obtain ⟨d', hd', hr'⟩ := bind_eq_ok.1 hsettle
    cases hr'
    exact ⟨h.draft.giveWord hd', nofun⟩

theorem word {text : List UInt8} (hword : r.word c text = .ok r') : r'.Sound c := by
  unfold Reading.word at hword
  split at hword
  case isTrue => cases hword
  case isFalse =>
    obtain ⟨r₁, hr₁, heq⟩ := bind_eq_ok.1 hword
    have hsound := h.settle hc hr₁
    cases heq
    exact ⟨hsound.draft, nofun⟩

theorem switch {s : Switch} (hswitch : r.switch c s = .ok r') : r'.Sound c := by
  obtain ⟨r₁, hr₁, hrest⟩ := bind_eq_ok.1 hswitch
  obtain ⟨d, hd, heq⟩ := bind_eq_ok.1 hrest
  have hsound := h.settle hc hr₁
  cases heq
  exact ⟨hsound.draft.switchOn hd, hsound.waiting⟩

theorem long {name : List UInt8} {text : Option (List UInt8)}
    (hlong : r.long c name text = .ok r') : r'.Sound c := by
  unfold Reading.long at hlong
  split at hlong
  case h_1 hp =>
    obtain ⟨r₁, hr₁, heq⟩ := bind_eq_ok.1 hlong
    have hsound := h.settle hc hr₁
    cases heq
    refine ⟨hsound.draft, fun q text hwaiting => ?_⟩
    cases hwaiting
    exact List.mem_of_find?_eq_some hp
  case h_2 hp =>
    obtain ⟨r₁, hr₁, hrest⟩ := bind_eq_ok.1 hlong
    obtain ⟨d, hd, heq⟩ := bind_eq_ok.1 hrest
    have hsound := h.settle hc hr₁
    cases heq
    exact ⟨hsound.draft.give hc (List.mem_of_find?_eq_some hp) hd, hsound.waiting⟩
  case h_3 => exact h.switch hc hlong
  case h_4 => cases hlong
  case h_5 => cases hlong

theorem cluster {first : UInt8} (hcluster : r.cluster c first = .ok r') : r'.Sound c := by
  unfold Reading.cluster at hcluster
  split at hcluster
  case isTrue => exact h.switch hc hcluster
  case isFalse =>
    split at hcluster
    case isTrue => exact h.switch hc hcluster
    case isFalse => cases hcluster

/-- No word makes a reading unsound, -/
theorem next {bytes : List UInt8} (hnext : r.next c bytes = .ok r') : r'.Sound c := by
  unfold Reading.next at hnext
  split at hnext
  case isTrue => exact h.word hc hnext
  case isFalse =>
    split at hnext
    case h_1 =>
      cases hnext
      exact ⟨h.draft, h.waiting⟩
    case h_2 => exact h.long hc hnext
    case h_3 => exact h.cluster hc hnext
    case h_4 =>
      split at hnext
      case h_1 p hp =>
        cases hnext
        refine ⟨h.draft, fun q text hwaiting => ?_⟩
        cases hwaiting
        exact h.waiting p none hp
      case h_2 => exact h.word hc hnext

/-- and so no line does. -/
theorem words {words : List (List UInt8)} (hwords : words.foldlM (Reading.next c) r = .ok r') :
    r'.Sound c := by
  induction words generalizing r with
  | nil =>
    cases hwords
    exact h
  | cons bytes words ih =>
    obtain ⟨r₁, hr₁, hrest⟩ := bind_eq_ok.1 hwords
    exact ih (h.next hc hr₁) hrest

end Reading.Sound

/-- Whatever is accepted has been checked. -/
theorem standIn_checked {c : Command} (hc : c.WellFormed) {words : List (List UInt8)} {m : Matches}
    (h : standIn c words = .ok m) :
    (∀ p ∈ c.parameters, ∃ v, m.value p.name = some v ∧ p.kind.Admits v) ∧
      c.word.Admits m.word := by
  have hstart : Reading.Sound c {} := ⟨⟨nofun, nofun⟩, nofun⟩
  obtain ⟨r, hr, hfinish⟩ := bind_eq_ok.1 h
  obtain ⟨r₁, hr₁, hdraft⟩ := bind_eq_ok.1 hfinish
  exact ((hstart.words hc hr).settle hc hr₁).draft.finish hc hdraft

/-! ## Section 5: The main result -/

/-- Only the last word of a command line is said to be apart from its pieces. -/
theorem Line.mem_said {l : Line} {piece : Piece} (h : piece.topic ≠ .word) :
    piece ∈ l.said ↔ piece ∈ l.pieces := by
  rw [Line.said, List.mem_append, or_iff_left]
  intro hmem
  obtain ⟨text, -, rfl⟩ := by simpa using hmem
  exact h rfl

/-- This parser is a standard one for all declarations that are in order. -/
theorem standIn_standard {c : Command} (hc : c.WellFormed) : StandardParsing standIn c := by
  have hreports : ∀ {l : Line} {m : Matches}, l.Conforms c → standIn c l.words = .ok m →
      m.Reports c l.said := by
    intro l m hl hm
    obtain ⟨m', hm', hreports⟩ := standIn_reports hc hl
    rw [hm] at hm'
    cases hm'
    exact hreports
  constructor
  case accepted =>
    intro l hl
    obtain ⟨m, hm, -⟩ := standIn_reports hc hl
    exact ⟨m, hm⟩
  case given =>
    intro l m p text attached v hl hm hp hmem hreads
    have hsaid : .parameter p.name text attached ∈ l.said :=
      (Line.mem_said (by simp [Piece.topic])).mpr hmem
    exact (hreports hl hm).given p hp text attached v hsaid hreads
  case default =>
    intro l m p hl hm hp hfresh
    exact (hreports hl hm).default p hp fun text attached hmem =>
      hfresh text attached ((Line.mem_said (by simp [Piece.topic])).mp hmem)
  case flag =>
    intro l m name hl hm _
    exact ((hreports hl hm).flag name).trans (Line.mem_said (by simp [Piece.topic]))
  case word =>
    intro l m text v hl hm hmem hreads
    exact (hreports hl hm).word text v hmem hreads
  case checked =>
    intro words m p hm hp
    exact (standIn_checked hc hm).1 p hp
  case checkedWord =>
    intro words m hm
    exact (standIn_checked hc hm).2

end Chip8.Command
