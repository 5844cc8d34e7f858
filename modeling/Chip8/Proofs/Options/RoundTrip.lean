import Chip8.Options.Written
import Chip8.Proofs.Options.StandIn

/-! # Command lines and options

    Whatever way options are written down, they are read back, as long as the parser does what can
    be expected of it (`Command.StandardParsing`): the names, the kinds and the defaults that are
    declared agree with the options, and every value that the parser finds goes to its place.

    What is written in clauses is said in the pieces of a command line (`Clause.piece`). It says
    nothing wrong, so the parser finds for each option what it is, be it said or be it the default
    (`value_of_writes`), and from these values the options come back (`ofMatches_of_values`). -/

namespace Chip8.Options

open Command (Parser Matches Parameter Piece Line StandardParsing)

/-- Options that a user can ask for. -/
structure Valid (o : Options) : Prop where
  /-- There is a path. -/
  rom : o.rom ≠ []
  /-- No rate is 0. -/
  cpuHz : 1 ≤ o.cpuHz.toNat
  timerHz : 1 ≤ o.timerHz.toNat
  frameHz : 1 ≤ o.frameHz.toNat

/-! ## Section 1: Values -/

theorem mem_parameters (s : Setting) : s.parameter ∈ command.parameters :=
  List.mem_map_of_mem (by cases s <;> decide)

/-- Each option is written as its declaration wants it. -/
theorem reads_valueText {o : Options} (hvalid : o.Valid) (s : Setting) :
    s.kind.Reads (ascii (o.valueText s)) (o.value s) := by
  have hrate : ∀ hz : UInt32, hz.toNat ≤ 0xffffffff := fun hz => Nat.le_of_lt_succ hz.toNat_lt_size
  cases s with
  | layout => exact .choice (List.mem_map_of_mem (by cases o.layout <;> decide))
  | cpuHz => exact .number hvalid.cpuHz (hrate _)
  | timerHz => exact .number hvalid.timerHz (hrate _)
  | frameHz => exact .number hvalid.frameHz (hrate _)
  | keyPressMs => exact .number (Nat.zero_le _) (Nat.le_of_lt_succ o.keyPressMs.toNat_lt_size)

/-- What is written like its default is its default. -/
theorem value_of_isDefault {o : Options} {s : Setting} (h : o.isDefault s = true) :
    o.value s = s.parameter.default := by
  have htext : o.valueText s = ({ rom := o.rom } : Options).valueText s := of_decide_eq_true h
  cases s with
  | layout => exact congrArg Command.Value.choice htext
  | cpuHz | timerHz | frameHz | keyPressMs =>
    exact congrArg Command.Value.number (Text.toString_inj.1 htext)

/-- No value looks like an option. -/
theorem looksLikeOption_valueText (o : Options) (s : Setting) :
    looksLikeOption (ascii (o.valueText s)) = false := by
  have hnumeral : ∀ n : Nat, looksLikeOption (ascii (toString n)) = false := by
    intro n
    obtain ⟨c, cs, hcs, hdigit⟩ := Text.exists_toString_eq_cons n
    have hcode := Text.toNat_of_isDigit hdigit
    have hc : UInt8.ofNat c.toNat ≠ dash := by
      intro heq
      have hdash : c.toNat % 256 = 45 := by
        rw [← UInt8.toNat_ofNat', heq]
        rfl
      omega
    rw [ascii, hcs, List.map_cons, looksLikeOption, List.head?_cons]
    simp [hc]
  cases s with
  | layout =>
    simp only [valueText]
    cases o.layout <;> rfl
  | cpuHz | timerHz | frameHz | keyPressMs => exact hnumeral _

/-! ## Section 2: Clauses -/

/-- The piece of a command line that a clause is. -/
def Clause.piece (o : Options) : Clause → Piece
  | .setting s attached => .parameter s.name (ascii (o.valueText s)) attached
  | .mute => .flag muteName
  | .rom => .word o.rom

theorem words_piece (o : Options) (c : Clause) : (c.piece o).words = c.words o := by
  cases c with
  | setting s attached =>
    cases attached with
    | true => rw [Clause.piece, Piece.words, Clause.words, Command.ascii_append ("--" ++ _ ++ "=")]
    | false => rfl
  | mute | rom => rfl

/-- What a clause is about. -/
inductive Topic where
  | setting (s : Setting)
  | mute
  | rom
  deriving DecidableEq

def Clause.topic : Clause → Topic
  | .setting s _ => .setting s
  | .mute => .mute
  | .rom => .rom

/-- A topic by its name. -/
def Topic.named : Topic → Command.Topic
  | .setting s => .parameter s.name
  | .mute => .flag muteName
  | .rom => .word

theorem topic_piece (o : Options) (c : Clause) : (c.piece o).topic = c.topic.named := by
  cases c <;> rfl

theorem name_injective : Setting.name.Injective := by
  intro s s'
  cases s <;> cases s' <;> decide

theorem named_injective : Topic.named.Injective := by
  intro t t' h
  cases t <;> cases t' <;> first
    | rfl
    | cases h
    | exact congrArg Topic.setting (name_injective (Command.Topic.parameter.inj h))

section

variable {clauses : List Clause} {s : Setting}

theorem mem_given : s ∈ given clauses ↔ ∃ attached, .setting s attached ∈ clauses := by
  simp only [given, List.mem_filterMap]
  constructor
  · rintro ⟨c, hc, hs⟩
    cases c with
    | setting s' attached =>
      cases hs
      exact ⟨attached, hc⟩
    | mute | rom => cases hs
  · rintro ⟨attached, hc⟩
    exact ⟨_, hc, rfl⟩

theorem count_setting :
    (clauses.map Clause.topic).count (.setting s) = (given clauses).count s := by
  induction clauses with
  | nil => rfl
  | cons c cs ih => cases c <;> simp_all [given, Clause.topic, List.count_cons]

theorem count_topic (clauses : List Clause) {c : Clause}
    (hc : ∀ s attached, c ≠ .setting s attached) :
    (clauses.map Clause.topic).count c.topic = clauses.count c := by
  induction clauses with
  | nil => rfl
  | cons c' cs ih =>
    have htopic : c'.topic = c.topic ↔ c' = c := by
      cases c' <;> cases c <;> simp_all [Clause.topic]
    rw [List.map_cons, List.count_cons, List.count_cons, ih]
    simp only [beq_iff_eq, htopic]

end

/-- No two clauses are about one topic. -/
theorem Tells.nodup_topics {o : Options} {clauses : List Clause} (h : Tells o clauses)
    (hrom : clauses.count .rom ≤ 1) : (clauses.map Clause.topic).Nodup := by
  have hmute := count_topic clauses (c := .mute) (by simp)
  have hpath := count_topic clauses (c := .rom) (by simp)
  rw [List.nodup_iff_count]
  rintro (s | _ | _)
  · rw [count_setting]
    exact List.nodup_iff_count.1 h.once s
  · rw [← Clause.topic, hmute, h.mute]
    split <;> decide
  · rw [← Clause.topic, hpath]
    exact hrom

/-! ## Section 3: Command lines -/

/-- A clause can be said, a path that looks like an option aside. -/
theorem stands_piece {o : Options} (hvalid : o.Valid) {c : Clause}
    (hplain : c = .rom → looksLikeOption o.rom = false) : (c.piece o).Stands command := by
  cases c with
  | setting s attached =>
    exact .parameter (mem_parameters s) (reads_valueText hvalid s) fun _ =>
      looksLikeOption_valueText o s
  | mute => exact .flag List.mem_cons_self
  | rom => exact .word (.path hvalid.rom) (hplain rfl)

/-- Clauses that tell all there is to tell and the path once say nothing twice. -/
theorem conforms_of_said {o : Options} (hvalid : o.Valid) {told : List Clause} {l : Line}
    (hsaid : l.said = told.map (Clause.piece o)) (htells : Tells o told)
    (hrom : told.count .rom = 1) (hpieces : ∀ piece ∈ l.pieces, piece.Stands command)
    (hlast : ∀ text ∈ l.last, text = o.rom) : l.Conforms command where
  pieces := hpieces
  last text htext := by
    rw [hlast text htext]
    exact ⟨_, .path hvalid.rom⟩
  once := by
    have htopics : l.said.map Piece.topic = (told.map Clause.topic).map Topic.named := by
      rw [hsaid, List.map_map, List.map_map]
      exact List.map_congr_left fun c _ => topic_piece o c
    rw [htopics]
    exact (htells.nodup_topics (Nat.le_of_eq hrom)).map named_injective
  word := by
    have hmem : Clause.rom ∈ told := List.count_pos_iff.mp (hrom ▸ Nat.one_pos)
    exact ⟨o.rom, hsaid ▸ List.mem_map_of_mem (f := Clause.piece o) hmem⟩

/-- Every way of writing options down is a command line that says nothing wrong. -/
theorem exists_line {o : Options} (hvalid : o.Valid) {words : List (List UInt8)}
    (h : Writes o words) :
    ∃ (l : Line) (told : List Clause), l.words = words ∧ l.Conforms command ∧
      l.said = told.map (Clause.piece o) ∧ Tells o told ∧ told.count .rom = 1 := by
  have hwords : ∀ clauses, (clauses.map (Clause.piece o)).flatMap Piece.words = o.line clauses := by
    intro clauses
    rw [List.flatMap_map, line]
    exact List.flatMap_congr fun c _ => words_piece o c
  cases h with
  | @plain clauses tells rom path =>
    let l : Line := { pieces := clauses.map (Clause.piece o) }
    have hsaid : l.said = clauses.map (Clause.piece o) := List.append_nil _
    refine ⟨l, clauses, ?_, conforms_of_said hvalid hsaid tells rom ?_ nofun, hsaid, tells, rom⟩
    · exact (List.append_nil _).trans (hwords clauses)
    · exact List.forall_mem_map.mpr fun c _ => stands_piece hvalid fun _ => path
  | @trailing clauses tells rom =>
    let l : Line := { pieces := clauses.map (Clause.piece o), last := some o.rom }
    have hsaid : l.said = (clauses ++ [Clause.rom]).map (Clause.piece o) := by
      rw [List.map_append]
      rfl
    have htells : Tells o (clauses ++ [Clause.rom]) := by
      have hgiven : given (clauses ++ [.rom]) = given clauses := by simp [given]
      exact ⟨hgiven ▸ tells.once, hgiven ▸ tells.told, by simpa using tells.mute⟩
    have hrom : (clauses ++ [Clause.rom]).count .rom = 1 := by simp [rom]
    refine ⟨l, clauses ++ [.rom], ?_, conforms_of_said hvalid hsaid htells hrom ?_ ?_, hsaid,
      htells, hrom⟩
    · exact congrArg (· ++ [[dash, dash], o.rom]) (hwords clauses)
    · -- the path is not among these pieces, so it may look like anything
      refine List.forall_mem_map.mpr fun c hc => stands_piece hvalid fun heq => ?_
      exact absurd (heq ▸ hc) (List.count_eq_zero.mp rom)
    · exact fun text htext => (Option.some.inj htext).symm

/-! ## Section 4: Parsers -/

section

variable {parser : Parser} (hparser : StandardParsing parser command)
include hparser

/-- The parser finds for every option what it is. -/
theorem value_of_said {o : Options} (hvalid : o.Valid) {l : Line} (hl : l.Conforms command)
    {told : List Clause} (hsaid : l.said = told.map (Clause.piece o)) (htells : Tells o told)
    {m : Matches} (hm : parser command l.words = .ok m) (s : Setting) :
    m.value s.name = some (o.value s) := by
  by_cases hgiven : s ∈ given told
  · obtain ⟨attached, hclause⟩ := mem_given.mp hgiven
    have hmem : .parameter s.name (ascii (o.valueText s)) attached ∈ l.said :=
      hsaid ▸ List.mem_map_of_mem (f := Clause.piece o) hclause
    rw [Line.mem_said (by simp [Piece.topic])] at hmem
    exact hparser.given hl hm (mem_parameters s) hmem (reads_valueText hvalid s)
  · have hdefault : o.isDefault s = true := by
      by_contra hne
      exact hgiven (htells.told s (eq_false_of_ne_true hne))
    rw [value_of_isDefault hdefault]
    refine hparser.default hl hm (mem_parameters s) fun text attached hmem => ?_
    rw [← Line.mem_said (by simp [Piece.topic]), hsaid, List.mem_map] at hmem
    obtain ⟨c, hc, hpiece⟩ := hmem
    cases c with
    | setting s' attached' =>
      have hname : s'.name = s.name := (Piece.parameter.inj hpiece).1
      exact hgiven (mem_given.mpr ⟨attached', name_injective hname ▸ hc⟩)
    | mute | rom => cases hpiece

theorem flag_of_said {o : Options} {l : Line} (hl : l.Conforms command) {told : List Clause}
    (hsaid : l.said = told.map (Clause.piece o)) (htells : Tells o told) {m : Matches}
    (hm : parser command l.words = .ok m) : m.flag muteName = o.mute := by
  have hclause : .flag muteName ∈ l.said ↔ Clause.mute ∈ told := by
    rw [hsaid, List.mem_map]
    constructor
    · rintro ⟨c, hc, hpiece⟩
      cases c with
      | mute => exact hc
      | setting s attached | rom => cases hpiece
    · exact fun hc => ⟨.mute, hc, rfl⟩
  have hmute : Clause.mute ∈ told ↔ o.mute = true := by
    rw [← List.count_pos_iff, htells.mute]
    cases o.mute <;> simp
  rw [Bool.eq_iff_iff, hparser.flag hl hm List.mem_cons_self,
    ← Line.mem_said (by simp [Piece.topic]), hclause, hmute]

end

theorem ofName?_name (layout : Layout) : Layout.ofName? layout.name = some layout := by
  cases layout <;> rfl

/-- From what a parser finds for them the options come back. -/
theorem ofMatches_of_values {o : Options} {m : Matches}
    (hvalue : ∀ s : Setting, m.value s.name = some (o.value s)) (hflag : m.flag muteName = o.mute)
    (hword : m.word = .path o.rom) : ofMatches m = .ok o := by
  have hlayout : layoutOf m = .ok o.layout := by
    simp only [layoutOf, hvalue, value, ofName?_name]
  have hnumber : ∀ {s : Setting} {n : Nat}, o.value s = .number n → numberOf m s = .ok n := by
    intro s n hn
    simp only [numberOf, hvalue, hn]
  have hcpuHz : numberOf m .cpuHz = .ok o.cpuHz.toNat := hnumber rfl
  have htimerHz : numberOf m .timerHz = .ok o.timerHz.toNat := hnumber rfl
  have hframeHz : numberOf m .frameHz = .ok o.frameHz.toNat := hnumber rfl
  have hkeyPressMs : numberOf m .keyPressMs = .ok o.keyPressMs.toNat := hnumber rfl
  simp only [ofMatches, romOf, hword, hlayout, hcpuHz, htimerHz, hframeHz, hkeyPressMs, hflag,
    Command.ok_bind, UInt32.ofNat_toNat, UInt64.ofNat_toNat]
  rfl

section

variable {parser : Parser} (hparser : StandardParsing parser command)
include hparser

/-- What is written down is read back. -/
theorem parse_of_writes {o : Options} (hvalid : o.Valid) {words : List (List UInt8)}
    (h : Writes o words) : parse parser words = .ok o := by
  obtain ⟨l, told, rfl, hl, hsaid, htells, hrom⟩ := exists_line hvalid h
  obtain ⟨m, hm⟩ := hparser.accepted hl
  have hpath : .word o.rom ∈ l.said := by
    have hmem : Clause.rom ∈ told := List.count_pos_iff.mp (hrom ▸ Nat.one_pos)
    exact hsaid ▸ List.mem_map_of_mem (f := Clause.piece o) hmem
  rw [parse, hm, Command.ok_bind]
  exact ofMatches_of_values (value_of_said hparser hvalid hl hsaid htells hm)
    (flag_of_said hparser hl hsaid htells hm) (hparser.word hl hm hpath (.path hvalid.rom))

/-- A number that a parser has found is in its range. -/
theorem range_of_numberOf {words : List (List UInt8)} {m : Matches}
    (hm : parser command words = .ok m) {s : Setting} {least most n : Nat}
    (hkind : s.kind = .number least most) (hn : numberOf m s = .ok n) :
    m.value s.name = some (.number n) ∧ least ≤ n ∧ n ≤ most := by
  obtain ⟨v, hv, hadmits⟩ := hparser.checked hm (mem_parameters s)
  have hfound : m.value s.name = some v := hv
  have hrange : s.kind.Admits v := hadmits
  rw [numberOf, hfound] at hn
  rw [hkind] at hrange
  cases v with
  | path bytes | choice name => cases hn
  | number k =>
    cases hn
    exact ⟨hfound, hrange⟩

/-- A rate is not too large for the bits that it gets. -/
theorem rate_of_numberOf {words : List (List UInt8)} {m : Matches}
    (hm : parser command words = .ok m) {s : Setting} {n : Nat}
    (hkind : s.kind = .number 1 0xffffffff) (hn : numberOf m s = .ok n) :
    1 ≤ (UInt32.ofNat n).toNat ∧ m.value s.name = some (.number (UInt32.ofNat n).toNat) := by
  obtain ⟨hfound, hleast, hmost⟩ := range_of_numberOf hparser hm hkind hn
  rw [UInt32.toNat_ofNat_of_lt' (Nat.lt_succ_of_le hmost)]
  exact ⟨hleast, hfound⟩

theorem ne_nil_of_romOf {words : List (List UInt8)} {m : Matches}
    (hm : parser command words = .ok m) {rom : List UInt8} (hrom : romOf m = .ok rom) :
    rom ≠ [] := by
  have hword := hparser.checkedWord hm
  unfold romOf at hrom
  split at hrom
  case h_1 bytes hbytes =>
    cases hrom
    rw [hbytes] at hword
    exact hword
  case h_2 => cases hrom

/-- Whatever a command line comes to, a user can ask for, and its rates are those that the parser
    has found. -/
theorem found_of_parse {words : List (List UInt8)} {o : Options}
    (h : parse parser words = .ok o) :
    o.Valid ∧ ∃ m, parser command words = .ok m ∧
      m.value Setting.cpuHz.name = some (.number o.cpuHz.toNat) ∧
      m.value Setting.timerHz.name = some (.number o.timerHz.toNat) ∧
      m.value Setting.frameHz.name = some (.number o.frameHz.toNat) := by
  obtain ⟨m, hm, hof⟩ := Command.bind_eq_ok.1 h
  obtain ⟨rom, hrom, hof⟩ := Command.bind_eq_ok.1 hof
  obtain ⟨layout, -, hof⟩ := Command.bind_eq_ok.1 hof
  obtain ⟨cpuHz, hcpuHz, hof⟩ := Command.bind_eq_ok.1 hof
  obtain ⟨timerHz, htimerHz, hof⟩ := Command.bind_eq_ok.1 hof
  obtain ⟨frameHz, hframeHz, hof⟩ := Command.bind_eq_ok.1 hof
  obtain ⟨keyPressMs, -, hof⟩ := Command.bind_eq_ok.1 hof
  cases hof
  obtain ⟨hcpu, hcpuFound⟩ := rate_of_numberOf hparser hm rfl hcpuHz
  obtain ⟨htimer, htimerFound⟩ := rate_of_numberOf hparser hm rfl htimerHz
  obtain ⟨hframe, hframeFound⟩ := rate_of_numberOf hparser hm rfl hframeHz
  have hpath := ne_nil_of_romOf hparser hm hrom
  exact ⟨⟨hpath, hcpu, htimer, hframe⟩, m, hm, hcpuFound, htimerFound, hframeFound⟩

end

/-- Every choice in full, the path last. -/
theorem writes_all (o : Options) :
    Writes o (o.trailingLine
      (Setting.all.map (.setting · false) ++ if o.mute then [.mute] else [])) := by
  cases hmute : o.mute with
  | false => exact .trailing ⟨by decide, fun s _ => by cases s <;> decide, by rw [hmute]; rfl⟩ rfl
  | true => exact .trailing ⟨by decide, fun s _ => by cases s <;> decide, by rw [hmute]; rfl⟩ rfl

/-- The options that some command line comes to. -/
theorem exists_parse_eq_ok_iff {parser : Parser} (hparser : StandardParsing parser command)
    {o : Options} : (∃ words, parse parser words = .ok o) ↔ o.Valid :=
  ⟨fun ⟨_, h⟩ => (found_of_parse hparser h).1,
    fun hvalid => ⟨_, parse_of_writes hparser hvalid (writes_all o)⟩⟩

/-! ## Section 5: The main result -/

/-- Command lines and options, with any parser that does what can be expected of it. Whatever way
    options are written down, they are read back. And whatever a command line comes to has a path
    and rates from 1 to the greatest number of 32 bits: those of the session are the values that the
    parser has found, each in its place. -/
theorem command_lines_round_trip {parser : Parser} (hparser : StandardParsing parser command) :
    (∀ (o : Options) (words : List (List UInt8)), o.Valid → Writes o words →
      parse parser words = .ok o) ∧
    ∀ (words : List (List UInt8)) (o : Options), parse parser words = .ok o →
      o.Valid ∧
      (∀ hz ∈ [o.cpuHz, o.timerHz, o.frameHz], 1 ≤ hz.toNat ∧ hz.toNat ≤ 4294967295) ∧
      o.rates = { cpu := o.cpuHz, timer := o.timerHz, frame := o.frameHz } ∧
      ∃ m, parser command words = .ok m ∧
        m.value "cpu-hz" = some (.number o.rates.cpu.toNat) ∧
        m.value "timer-hz" = some (.number o.rates.timer.toNat) ∧
        m.value "frame-hz" = some (.number o.rates.frame.toNat) := by
  refine ⟨fun o words hvalid h => parse_of_writes hparser hvalid h, fun words o h => ?_⟩
  obtain ⟨hvalid, hfound⟩ := found_of_parse hparser h
  refine ⟨hvalid, ?_, rfl, hfound⟩
  have hrange : ∀ hz : UInt32, 1 ≤ hz.toNat → 1 ≤ hz.toNat ∧ hz.toNat ≤ 4294967295 :=
    fun hz hone => ⟨hone, Nat.le_of_lt_succ hz.toNat_lt_size⟩
  simpa using ⟨hrange _ hvalid.cpuHz, hrange _ hvalid.timerHz, hrange _ hvalid.frameHz⟩

/-- The declarations of the program are in order. -/
theorem wellFormed_command : command.WellFormed where
  names := by decide
  spelled := by decide
  kinds := by decide
  defaults := by decide
  word := trivial

/-- A path that looks like an option, an option that has its default, both spellings, and a duration
    of 0, read word by word. -/
theorem dashed_path_round_trips :
    Command.StandardParsing Command.standIn command ∧
    Writes { rom := ascii "-x", layout := .dvorak, cpuHz := 1000, keyPressMs := 0, mute := true }
      [ascii "--cpu-hz=1000", ascii "--mute", ascii "--timer-hz", ascii "60",
        ascii "--layout", ascii "dvorak", ascii "--key-press-ms=0", ascii "--", ascii "-x"] ∧
    parse Command.standIn [ascii "--cpu-hz=1000", ascii "--mute", ascii "--timer-hz", ascii "60",
        ascii "--layout", ascii "dvorak", ascii "--key-press-ms=0", ascii "--", ascii "-x"] =
      .ok { rom := ascii "-x", layout := .dvorak, cpuHz := 1000, keyPressMs := 0, mute := true } ∧
    rates { rom := ascii "-x", layout := .dvorak, cpuHz := 1000, keyPressMs := 0, mute := true } =
      { cpu := 1000, timer := 60, frame := 60 } := by
  have hparser := Command.standIn_standard wellFormed_command
  have hwrites : Writes
      { rom := ascii "-x", layout := .dvorak, cpuHz := 1000, keyPressMs := 0, mute := true }
      [ascii "--cpu-hz=1000", ascii "--mute", ascii "--timer-hz", ascii "60",
        ascii "--layout", ascii "dvorak", ascii "--key-press-ms=0", ascii "--", ascii "-x"] :=
    @Writes.trailing _
      [.setting .cpuHz true, .mute, .setting .timerHz false, .setting .layout false,
        .setting .keyPressMs true]
      ⟨by decide, fun s => by cases s <;> decide, rfl⟩ rfl
  obtain ⟨hreads, hfinds⟩ := command_lines_round_trip hparser
  have hparse := hreads _ _ ⟨by decide, by decide, by decide, by decide⟩ hwrites
  exact ⟨hparser, hwrites, hparse, (hfinds _ _ hparse).2.2.1⟩

end Chip8.Options
