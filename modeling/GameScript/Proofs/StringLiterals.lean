import GameScript.Proofs.AssembledCode
import GameScript.Proofs.LineTokens

/-! Every text can be written as a string literal. Escaping leaves no quote and no backslash of the
text bare, so the scan finds the end of the literal where it is, and reading it gives the text back;
the pool of an assembled function then has the text where the operand says. -/

namespace GameScript.Assembly

open Text

def escaped : Char → List Char
  | '\\' => ['\\', '\\']
  | '"' => ['\\', '"']
  | '\n' => ['\\', 'n']
  | '\t' => ['\\', 't']
  | '\r' => ['\\', 'r']
  | '\x00' => ['\\', '0']
  | c => [c]

def literal (text : String) : String :=
  String.ofList ('"' :: (text.toList.flatMap escaped ++ ['"']))

theorem toList_literal (text : String) :
    (literal text).toList = '"' :: (text.toList.flatMap escaped ++ ['"']) := String.toList_ofList

theorem escaped_cases (c : Char) :
    (∃ mark, escaped c = ['\\', mark] ∧ escape? mark = some c ∧ mark ∉ ['\n', '\r']) ∨
      escaped c = [c] ∧ c ∉ ['"', '\\', '\n', '\r'] := by
  unfold escaped
  split
  next => exact .inl ⟨'\\', rfl, rfl, by decide⟩
  next => exact .inl ⟨'"', rfl, rfl, by decide⟩
  next => exact .inl ⟨'n', rfl, rfl, by decide⟩
  next => exact .inl ⟨'t', rfl, rfl, by decide⟩
  next => exact .inl ⟨'r', rfl, rfl, by decide⟩
  next => exact .inl ⟨'0', rfl, rfl, by decide⟩
  next backslash quote newline _ returns _ =>
    refine .inr ⟨rfl, ?_⟩
    simp only [List.mem_cons, List.not_mem_nil, or_false, not_or]
    exact ⟨quote, backslash, newline, returns⟩

theorem quotable_escaped (chars : List Char) : Quotable (chars.flatMap escaped) := by
  induction chars with
  | nil => exact .nil
  | cons c rest ih =>
    rw [List.flatMap_cons]
    rcases escaped_cases c with ⟨mark, marked, -, -⟩ | ⟨plain, ordinary⟩
    · rw [marked]
      exact .escaped ih
    · rw [plain]
      simp only [List.mem_cons, List.not_mem_nil, or_false, not_or] at ordinary
      exact .plain ordinary.1 ordinary.2.1 ih

theorem unescapes_escaped (chars : List Char) : Unescapes (chars.flatMap escaped) chars := by
  induction chars with
  | nil => exact .nil
  | cons c rest ih =>
    rw [List.flatMap_cons]
    rcases escaped_cases c with ⟨mark, marked, known, -⟩ | ⟨plain, ordinary⟩
    · rw [marked]
      exact .escaped known ih
    · rw [plain]
      simp only [List.mem_cons, List.not_mem_nil, or_false, not_or] at ordinary
      exact .plain ordinary.2.1 ih

/-- A literal stays on its line. -/
theorem plain_of_mem_literal {text : String} {c : Char} (member : c ∈ (literal text).toList) :
    c ∉ ['\n', '\r'] := by
  rw [toList_literal] at member
  simp only [List.mem_cons, List.mem_append, List.mem_flatMap, List.not_mem_nil, or_false] at member
  rcases member with rfl | ⟨original, -, written⟩ | rfl
  · decide
  · rcases escaped_cases original with ⟨mark, marked, -, plain⟩ | ⟨kept, ordinary⟩
    · rw [marked] at written
      simp only [List.mem_cons, List.not_mem_nil, or_false] at written
      rcases written with rfl | rfl
      · decide
      · exact plain
    · rw [kept, List.mem_singleton] at written
      subst written
      simp_all
  · decide

theorem spellsString_literal (text : String) : SpellsString (literal text) text :=
  ⟨text.toList.flatMap escaped, toList_literal text, unescapes_escaped text.toList⟩

theorem Unescapes.unescape {body text : List Char} (meant : Unescapes body text) :
    unescape body = some text := by
  induction meant with
  | nil => rfl
  | plain ordinary _ ih => simp [Assembly.unescape, ordinary, ih]
  | escaped known _ ih => simp [Assembly.unescape, known, ih]

theorem SpellsString.string? {token text : String} (spelled : SpellsString token text) :
    string? token = some text := by
  obtain ⟨body, quoted, meant⟩ := spelled
  simp [Assembly.string?, unquote?, quoted, meant.unescape]

def Trailing (tail : String) : Prop :=
  ∃ blank comment, tail.toList = blank ++ comment ∧ (∀ c ∈ blank, Scan.isSeparator c = true) ∧
    (comment = [] ∨ comment.head? = some '#')

theorem laid_trailing {tail : String} (trailing : Trailing tail) (place : Nat) :
    EndsToken tail.toList ∧ Laid place tail.toList [] := by
  obtain ⟨blank, comment, split, separators, ends⟩ := trailing
  rw [split]
  have commented : EndsToken comment ∧ ∀ place, Laid place comment [] := by
    cases comment with
    | nil => exact ⟨trivial, fun _ => .ended⟩
    | cons c comment =>
      obtain rfl : c = '#' := by simpa using ends
      exact ⟨.inl rfl, fun _ => .comment⟩
  clear split
  induction blank generalizing place with
  | nil => exact ⟨commented.1, commented.2 place⟩
  | cons c blank ih =>
    have separator := separators c List.mem_cons_self
    have rest := ih (place + c.utf8Size) fun other member =>
      separators other (List.mem_cons_of_mem _ member)
    exact ⟨.inr separator, .gap (.inl separator) rest.2⟩

theorem unbroken_of_plain {chars : List Char}
    (plain : ∀ c ∈ chars, c ∉ ['"', '#', '('] ∧ Scan.isSeparator c = false) : Unbroken chars := by
  induction chars with
  | nil => exact .nil
  | cons c rest ih =>
    obtain ⟨ordinary, joined⟩ := plain c List.mem_cons_self
    exact .plain ordinary joined (ih fun other member => plain other (List.mem_cons_of_mem _ member))

theorem string_literal (text : String) : string (literal text) = .ok text := by
  simp [string, (spellsString_literal text).string?]

theorem unbroken_literal (text : String) : Unbroken (literal text).toList := by
  rw [toList_literal]
  exact .literal (quotable_escaped text.toList) .nil

def loading (text tail : String) : String := "LKS s0, " ++ literal text ++ tail

theorem tokenize_loading (line : Nat) (text : String) {tail : String} (trailing : Trailing tail) :
    tokenize line (loading text tail) = .ok [⟨"LKS", 1⟩, ⟨"s0", 5⟩, ⟨literal text, 9⟩] := by
  apply Laid.tokenize_eq
  have written : (loading text tail).toList = ['L', 'K', 'S'] ++ ' ' :: (['s', '0'] ++
      ',' :: ' ' :: ((literal text).toList ++ tail.toList)) := by
    simp [loading]
  rw [written]
  obtain ⟨ends, rest⟩ := laid_trailing trailing (8 + String.utf8Len (literal text).toList)
  have third : Laid 8 ((literal text).toList ++ tail.toList) [⟨literal text, 9⟩] := by
    have token := Laid.token (by simp [toList_literal]) (by simp [toList_literal])
      (unbroken_literal text) ends rest
    rwa [String.ofList_toList] at token
  have named : Unbroken ['L', 'K', 'S'] := unbroken_of_plain (by simp [Scan.isSeparator])
  have numbered : Unbroken ['s', '0'] := unbroken_of_plain (by simp [Scan.isSeparator])
  have second : Laid 4 (['s', '0'] ++ ',' :: ' ' :: ((literal text).toList ++ tail.toList))
      [⟨"s0", 5⟩, ⟨literal text, 9⟩] :=
    .token (by decide) (by decide) numbered (.inr rfl)
      (.gap (.inl rfl) (.gap (.inl rfl) third))
  exact .token (by decide) (by decide) named (.inr rfl)
    (.gap (.inl rfl) second)

theorem line_loading (text : String) {tail : String} (trailing : Trailing tail) :
    Line.of (loading text tail) =
      .code none (some (⟨"LKS", 1⟩, [⟨"s0", 5⟩, ⟨literal text, 9⟩])) := by
  rw [tokenize_eq_ok (tokenize_loading 0 text trailing)]
  rfl

def loadString : Instruction := ⟨0x04, "LKS", .loadConstant .string⟩

/-- Where a line of a function loads a text, the pool has the text at the place that the word of the
line gives. -/
theorem Assembles.holds_loaded {listing : Listing} {routine : Routine}
    (assembles : Assembles listing routine) {before after : List Line} {text tail : String}
    (trailing : Trailing tail)
    (written : listing.lines = before ++ Line.of (loading text tail) :: after) :
    ∃ word, routine.code[(before.filterMap Line.instruction?).length]? = some word ∧
      Instruction.ofOpcode? word.opcode = some loadString ∧
      routine.strings[word.bc.toNat]? = some text := by
  have placed : listing.At (before.filterMap Line.instruction?).length loadString
      [⟨"s0", 5⟩, ⟨literal text, 9⟩] := by
    refine ⟨⟨"LKS", 1⟩, ?_, by decide +kernel⟩
    rw [Listing.instructions, written, line_loading text trailing, List.filterMap_append]
    simp [Line.instruction?]
  obtain ⟨word, located, decoded, encoded⟩ := assembles.code_of_at placed
  refine ⟨word, located, decoded, ?_⟩
  have denoted := encoded.operands 1 .bc (.constant .string) ⟨literal text, 9⟩ rfl rfl
  cases denoted with
  | constant held =>
    cases held with
    | string held spelled =>
      cases (spellsString_literal text).string?.symm.trans spelled.string?
      exact held

theorem linesFrom_append {chars : List Char} (one : '\n' ∉ chars) (rest held : List Char)
    (kept : (chars.reverse ++ held).head? ≠ some '\r') :
    linesFrom held (chars ++ '\n' :: rest) =
      (held.reverse ++ chars) :: linesFrom [] rest := by
  induction chars generalizing held with
  | nil =>
    simp only [List.nil_append, linesFrom, beq_self_eq_true, if_true, List.append_nil]
    split
    next => simp at kept
    next => rfl
  | cons c chars ih =>
    rw [List.mem_cons, not_or] at one
    have next : linesFrom held (c :: (chars ++ '\n' :: rest)) =
        linesFrom (c :: held) (chars ++ '\n' :: rest) := by
      simp [linesFrom, Ne.symm one.1]
    rw [List.cons_append, next, ih one.2 (c :: held) (by simpa using kept)]
    simp

/-- A line that is ended by a line feed. -/
theorem lines_append {line : String} (one : '\n' ∉ line.toList)
    (kept : line.toList.getLast? ≠ some '\r') (rest : String) :
    lines (line ++ "\n" ++ rest) = line :: lines rest := by
  have split : (line ++ "\n" ++ rest).toList = line.toList ++ '\n' :: rest.toList := by simp
  rw [lines, split, linesFrom_append one rest.toList [] (by simpa using kept)]
  simp [lines]

def loader (text tail : String) : String :=
  ".func Load" ++ "\n" ++ (loading text tail ++ "\n" ++ ".end\n")

theorem oneLine_of_all {text : String}
    (plain : text.toList.all (fun c => c != '\n' && c != '\r') = true) :
    ∀ c ∈ text.toList, c ∉ ['\n', '\r'] := by
  intro c member
  simpa using List.all_eq_true.1 plain c member

theorem lines_loader {text tail : String} (one : ∀ c ∈ tail.toList, c ∉ ['\n', '\r']) :
    lines (loader text tail) = [".func Load", loading text tail, ".end"] := by
  have within : ∀ c ∈ (loading text tail).toList, c ∉ ['\n', '\r'] := by
    intro c member
    simp only [loading, String.toList_append, List.mem_append] at member
    rcases member with (named | quoted) | trailing
    · exact oneLine_of_all (by decide +kernel) c named
    · exact plain_of_mem_literal quoted
    · exact one c trailing
  have rest : lines ".end\n" = [".end"] := by decide +kernel
  rw [loader, lines_append (by decide +kernel) (by decide +kernel), lines_append ?_ ?_, rest]
  · intro member
    exact within _ member List.mem_cons_self
  · intro last
    exact within _ (List.mem_of_getLast? last) (by decide)

theorem encode_loading (draft : Draft) (text : String) :
    draft.encode 0 ⟨2, 2, loadString, 1, [⟨"s0", 5⟩, ⟨literal text, 9⟩]⟩ .empty =
      .ok (loadString.word, ⟨#[], #[], #[text], #[], ⟨0, 0, 1, 0⟩⟩) := by
  have layout : loadString.operands = [(.a, .register .string), (.bc, .constant .string)] := rfl
  have target : draft.encodeOperand 0 .a (.register .string) none "s0" loadString.word .empty =
      .ok (loadString.word, ⟨#[], #[], #[], #[], ⟨0, 0, 1, 0⟩⟩) := by
    have spelled : register .string "s0" = .ok 0 := by decide +kernel
    have placed : loadString.word.withUnsigned .a 0 = .ok loadString.word := by decide +kernel
    simp only [Draft.encodeOperand, spelled, lift_ok, Draft.placed, Except.bind, bind, placed]
    rfl
  have constant : draft.encodeOperand 0 .bc (.constant .string) none (literal text) loadString.word
      ⟨#[], #[], #[], #[], ⟨0, 0, 1, 0⟩⟩ =
        .ok (loadString.word, ⟨#[], #[], #[text], #[], ⟨0, 0, 1, 0⟩⟩) := by
    have placed : loadString.word.withUnsigned .bc 0 = .ok loadString.word := by decide +kernel
    have interned : Pools.internString ⟨#[], #[], #[], #[], ⟨0, 0, 1, 0⟩⟩ text =
        (0, ⟨#[], #[], #[text], #[], ⟨0, 0, 1, 0⟩⟩) := by
      simp [Pools.internString, internIn]
    simp only [Draft.encodeOperand, Pools.internConstant, string_literal, lift_ok, Draft.placed,
      Except.bind, bind, pure, Except.pure, interned, Nat.cast_zero, placed]
    rfl
  have unasked : Draft.castBanks loadString.operation (literal text) = [] := rfl
  simp only [Draft.encode, layout, List.length_cons, List.length_nil, ne_eq, not_true_eq_false,
    if_false, List.zip_cons_cons, List.zip_nil_left, List.getLast?_cons_cons, List.getLast?_singleton,
    unasked, Draft.encodeOperands, List.head?_nil, Option.join_none, List.tail_nil, target, constant]

theorem assemble_loader {text tail : String} (trailing : Trailing tail)
    (one : ∀ c ∈ tail.toList, c ∉ ['\n', '\r']) (sourceName : String) :
    ∃ routine, assemble sourceName (loader text tail) = .ok ⟨[routine]⟩ ∧
      routine.strings = #[text] := by
  have opening : tokenize 1 ".func Load" = .ok [⟨".func", 1⟩, ⟨"Load", 7⟩] := by decide +kernel
  have closing : tokenize 3 ".end" = .ok [⟨".end", 1⟩] := by decide +kernel
  let opened : Draft := .start "Load" sourceName 1
  let loaded : Draft := { opened with
    body := #[⟨2, 2, loadString, 1, [⟨"s0", 5⟩, ⟨literal text, 9⟩]⟩] }
  have first : State.addLine ⟨[], none⟩ sourceName 1 ".func Load" = .ok ⟨[], some opened⟩ := by
    unfold State.addLine
    rw [opening]
    rfl
  have second : State.addLine ⟨[], some opened⟩ sourceName 2 (loading text tail) =
      .ok ⟨[], some loaded⟩ := by
    unfold State.addLine
    rw [tokenize_loading 2 text trailing]
    rfl
  have finished : ∃ routine, loaded.finish = .ok routine ∧ routine.strings = #[text] := by
    have encoded : loaded.encodeFrom 0 #[] .empty .empty loaded.body.toList =
        .ok (#[loadString.word], LineTable.empty.push 0 2,
          ⟨#[], #[], #[text], #[], ⟨0, 0, 1, 0⟩⟩) := by
      simp only [loaded, Draft.encodeFrom, encode_loading]
      rfl
    unfold Draft.finish
    rw [encoded]
    exact ⟨_, rfl, rfl⟩
  obtain ⟨routine, finished, strings⟩ := finished
  have third : State.addLine ⟨[], some loaded⟩ sourceName 3 ".end" = .ok ⟨[routine], none⟩ := by
    unfold State.addLine
    rw [closing]
    have chars : ".end".toList = ['.', 'e', 'n', 'd'] := by decide +kernel
    have named : fold (String.ofList ['e', 'n', 'd']) = "end" := by decide +kernel
    have other : ¬("end" == "func") = true := by decide
    simp only [lift_ok, bind, Except.bind, chars, named, State.direct, if_neg other, beq_self_eq_true,
      if_true, finished]
    rfl
  refine ⟨routine, ?_, strings⟩
  rw [assemble, lines_loader one]
  simp only [State.addLines, first, second, third, bind, Except.bind]
  rfl

/-- A text is written as a literal that is one token of its line and reads as the text. Wherever an
accepted text has such a line, the pool of the function has the text at the place that the operand
gives, and there are such texts. -/
theorem literals_spell_texts (text : String) :
    (∀ (line : Nat) (tail : String), Trailing tail →
      tokenize line ("LKS s0, " ++ literal text ++ tail) =
        .ok [⟨"LKS", 1⟩, ⟨"s0", 5⟩, ⟨literal text, 9⟩]) ∧
    string (literal text) = .ok text ∧
    (∀ (sourceName source : String) (program : Program) (index : Nat) (listing : Listing)
      (routine : Routine) (before after : List Line) (tail : String),
      assemble sourceName source = .ok program → (Listing.ofSource source)[index]? = some listing →
      program.routines[index]? = some routine → Trailing tail →
      listing.lines = before ++ Line.of ("LKS s0, " ++ literal text ++ tail) :: after →
      ∃ word, routine.code[(before.filterMap Line.instruction?).length]? = some word ∧
        Instruction.ofOpcode? word.opcode = some loadString ∧
        routine.strings[word.bc.toNat]? = some text) ∧
    ∀ (sourceName tail : String), Trailing tail → (∀ c ∈ tail.toList, c ∉ ['\n', '\r']) →
      ∃ routine, assemble sourceName (loader text tail) = .ok ⟨[routine]⟩ ∧
        routine.strings = #[text] := by
  refine ⟨fun line tail trailing => tokenize_loading line text trailing, string_literal text, ?_,
    fun sourceName tail trailing one => assemble_loader trailing one sourceName⟩
  intro sourceName source program index listing routine before after tail accepted listed member
    trailing written
  obtain ⟨other, found, assembles⟩ :=
    exists_getElem?_of_forall₂ (assemble_assembles accepted) listed
  cases found.symm.trans member
  exact assembles.holds_loaded trailing written

/-- A backslash before a quote, a comment sign, a parenthesis and a letter of two bytes. -/
theorem literals_spell_texts_escaping :
    literal "a\\\", #(é" = "\"a\\\\\\\", #(é\"" ∧ Trailing " # b" ∧
    tokenize 7 ("LKS s0, " ++ literal "a\\\", #(é" ++ " # b") =
      .ok [⟨"LKS", 1⟩, ⟨"s0", 5⟩, ⟨"\"a\\\\\\\", #(é\"", 9⟩] ∧
    ∃ routine, assemble anonymous (loader "a\\\", #(é" " # b") = .ok ⟨[routine]⟩ ∧
      routine.strings = #["a\\\", #(é"] := by
  have written : literal "a\\\", #(é" = "\"a\\\\\\\", #(é\"" := by decide +kernel
  have trailing : Trailing " # b" :=
    ⟨[' '], ['#', ' ', 'b'], rfl, List.forall_mem_singleton.2 rfl, .inr rfl⟩
  have spelled := literals_spell_texts "a\\\", #(é"
  refine ⟨written, trailing, ?_,
    spelled.2.2.2 anonymous " # b" trailing (oneLine_of_all (by decide +kernel))⟩
  have split := spelled.1 7 " # b" trailing
  rwa [written] at split ⊢

end GameScript.Assembly
